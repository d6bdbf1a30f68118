import Mathlib.Order.Bounds.Basic
import Mathlib.Algebra.Order.Ring.Nat
import Mathlib.Tactic.Ring

/-!
# Numbers with a bounded significand

A number is scaled if it is a significand below a bound, times a power of the base.
Dropping the digits after the significand gives the greatest scaled number that
does not exceed a number.
-/
namespace DeXFG.Library.Truncation

/-- A significand below the bound with an exponent. -/
def Scaled (base bound n : ℕ) : Prop := ∃ significand exponent, significand < bound ∧
  n = significand * base ^ exponent

/-- What is left of a number without its last digits. -/
def truncate (base exponent n : ℕ) : ℕ := n / base ^ exponent * base ^ exponent

variable {base bound exponent n m : ℕ}

theorem truncate_le : truncate base exponent n ≤ n := Nat.div_mul_le_self n _

theorem truncate_zero : truncate base 0 n = n := by
  simp [truncate]

/-- A multiple of the power that does not exceed the number survives. -/
theorem le_truncate_of_dvd (hbase : 0 < base) (hdvd : base ^ exponent ∣ m) (hle : m ≤ n) :
    m ≤ truncate base exponent n := by
  obtain ⟨k, rfl⟩ := hdvd
  rw [truncate, Nat.mul_comm]
  apply Nat.mul_le_mul_right
  rw [Nat.le_div_iff_mul_le (Nat.pow_pos hbase), Nat.mul_comm]
  exact hle

/-- The exponent is large enough for the significand, and no larger than it has to be. -/
structure Fits (base bound exponent n : ℕ) : Prop where
  below : n / base ^ exponent < bound
  tight : ∀ e, e < exponent → bound * base ^ e ≤ n

theorem scaled_truncate (h : n / base ^ exponent < bound) :
    Scaled base bound (truncate base exponent n) :=
  ⟨n / base ^ exponent, exponent, h, rfl⟩

/-- The bound is a multiple of the base, so that a shorter exponent reaches no further. -/
theorem le_truncate_of_scaled (hbase : 0 < base) (hbound : base ∣ bound)
    (h : Fits base bound exponent n) (hm : Scaled base bound m) (hle : m ≤ n) :
    m ≤ truncate base exponent n := by
  obtain ⟨significand, e, hsignificand, rfl⟩ := hm
  by_cases he : exponent ≤ e
  · apply le_truncate_of_dvd hbase _ hle
    exact (Nat.pow_dvd_pow base he).mul_left significand
  · obtain ⟨d, rfl⟩ : ∃ d, exponent = d + 1 := Nat.exists_eq_succ_of_ne_zero (by omega)
    obtain ⟨k, rfl⟩ := hbound
    have hdvd : base ^ (d + 1) ∣ base * k * base ^ d := by
      rw [pow_succ]
      exact ⟨k, by ring⟩
    calc significand * base ^ e
        ≤ base * k * base ^ d :=
          Nat.mul_le_mul hsignificand.le (Nat.pow_le_pow_right hbase (by omega))
      _ ≤ truncate base (d + 1) n := le_truncate_of_dvd hbase hdvd (h.tight d (by omega))

theorem isGreatest_truncate (hbase : 0 < base) (hbound : base ∣ bound)
    (h : Fits base bound exponent n) :
    IsGreatest {m | Scaled base bound m ∧ m ≤ n} (truncate base exponent n) := by
  constructor
  · exact ⟨scaled_truncate h.below, truncate_le⟩
  · intro m hm
    exact le_truncate_of_scaled hbase hbound h hm.1 hm.2

/-- A scaled number loses nothing. -/
theorem truncate_eq_self (hbase : 0 < base) (hbound : base ∣ bound)
    (h : Fits base bound exponent n) (hn : Scaled base bound n) :
    truncate base exponent n = n :=
  Nat.le_antisymm truncate_le (le_truncate_of_scaled hbase hbound h hn le_rfl)

end DeXFG.Library.Truncation
