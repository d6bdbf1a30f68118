import Mathlib.Data.Int.Log
import Mathlib.Data.Rat.Floor
import Mathlib.Tactic.Linarith
import Mathlib.Tactic.FieldSimp
import Mathlib.Tactic.NormNum

/-!
# Rounding to significant digits

A rational number to so many decimal digits, half up. What a rounded number reaches is decided by
the number itself, half a unit of the last digit earlier.
-/
namespace DeXFG.Library

/-- The least number that rounds to the positive `z` or above. -/
def roundsUpFrom (digits : ℕ) (z : ℚ) : ℚ :=
  let unit : ℚ := 10 ^ (Int.clog 10 z - digits)
  (⌈z / unit⌉ - 1 / 2) * unit

section

variable {digits : ℕ} {z : ℚ}

theorem roundsUpFrom_pos (hz : 0 < z) : 0 < roundsUpFrom digits z := by
  unfold roundsUpFrom
  dsimp only
  have hunit : (0 : ℚ) < 10 ^ (Int.clog 10 z - digits) := zpow_pos (by norm_num) _
  have hceil : (1 : ℤ) ≤ ⌈z / 10 ^ (Int.clog 10 z - digits)⌉ := Int.ceil_pos.mpr (div_pos hz hunit)
  have hcast : (1 : ℚ) ≤ ⌈z / 10 ^ (Int.clog 10 z - digits)⌉ := by exact_mod_cast hceil
  exact mul_pos (by linarith) hunit

theorem roundsUpFrom_lt (hdigits : 0 < digits) (hz : 0 < z) : roundsUpFrom digits z < 2 * z := by
  unfold roundsUpFrom
  dsimp only
  have hunit : (0 : ℚ) < 10 ^ (Int.clog 10 z - digits) := zpow_pos (by norm_num) _
  have hsmall : (10 : ℚ) ^ (Int.clog 10 z - digits) < z := by
    calc (10 : ℚ) ^ (Int.clog 10 z - digits) ≤ 10 ^ (Int.clog 10 z - 1) :=
          zpow_le_zpow_right₀ (by norm_num) (by omega)
      _ < z := by exact_mod_cast Int.zpow_pred_clog_lt_self (R := ℚ) (by norm_num : 1 < 10) hz
  have hceil := Int.ceil_lt_add_one (z / 10 ^ (Int.clog 10 z - digits))
  calc (⌈z / 10 ^ (Int.clog 10 z - digits)⌉ - 1 / 2) * (10 : ℚ) ^ (Int.clog 10 z - digits)
      < (z / 10 ^ (Int.clog 10 z - digits) + 1 / 2) * 10 ^ (Int.clog 10 z - digits) :=
        mul_lt_mul_of_pos_right (by linarith) hunit
    _ = z + 10 ^ (Int.clog 10 z - digits) / 2 := by
        rw [add_mul, div_mul_cancel₀ _ hunit.ne']
        ring
    _ < 2 * z := by linarith

end

/-- The contract of a rounding of numbers that are not too large. -/
structure RoundsHalfUp (digits : ℕ) (round : ℚ → ℚ) : Prop where
  rounded : ∀ (x : ℚ) (k : ℤ), (10 : ℚ) ^ k ≤ x → x < 10 ^ (k + 1) → k < digits →
    round x = ⌊x * 10 ^ ((digits : ℤ) - 1 - k) + 1 / 2⌋ / 10 ^ ((digits : ℤ) - 1 - k)
  large : ∀ x, 10 ^ digits ≤ x → 10 ^ digits ≤ round x
  neg : ∀ x, round (-x) = -round x

namespace RoundsHalfUp

variable {digits : ℕ} {round : ℚ → ℚ} {x z : ℚ} {j k : ℤ}

theorem zero (h : RoundsHalfUp digits round) : round 0 = 0 := by
  have hneg := h.neg 0
  rw [neg_zero] at hneg
  linarith

/-- A number in the decade of `k` rounds to one between the decade's ends. -/
theorem mem_decade (h : RoundsHalfUp digits round) (hdigits : 0 < digits) (hlow : (10 : ℚ) ^ k ≤ x)
    (hhigh : x < 10 ^ (k + 1)) (hk : k < digits) : 10 ^ k ≤ round x ∧ round x ≤ 10 ^ (k + 1) := by
  obtain ⟨n, rfl⟩ : ∃ n, digits = n + 1 := ⟨digits - 1, by omega⟩
  have hpos : (0 : ℚ) < 10 ^ (((n + 1 : ℕ) : ℤ) - 1 - k) := zpow_pos (by norm_num) _
  rw [h.rounded x k hlow hhigh hk, le_div_iff₀ hpos, div_le_iff₀ hpos]
  have hten : (10 : ℚ) ≠ 0 := by norm_num
  have hlo : (10 : ℚ) ^ k * 10 ^ (((n + 1 : ℕ) : ℤ) - 1 - k) = (10 ^ n : ℤ) := by
    rw [← zpow_add₀ hten, show k + (((n + 1 : ℕ) : ℤ) - 1 - k) = n by push_cast; ring]
    push_cast
    exact zpow_natCast _ _
  have hhi : (10 : ℚ) ^ (k + 1) * 10 ^ (((n + 1 : ℕ) : ℤ) - 1 - k) = (10 ^ (n + 1) : ℤ) := by
    rw [← zpow_add₀ hten, show k + 1 + (((n + 1 : ℕ) : ℤ) - 1 - k) = (n + 1 : ℕ) by push_cast; ring]
    push_cast
    exact zpow_natCast _ _
  rw [hlo, hhi, Int.cast_le, Int.cast_le]
  constructor
  · rw [Int.le_floor, ← hlo]
    have hmul := mul_le_mul_of_nonneg_right hlow hpos.le
    linarith
  · rw [← Int.lt_add_one_iff, Int.floor_lt]
    have hmul := mul_lt_mul_of_pos_right hhigh hpos
    rw [hhi] at hmul
    push_cast at hmul ⊢
    linarith

/-- The decade of a number that is too large to be rounded. -/
theorem pow_le_round (h : RoundsHalfUp digits round) (hdigits : 0 < digits)
    (hlow : (10 : ℚ) ^ k ≤ x) (hhigh : x < 10 ^ (k + 1)) (hj : j ≤ digits) (hk : j ≤ k) :
    10 ^ j ≤ round x := by
  rcases lt_or_ge k digits with hlt | hge
  · calc (10 : ℚ) ^ j ≤ 10 ^ k := zpow_le_zpow_right₀ (by norm_num) hk
      _ ≤ round x := (h.mem_decade hdigits hlow hhigh hlt).1
  · have hlarge : (10 : ℚ) ^ digits ≤ x := by
      rw [← zpow_natCast]
      exact (zpow_le_zpow_right₀ (by norm_num) hge).trans hlow
    calc (10 : ℚ) ^ j ≤ 10 ^ (digits : ℤ) := zpow_le_zpow_right₀ (by norm_num) hj
      _ = 10 ^ digits := zpow_natCast _ _
      _ ≤ round x := h.large x hlarge

theorem pos (h : RoundsHalfUp digits round) (hdigits : 0 < digits) (hx : 0 < x) : 0 < round x := by
  have hlow := Int.zpow_log_le_self (by norm_num : 1 < 10) hx
  have hhigh := Int.lt_zpow_succ_log_self (by norm_num : 1 < 10) x
  push_cast at hlow hhigh
  have hround := h.pow_le_round hdigits hlow hhigh (min_le_left (digits : ℤ) _) (min_le_right _ _)
  exact (zpow_pos (by norm_num) _).trans_le hround

theorem nonpos (h : RoundsHalfUp digits round) (hdigits : 0 < digits) (hx : x ≤ 0) :
    round x ≤ 0 := by
  rcases hx.eq_or_lt with rfl | hx
  · exact h.zero.le
  · have hneg := h.neg x
    have hpos := h.pos hdigits (neg_pos.mpr hx)
    linarith

/-- A rounded number reaches `z`, which is between two neighbours of the grid, as soon as the
number is half a unit below the upper one. -/
theorem le_round_iff (h : RoundsHalfUp digits round) (hdigits : 0 < digits) {c : ℕ}
    (hlow : 10 ^ (digits - 1) < c) (hhigh : c ≤ 10 ^ digits) (hj : j ≤ 0)
    (hz : ((c : ℚ) - 1) * 10 ^ j < z) (hz' : z ≤ c * 10 ^ j) :
    z ≤ round x ↔ ((c : ℚ) - 1 / 2) * 10 ^ j ≤ x := by
  have hten : (10 : ℚ) ≠ 0 := by norm_num
  have hunit : (0 : ℚ) < 10 ^ j := zpow_pos (by norm_num) _
  -- the decade of `c` units begins at `c - 1` units or below
  have hstart : (10 : ℚ) ^ ((digits : ℤ) - 1 + j) ≤ (c - 1) * 10 ^ j := by
    rw [zpow_add₀ hten]
    apply mul_le_mul_of_nonneg_right _ hunit.le
    have hcast : ((10 ^ (digits - 1) : ℕ) : ℚ) + 1 ≤ c := by exact_mod_cast hlow
    rw [show (digits : ℤ) - 1 = ((digits - 1 : ℕ) : ℤ) by omega, zpow_natCast]
    push_cast at hcast
    linarith
  have hend : (c : ℚ) * 10 ^ j ≤ 10 ^ ((digits : ℤ) + j) := by
    rw [zpow_add₀ hten, zpow_natCast]
    apply mul_le_mul_of_nonneg_right _ hunit.le
    exact_mod_cast hhigh
  have hhalf : ((c : ℚ) - 1) * 10 ^ j < (c - 1 / 2) * 10 ^ j :=
    mul_lt_mul_of_pos_right (by linarith) hunit
  have hhalf' : ((c : ℚ) - 1 / 2) * 10 ^ j < c * 10 ^ j :=
    mul_lt_mul_of_pos_right (by linarith) hunit
  have hstartPos : (0 : ℚ) < 10 ^ ((digits : ℤ) - 1 + j) := zpow_pos (by norm_num) _
  rcases le_or_gt x 0 with hx | hx
  · have hround : round x ≤ 0 := h.nonpos hdigits hx
    constructor <;> intro hle <;> linarith
  · have hlogLow := Int.zpow_log_le_self (R := ℚ) (by norm_num : 1 < 10) hx
    have hlogHigh := Int.lt_zpow_succ_log_self (R := ℚ) (by norm_num : 1 < 10) x
    generalize Int.log 10 x = k at hlogLow hlogHigh
    push_cast at hlogLow hlogHigh
    rcases lt_trichotomy k ((digits : ℤ) - 1 + j) with hk | hk | hk
    · have hle : (10 : ℚ) ^ (k + 1) ≤ 10 ^ ((digits : ℤ) - 1 + j) :=
        zpow_le_zpow_right₀ (by norm_num) (by omega)
      have hround := (h.mem_decade hdigits hlogLow hlogHigh (by omega)).2
      constructor <;> intro hle' <;> linarith
    · subst hk
      rw [h.rounded x _ hlogLow hlogHigh (by omega)]
      have hinv : (10 : ℚ) ^ ((digits : ℤ) - 1 - ((digits : ℤ) - 1 + j)) = (10 ^ j)⁻¹ := by
        rw [← zpow_neg]
        congr 1
        ring
      rw [hinv, div_inv_eq_mul]
      constructor
      · intro hle
        have hfloor := lt_of_mul_lt_mul_right (hz.trans_le hle) hunit.le
        have hc : (c : ℤ) ≤ ⌊x * (10 ^ j)⁻¹ + 1 / 2⌋ := by
          have hcast : ((c : ℤ) : ℚ) - 1 < ⌊x * (10 ^ j)⁻¹ + 1 / 2⌋ := by exact_mod_cast hfloor
          have hint : (c : ℤ) - 1 < ⌊x * (10 ^ j)⁻¹ + 1 / 2⌋ := by exact_mod_cast hcast
          omega
        rw [Int.le_floor] at hc
        push_cast at hc
        rw [← le_mul_inv_iff₀ hunit]
        linarith only [hc]
      · intro hle
        have hc : (c : ℤ) ≤ ⌊x * (10 ^ j)⁻¹ + 1 / 2⌋ := by
          rw [Int.le_floor]
          rw [← le_mul_inv_iff₀ hunit] at hle
          push_cast
          linarith only [hle]
        calc z ≤ c * 10 ^ j := hz'
          _ ≤ _ := mul_le_mul_of_nonneg_right (by exact_mod_cast hc) hunit.le
    · have hle : (10 : ℚ) ^ ((digits : ℤ) + j) ≤ 10 ^ k :=
        zpow_le_zpow_right₀ (by norm_num) (by omega)
      have hround := h.pow_le_round hdigits hlogLow hlogHigh
        (show (digits : ℤ) + j ≤ digits by omega) (by omega)
      constructor <;> intro hle' <;> linarith

/-- What rounds to `z` or above. -/
theorem le_round_iff_roundsUpFrom (h : RoundsHalfUp digits round) (hdigits : 0 < digits)
    (hz : 0 < z) (hlarge : z ≤ 10 ^ digits) : z ≤ round x ↔ roundsUpFrom digits z ≤ x := by
  have hten : (10 : ℚ) ≠ 0 := by norm_num
  unfold roundsUpFrom
  have hlow := Int.zpow_pred_clog_lt_self (R := ℚ) (by norm_num : 1 < 10) hz
  have hhigh := Int.self_le_zpow_clog (R := ℚ) (by norm_num : 1 < 10) z
  have hlog : Int.clog 10 z ≤ digits := by
    rw [← Int.le_zpow_iff_clog_le (by norm_num) hz]
    push_cast
    rw [zpow_natCast]
    exact hlarge
  generalize Int.clog 10 z = k at hlow hhigh hlog
  push_cast at hlow hhigh
  have hunit : (0 : ℚ) < 10 ^ (k - digits) := zpow_pos (by norm_num) _
  have hstart : ((10 ^ (digits - 1) : ℕ) : ℚ) < z / 10 ^ (k - digits) := by
    rw [lt_div_iff₀ hunit, Nat.cast_pow, ← zpow_natCast, Nat.cast_ofNat, ← zpow_add₀ hten]
    rw [show ((digits - 1 : ℕ) : ℤ) + (k - digits) = k - 1 by omega]
    exact hlow
  have hend : z / 10 ^ (k - digits) ≤ ((10 ^ digits : ℕ) : ℚ) := by
    rw [div_le_iff₀ hunit, Nat.cast_pow, ← zpow_natCast, Nat.cast_ofNat, ← zpow_add₀ hten]
    rw [show (digits : ℤ) + (k - digits) = k by omega]
    exact hhigh
  obtain ⟨c, hc⟩ : ∃ c : ℕ, ⌈z / 10 ^ (k - digits)⌉ = c :=
    Int.eq_ofNat_of_zero_le (Int.ceil_nonneg (div_nonneg hz.le hunit.le))
  have hc_low : 10 ^ (digits - 1) < c := by
    have hlt : ((10 ^ (digits - 1) : ℕ) : ℤ) < ⌈z / 10 ^ (k - digits)⌉ := by
      rw [Int.lt_ceil]
      exact_mod_cast hstart
    rw [hc] at hlt
    exact_mod_cast hlt
  have hc_high : c ≤ 10 ^ digits := by
    have hle : ⌈z / 10 ^ (k - digits)⌉ ≤ ((10 ^ digits : ℕ) : ℤ) := by
      rw [Int.ceil_le]
      exact_mod_cast hend
    rw [hc] at hle
    exact_mod_cast hle
  have habove : z / 10 ^ (k - digits) ≤ (c : ℚ) := by
    have hle := Int.le_ceil (z / 10 ^ (k - digits))
    rw [hc] at hle
    exact_mod_cast hle
  have hbelow : (c : ℚ) - 1 < z / 10 ^ (k - digits) := by
    have hlt := Int.ceil_lt_add_one (z / 10 ^ (k - digits))
    rw [hc] at hlt
    push_cast at hlt
    linarith
  dsimp only
  rw [hc]
  push_cast
  apply h.le_round_iff hdigits hc_low hc_high (by omega)
  · exact (lt_div_iff₀ hunit).mp hbelow
  · exact (div_le_iff₀ hunit).mp habove

end RoundsHalfUp

/-! ## A rounding -/

def roundUnsigned (digits : ℕ) (x : ℚ) : ℚ :=
  let scale := (digits : ℤ) - 1 - min (Int.log 10 x) (digits - 1)
  ⌊x * 10 ^ scale + 1 / 2⌋ / 10 ^ scale

/-- Half up in magnitude, with no more digits than asked for, and never to tens or above. -/
def roundHalfUp (digits : ℕ) (x : ℚ) : ℚ :=
  if x < 0 then -roundUnsigned digits (-x) else roundUnsigned digits x

theorem log_eq {x : ℚ} {k : ℤ} (hlow : (10 : ℚ) ^ k ≤ x) (hhigh : x < 10 ^ (k + 1)) :
    Int.log 10 x = k := by
  have hpos : 0 < x := (zpow_pos (by norm_num) k).trans_le hlow
  have hge : k ≤ Int.log 10 x := by
    rw [← Int.zpow_le_iff_le_log (by norm_num) hpos]
    exact_mod_cast hlow
  have hlt : Int.log 10 x < k + 1 := by
    rw [← Int.lt_zpow_iff_log_lt (by norm_num) hpos]
    exact_mod_cast hhigh
  omega

theorem roundUnsigned_zero (digits : ℕ) : roundUnsigned digits 0 = 0 := by
  unfold roundUnsigned
  dsimp only
  rw [zero_mul, zero_add, show ⌊(1 / 2 : ℚ)⌋ = 0 by norm_num, Int.cast_zero, zero_div]

theorem roundHalfUp_roundsHalfUp (digits : ℕ) : RoundsHalfUp digits (roundHalfUp digits) where
  rounded x k hlow hhigh hk := by
    have hpos : 0 < x := (zpow_pos (by norm_num) k).trans_le hlow
    rw [roundHalfUp, if_neg (not_lt.mpr hpos.le), roundUnsigned]
    rw [log_eq hlow hhigh, min_eq_left (by omega)]
  large x hx := by
    have hpos : 0 < x := (pow_pos (by norm_num) digits).trans_le hx
    have hlog : (digits : ℤ) ≤ Int.log 10 x := by
      rw [← Int.zpow_le_iff_le_log (by norm_num) hpos]
      push_cast
      rw [zpow_natCast]
      exact hx
    rw [roundHalfUp, if_neg (not_lt.mpr hpos.le), roundUnsigned]
    rw [min_eq_right (by omega), sub_self, zpow_zero, mul_one, div_one]
    have hfloor : ((10 ^ digits : ℕ) : ℤ) ≤ ⌊x + 1 / 2⌋ := by
      rw [Int.le_floor]
      push_cast
      linarith
    exact_mod_cast hfloor
  neg x := by
    rcases lt_trichotomy x 0 with hx | rfl | hx
    · rw [roundHalfUp, if_neg (by linarith), roundHalfUp, if_pos hx, neg_neg]
    · rw [neg_zero, roundHalfUp, if_neg (lt_irrefl _), roundUnsigned_zero, neg_zero]
    · rw [roundHalfUp, if_pos (by linarith), neg_neg, roundHalfUp, if_neg (by linarith)]

end DeXFG.Library
