import Mathlib.Data.List.TakeWhile
import Mathlib.Data.Nat.Digits.Lemmas
import Mathlib.Tactic.Ring

/-!
# Numbers by their digits

Digits of a base, the most significant first. A list of digits stands for a number,
and digits of a given length for each number once.
-/
namespace DeXFG.Library.Radix

/-- The number of some digits. -/
def value (base : ℕ) (digits : List ℕ) : ℕ := Nat.ofDigits base digits.reverse

variable {base : ℕ} {digits digits' : List ℕ}

@[simp] theorem value_nil : value base [] = 0 := rfl

theorem value_concat (digits : List ℕ) (d : ℕ) :
    value base (digits ++ [d]) = value base digits * base + d := by
  rw [value, List.reverse_append, List.reverse_singleton, List.singleton_append,
    Nat.ofDigits_cons, value]
  ring

theorem value_append (digits digits' : List ℕ) : value base (digits ++ digits') =
    value base digits * base ^ digits'.length + value base digits' := by
  rw [value, List.reverse_append, Nat.ofDigits_append, List.length_reverse, value, value]
  ring

@[simp] theorem value_singleton (d : ℕ) : value base [d] = d := by
  simp [value]

theorem value_cons (d : ℕ) (digits : List ℕ) :
    value base (d :: digits) = d * base ^ digits.length + value base digits := by
  rw [← List.singleton_append, value_append, value_singleton]

theorem value_lt (hbase : 1 < base) (hdigits : ∀ d ∈ digits, d < base) :
    value base digits < base ^ digits.length := by
  have hlt := Nat.ofDigits_lt_base_pow_length hbase
    (fun d hd => hdigits d (List.mem_reverse.mp hd))
  rw [List.length_reverse] at hlt
  exact hlt

/-- Digits of one length are known by their number. -/
theorem value_inj (hbase : 1 < base) (hdigits : ∀ d ∈ digits, d < base)
    (hdigits' : ∀ d ∈ digits', d < base) (hlength : digits.length = digits'.length)
    (hvalue : value base digits = value base digits') : digits = digits' := by
  apply List.reverse_injective
  apply Nat.ofDigits_inj_of_len_eq hbase
  · rw [List.length_reverse, List.length_reverse, hlength]
  · intro d hd
    exact hdigits d (List.mem_reverse.mp hd)
  · intro d hd
    exact hdigits' d (List.mem_reverse.mp hd)
  · exact hvalue

/-- As many digits of a number as asked for. -/
def fixed (base : ℕ) : ℕ → ℕ → List ℕ
  | 0, _ => []
  | length + 1, n => n / base ^ length % base :: fixed base length n

@[simp] theorem length_fixed (length n : ℕ) : (fixed base length n).length = length := by
  induction length with
  | zero => rfl
  | succ length ih => rw [fixed, List.length_cons, ih]

theorem fixed_lt (hbase : 0 < base) (length n : ℕ) : ∀ d ∈ fixed base length n, d < base := by
  induction length with
  | zero => simp [fixed]
  | succ length ih =>
    rw [fixed, List.forall_mem_cons]
    exact ⟨Nat.mod_lt _ hbase, ih⟩

theorem value_fixed (length n : ℕ) : value base (fixed base length n) = n % base ^ length := by
  induction length with
  | zero => simp [fixed, Nat.mod_one]
  | succ length ih =>
    rw [fixed, value_cons, ih, length_fixed, pow_succ, Nat.mod_mul]
    ring

theorem map_toNat_ofNat {digits : List ℕ} (h : ∀ d ∈ digits, d < 256) :
    (digits.map UInt8.ofNat).map UInt8.toNat = digits := by
  rw [List.map_map]
  apply (List.map_congr_left _).trans (List.map_id _)
  intro d hd
  exact UInt8.toNat_ofNat_of_lt' (h d hd)

/-! ### From one base to another -/

/-- How many zeros stand in front. -/
def zeros (digits : List ℕ) : ℕ := (digits.takeWhile (· == 0)).length

/-- The digits of the same number in another base, behind as many zeros. -/
def recode (base base' : ℕ) (digits : List ℕ) : List ℕ :=
  List.replicate (zeros digits) 0 ++ (Nat.digits base' (value base digits)).reverse

theorem value_zeros_append (k : ℕ) (digits : List ℕ) :
    value base (List.replicate k 0 ++ digits) = value base digits := by
  induction k with
  | zero => rfl
  | succ k ih => rw [List.replicate_succ, List.cons_append, value_cons, zero_mul, zero_add, ih]

theorem zeros_append_dropWhile (digits : List ℕ) :
    List.replicate (zeros digits) 0 ++ digits.dropWhile (· == 0) = digits := by
  have htake : digits.takeWhile (· == 0) = List.replicate (zeros digits) 0 := by
    apply List.eq_replicate_of_mem
    intro d hd
    simpa using List.mem_takeWhile_imp hd
  rw [← htake, List.takeWhile_append_dropWhile]

/-- Digits that begin with no zero are those of their number. -/
theorem digits_value (hbase : 1 < base) (hdigits : ∀ d ∈ digits, d < base)
    (hhead : digits.head? ≠ some 0) : (Nat.digits base (value base digits)).reverse = digits := by
  rw [value, Nat.digits_ofDigits base hbase]
  · exact List.reverse_reverse digits
  · intro d hd
    exact hdigits d (List.mem_reverse.mp hd)
  · intro hne hlast
    apply hhead
    rw [List.getLast_reverse] at hlast
    rw [← hlast]
    exact List.head?_eq_some_head _

theorem head?_dropWhile_ne (digits : List ℕ) : (digits.dropWhile (· == 0)).head? ≠ some 0 := by
  intro hhead
  have hnot := List.head?_dropWhile_not (· == 0) digits
  rw [hhead] at hnot
  simp at hnot

theorem head?_digits_reverse_ne (n : ℕ) : (Nat.digits base n).reverse.head? ≠ some 0 := by
  intro hhead
  rw [List.head?_reverse] at hhead
  have hne : n ≠ 0 := by
    rintro rfl
    simp at hhead
  have hnil : Nat.digits base n ≠ [] := Nat.digits_ne_nil_iff_ne_zero.mpr hne
  rw [List.getLast?_eq_some_getLast hnil] at hhead
  exact Nat.getLast_digit_ne_zero base hne (Option.some.inj hhead)

theorem zeros_append (k : ℕ) (h : digits.head? ≠ some 0) :
    zeros (List.replicate k 0 ++ digits) = k := by
  induction k with
  | zero =>
    cases digits with
    | nil => rfl
    | cons d digits =>
      have hd : d ≠ 0 := fun hzero => h (by rw [hzero]; rfl)
      simp [zeros, hd]
  | succ k ih =>
    rw [List.replicate_succ, List.cons_append, zeros, List.takeWhile_cons_of_pos (by simp),
      List.length_cons]
    exact congrArg (· + 1) ih

/-- There and back. -/
theorem recode_recode {base' : ℕ} (hbase : 1 < base) (hdigits : ∀ d ∈ digits, d < base) :
    recode base' base (recode base base' digits) = digits := by
  have hzeros : zeros (recode base base' digits) = zeros digits :=
    zeros_append _ (head?_digits_reverse_ne _)
  have hvalue : value base' (recode base base' digits) = value base digits := by
    rw [recode, value_zeros_append, value, List.reverse_reverse, Nat.ofDigits_digits]
  rw [recode, hzeros, hvalue]
  have hsplit := zeros_append_dropWhile digits
  have hrest : (Nat.digits base (value base digits)).reverse = digits.dropWhile (· == 0) := by
    have hsame : value base digits = value base (digits.dropWhile (· == 0)) := by
      conv_lhs => rw [← hsplit]
      exact value_zeros_append _ _
    rw [hsame]
    apply digits_value hbase
    · intro d hd
      exact hdigits d ((List.dropWhile_sublist _).mem hd)
    · exact head?_dropWhile_ne digits
  rw [hrest, hsplit]

theorem recode_lt {base' : ℕ} (hbase' : 1 < base') (digits : List ℕ) :
    ∀ d ∈ recode base base' digits, d < base' := by
  intro d hd
  cases List.mem_append.mp hd with
  | inl hmem =>
    rw [List.eq_of_mem_replicate hmem]
    omega
  | inr hmem => exact Nat.digits_lt_base hbase' (List.mem_reverse.mp hmem)

/-- How long digits get, from a power that holds as many as another. -/
theorem length_recode_le {base' num den : ℕ} (hbase : 1 < base) (hbase' : 1 < base')
    (hpow : base ^ den ≤ base' ^ num) (hle : den ≤ num) (hdigits : ∀ d ∈ digits, d < base) :
    (recode base base' digits).length * den ≤ num * digits.length + den := by
  have hsplit := zeros_append_dropWhile digits
  have hlength : zeros digits + (digits.dropWhile (· == 0)).length = digits.length := by
    have h := congrArg List.length hsplit
    rwa [List.length_append, List.length_replicate] at h
  have hsame : value base digits = value base (digits.dropWhile (· == 0)) := by
    conv_lhs => rw [← hsplit]
    exact value_zeros_append _ _
  have hlt := value_lt hbase fun d hd => hdigits d ((List.dropWhile_sublist (· == 0)).mem hd)
  rw [← hsame] at hlt
  have hrest : (Nat.digits base' (value base digits)).length * den ≤
      num * (digits.dropWhile (· == 0)).length + den := by
    generalize (digits.dropWhile (· == 0)).length = k at hlt ⊢
    generalize value base digits = n at hlt ⊢
    cases hdigitsLength : (Nat.digits base' n).length with
    | zero => omega
    | succ length =>
      have hbelow : base' ^ length ≤ n := by
        rw [← Nat.lt_digits_length_iff hbase', hdigitsLength]
        omega
      have hpowers : base' ^ (length * den) < base' ^ (num * k) ∨ length * den ≤ num * k := by
        by_cases hden : den = 0
        · exact .inr (by rw [hden]; omega)
        · left
          calc base' ^ (length * den) = (base' ^ length) ^ den := pow_mul _ _ _
            _ < (base ^ k) ^ den := Nat.pow_lt_pow_left (hbelow.trans_lt hlt) hden
            _ = (base ^ den) ^ k := by rw [← pow_mul, ← pow_mul, Nat.mul_comm]
            _ ≤ (base' ^ num) ^ k := Nat.pow_le_pow_left hpow k
            _ = base' ^ (num * k) := (pow_mul _ _ _).symm
      have hle' : length * den ≤ num * k := by
        cases hpowers with
        | inl hpowers => exact ((Nat.pow_lt_pow_iff_right hbase').mp hpowers).le
        | inr hbound => exact hbound
      rw [Nat.succ_mul]
      omega
  rw [recode, List.length_append, List.length_replicate, List.length_reverse, Nat.add_mul]
  have hzeros : zeros digits * den ≤ num * zeros digits := by
    rw [Nat.mul_comm]
    exact Nat.mul_le_mul_right _ hle
  rw [← hlength, Nat.mul_add]
  omega

end DeXFG.Library.Radix
