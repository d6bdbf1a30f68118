import DeXFG.Evm.Coin
import DeXFG.Library.Radix
import Mathlib.Algebra.Order.Floor.Semifield
import Mathlib.Data.List.DropRight

/-!
# Amounts as strings

How amounts of a contract become decimals and decimals become amounts: the point
of a decimal is moved in its string. Strings are lists of characters, and every
operation on them panics where the one of the standard library does. How a decimal
is printed and read is a parameter.
-/
namespace DeXFG.Evm
open Library.StaticAbi

/-! ### Strings -/

def insertAt {ε : Type} (s : List Char) (idx : ℕ) (c : Char) : Res ε (List Char) :=
  if idx ≤ s.length then .ok (s.take idx ++ c :: s.drop idx)
  else .error (.panic "assertion failed: self.is_char_boundary(idx)")

def splitOff {ε : Type} (s : List Char) (idx : ℕ) : Res ε (List Char × List Char) :=
  if idx ≤ s.length then .ok (s.take idx, s.drop idx)
  else .error (.panic "assertion failed: self.is_char_boundary(at)")

/-- `remove(0)`. -/
def removeFirst {ε : Type} : List Char → Res ε (List Char)
  | [] => .error (.panic "cannot remove a char from the end of a string")
  | _ :: s => .ok s

def subUsize {ε : Type} (a b : ℕ) : Res ε ℕ :=
  if b ≤ a then .ok (a - b) else .error (.panic "attempt to subtract with overflow")

def zeroChars (n : ℕ) : List Char := List.replicate n '0'

/-- `trim_end_matches('0')`. -/
def trimZeros (s : List Char) : List Char := s.rdropWhile (· == '0')

/-! ### Digits -/

def digit (d : ℕ) : Char := Char.ofNat (48 + d)

def digitValue (c : Char) : ℕ := c.toNat - 48

def IsDigits (s : List Char) : Prop := ∀ c ∈ s, c.isDigit

/-- The number a string of digits stands for. -/
def number (s : List Char) : ℕ := Library.Radix.value 10 (s.map digitValue)

/-- `to_string` of a number. -/
def decString (n : ℕ) : List Char :=
  if n = 0 then ['0'] else (Nat.digits 10 n).reverse.map digit

def orInvalidLength (n : ℕ) : Except String U256 :=
  match U256.ofNat? n with
  | some n => .ok n
  | none => .error "InvalidLength"

/-- A step of `U256::from_dec_str`. -/
def pushDigit (res : U256) (c : Char) : Except String U256 := do
  let r ← orInvalidLength (res.val * 10)
  orInvalidLength (r.val + digitValue c)

/-- `U256::from_dec_str`. -/
def fromDecStr (value : List Char) : Except String U256 :=
  if value.all Char.isDigit then value.foldlM pushDigit U256.zero
  else .error "InvalidCharacter"

/-! ### The conversions -/

def displayU256WithDecimalPoint {ε : Type} (number : U256) (decimals : ℕ) :
    Res ε (List Char) := do
  let string := decString number.val
  let string ←
    if string.length ≤ decimals then do
      let missing ← subUsize decimals string.length
      pure (zeroChars (missing + 1) ++ string)
    else pure string
  let idx ← subUsize string.length decimals
  let string ← insertAt string idx '.'
  pure (trimZeros string)

/-- What `u256_from_big_decimal` does with the string of an amount before it is read. -/
def shiftPointRight {ε : Type} (amount : List Char) (decimals : ℕ) : Res ε (List Char) :=
  match amount.findIdx? (· == '.') with
  | some index => do
    let (amount, fractional) ← splitOff amount index
    let fractional ← removeFirst fractional
    let fractional ←
      if fractional.length < decimals then do
        let missing ← subUsize decimals fractional.length
        pure (fractional ++ zeroChars missing)
      else pure fractional
    let fractional := fractional.take decimals
    pure (amount ++ fractional)
  | none => pure (amount ++ zeroChars decimals)

/-- Decimals that are printed in plain notation, whatever their scale, and read from
digits around a point. -/
structure BigDecimalLib where
  BigDecimal : Type
  value : BigDecimal → ℚ
  toString : BigDecimal → List Char
  parse : List Char → Except String BigDecimal
  toString_plain (x : BigDecimal) : ∃ before after : List Char,
    before ≠ [] ∧ IsDigits before ∧ IsDigits after ∧
    toString x = (if value x < 0 then ['-'] else []) ++ before ++
      (if after = [] then [] else '.' :: after) ∧
    |value x| = number (before ++ after) / 10 ^ after.length
  parse_point (before after : List Char) : before ≠ [] → IsDigits before → IsDigits after →
    ∃ x, parse (before ++ '.' :: after) = .ok x ∧
      value x = number (before ++ after) / 10 ^ after.length

namespace BigDecimalLib

variable (lib : BigDecimalLib)

def u256ToBigDecimal (number : U256) (decimals : ℕ) : Res String lib.BigDecimal := do
  let string ← displayU256WithDecimalPoint number decimals
  orErr (lib.parse string) id

def u256FromBigDecimal (amount : lib.BigDecimal) (decimals : ℕ) : Res String U256 := do
  let amount ← shiftPointRight (lib.toString amount) decimals
  orErr (fromDecStr amount) id

end BigDecimalLib

/-! ### What the strings stand for -/

@[simp] theorem isDigits_nil : IsDigits [] := nofun

@[simp] theorem isDigits_append {s s' : List Char} :
    IsDigits (s ++ s') ↔ IsDigits s ∧ IsDigits s' := by
  simp [IsDigits, or_imp, forall_and]

theorem isDigits_zeroChars (n : ℕ) : IsDigits (zeroChars n) := by
  intro c hc
  rw [List.eq_of_mem_replicate hc]
  decide

theorem IsDigits.take {s : List Char} (h : IsDigits s) (n : ℕ) : IsDigits (s.take n) :=
  fun c hc => h c (List.mem_of_mem_take hc)

theorem IsDigits.drop {s : List Char} (h : IsDigits s) (n : ℕ) : IsDigits (s.drop n) :=
  fun c hc => h c (List.mem_of_mem_drop hc)

theorem digit_spec : ∀ d < 10, (digit d).isDigit ∧ digitValue (digit d) = d := by
  decide

theorem digitValue_lt {c : Char} (h : c.isDigit) : digitValue c < 10 := by
  have hle : c.val ≤ 57 := by
    simp only [Char.isDigit, Bool.and_eq_true, decide_eq_true_eq] at h
    exact h.2
  have hnat : c.toNat ≤ 57 := hle
  unfold digitValue
  omega

theorem number_append (s s' : List Char) :
    number (s ++ s') = number s * 10 ^ s'.length + number s' := by
  rw [number, List.map_append, Library.Radix.value_append, List.length_map, number, number]

theorem number_cons (c : Char) (s : List Char) :
    number (c :: s) = digitValue c * 10 ^ s.length + number s := by
  rw [number, List.map_cons, Library.Radix.value_cons, List.length_map, number]

theorem number_zeroChars (n : ℕ) : number (zeroChars n) = 0 := by
  induction n with
  | zero => rfl
  | succ n ih =>
    rw [zeroChars, List.replicate_succ, number_cons]
    rw [zeroChars] at ih
    rw [ih]
    simp [digitValue]

theorem number_lt {s : List Char} (h : IsDigits s) : number s < 10 ^ s.length := by
  have hlt : number s < 10 ^ (s.map digitValue).length := by
    apply Library.Radix.value_lt (by decide)
    intro d hd
    obtain ⟨c, hc, rfl⟩ := List.mem_map.mp hd
    exact digitValue_lt (h c hc)
  rwa [List.length_map] at hlt

theorem decString_ne_nil (n : ℕ) : decString n ≠ [] := by
  unfold decString
  split
  · exact List.cons_ne_nil _ _
  · rename_i hn
    rw [ne_eq, List.map_eq_nil_iff, List.reverse_eq_nil_iff]
    exact Nat.digits_ne_nil_iff_ne_zero.mpr hn

theorem isDigits_decString (n : ℕ) : IsDigits (decString n) := by
  unfold decString
  split
  · exact isDigits_zeroChars 1
  · intro c hc
    obtain ⟨d, hd, rfl⟩ := List.mem_map.mp hc
    exact (digit_spec d (Nat.digits_lt_base (by decide) (List.mem_reverse.mp hd))).1

theorem number_decString (n : ℕ) : number (decString n) = n := by
  unfold decString
  split
  · rename_i hn
    rw [hn]
    rfl
  · have hmap : ((Nat.digits 10 n).reverse.map digit).map digitValue =
        (Nat.digits 10 n).reverse := by
      rw [List.map_map]
      apply (List.map_congr_left _).trans (List.map_id _)
      intro d hd
      exact (digit_spec d (Nat.digits_lt_base (by decide) (List.mem_reverse.mp hd))).2
    rw [number, hmap, Library.Radix.value, List.reverse_reverse, Nat.ofDigits_digits]

/-! ### Reading -/

theorem orInvalidLength_of_lt {n : ℕ} (h : n < 2 ^ 256) : orInvalidLength n = .ok ⟨n, h⟩ := by
  rw [orInvalidLength, U256.ofNat?, dif_pos h]

theorem orInvalidLength_of_le {n : ℕ} (h : 2 ^ 256 ≤ n) :
    orInvalidLength n = .error "InvalidLength" := by
  rw [orInvalidLength, U256.ofNat?, dif_neg (Nat.not_lt.mpr h)]

theorem pushDigit_eq (res : U256) (c : Char) :
    pushDigit res c = orInvalidLength (res.val * 10 + digitValue c) := by
  unfold pushDigit
  by_cases hfits : res.val * 10 < 2 ^ 256
  · rw [orInvalidLength_of_lt hfits, except_ok_bind]
  · rw [orInvalidLength_of_le (Nat.not_lt.mp hfits), orInvalidLength_of_le (by omega)]
    rfl

theorem foldlM_pushDigit (s : List Char) (res : U256) :
    s.foldlM pushDigit res = orInvalidLength (res.val * 10 ^ s.length + number s) := by
  induction s generalizing res with
  | nil =>
    have hnil : res.val * 10 ^ ([] : List Char).length + number [] = res.val := by
      simp [number]
    rw [hnil, orInvalidLength_of_lt res.property]
    rfl
  | cons c s ih =>
    have hsum : res.val * 10 ^ (c :: s).length + number (c :: s) =
        (res.val * 10 + digitValue c) * 10 ^ s.length + number s := by
      rw [number_cons, List.length_cons]
      ring
    rw [List.foldlM_cons, pushDigit_eq, hsum]
    by_cases hfits : res.val * 10 + digitValue c < 2 ^ 256
    · rw [orInvalidLength_of_lt hfits, except_ok_bind, ih]
    · -- A digit that does not fit is not made to by those that follow.
      have hmul := Nat.le_mul_of_pos_right (res.val * 10 + digitValue c)
        (Nat.pow_pos (n := s.length) (show 0 < 10 by decide))
      rw [orInvalidLength_of_le (Nat.not_lt.mp hfits), orInvalidLength_of_le (by omega)]
      rfl

theorem fromDecStr_of_isDigits {s : List Char} (h : IsDigits s) :
    fromDecStr s = orInvalidLength (number s) := by
  have hall : s.all Char.isDigit = true := List.all_eq_true.mpr h
  rw [fromDecStr, if_pos hall, foldlM_pushDigit]
  simp [U256.zero]

theorem fromDecStr_minus (s : List Char) : fromDecStr ('-' :: s) = .error "InvalidCharacter" := by
  rw [fromDecStr, if_neg]
  simp [List.all_cons]

/-! ### The point moved to the right -/

/-- As many digits behind the point as asked for. -/
def fractionDigits (after : List Char) (decimals : ℕ) : List Char :=
  (after ++ zeroChars (decimals - after.length)).take decimals

theorem isDigits_fractionDigits {after : List Char} (h : IsDigits after) (decimals : ℕ) :
    IsDigits (fractionDigits after decimals) :=
  IsDigits.take (isDigits_append.mpr ⟨h, isDigits_zeroChars _⟩) _

theorem findIdx?_point {head : List Char} (hhead : '.' ∉ head) (after : List Char) :
    (head ++ '.' :: after).findIdx? (· == '.') = some head.length := by
  rw [List.findIdx?_append, List.findIdx?_eq_none_iff.mpr]
  · simp [List.findIdx?_cons]
  · intro c hc
    rw [beq_eq_false_iff_ne]
    rintro rfl
    exact hhead hc

theorem findIdx?_noPoint {head : List Char} (hhead : '.' ∉ head) :
    head.findIdx? (· == '.') = none := by
  rw [List.findIdx?_eq_none_iff]
  intro c hc
  rw [beq_eq_false_iff_ne]
  rintro rfl
  exact hhead hc

theorem shiftPointRight_eq {ε : Type} {head : List Char} (hhead : '.' ∉ head)
    (after : List Char) (decimals : ℕ) :
    shiftPointRight (head ++ if after = [] then [] else '.' :: after) decimals =
      (.ok (head ++ fractionDigits after decimals) : Res ε (List Char)) := by
  by_cases hafter : after = []
  · rw [if_pos hafter, List.append_nil, shiftPointRight, findIdx?_noPoint hhead, hafter]
    simp [fractionDigits, zeroChars]
    rfl
  · rw [if_neg hafter, shiftPointRight, findIdx?_point hhead]
    have hsplit : splitOff (head ++ '.' :: after) head.length =
        (.ok (head, '.' :: after) : Res ε _) := by
      simp [splitOff]
    simp only [hsplit, except_ok_bind, removeFirst]
    by_cases hshort : after.length < decimals
    · simp [hshort, subUsize, hshort.le, fractionDigits]
    · have hnone : decimals - after.length = 0 := by omega
      simp [hshort, fractionDigits, hnone, zeroChars]
      rfl

/-- Digits behind the point beyond those asked for are cut off. -/
theorem number_fractionDigits {before after : List Char} (hafter : IsDigits after)
    (decimals : ℕ) : number (before ++ fractionDigits after decimals) =
      number (before ++ after) * 10 ^ decimals / 10 ^ after.length := by
  by_cases hlong : decimals < after.length
  · have hnone : decimals - after.length = 0 := by omega
    have hcut : fractionDigits after decimals = after.take decimals := by
      rw [fractionDigits, hnone, zeroChars, List.replicate_zero, List.append_nil]
    have hsplit : number (before ++ after) =
        number (before ++ after.take decimals) * 10 ^ (after.length - decimals) +
          number (after.drop decimals) := by
      rw [← List.length_drop, ← number_append, List.append_assoc, List.take_append_drop]
    have hlt := number_lt (hafter.drop decimals)
    rw [List.length_drop] at hlt
    have hpow : 10 ^ after.length = 10 ^ (after.length - decimals) * 10 ^ decimals := by
      rw [← pow_add, Nat.sub_add_cancel hlong.le]
    rw [hcut, hpow, Nat.mul_div_mul_right _ _ (Nat.pow_pos (by decide)), hsplit, Nat.mul_comm,
      Nat.mul_add_div (Nat.pow_pos (by decide)), Nat.div_eq_of_lt hlt, Nat.add_zero]
  · have hpad : fractionDigits after decimals = after ++ zeroChars (decimals - after.length) := by
      rw [fractionDigits, List.take_of_length_le]
      simp [zeroChars]
      omega
    have hpow : 10 ^ decimals = 10 ^ (decimals - after.length) * 10 ^ after.length := by
      rw [← pow_add, Nat.sub_add_cancel (Nat.not_lt.mp hlong)]
    rw [hpad, ← List.append_assoc, number_append _ (zeroChars _), number_zeroChars, hpow,
      ← Nat.mul_assoc, Nat.mul_div_cancel _ (Nat.pow_pos (by decide))]
    simp [zeroChars]

theorem IsDigits.noPoint {s : List Char} (h : IsDigits s) : '.' ∉ s := by
  intro hmem
  exact absurd (h _ hmem) (by decide)

namespace BigDecimalLib

variable (lib : BigDecimalLib)

/-- The work on the string is a multiplication and a floor. -/
theorem u256FromBigDecimal_eq (amount : lib.BigDecimal) (decimals : ℕ) :
    lib.u256FromBigDecimal amount decimals =
      orErr (Evm.u256FromBigDecimal (lib.value amount) decimals) id := by
  obtain ⟨before, after, -, hbefore, hafter, hstring, hvalue⟩ := lib.toString_plain amount
  have hdigits : IsDigits (before ++ fractionDigits after decimals) :=
    isDigits_append.mpr ⟨hbefore, isDigits_fractionDigits hafter decimals⟩
  rw [BigDecimalLib.u256FromBigDecimal, Evm.u256FromBigDecimal, hstring]
  by_cases hneg : lib.value amount < 0
  · have hpoint : '.' ∉ '-' :: before := by
      rw [List.mem_cons]
      rintro (h | h)
      · exact absurd h (by decide)
      · exact hbefore.noPoint h
    rw [if_pos hneg, if_pos hneg, List.singleton_append, shiftPointRight_eq hpoint,
      except_ok_bind, List.cons_append, fromDecStr_minus]
  · have hfloor : ⌊lib.value amount * 10 ^ decimals⌋₊ =
        number (before ++ fractionDigits after decimals) := by
      have hquotient : (number (before ++ after) : ℚ) / 10 ^ after.length * 10 ^ decimals =
          ((number (before ++ after) * 10 ^ decimals : ℕ) : ℚ) / (10 ^ after.length : ℕ) := by
        push_cast
        ring
      rw [number_fractionDigits hafter, ← abs_of_nonneg (not_lt.mp hneg), hvalue, hquotient,
        Nat.floor_div_eq_div]
    rw [if_neg hneg, if_neg hneg, List.nil_append, shiftPointRight_eq hbefore.noPoint,
      except_ok_bind, fromDecStr_of_isDigits hdigits, hfloor]
    rfl

end BigDecimalLib

/-! ### The point moved to the left -/

theorem trimZeros_zero (s : List Char) : trimZeros (s ++ ['0']) = trimZeros s :=
  List.rdropWhile_concat_pos _ _ _ (by decide)

theorem trimZeros_ne {c : Char} (h : c ≠ '0') (s : List Char) :
    trimZeros (s ++ [c]) = s ++ [c] :=
  List.rdropWhile_concat_neg _ _ _ (by simpa using h)

theorem trimZeros_point (before after : List Char) :
    trimZeros (before ++ '.' :: after) = before ++ '.' :: trimZeros after := by
  induction after using List.reverseRecOn with
  | nil => exact trimZeros_ne (by decide) before
  | append_singleton after c ih =>
    rw [← List.cons_append, ← List.append_assoc]
    by_cases hc : c = '0'
    · rw [hc, trimZeros_zero, trimZeros_zero, ih]
    · rw [trimZeros_ne hc, trimZeros_ne hc, List.append_assoc, List.cons_append]

theorem exists_trimZeros_append (s : List Char) : ∃ n, s = trimZeros s ++ zeroChars n := by
  induction s using List.reverseRecOn with
  | nil => exact ⟨0, rfl⟩
  | append_singleton s c ih =>
    by_cases hc : c = '0'
    · obtain ⟨n, hn⟩ := ih
      use n + 1
      rw [hc, trimZeros_zero, zeroChars, List.replicate_succ', ← List.append_assoc]
      exact congrArg (· ++ ['0']) hn
    · use 0
      rw [trimZeros_ne hc]
      exact (List.append_nil _).symm

/-- The digits the point is put between, at least one of them before it. -/
def paddedDigits (n decimals : ℕ) : List Char :=
  zeroChars (decimals + 1 - (decString n).length) ++ decString n

theorem length_paddedDigits (n decimals : ℕ) : decimals < (paddedDigits n decimals).length := by
  simp [paddedDigits, zeroChars]
  omega

theorem isDigits_paddedDigits (n decimals : ℕ) : IsDigits (paddedDigits n decimals) :=
  isDigits_append.mpr ⟨isDigits_zeroChars _, isDigits_decString n⟩

theorem number_paddedDigits (n decimals : ℕ) : number (paddedDigits n decimals) = n := by
  rw [paddedDigits, number_append, number_zeroChars, number_decString, Nat.zero_mul, Nat.zero_add]

/-- Digits with so many of them behind the point, which may end in no zero. -/
def pointed (digits : List Char) (decimals : ℕ) : List Char :=
  digits.take (digits.length - decimals) ++
    '.' :: trimZeros (digits.drop (digits.length - decimals))

theorem insertAt_point {ε : Type} {digits : List Char} {decimals : ℕ}
    (h : decimals ≤ digits.length) : (do
      let idx ← subUsize digits.length decimals
      let string ← insertAt digits idx '.'
      pure (trimZeros string) : Res ε (List Char)) = .ok (pointed digits decimals) := by
  simp only [subUsize, if_pos h, except_ok_bind, insertAt, if_pos (Nat.sub_le _ decimals),
    trimZeros_point, pointed]
  rfl

theorem displayU256WithDecimalPoint_eq {ε : Type} (n : U256) (decimals : ℕ) :
    (displayU256WithDecimalPoint n decimals : Res ε _) =
      .ok (pointed (paddedDigits n.val decimals) decimals) := by
  rw [displayU256WithDecimalPoint, ← insertAt_point (length_paddedDigits n.val decimals).le]
  by_cases hshort : (decString n.val).length ≤ decimals
  · have hpadded : zeroChars (decimals - (decString n.val).length + 1) ++ decString n.val =
        paddedDigits n.val decimals := by
      rw [paddedDigits, ← Nat.sub_add_comm hshort]
    have hmissing : (subUsize decimals (decString n.val).length : Res ε ℕ) =
        .ok (decimals - (decString n.val).length) := if_pos hshort
    rw [if_pos hshort, hmissing, except_ok_bind, pure_bind, hpadded]
  · have hpadded : decString n.val = paddedDigits n.val decimals := by
      have hnone : decimals + 1 - (decString n.val).length = 0 := by omega
      rw [paddedDigits, hnone]
      rfl
    rw [if_neg hshort, pure_bind, hpadded]

theorem displayU256WithDecimalPoint_spec {ε : Type} (n : U256) (decimals : ℕ) :
    ∃ before after : List Char,
      (displayU256WithDecimalPoint n decimals : Res ε _) = .ok (before ++ '.' :: after) ∧
      before ≠ [] ∧ IsDigits before ∧ IsDigits after ∧
      (number (before ++ after) : ℚ) / 10 ^ after.length = n.val / 10 ^ decimals := by
  have hlength := length_paddedDigits n.val decimals
  have hdigits := isDigits_paddedDigits n.val decimals
  have hnumber := number_paddedDigits n.val decimals
  rw [displayU256WithDecimalPoint_eq, pointed]
  generalize paddedDigits n.val decimals = digits at hlength hdigits hnumber ⊢
  obtain ⟨k, hk⟩ := exists_trimZeros_append (digits.drop (digits.length - decimals))
  have hbehind : decimals = (trimZeros (digits.drop (digits.length - decimals))).length + k := by
    have h := congrArg List.length hk
    simp [zeroChars] at h
    omega
  have hsplit : n.val = number (digits.take (digits.length - decimals) ++
      trimZeros (digits.drop (digits.length - decimals))) * 10 ^ k := by
    conv_lhs =>
      rw [← hnumber, ← List.take_append_drop (digits.length - decimals) digits, hk,
        ← List.append_assoc, number_append, number_zeroChars]
    simp [zeroChars]
  have hafter : IsDigits (trimZeros (digits.drop (digits.length - decimals))) := by
    have h := hdigits.drop (digits.length - decimals)
    rw [hk] at h
    exact (isDigits_append.mp h).1
  refine ⟨_, _, rfl, ?_, hdigits.take _, hafter, ?_⟩
  · rw [← List.length_pos_iff, List.length_take]
    omega
  · have hpow : (10 : ℚ) ^ decimals =
        10 ^ (trimZeros (digits.drop (digits.length - decimals))).length * 10 ^ k := by
      rw [← pow_add, ← hbehind]
    rw [hsplit, hpow]
    push_cast
    field_simp

namespace BigDecimalLib

variable (lib : BigDecimalLib)

theorem u256ToBigDecimal_spec (n : U256) (decimals : ℕ) :
    ∃ x, lib.u256ToBigDecimal n decimals = .ok x ∧ lib.value x = n.val / 10 ^ decimals := by
  obtain ⟨before, after, hdisplay, hne, hbefore, hafter, hnumber⟩ :=
    displayU256WithDecimalPoint_spec n decimals
  obtain ⟨x, hparse, hvalue⟩ := lib.parse_point before after hne hbefore hafter
  use x
  constructor
  · rw [u256ToBigDecimal, hdisplay, except_ok_bind, hparse, orErr_ok]
  · rw [hvalue, hnumber]

theorem u256FromBigDecimal_of_fits {amount : lib.BigDecimal} {decimals : ℕ}
    (hsign : 0 ≤ lib.value amount) (hfits : ⌊lib.value amount * 10 ^ decimals⌋₊ < 2 ^ 256) :
    lib.u256FromBigDecimal amount decimals = .ok ⟨_, hfits⟩ := by
  rw [u256FromBigDecimal_eq, Evm.u256FromBigDecimal, if_neg (not_lt.mpr hsign),
    U256.ofNat?, dif_pos hfits]
  rfl

theorem u256FromBigDecimal_of_not_fits {amount : lib.BigDecimal} {decimals : ℕ}
    (h : lib.value amount < 0 ∨ 2 ^ 256 ≤ ⌊lib.value amount * 10 ^ decimals⌋₊) :
    ∃ e, lib.u256FromBigDecimal amount decimals = .error (.error e) := by
  rw [u256FromBigDecimal_eq, Evm.u256FromBigDecimal]
  split
  · exact ⟨_, rfl⟩
  · rename_i hsign
    rw [U256.ofNat?, dif_neg (Nat.not_lt.mpr (h.resolve_left hsign))]
    exact ⟨_, rfl⟩

/-- Amounts of a contract survive being shown, and a decimal becomes the floor of what it
stands for, or an error where that is negative or too large. -/
theorem amounts_convert :
    (∀ (n : U256) (decimals : ℕ), ∃ x, lib.u256ToBigDecimal n decimals = .ok x ∧
      lib.value x = n.val / 10 ^ decimals ∧ lib.u256FromBigDecimal x decimals = .ok n) ∧
    (∀ (x : lib.BigDecimal) (decimals : ℕ), 0 ≤ lib.value x →
      ∀ hfits : ⌊lib.value x * 10 ^ decimals⌋₊ < 2 ^ 256,
        lib.u256FromBigDecimal x decimals = .ok ⟨_, hfits⟩) ∧
    ∀ (x : lib.BigDecimal) (decimals : ℕ),
      lib.value x < 0 ∨ 2 ^ 256 ≤ ⌊lib.value x * 10 ^ decimals⌋₊ →
        ∃ e, lib.u256FromBigDecimal x decimals = .error (.error e) := by
  refine ⟨?_, ?_, ?_⟩
  · intro n decimals
    obtain ⟨x, hx, hvalue⟩ := lib.u256ToBigDecimal_spec n decimals
    have hfloor : ⌊lib.value x * 10 ^ decimals⌋₊ = n.val := by
      rw [hvalue, div_mul_cancel₀ _ (by positivity), Nat.floor_natCast]
    have hsign : 0 ≤ lib.value x := by
      rw [hvalue]
      positivity
    have hfits : ⌊lib.value x * 10 ^ decimals⌋₊ < 2 ^ 256 := hfloor ▸ n.property
    refine ⟨x, hx, hvalue, (lib.u256FromBigDecimal_of_fits hsign hfits).trans ?_⟩
    exact congrArg Except.ok (Subtype.ext hfloor)
  · intro x decimals hsign hfits
    exact lib.u256FromBigDecimal_of_fits hsign hfits
  · intro x decimals h
    exact lib.u256FromBigDecimal_of_not_fits h

end BigDecimalLib

/-! ### Decimals as an integer and a scale -/

/-- An integer, of whose digits `scale` stand behind the point. -/
structure ScaledInt where
  intVal : ℤ
  scale : ℤ
  deriving DecidableEq

namespace ScaledInt

def value (x : ScaledInt) : ℚ := x.intVal * 10 ^ (-x.scale)

/-- The digits before and behind the point. -/
def split (x : ScaledInt) : List Char × List Char :=
  let absInt := decString x.intVal.natAbs
  if absInt.length ≤ x.scale then
    (['0'], zeroChars (x.scale.toNat - absInt.length) ++ absInt)
  else
    let location := (absInt.length - x.scale).toNat
    if absInt.length < location then (absInt ++ zeroChars (location - absInt.length), [])
    else (absInt.take location, absInt.drop location)

def toString (x : ScaledInt) : List Char :=
  (if 0 ≤ x.intVal then [] else ['-']) ++ x.split.1 ++
    (if x.split.2 = [] then [] else '.' :: x.split.2)

/-- Digits with at most one point between them; signs and exponents are left out. -/
def parse (s : List Char) : Except String ScaledInt :=
  let (lead, trail) := match s.findIdx? (· == '.') with
    | some loc => (s.take loc, s.drop (loc + 1))
    | none => (s, [])
  let digits := lead ++ trail
  if digits ≠ [] ∧ digits.all Char.isDigit then .ok ⟨number digits, trail.length⟩
  else .error "invalid digit found in string"

theorem isDigits_split (x : ScaledInt) : IsDigits x.split.1 ∧ IsDigits x.split.2 := by
  have hint := isDigits_decString x.intVal.natAbs
  simp only [split]
  split
  · exact ⟨isDigits_zeroChars 1, isDigits_append.mpr ⟨isDigits_zeroChars _, hint⟩⟩
  · split
    · exact ⟨isDigits_append.mpr ⟨hint, isDigits_zeroChars _⟩, isDigits_nil⟩
    · exact ⟨hint.take _, hint.drop _⟩

theorem split_ne_nil (x : ScaledInt) : x.split.1 ≠ [] := by
  have hint := decString_ne_nil x.intVal.natAbs
  simp only [split]
  split
  · exact List.cons_ne_nil _ _
  · rename_i hscale
    split
    · exact List.append_ne_nil_of_left_ne_nil hint _
    · rw [← List.length_pos_iff, List.length_take]
      have hlength := List.length_pos_iff.mpr hint
      omega

theorem number_split (x : ScaledInt) :
    (number (x.split.1 ++ x.split.2) : ℚ) / 10 ^ x.split.2.length =
      x.intVal.natAbs * 10 ^ (-x.scale) := by
  have hint := number_decString x.intVal.natAbs
  -- The value of digits of which as many stand behind the point as the scale says.
  have hscaled : ∀ k : ℕ, x.scale = k →
      ((x.intVal.natAbs : ℕ) : ℚ) / 10 ^ k = x.intVal.natAbs * 10 ^ (-x.scale) := by
    intro k hk
    rw [hk, zpow_neg, zpow_natCast, div_eq_mul_inv]
  simp only [split]
  split
  · rename_i hscale
    have hlength : (zeroChars (x.scale.toNat - (decString x.intVal.natAbs).length) ++
        decString x.intVal.natAbs).length = x.scale.toNat := by
      simp [zeroChars]
      omega
    have hzero : number ['0'] = 0 := rfl
    rw [hlength, number_append, hzero, number_append, number_zeroChars, hint, Nat.zero_mul,
      Nat.zero_mul, Nat.zero_add, Nat.zero_add]
    exact hscaled _ (by omega)
  · rename_i hscale
    split
    · rename_i hlocation
      have hzeros : -x.scale = ((((decString x.intVal.natAbs).length - x.scale).toNat -
          (decString x.intVal.natAbs).length : ℕ) : ℤ) := by
        omega
      rw [hzeros, zpow_natCast, List.append_nil, number_append, number_zeroChars, hint]
      simp [zeroChars]
    · rename_i hlocation
      have hlength : ((decString x.intVal.natAbs).drop
          ((decString x.intVal.natAbs).length - x.scale).toNat).length = x.scale.toNat := by
        rw [List.length_drop]
        omega
      rw [hlength, List.take_append_drop, hint]
      exact hscaled _ (by omega)

theorem toString_plain (x : ScaledInt) : ∃ before after : List Char,
    before ≠ [] ∧ IsDigits before ∧ IsDigits after ∧
    x.toString = (if x.value < 0 then ['-'] else []) ++ before ++
      (if after = [] then [] else '.' :: after) ∧
    |x.value| = number (before ++ after) / 10 ^ after.length := by
  have hpow : (0 : ℚ) < 10 ^ (-x.scale) := by positivity
  refine ⟨x.split.1, x.split.2, x.split_ne_nil, x.isDigits_split.1, x.isDigits_split.2, ?_, ?_⟩
  · rw [toString]
    by_cases hsign : 0 ≤ x.intVal
    · have hvalue : ¬ x.value < 0 := by
        rw [not_lt, value]
        positivity
      rw [if_pos hsign, if_neg hvalue]
    · have hvalue : x.value < 0 := by
        rw [value]
        exact mul_neg_of_neg_of_pos (by exact_mod_cast not_le.mp hsign) hpow
      rw [if_neg hsign, if_pos hvalue]
  · rw [number_split, value, abs_mul, abs_of_pos hpow, Nat.cast_natAbs, Int.cast_abs]

theorem parse_point {before after : List Char} (hne : before ≠ []) (hbefore : IsDigits before)
    (hafter : IsDigits after) : ∃ x, parse (before ++ '.' :: after) = .ok x ∧
      x.value = number (before ++ after) / 10 ^ after.length := by
  have hdigits : before ++ after ≠ [] ∧ (before ++ after).all Char.isDigit :=
    ⟨List.append_ne_nil_of_left_ne_nil hne _,
      List.all_eq_true.mpr (isDigits_append.mpr ⟨hbefore, hafter⟩)⟩
  use ⟨number (before ++ after), after.length⟩
  constructor
  · have hdrop : (before ++ '.' :: after).drop (before.length + 1) = after := by
      rw [← List.drop_drop, List.drop_left]
      rfl
    simp only [parse, findIdx?_point hbefore.noPoint, List.take_left, hdrop]
    exact if_pos hdigits
  · simp [value, div_eq_mul_inv]

/-- Decimals kept as an integer and a scale. -/
def lib : BigDecimalLib where
  BigDecimal := ScaledInt
  value := value
  toString := toString
  parse := parse
  toString_plain := toString_plain
  parse_point _ _ hne hbefore hafter := parse_point hne hbefore hafter

/-- A scale below zero, digits cut off, and an amount below zero. -/
theorem amounts_convert_scaled :
    (∃ x, lib.u256ToBigDecimal ⟨1500, by decide⟩ 3 = .ok x ∧ lib.value x = 3 / 2 ∧
      lib.u256FromBigDecimal x 3 = .ok ⟨1500, by decide⟩) ∧
    lib.u256FromBigDecimal (⟨15, -1⟩ : ScaledInt) 2 = .ok ⟨15000, by decide⟩ ∧
    lib.u256FromBigDecimal (⟨12345, 4⟩ : ScaledInt) 2 = .ok ⟨123, by decide⟩ ∧
    ∃ e, lib.u256FromBigDecimal (⟨-1, 0⟩ : ScaledInt) 2 = .error (.error e) := by
  have hvalues : lib.value (⟨15, -1⟩ : ScaledInt) = 150 ∧
      lib.value (⟨12345, 4⟩ : ScaledInt) = 12345 / 10000 ∧
      lib.value (⟨-1, 0⟩ : ScaledInt) = -1 := by
    change ((15 : ℤ) : ℚ) * 10 ^ (-(-1) : ℤ) = 150 ∧
      ((12345 : ℤ) : ℚ) * 10 ^ (-4 : ℤ) = 12345 / 10000 ∧ ((-1 : ℤ) : ℚ) * 10 ^ (-0 : ℤ) = -1
    norm_num
  obtain ⟨hfifteen, hcut, hminus⟩ := hvalues
  obtain ⟨hround, hfloor, herror⟩ := lib.amounts_convert
  refine ⟨?_, ?_, ?_, ?_⟩
  · obtain ⟨x, hx, hvalue, hback⟩ := hround ⟨1500, by decide⟩ 3
    refine ⟨x, hx, hvalue.trans ?_, hback⟩
    norm_num
  · have h : ⌊lib.value (⟨15, -1⟩ : ScaledInt) * 10 ^ 2⌋₊ = 15000 := by
      norm_num [hfifteen]
    refine (hfloor (⟨15, -1⟩ : ScaledInt) 2 ?_ ?_).trans (congrArg Except.ok (Subtype.ext h))
    · norm_num [hfifteen]
    · rw [h]
      norm_num
  · have h : ⌊lib.value (⟨12345, 4⟩ : ScaledInt) * 10 ^ 2⌋₊ = 123 := by
      norm_num [hcut]
    refine (hfloor (⟨12345, 4⟩ : ScaledInt) 2 ?_ ?_).trans (congrArg Except.ok (Subtype.ext h))
    · norm_num [hcut]
    · rw [h]
      norm_num
  · apply herror
    left
    norm_num [hminus]

end ScaledInt

end DeXFG.Evm
