import DeXFG.Library.Truncation
import Mathlib.Data.Nat.Bitwise
import Mathlib.Data.Nat.Size
import Mathlib.Tactic.NormNum

/-!
# Targets in compact form

A target is a number of 256 bits. Its compact form is the number of its bytes and
the three bytes at its front, of which the first bit is a sign.
-/
namespace DeXFG.Spv
open Library.Truncation

abbrev U256 := {n : ℕ // n < 2 ^ 256}

namespace U256

def ofU32 (n : UInt32) : U256 := ⟨n.toNat, n.toNat_lt.trans (by norm_num)⟩

/-- What is shifted out at the top is lost. -/
def shiftLeft (n : U256) (shift : ℕ) : U256 :=
  ⟨n.val <<< shift % 2 ^ 256, Nat.mod_lt _ (by norm_num)⟩

def shiftRight (n : U256) (shift : ℕ) : U256 :=
  ⟨n.val >>> shift, (Nat.shiftRight_le _ _).trans_lt n.property⟩

/-- The product, none if it takes more than 256 bits. -/
def mul (n m : U256) : Option U256 :=
  if h : n.val * m.val < 2 ^ 256 then some ⟨n.val * m.val, h⟩ else none

def div (n m : U256) : U256 := ⟨n.val / m.val, (Nat.div_le_self _ _).trans_lt n.property⟩

def bits (n : U256) : ℕ := n.val.size

def lowU64 (n : U256) : ℕ := n.val % 2 ^ 64

def lowU32 (n : U256) : ℕ := n.val % 2 ^ 32

end U256

/-- Compact representation of `U256`. -/
structure Compact where
  bits : UInt32
  deriving DecidableEq, Repr

namespace Compact

/-- The bits below the sign, and the sign. -/
def wordMask : ℕ := 0x007fffff

def signBit : ℕ := 0x00800000

def size (c : Compact) : ℕ := c.bits.toNat >>> 24

def word (c : Compact) : ℕ :=
  if c.size ≤ 3 then (c.bits.toNat &&& wordMask) >>> (8 * (3 - c.size))
  else c.bits.toNat &&& wordMask

def result (c : Compact) : U256 :=
  if c.size ≤ 3 then U256.ofU32 (.ofNat c.word)
  else (U256.ofU32 (.ofNat c.word)).shiftLeft (8 * (c.size - 3))

def IsNegative (c : Compact) : Prop := c.word ≠ 0 ∧ c.bits.toNat &&& signBit ≠ 0

def IsOverflow (c : Compact) : Prop :=
  (c.word ≠ 0 ∧ 34 < c.size) ∨ (0xff < c.word ∧ 33 < c.size) ∨ (0xffff < c.word ∧ 32 < c.size)

instance (c : Compact) : Decidable c.IsNegative := inferInstanceAs (Decidable (_ ∧ _))

instance (c : Compact) : Decidable c.IsOverflow := inferInstanceAs (Decidable (_ ∨ _ ∨ _))

/-- Computes the target [0, T] that a blockhash must land in to be valid. Returns value
in error, if there is an overflow or its negative value. -/
def toU256 (c : Compact) : Except U256 U256 :=
  if c.IsNegative ∨ c.IsOverflow then .error c.result else .ok c.result

/-- `From<Compact>`, which ignores overflows and negative values. -/
def intoU256 (c : Compact) : U256 :=
  match c.toU256 with
  | .ok target => target
  | .error target => target

def byteLength (val : U256) : ℕ := (val.bits + 7) / 8

/-- The number of bytes and the three at the front, the first of which may have the sign. -/
def front (val : U256) : ℕ × ℕ :=
  (byteLength val,
    if byteLength val ≤ 3 then val.lowU64 <<< (8 * (3 - byteLength val)) % 2 ^ 32
    else (val.shiftRight (8 * (byteLength val - 3))).lowU32)

/-- One byte less if the sign would be set. -/
def withoutSign (sizeCompact : ℕ × ℕ) : ℕ × ℕ :=
  if sizeCompact.2 &&& signBit ≠ 0 then (sizeCompact.1 + 1, sizeCompact.2 >>> 8) else sizeCompact

/-- None if one of the two assertions fails. -/
def fromU256 (val : U256) : Option Compact :=
  let (size, compact) := withoutSign (front val)
  if compact &&& 0xff800000 = 0 ∧ size < 256 then some ⟨.ofNat (compact ||| size <<< 24)⟩ else none

variable {c : Compact} {val : U256} {size compact : ℕ}

/-! ## What a compact form denotes -/

theorem and_wordMask (n : ℕ) : n &&& wordMask = n % 2 ^ 23 :=
  Nat.and_two_pow_sub_one_eq_mod n 23

theorem two_pow_mul (n : ℕ) : 2 ^ (8 * n) = 256 ^ n := by
  rw [pow_mul]
  norm_num

/-- The sign is the bit above the word. -/
theorem and_signBit_eq_zero : compact &&& signBit = 0 ↔ compact / 2 ^ 23 % 2 = 0 := by
  have hsign : signBit = 2 ^ 23 := by norm_num [signBit]
  rw [hsign, Nat.and_two_pow, Nat.testBit_eq_decide_div_mod_eq]
  simp

theorem word_lt : c.word < 2 ^ 23 := by
  have hlt : c.bits.toNat &&& wordMask < 2 ^ 23 := by
    rw [and_wordMask]
    exact Nat.mod_lt _ (by norm_num)
  rw [word]
  split
  · exact (Nat.shiftRight_le _ _).trans_lt hlt
  · exact hlt

theorem ofU32_word : (U256.ofU32 (.ofNat c.word)).val = c.word := by
  have h := c.word_lt
  exact UInt32.toNat_ofNat_of_lt (by norm_num [UInt32.size]; omega)

/-- What does not overflow takes 256 bits at most. -/
theorem word_mul_lt (h : ¬ c.IsOverflow) (hsize : 3 < c.size) :
    c.word * 256 ^ (c.size - 3) < 2 ^ 256 := by
  have hw := c.word_lt
  have hpow : ∀ bound top : ℕ, c.word < bound → c.size ≤ top + 3 →
      c.word * 256 ^ (c.size - 3) < bound * 256 ^ top := by
    intro bound top hword htop
    apply Nat.mul_lt_mul_of_lt_of_le hword
    · exact Nat.pow_le_pow_right (by norm_num) (by omega)
    · exact Nat.pow_pos (by norm_num)
  rw [IsOverflow] at h
  by_cases hzero : c.word = 0
  · rw [hzero, Nat.zero_mul]
    norm_num
  · by_cases hbyte : c.word ≤ 0xff
    · exact (hpow 256 31 (by omega) (by omega)).trans_le (by norm_num)
    · by_cases htwo : c.word ≤ 0xffff
      · exact (hpow (2 ^ 16) 30 (by omega) (by omega)).trans_le (by norm_num)
      · exact (hpow (2 ^ 23) 29 hw (by omega)).trans_le (by norm_num)

theorem result_val (h : ¬ c.IsOverflow) :
    c.result.val = if c.size ≤ 3 then c.word else c.word * 256 ^ (c.size - 3) := by
  rw [result]
  split
  · exact ofU32_word
  · rename_i hsize
    change (U256.ofU32 (.ofNat c.word)).val <<< _ % 2 ^ 256 = _
    rw [ofU32_word, Nat.shiftLeft_eq, two_pow_mul, Nat.mod_eq_of_lt (word_mul_lt h (by omega))]

theorem toU256_eq_ok : c.toU256 = .ok val ↔ ¬ c.IsNegative ∧ ¬ c.IsOverflow ∧ c.result = val := by
  rw [toU256]
  split
  · rename_i h
    simp only [reduceCtorEq, false_iff]
    tauto
  · rename_i h
    rw [not_or] at h
    simp [h]

/-- Every target is a word of 23 bits with an exponent. -/
theorem scaled_of_toU256 (h : c.toU256 = .ok val) : Scaled 256 (2 ^ 23) val.val := by
  obtain ⟨_, hoverflow, rfl⟩ := toU256_eq_ok.mp h
  rw [result_val hoverflow]
  split
  · exact ⟨c.word, 0, word_lt, by simp⟩
  · exact ⟨c.word, c.size - 3, word_lt, rfl⟩

/-! ## The compact form of a number -/

theorem lt_pow_byteLength : val.val < 256 ^ byteLength val := by
  have hbits : val.bits ≤ 8 * byteLength val := by
    rw [byteLength]
    omega
  calc val.val < 2 ^ (8 * byteLength val) := Nat.size_le.mp hbits
    _ = 256 ^ byteLength val := two_pow_mul _

theorem pow_byteLength_le {n : ℕ} (h : byteLength val = n + 1) : 256 ^ n ≤ val.val := by
  have hbits : 8 * n < val.bits := by
    rw [byteLength] at h
    omega
  calc 256 ^ n = 2 ^ (8 * n) := (two_pow_mul n).symm
    _ ≤ val.val := Nat.lt_size.mp hbits

theorem byteLength_le : byteLength val ≤ 32 := by
  have hbits : val.bits ≤ 256 := Nat.size_le.mpr val.property
  rw [byteLength]
  omega

theorem front_short_lt (h : byteLength val ≤ 3) :
    val.val * 256 ^ (3 - byteLength val) < 2 ^ 24 := by
  calc val.val * 256 ^ (3 - byteLength val)
      < 256 ^ byteLength val * 256 ^ (3 - byteLength val) := by
        apply Nat.mul_lt_mul_of_pos_right lt_pow_byteLength
        exact Nat.pow_pos (by norm_num)
    _ = 2 ^ 24 := by
        rw [← pow_add, Nat.add_sub_cancel' h]
        norm_num

theorem front_of_short (h : byteLength val ≤ 3) :
    front val = (byteLength val, val.val * 256 ^ (3 - byteLength val)) := by
  have hlt := front_short_lt h
  have hval : val.val < 2 ^ 24 := by
    calc val.val < 256 ^ byteLength val := lt_pow_byteLength
      _ ≤ 256 ^ 3 := Nat.pow_le_pow_right (by norm_num) h
      _ = 2 ^ 24 := by norm_num
  rw [front, if_pos h, U256.lowU64, Nat.shiftLeft_eq, two_pow_mul]
  rw [Nat.mod_eq_of_lt (hval.trans (by norm_num)), Nat.mod_eq_of_lt (hlt.trans (by norm_num))]

theorem front_long_lt (h : 3 < byteLength val) :
    val.val / 256 ^ (byteLength val - 3) < 2 ^ 24 := by
  rw [Nat.div_lt_iff_lt_mul (Nat.pow_pos (by norm_num))]
  calc val.val < 256 ^ byteLength val := lt_pow_byteLength
    _ = 256 ^ 3 * 256 ^ (byteLength val - 3) := by rw [← pow_add, Nat.add_sub_cancel' h.le]
    _ = 2 ^ 24 * 256 ^ (byteLength val - 3) := by norm_num

theorem front_of_long (h : 3 < byteLength val) :
    front val = (byteLength val, val.val / 256 ^ (byteLength val - 3)) := by
  have hlt := front_long_lt h
  rw [front, if_neg (not_le.mpr h), U256.lowU32, U256.shiftRight]
  simp only [Nat.shiftRight_eq_div_pow, two_pow_mul]
  rw [Nat.mod_eq_of_lt (hlt.trans (by norm_num))]

/-- The bytes at the front of a number with their count, such that the sign stays clear. -/
structure Fronts (size compact : ℕ) (val : U256) : Prop where
  compact_lt : compact < 2 ^ 23
  size_le : size ≤ 33
  compact_lt_of_long : 32 < size → compact < 2 ^ 16
  fits : Fits 256 (2 ^ 23) (size - 3) val.val
  value : (if size ≤ 3 then compact / 256 ^ (3 - size) else compact * 256 ^ (size - 3)) =
    truncate 256 (size - 3) val.val

theorem fits_of_long (h : 3 < byteLength val)
    (hbelow : val.val / 256 ^ (byteLength val - 3) < 2 ^ 23) :
    Fits 256 (2 ^ 23) (byteLength val - 3) val.val where
  below := hbelow
  tight := by
    intro e he
    calc 2 ^ 23 * 256 ^ e ≤ 256 ^ 3 * 256 ^ e := Nat.mul_le_mul_right _ (by norm_num)
      _ = 256 ^ (3 + e) := (pow_add _ _ _).symm
      _ ≤ 256 ^ (byteLength val - 1) := Nat.pow_le_pow_right (by norm_num) (by omega)
      _ ≤ val.val := pow_byteLength_le (by omega)

/-- The sign would be set, which one byte less makes room for. -/
theorem fits_of_sign (h : 3 ≤ byteLength val)
    (hsign : 2 ^ 23 ≤ val.val / 256 ^ (byteLength val - 3)) :
    Fits 256 (2 ^ 23) (byteLength val - 2) val.val where
  below := by
    rw [Nat.div_lt_iff_lt_mul (Nat.pow_pos (by norm_num))]
    calc val.val < 256 ^ byteLength val := lt_pow_byteLength
      _ = 256 ^ 2 * 256 ^ (byteLength val - 2) := by
          rw [← pow_add, Nat.add_sub_cancel' (by omega)]
      _ ≤ 2 ^ 23 * 256 ^ (byteLength val - 2) := Nat.mul_le_mul_right _ (by norm_num)
  tight := by
    intro e he
    calc 2 ^ 23 * 256 ^ e ≤ 2 ^ 23 * 256 ^ (byteLength val - 3) := by
          apply Nat.mul_le_mul_left
          exact Nat.pow_le_pow_right (by norm_num) (by omega)
      _ ≤ val.val := (Nat.le_div_iff_mul_le (Nat.pow_pos (by norm_num))).mp hsign

theorem fits_of_short (h : val.val < 2 ^ 23) : Fits 256 (2 ^ 23) 0 val.val where
  below := by simpa using h
  tight := by
    intro e he
    omega

theorem withoutSign_of_clear (h : compact < 2 ^ 23) :
    withoutSign (size, compact) = (size, compact) := by
  have hzero : compact &&& signBit = 0 := by
    rw [and_signBit_eq_zero]
    omega
  simp [withoutSign, hzero]

theorem withoutSign_of_set (h : 2 ^ 23 ≤ compact) (hlt : compact < 2 ^ 24) :
    withoutSign (size, compact) = (size + 1, compact / 256) := by
  have hne : compact &&& signBit ≠ 0 := by
    rw [Ne, and_signBit_eq_zero]
    omega
  simp [withoutSign, hne, Nat.shiftRight_eq_div_pow]

theorem fronts_of_long (h : 3 < byteLength val) :
    Fronts (withoutSign (front val)).1 (withoutSign (front val)).2 val := by
  have hbytes : byteLength val ≤ 32 := byteLength_le
  have hlt : val.val / 256 ^ (byteLength val - 3) < 2 ^ 24 := front_long_lt h
  rw [front_of_long h]
  by_cases hsign : val.val / 256 ^ (byteLength val - 3) < 2 ^ 23
  · rw [withoutSign_of_clear hsign]
    exact {
      compact_lt := hsign
      size_le := by omega
      compact_lt_of_long := by omega
      fits := fits_of_long h hsign
      value := by
        rw [if_neg (by omega)]
        rfl }
  · rw [withoutSign_of_set (not_lt.mp hsign) hlt]
    have hsize : byteLength val + 1 - 3 = byteLength val - 2 := by omega
    exact {
      compact_lt := by omega
      size_le := by omega
      compact_lt_of_long := by omega
      fits := by
        rw [hsize]
        exact fits_of_sign h.le (not_lt.mp hsign)
      value := by
        have hpow : 256 ^ (byteLength val - 3) * 256 = 256 ^ (byteLength val - 2) := by
          rw [← pow_succ]
          congr 1
          omega
        rw [if_neg (by omega), hsize, Nat.div_div_eq_div_mul, hpow]
        rfl }

theorem fronts_of_short (h : byteLength val ≤ 3) :
    Fronts (withoutSign (front val)).1 (withoutSign (front val)).2 val := by
  have hlt : val.val * 256 ^ (3 - byteLength val) < 2 ^ 24 := front_short_lt h
  have hpos : 0 < 256 ^ (3 - byteLength val) := Nat.pow_pos (by norm_num)
  have hexponent : byteLength val - 3 = 0 := by omega
  rw [front_of_short h]
  by_cases hsign : val.val * 256 ^ (3 - byteLength val) < 2 ^ 23
  · rw [withoutSign_of_clear hsign]
    have hval : val.val < 2 ^ 23 := (Nat.le_mul_of_pos_right _ hpos).trans_lt hsign
    exact {
      compact_lt := hsign
      size_le := by omega
      compact_lt_of_long := by omega
      fits := by
        rw [hexponent]
        exact fits_of_short hval
      value := by
        rw [if_pos h, hexponent, truncate_zero, Nat.mul_div_cancel _ hpos] }
  · rw [withoutSign_of_set (not_lt.mp hsign) hlt]
    by_cases hthree : byteLength val = 3
    · rw [hthree] at hsign hlt ⊢
      exact {
        compact_lt := by omega
        size_le := by omega
        compact_lt_of_long := by omega
        fits := by
          have hfits := fits_of_sign hthree.ge (by simpa [hthree] using hsign)
          rwa [hthree] at hfits
        value := by simp [truncate] }
    · have hpow : 256 ^ (3 - byteLength val) = 256 ^ (3 - (byteLength val + 1)) * 256 := by
        rw [← pow_succ]
        congr 1
        omega
      have hval : val.val < 2 ^ 16 := by
        calc val.val < 256 ^ byteLength val := lt_pow_byteLength
          _ ≤ 256 ^ 2 := Nat.pow_le_pow_right (by norm_num) (by omega)
          _ = 2 ^ 16 := by norm_num
      have hzero : byteLength val + 1 - 3 = 0 := by omega
      exact {
        compact_lt := by omega
        size_le := by omega
        compact_lt_of_long := by omega
        fits := by
          rw [hzero]
          exact fits_of_short (by omega)
        value := by
          rw [if_pos (by omega), hzero, truncate_zero, hpow, ← Nat.mul_assoc,
            Nat.mul_div_cancel _ (by norm_num), Nat.mul_div_cancel _ (Nat.pow_pos (by norm_num))] }

theorem fronts_withoutSign (val : U256) :
    Fronts (withoutSign (front val)).1 (withoutSign (front val)).2 val := by
  by_cases h : byteLength val ≤ 3
  · exact fronts_of_short h
  · exact fronts_of_long (not_le.mp h)

/-! ## The compact form read back -/

/-- The form with a given number of bytes. -/
def ofParts (size compact : ℕ) : Compact := ⟨.ofNat (compact ||| size <<< 24)⟩

theorem ofParts_toNat (hcompact : compact < 2 ^ 23) (hsize : size < 256) :
    (ofParts size compact).bits.toNat = size * 2 ^ 24 + compact := by
  have hor : compact ||| size <<< 24 = size * 2 ^ 24 + compact := by
    rw [Nat.or_comm, ← Nat.shiftLeft_add_eq_or_of_lt (by omega), Nat.shiftLeft_eq]
  rw [ofParts, hor]
  apply UInt32.toNat_ofNat_of_lt
  norm_num [UInt32.size]
  omega

theorem ofParts_size (hcompact : compact < 2 ^ 23) (hsize : size < 256) :
    (ofParts size compact).size = size := by
  rw [Compact.size, ofParts_toNat hcompact hsize, Nat.shiftRight_eq_div_pow]
  omega

theorem ofParts_word (hcompact : compact < 2 ^ 23) (hsize : size < 256) :
    (ofParts size compact).word = if size ≤ 3 then compact / 256 ^ (3 - size) else compact := by
  have hmask : (ofParts size compact).bits.toNat &&& wordMask = compact := by
    rw [and_wordMask, ofParts_toNat hcompact hsize]
    omega
  rw [word, hmask, ofParts_size hcompact hsize, Nat.shiftRight_eq_div_pow, two_pow_mul]

theorem ofParts_not_negative (hcompact : compact < 2 ^ 23) (hsize : size < 256) :
    ¬ (ofParts size compact).IsNegative := by
  intro h
  apply h.2
  rw [and_signBit_eq_zero, ofParts_toNat hcompact hsize]
  omega

theorem Fronts.not_overflow (h : Fronts size compact val) :
    ¬ (ofParts size compact).IsOverflow := by
  have hsize := h.size_le
  have hlong := h.compact_lt_of_long
  rw [IsOverflow, ofParts_size h.compact_lt (by omega), ofParts_word h.compact_lt (by omega)]
  split
  · omega
  · omega

theorem Fronts.toU256 (h : Fronts size compact val) :
    ∃ target, (ofParts size compact).toU256 = .ok target ∧
      target.val = truncate 256 (size - 3) val.val := by
  have hsize := h.size_le
  refine ⟨_, toU256_eq_ok.mpr ⟨ofParts_not_negative h.compact_lt (by omega), h.not_overflow, rfl⟩,
    ?_⟩
  rw [result_val h.not_overflow, ofParts_size h.compact_lt (by omega),
    ofParts_word h.compact_lt (by omega), ← h.value]
  split
  · rfl
  · rfl

/-- The bits from the sign on are those that the first assertion looks at. -/
theorem and_highMask (h : compact < 2 ^ 23) : compact &&& 0xff800000 = 0 := by
  have hshift : (0xff800000 : ℕ) = 511 <<< 23 := rfl
  rw [hshift]
  apply Nat.eq_of_testBit_eq
  intro i
  rw [Nat.testBit_and, Nat.testBit_shiftLeft, Nat.zero_testBit]
  by_cases hi : 23 ≤ i
  · rw [Nat.testBit_lt_two_pow (h.trans_le (Nat.pow_le_pow_right (by norm_num) hi)),
      Bool.false_and]
  · simp [hi]

theorem fromU256_eq (val : U256) :
    fromU256 val = some (ofParts (withoutSign (front val)).1 (withoutSign (front val)).2) := by
  have h := fronts_withoutSign val
  have hcompact := h.compact_lt
  have hsize := h.size_le
  have hmask := and_highMask hcompact
  rw [fromU256]
  simp only
  rw [if_pos ⟨hmask, by omega⟩]
  rfl

/-- Neither assertion fails, and the target is cut down as little as possible. -/
theorem fromU256_spec (val : U256) : ∃ c target, fromU256 val = some c ∧ c.toU256 = .ok target ∧
    IsGreatest {m | Scaled 256 (2 ^ 23) m ∧ m ≤ val.val} target.val := by
  have h := fronts_withoutSign val
  obtain ⟨target, htarget, hval⟩ := h.toU256
  refine ⟨_, target, fromU256_eq val, htarget, ?_⟩
  rw [hval]
  exact isGreatest_truncate (by norm_num) (by norm_num) h.fits

/-- A target that has a compact form keeps its value in the form that it is given. -/
theorem fromU256_of_toU256 (h : c.toU256 = .ok val) :
    ∃ c', fromU256 val = some c' ∧ c'.toU256 = .ok val := by
  obtain ⟨c', target, hc', htarget, hgreatest⟩ := fromU256_spec val
  have hval : target = val := by
    apply Subtype.ext
    apply Nat.le_antisymm hgreatest.1.2
    exact hgreatest.2 ⟨scaled_of_toU256 h, le_rfl⟩
  exact ⟨c', hc', hval ▸ htarget⟩

theorem target_mono {val' : U256} {c' : Compact} {target target' : U256} (hle : val.val ≤ val'.val)
    (hc : fromU256 val = some c) (hc' : fromU256 val' = some c') (h : c.toU256 = .ok target)
    (h' : c'.toU256 = .ok target') : target.val ≤ target'.val := by
  obtain ⟨d, t, hd, ht, hgreatest⟩ := fromU256_spec val
  obtain ⟨d', t', hd', ht', hgreatest'⟩ := fromU256_spec val'
  cases hc.symm.trans hd
  cases hc'.symm.trans hd'
  cases h.symm.trans ht
  cases h'.symm.trans ht'
  exact hgreatest'.2 ⟨hgreatest.1.1, hgreatest.1.2.trans hle⟩

end Compact

end DeXFG.Spv
