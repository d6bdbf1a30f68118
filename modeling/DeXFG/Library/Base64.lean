import Mathlib.Data.List.Nodup

/-!
# Base64

Three bytes are written as four characters. The last group is filled up with padding,
and the bits that it does not use have to be zero.
-/
namespace DeXFG.Library.Base64

abbrev Bytes := List UInt8

def alphabet : List Char :=
  "ABCDEFGHIJKLMNOPQRSTUVWXYZabcdefghijklmnopqrstuvwxyz0123456789+/".toList

def pad : Char := '='

/-- The character of six bits. -/
def symbol (n : ℕ) : Char := alphabet.getD n pad

def value (c : Char) : Option ℕ :=
  let i := alphabet.idxOf c
  if i < 64 then some i else none

/-- The characters of the first and the last byte of a group, and between two bytes. -/
def first (a : UInt8) : Char := symbol (a.toNat / 4)

def between (a b : ℕ) : Char := symbol (a * 16 % 64 + b / 16)

def third (b c : ℕ) : Char := symbol (b * 4 % 64 + c / 64)

def fourth (c : UInt8) : Char := symbol (c.toNat % 64)

def encode : Bytes → List Char
  | [] => []
  | [a] => [first a, between a.toNat 0, pad, pad]
  | [a, b] => [first a, between a.toNat b.toNat, third b.toNat 0, pad]
  | a :: b :: c :: rest =>
    first a :: between a.toNat b.toNat :: third b.toNat c.toNat :: fourth c :: encode rest

/-- The bytes of two, three and four characters. -/
def decodeTwo (x y : Char) : Option Bytes := do
  let x ← value x
  let y ← value y
  if y % 16 = 0 then some [.ofNat (x * 4 + y / 16)] else none

def decodeThree (x y z : Char) : Option Bytes := do
  let x ← value x
  let y ← value y
  let z ← value z
  if z % 4 = 0 then some [.ofNat (x * 4 + y / 16), .ofNat (y % 16 * 16 + z / 4)] else none

def decodeFour (x y z w : Char) : Option Bytes := do
  let x ← value x
  let y ← value y
  let z ← value z
  let w ← value w
  some [.ofNat (x * 4 + y / 16), .ofNat (y % 16 * 16 + z / 4), .ofNat (z % 4 * 64 + w)]

def decode : List Char → Option Bytes
  | [] => some []
  | x :: y :: z :: w :: rest =>
    if w = pad then
      if rest ≠ [] then none else if z = pad then decodeTwo x y else decodeThree x y z
    else do
      let group ← decodeFour x y z w
      let bytes ← decode rest
      some (group ++ bytes)
  | _ => none

theorem alphabet_eq : alphabet =
    ['A', 'B', 'C', 'D', 'E', 'F', 'G', 'H', 'I', 'J', 'K', 'L', 'M', 'N', 'O', 'P', 'Q', 'R', 'S',
      'T', 'U', 'V', 'W', 'X', 'Y', 'Z', 'a', 'b', 'c', 'd', 'e', 'f', 'g', 'h', 'i', 'j', 'k', 'l',
      'm', 'n', 'o', 'p', 'q', 'r', 's', 't', 'u', 'v', 'w', 'x', 'y', 'z', '0', '1', '2', '3', '4',
      '5', '6', '7', '8', '9', '+', '/'] :=
  String.toList_ofList

theorem length_alphabet : alphabet.length = 64 := by
  rw [alphabet_eq]
  rfl

theorem nodup_alphabet : alphabet.Nodup := by
  have hcodes : alphabet.map Char.toNat =
      List.range' 65 26 ++ (List.range' 97 26 ++ (List.range' 48 10 ++ [43, 47])) := by
    rw [alphabet_eq]
    decide
  apply List.Nodup.of_map Char.toNat
  rw [hcodes]
  simp [List.nodup_append, List.nodup_range']
  refine ⟨?_, ?_⟩
  · refine ⟨?_, ?_⟩
    all_goals
      intros
      omega
  · intros
    omega

theorem symbol_eq {n : ℕ} (h : n < alphabet.length) : symbol n = alphabet[n] := by
  rw [symbol, List.getD_eq_getElem?_getD, List.getElem?_eq_getElem h, Option.getD_some]

theorem value_symbol {n : ℕ} (h : n < 64) : value (symbol n) = some n := by
  rw [symbol_eq (length_alphabet ▸ h), value, nodup_alphabet.idxOf_getElem]
  exact if_pos h

theorem symbol_ne_pad {n : ℕ} (h : n < 64) : symbol n ≠ pad := by
  have hpad : pad ∉ alphabet := by
    rw [alphabet_eq]
    decide
  intro heq
  apply hpad
  rw [← heq, symbol_eq (length_alphabet ▸ h)]
  exact List.getElem_mem _

theorem decodeTwo_symbols (a : UInt8) :
    decodeTwo (first a) (between a.toNat 0) = some [a] := by
  have ha := a.toNat_lt
  rw [decodeTwo, first, between, value_symbol (by omega), value_symbol (by omega)]
  have hzero : (a.toNat * 16 % 64 + 0 / 16) % 16 = 0 := by omega
  have hbyte : a.toNat / 4 * 4 + (a.toNat * 16 % 64 + 0 / 16) / 16 = a.toNat := by omega
  simp only [Option.bind_eq_bind, Option.bind_some, hzero, hbyte]
  simp

theorem decodeThree_symbols (a b : UInt8) :
    decodeThree (first a) (between a.toNat b.toNat) (third b.toNat 0) = some [a, b] := by
  have ha := a.toNat_lt
  have hb := b.toNat_lt
  rw [decodeThree, first, between, third, value_symbol (by omega), value_symbol (by omega),
    value_symbol (by omega)]
  have hzero : (b.toNat * 4 % 64 + 0 / 64) % 4 = 0 := by omega
  have hfirst : a.toNat / 4 * 4 + (a.toNat * 16 % 64 + b.toNat / 16) / 16 = a.toNat := by omega
  have hsecond : (a.toNat * 16 % 64 + b.toNat / 16) % 16 * 16 +
      (b.toNat * 4 % 64 + 0 / 64) / 4 = b.toNat := by omega
  simp only [Option.bind_eq_bind, Option.bind_some, hzero, hfirst, hsecond]
  simp

theorem decodeFour_symbols (a b c : UInt8) :
    decodeFour (first a) (between a.toNat b.toNat) (third b.toNat c.toNat) (fourth c) =
      some [a, b, c] := by
  have ha := a.toNat_lt
  have hb := b.toNat_lt
  have hc := c.toNat_lt
  rw [decodeFour, first, between, third, fourth, value_symbol (by omega), value_symbol (by omega),
    value_symbol (by omega), value_symbol (by omega)]
  have hfirst : a.toNat / 4 * 4 + (a.toNat * 16 % 64 + b.toNat / 16) / 16 = a.toNat := by omega
  have hsecond : (a.toNat * 16 % 64 + b.toNat / 16) % 16 * 16 +
      (b.toNat * 4 % 64 + c.toNat / 64) / 4 = b.toNat := by omega
  have hthird : (b.toNat * 4 % 64 + c.toNat / 64) % 4 * 64 + c.toNat % 64 = c.toNat := by omega
  simp only [Option.bind_eq_bind, Option.bind_some, hfirst, hsecond, hthird]
  simp

theorem decode_encode (bytes : Bytes) : decode (encode bytes) = some bytes := by
  induction bytes using encode.induct with
  | case1 => rfl
  | case2 a =>
    rw [encode, decode, if_pos rfl, if_neg (by simp), if_pos rfl, decodeTwo_symbols]
  | case3 a b =>
    have hb := b.toNat_lt
    have hne : third b.toNat 0 ≠ pad := symbol_ne_pad (by omega)
    rw [encode, decode, if_pos rfl, if_neg (by simp), if_neg hne, decodeThree_symbols]
  | case4 a b c rest ih =>
    have hne : fourth c ≠ pad := symbol_ne_pad (by omega)
    rw [encode, decode, if_neg hne, decodeFour_symbols, ih]
    rfl

end DeXFG.Library.Base64
