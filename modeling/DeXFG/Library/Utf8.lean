import Mathlib.Data.List.Basic

/-!
# Strings and their bytes
-/
namespace DeXFG.Library.Utf8

abbrev Bytes := List UInt8

def encode (string : String) : Bytes := string.toUTF8.data.toList

def decode (bytes : Bytes) : Option String := String.fromUTF8? ⟨bytes.toArray⟩

variable {bytes : Bytes} {string : String}

theorem decode_eq_some : decode bytes = some string ↔ encode string = bytes := by
  unfold decode String.fromUTF8?
  constructor
  · intro h
    split at h
    · cases h
      rfl
    · cases h
  · intro h
    subst h
    exact dif_pos string.isValidUTF8

@[simp] theorem decode_encode (string : String) : decode (encode string) = some string :=
  decode_eq_some.mpr rfl

theorem encode_injective : Function.Injective encode := by
  intro string string' h
  have hdecode : decode (encode string) = some string' := decode_eq_some.mpr h.symm
  rw [decode_encode] at hdecode
  exact Option.some.inj hdecode

/-! ## Bytes that need not be a string -/

/-- The bytes of some characters. -/
def encodeChars (cs : List Char) : Bytes := cs.flatMap String.utf8EncodeChar

/-- The character at the front. -/
def decodeChar (bytes : Bytes) : Option Char :=
  ByteArray.utf8DecodeChar? ⟨bytes.toArray⟩ 0

def isContinuation (byte : UInt8) : Bool := 0x80 ≤ byte && byte ≤ 0xbf

/-- The second byte can stand after the first one in a character of three or four bytes. -/
def secondFits (first second : UInt8) : Bool :=
  if first = 0xe0 then 0xa0 ≤ second && second ≤ 0xbf
  else if first = 0xed then 0x80 ≤ second && second ≤ 0x9f
  else if first = 0xf0 then 0x90 ≤ second && second ≤ 0xbf
  else if first = 0xf4 then 0x80 ≤ second && second ≤ 0x8f
  else if 0xe1 ≤ first ∧ first ≤ 0xf3 then isContinuation second
  else false

/-- How many bytes are replaced where no character is: those that could still start one. -/
def brokenLength : Bytes → ℕ
  | first :: second :: third :: _ =>
    if secondFits first second then
      if 0xf0 ≤ first ∧ isContinuation third = true then 3 else 2
    else 1
  | [first, second] => if secondFits first second then 2 else 1
  | _ => 1

def replacement : Char := '\uFFFD'

theorem one_le_brokenLength (bytes : Bytes) : 1 ≤ brokenLength bytes := by
  unfold brokenLength
  repeat' split
  all_goals omega

/-- What stands for the bytes, with replacements where they are no string. -/
def lossyChars (bytes : Bytes) : List Char :=
  if bytes = [] then []
  else match decodeChar bytes with
    | some c => c :: lossyChars (bytes.drop c.utf8Size)
    | none => replacement :: lossyChars (bytes.drop (brokenLength bytes))
termination_by bytes.length
decreasing_by
  · have := List.length_pos_of_ne_nil ‹bytes ≠ []›
    have := c.utf8Size_pos
    rw [List.length_drop]
    omega
  · have := List.length_pos_of_ne_nil ‹bytes ≠ []›
    have := one_le_brokenLength bytes
    rw [List.length_drop]
    omega

def decodeLossy (bytes : Bytes) : String := String.ofList (lossyChars bytes)

/-! ### What is wrong with bytes -/

/-- How many bytes at the front are whole characters. -/
def validUpTo (bytes : Bytes) : ℕ :=
  if bytes = [] then 0
  else match decodeChar bytes with
    | some c => c.utf8Size + validUpTo (bytes.drop c.utf8Size)
    | none => 0
termination_by bytes.length
decreasing_by
  have := List.length_pos_of_ne_nil ‹bytes ≠ []›
  have := c.utf8Size_pos
  rw [List.length_drop]
  omega

/-- All bytes could start a character that needs more of them. -/
def isIncomplete : Bytes → Bool
  | [first] => 0xc2 ≤ first && first ≤ 0xf4
  | [first, second] => secondFits first second
  | [first, second, third] =>
    0xf0 ≤ first && secondFits first second && isContinuation third
  | _ => false

/-- The text of the error for bytes that are no string. -/
def errorText (bytes : Bytes) : String :=
  let index := validUpTo bytes
  let rest := bytes.drop index
  if isIncomplete rest then s!"incomplete utf-8 byte sequence from index {index}"
  else s!"invalid utf-8 sequence of {brokenLength rest} bytes from index {index}"

/-! ### Characters at the front -/

variable {c : Char} {rest : Bytes}

@[simp] theorem encodeChars_nil : encodeChars [] = [] := rfl

@[simp] theorem encodeChars_cons (c : Char) (cs : List Char) :
    encodeChars (c :: cs) = String.utf8EncodeChar c ++ encodeChars cs := rfl

@[simp] theorem encodeChars_append (cs cs' : List Char) :
    encodeChars (cs ++ cs') = encodeChars cs ++ encodeChars cs' := List.flatMap_append

theorem encode_ofList (cs : List Char) : encode (String.ofList cs) = encodeChars cs := by
  change (String.ofList cs).toByteArray.data.toList = _
  rw [String.toByteArray_ofList, List.utf8Encode, encodeChars]
  simp

theorem encode_eq (string : String) : encode string = encodeChars string.toList := by
  rw [← encode_ofList, String.ofList_toList]

theorem decodeChar_append (c : Char) (rest : Bytes) :
    decodeChar (String.utf8EncodeChar c ++ rest) = some c := by
  have h : (⟨(String.utf8EncodeChar c ++ rest).toArray⟩ : ByteArray) =
      (String.utf8EncodeChar c).toByteArray ++ ⟨rest.toArray⟩ := by
    apply ByteArray.ext
    simp
  rw [decodeChar, h, ByteArray.utf8DecodeChar?_utf8EncodeChar_append]

theorem of_decodeChar (h : decodeChar bytes = some c) :
    ∃ rest, bytes = String.utf8EncodeChar c ++ rest := by
  obtain ⟨l, hl⟩ := ByteArray.exists_of_utf8DecodeChar?_eq_some h
  refine ⟨l.data.toList, ?_⟩
  have hdata := congrArg (fun b : ByteArray => b.data.toList) hl
  simpa using hdata

@[simp] theorem lossyChars_nil : lossyChars [] = [] := by
  rw [lossyChars, if_pos rfl]

/-- A character is read as it was written. -/
theorem lossyChars_append (c : Char) (rest : Bytes) :
    lossyChars (String.utf8EncodeChar c ++ rest) = c :: lossyChars rest := by
  have hne : String.utf8EncodeChar c ++ rest ≠ [] := by
    simp [String.utf8EncodeChar_ne_nil]
  rw [lossyChars, if_neg hne, decodeChar_append]
  simp only
  rw [← String.length_utf8EncodeChar, List.drop_left]

theorem lossyChars_encodeChars (cs : List Char) (rest : Bytes) :
    lossyChars (encodeChars cs ++ rest) = cs ++ lossyChars rest := by
  induction cs with
  | nil => rfl
  | cons c cs ih => rw [encodeChars_cons, List.append_assoc, lossyChars_append, ih]; rfl

/-- A string is read as it was written. -/
@[simp] theorem decodeLossy_encode (string : String) : decodeLossy (encode string) = string := by
  have h := lossyChars_encodeChars string.toList []
  rw [List.append_nil, lossyChars_nil, List.append_nil] at h
  rw [decodeLossy, encode_eq, h, String.ofList_toList]

/-! ### Lengths -/

theorem length_replacement : (String.utf8EncodeChar replacement).length = 3 := by decide

theorem brokenLength_le (hne : bytes ≠ []) :
    brokenLength bytes ≤ bytes.length ∧ brokenLength bytes ≤ 3 := by
  unfold brokenLength
  split
  · rw [List.length_cons, List.length_cons, List.length_cons]
    repeat' split
    all_goals omega
  · rw [List.length_cons, List.length_cons]
    split <;> omega
  · have := List.length_pos_of_ne_nil hne
    omega

/-- No character stands for more bytes than it has, and none for less than a third of them. -/
theorem length_lossyChars (bytes : Bytes) :
    bytes.length ≤ (encodeChars (lossyChars bytes)).length ∧
      (encodeChars (lossyChars bytes)).length ≤ 3 * bytes.length := by
  fun_induction lossyChars bytes with
  | case1 => simp
  | case2 bytes hne c hdecode ih =>
    obtain ⟨rest, rfl⟩ := of_decodeChar hdecode
    have hdrop : (String.utf8EncodeChar c ++ rest).drop c.utf8Size = rest := by
      rw [← String.length_utf8EncodeChar, List.drop_left]
    rw [hdrop] at ih
    rw [encodeChars_cons, List.length_append, List.length_append, hdrop]
    omega
  | case3 bytes hne hdecode ih =>
    have hle := brokenLength_le hne
    have hone := one_le_brokenLength bytes
    rw [encodeChars_cons, List.length_append, length_replacement]
    rw [List.length_drop] at ih
    omega

/-- The front of a string, where only the last character can be cut, is not much longer. -/
theorem length_lossyChars_take (cs : List Char) (n : ℕ) :
    (encodeChars (lossyChars ((encodeChars cs).take n))).length ≤ n + 6 := by
  induction cs generalizing n with
  | nil => simp
  | cons c cs ih =>
    by_cases hle : c.utf8Size ≤ n
    · have htake : (encodeChars (c :: cs)).take n =
          String.utf8EncodeChar c ++ (encodeChars cs).take (n - c.utf8Size) := by
        rw [encodeChars_cons, List.take_append, String.length_utf8EncodeChar,
          List.take_of_length_le (by rwa [String.length_utf8EncodeChar])]
      have hrest := ih (n - c.utf8Size)
      rw [htake, lossyChars_append, encodeChars_cons, List.length_append,
        String.length_utf8EncodeChar]
      omega
    · have hfour := c.utf8Size_le_four
      have hlength := (length_lossyChars ((encodeChars (c :: cs)).take n)).2
      have htake := List.length_take_le n (encodeChars (c :: cs))
      omega

/-! ### Bytes that start nothing -/

theorem not_isContinuation {byte : UInt8} (h : byte.IsUTF8FirstByte) :
    isContinuation byte = false := by
  have hall : ∀ n : Fin 256, (UInt8.ofNat n).IsUTF8FirstByte →
      isContinuation (UInt8.ofNat n) = false := by decide +kernel
  have hbyte := hall ⟨byte.toNat, byte.toNat_lt⟩
  rw [UInt8.ofNat_toNat] at hbyte
  exact hbyte h

theorem isContinuation_of_le {low high byte : UInt8}
    (h : (decide (low ≤ byte) && decide (byte ≤ high)) = true) (hlow : 0x80 ≤ low)
    (hhigh : high ≤ 0xbf) : isContinuation byte = true := by
  rw [Bool.and_eq_true, decide_eq_true_eq, decide_eq_true_eq] at h
  rw [isContinuation, Bool.and_eq_true, decide_eq_true_eq, decide_eq_true_eq]
  exact ⟨UInt8.le_trans hlow h.1, UInt8.le_trans h.2 hhigh⟩

theorem isContinuation_of_secondFits {first second : UInt8} (h : secondFits first second = true) :
    isContinuation second = true := by
  unfold secondFits at h
  repeat' split at h
  · exact isContinuation_of_le h (by decide) (by decide)
  · exact isContinuation_of_le h (by decide) (by decide)
  · exact isContinuation_of_le h (by decide) (by decide)
  · exact isContinuation_of_le h (by decide) (by decide)
  · exact h
  · cases h

theorem head_of_encodeChar {more rest : Bytes} {first : UInt8} (hfirst : 0x80 ≤ first)
    (h : first :: rest = String.utf8EncodeChar c ++ more) :
    ∃ second ∈ rest.head?, ¬ second.IsUTF8FirstByte := by
  have hsize : 1 < c.utf8Size := by
    by_contra hone
    have heq : c.utf8Size = 1 := by
      have := c.utf8Size_pos
      omega
    rw [String.utf8EncodeChar_eq_singleton heq] at h
    obtain ⟨hbyte, -⟩ := List.cons.inj h
    have hval : c.val.toNat ≤ 127 := UInt32.le_iff_toNat_le.mp (Char.utf8Size_eq_one_iff.mp heq)
    rw [hbyte, UInt8.le_iff_toNat_le] at hfirst
    change 128 ≤ c.val.toNat % 256 at hfirst
    omega
  have hlength : 1 < (String.utf8EncodeChar c).length := by rwa [String.length_utf8EncodeChar]
  refine ⟨(String.utf8EncodeChar c)[1], ?_, ?_⟩
  · have hget : (first :: rest)[1]? = some (String.utf8EncodeChar c)[1] := by
      rw [h, List.getElem?_append_left hlength, List.getElem?_eq_getElem hlength]
    rw [Option.mem_def, List.head?_eq_getElem?]
    exact hget
  · rw [UInt8.isUTF8FirstByte_getElem_utf8EncodeChar]
    exact Nat.one_ne_zero

/-- Where no byte of a character follows, a byte is replaced alone. -/
theorem lossyChars_of_high {first : UInt8} (hfirst : 0x80 ≤ first) {rest : Bytes}
    (hrest : ∀ second ∈ rest.head?, second.IsUTF8FirstByte) :
    lossyChars (first :: rest) = replacement :: lossyChars rest := by
  have hbroken : brokenLength (first :: rest) = 1 := by
    have hfits : ∀ second ∈ rest.head?, secondFits first second = false := by
      intro second hmem
      by_contra hfits
      have hcontinuation := isContinuation_of_secondFits ((Bool.not_eq_false _).mp hfits)
      rw [not_isContinuation (hrest second hmem)] at hcontinuation
      cases hcontinuation
    match rest, hfits with
    | [], _ => rfl
    | [second], hfits => simp [brokenLength, hfits second rfl]
    | second :: third :: more, hfits => simp [brokenLength, hfits second rfl]
  have hdecode : decodeChar (first :: rest) = none := by
    cases hchar : decodeChar (first :: rest) with
    | none => rfl
    | some c =>
      obtain ⟨more, heq⟩ := of_decodeChar hchar
      obtain ⟨second, hmem, hnot⟩ := head_of_encodeChar hfirst heq
      exact absurd (hrest second hmem) hnot
  rw [lossyChars, if_neg (List.cons_ne_nil first rest), hdecode, hbroken]
  rfl

theorem head_encodeChars (cs : List Char) (n : ℕ) :
    ∀ byte ∈ ((encodeChars cs).take n).head?, byte.IsUTF8FirstByte := by
  intro byte hmem
  cases cs with
  | nil => simp at hmem
  | cons c cs =>
    have hpos : 0 < (String.utf8EncodeChar c).length := by
      rw [String.length_utf8EncodeChar]
      exact c.utf8Size_pos
    cases n with
    | zero => simp at hmem
    | succ n =>
      rw [encodeChars_cons, Option.mem_def, List.head?_eq_getElem?,
        List.getElem?_take_of_lt (Nat.succ_pos n), List.getElem?_append_left hpos,
        List.getElem?_eq_getElem hpos, Option.some.injEq] at hmem
      rw [← hmem]
      exact UInt8.isUTF8FirstByte_getElem_utf8EncodeChar.mpr rfl

/-! ### Bytes in front of a string -/

/-- What a byte stands for when no byte of a character follows. -/
def headChar (first : UInt8) : Char :=
  if first < 0x80 then Char.ofNat first.toNat else replacement

theorem encodeChar_headChar {first : UInt8} (h : first < 0x80) :
    String.utf8EncodeChar (headChar first) = [first] := by
  have hlt : first.toNat < 128 := UInt8.lt_iff_toNat_lt.mp h
  have hval : (Char.ofNat first.toNat).toNat = first.toNat := by
    have hvalid : first.toNat.isValidChar := .inl (by omega)
    rw [Char.ofNat, dif_pos hvalid]
    rfl
  have hsize : (Char.ofNat first.toNat).utf8Size = 1 := by
    rw [Char.utf8Size_eq_one_iff, UInt32.le_iff_toNat_le]
    change (Char.ofNat first.toNat).toNat ≤ 127
    omega
  rw [headChar, if_pos h, String.utf8EncodeChar_eq_singleton hsize]
  congr 1
  apply UInt8.toNat_inj.mp
  change (Char.ofNat first.toNat).toNat % 256 = first.toNat
  omega

theorem lossyChars_cons (first : UInt8) {rest : Bytes}
    (hrest : ∀ second ∈ rest.head?, second.IsUTF8FirstByte) :
    lossyChars (first :: rest) = headChar first :: lossyChars rest := by
  by_cases h : first < 0x80
  · have happend := lossyChars_append (headChar first) rest
    rwa [encodeChar_headChar h] at happend
  · rw [lossyChars_of_high (UInt8.not_lt.mp h) hrest, headChar, if_neg h]

theorem utf8Size_headChar (first : UInt8) :
    (headChar first).utf8Size = if first < 0x80 then 1 else 3 := by
  by_cases h : first < 0x80
  · rw [if_pos h, ← String.length_utf8EncodeChar, encodeChar_headChar h]
    rfl
  · rw [if_neg h, headChar, if_neg h]
    decide

end DeXFG.Library.Utf8
