import Mathlib
import DeXFG.Utxo.AddressRoundTrip

/-!
# Base58 and Bech32

The two encodings as they are documented, and what the codec of the addresses takes
from them.
-/
namespace DeXFG.Utxo
open Library Library.Radix

/-! ### Letters of ASCII -/

/-- The standard library on texts of ASCII. -/
def asciiUnicode : Unicode where
  toLowercase := List.map Char.toLower
  isLowercase := Char.isLower
  isNumeric := Char.isDigit

theorem asciiUnicode_lawful : asciiUnicode.Lawful where
  toLowercase_idem s := by
    simp [asciiUnicode]
  isLowercase_ascii c _ := rfl
  isNumeric_ascii c _ := rfl

/-! ### Base58 -/

namespace Base58

def alphabet : List Char :=
  ['1', '2', '3', '4', '5', '6', '7', '8', '9', 'A', 'B', 'C', 'D', 'E', 'F', 'G', 'H', 'J', 'K',
   'L', 'M', 'N', 'P', 'Q', 'R', 'S', 'T', 'U', 'V', 'W', 'X', 'Y', 'Z', 'a', 'b', 'c', 'd', 'e',
   'f', 'g', 'h', 'i', 'j', 'k', 'm', 'n', 'o', 'p', 'q', 'r', 's', 't', 'u', 'v', 'w', 'x', 'y',
   'z']

def charOf (d : ℕ) : Char := alphabet.getD d '1'

def digitsOf : Text → Option (List ℕ)
  | [] => some []
  | c :: s => if c ∈ alphabet then (digitsOf s).map (alphabet.idxOf c :: ·) else none

/-- The alphabet of Bitcoin. -/
def bitcoin : Base58 where
  decode s := (digitsOf s).map fun digits => (recode 58 256 digits).map UInt8.ofNat
  encode bytes := (recode 256 58 (bytes.map UInt8.toNat)).map charOf

theorem charOf_idxOf {c : Char} (h : c ∈ alphabet) : charOf (alphabet.idxOf c) = c := by
  rw [charOf, List.getD_eq_getElem alphabet '1' (List.idxOf_lt_length_of_mem h)]
  exact List.getElem_idxOf _

theorem charOf_table : ∀ d < 58, charOf d ∈ alphabet ∧ alphabet.idxOf (charOf d) = d ∧
    (charOf d).isAlphanum = true := by
  decide

theorem digitsOf_map {digits : List ℕ} (h : ∀ d ∈ digits, d < 58) :
    digitsOf (digits.map charOf) = some digits := by
  induction digits with
  | nil => rfl
  | cons d digits ih =>
    obtain ⟨hmem, hidx, -⟩ := charOf_table d (h d List.mem_cons_self)
    rw [List.map_cons, digitsOf, if_pos hmem, ih fun x hx => h x (List.mem_cons_of_mem _ hx), hidx]
    rfl

theorem digitsOf_eq_some {s : Text} {digits : List ℕ} (h : digitsOf s = some digits) :
    digits.map charOf = s ∧ ∀ d ∈ digits, d < 58 := by
  induction s generalizing digits with
  | nil =>
    obtain rfl := Option.some.inj h
    simp
  | cons c s ih =>
    rw [digitsOf] at h
    by_cases hmem : c ∈ alphabet
    · rw [if_pos hmem] at h
      obtain ⟨rest, hrest, rfl⟩ := Option.map_eq_some_iff.mp h
      obtain ⟨htext, hlt⟩ := ih hrest
      constructor
      · rw [List.map_cons, charOf_idxOf hmem, htext]
      · rw [List.forall_mem_cons]
        exact ⟨List.idxOf_lt_length_of_mem hmem, hlt⟩
    · rw [if_neg hmem] at h
      cases h

theorem toNat_lt_256 (bytes : Bytes) : ∀ d ∈ bytes.map UInt8.toNat, d < 256 := by
  intro d hd
  obtain ⟨b, -, rfl⟩ := List.mem_map.mp hd
  exact b.toNat_lt

theorem bitcoin_lawful : bitcoin.Lawful where
  decode_encode bytes := by
    have hdigits : digitsOf (bitcoin.encode bytes) =
        some (recode 256 58 (bytes.map UInt8.toNat)) :=
      digitsOf_map (recode_lt (by decide) _)
    have hback : (recode 58 256 (recode 256 58 (bytes.map UInt8.toNat))).map UInt8.ofNat =
        bytes := by
      rw [recode_recode (by decide) (toNat_lt_256 bytes), List.map_map]
      apply (List.map_congr_left _).trans (List.map_id _)
      intro b _
      exact UInt8.ofNat_toNat
    simp only [bitcoin] at hdigits ⊢
    rw [hdigits, Option.map_some, hback]
  encode_decode s bytes h := by
    obtain ⟨digits, hdigits, rfl⟩ := Option.map_eq_some_iff.mp h
    obtain ⟨htext, hlt⟩ := digitsOf_eq_some hdigits
    simp only [bitcoin]
    rw [Radix.map_toNat_ofNat (recode_lt (by decide) _), recode_recode (by decide) hlt, htext]
  alphanum_encode bytes c hc := by
    obtain ⟨d, hd, rfl⟩ := List.mem_map.mp hc
    exact (charOf_table d (recode_lt (by decide) _ d hd)).2.2
  length_encode bytes := by
    have hle := @length_recode_le 256 (bytes.map UInt8.toNat) 58 138 100 (by decide) (by decide)
      (by norm_num) (by decide) (toNat_lt_256 bytes)
    simpa [bitcoin] using hle

end Base58

/-! ### Bech32 -/

namespace Bech32

def polymodStep (chk : BitVec 32) (v : UInt8) : BitVec 32 :=
  let b := chk >>> 25
  let chk := ((chk &&& 0x1ffffff#32) <<< 5) ^^^ BitVec.ofNat 32 v.toNat
  let chk := if b.getLsbD 0 then chk ^^^ 0x3b6a57b2#32 else chk
  let chk := if b.getLsbD 1 then chk ^^^ 0x26508e6d#32 else chk
  let chk := if b.getLsbD 2 then chk ^^^ 0x1ea119fa#32 else chk
  let chk := if b.getLsbD 3 then chk ^^^ 0x3d4233dd#32 else chk
  if b.getLsbD 4 then chk ^^^ 0x2a1462b3#32 else chk

/-- The upper and the lower bits of the characters. -/
def hrpExpand (hrp : Text) : Bytes :=
  hrp.map (fun c => UInt8.ofNat (c.toNat / 32)) ++ [0] ++
    hrp.map fun c => UInt8.ofNat (c.toNat % 32)

def targetOf : Bech32Variant → BitVec 32
  | .bech32 => 1#32
  | .bech32m => 0x2bc830a3#32

def checksumOf (variant : Bech32Variant) (hrp : Text) (data : Bytes) : Bytes :=
  let sum := (hrpExpand hrp ++ data ++ List.replicate 6 0).foldl polymodStep 1#32 ^^^
    targetOf variant
  (List.range 6).map fun i => UInt8.ofNat ((sum >>> (5 * (5 - i))) &&& 31#32).toNat

/-- What stands before and behind the last separator. -/
def splitLast (s : Text) : Option (Text × Text) :=
  match s.reverse.dropWhile (· != '1') with
  | [] => none
  | _ :: front => some (front.reverse, (s.reverse.takeWhile (· != '1')).reverse)

def decodeText (s : Text) : Except String (Text × Bytes × Bech32Variant) :=
  match splitLast s with
  | none => .error "missing human-readable separator"
  | some (hrp, rest) =>
    if hrp.length < 1 ∨ 83 < hrp.length then .error "invalid length"
    else if hrp.any fun c => decide (c.toNat < 33) || decide (126 < c.toNat) then
      .error "invalid character"
    else if s.any Char.isUpper && s.any Char.isLower then .error "mixed-case strings not allowed"
    else
      match Base32.decode rest with
      | .error _ => .error "invalid character"
      | .ok symbols =>
        if symbols.length < 6 then .error "invalid length"
        else
          let data := symbols.take (symbols.length - 6)
          let check := symbols.drop (symbols.length - 6)
          let hrp := hrp.map Char.toLower
          if check = checksumOf .bech32 hrp data then .ok (hrp, data, .bech32)
          else if check = checksumOf .bech32m hrp data then .ok (hrp, data, .bech32m)
          else .error "invalid checksum"

def encodeText (hrp : Text) (data : Bytes) : Text :=
  hrp ++ '1' :: (Base32.encode (data ++ checksumOf .bech32 hrp data)).toOption.getD []

/-- Bech32 with the padding that the segwit addresses ask for. -/
def segwit : Bech32 where
  decode := decodeText
  encode := encodeText
  toBase32 bytes := (convertBits 8 5 bytes true).1
  fromBase32 groups :=
    if CleanPadding groups then .ok (convertBits 5 8 groups false).1 else .error "invalid padding"

theorem groups_checksumOf (variant : Bech32Variant) (hrp : Text) (data : Bytes) :
    IsGroups 5 (checksumOf variant hrp data) := by
  intro d hd
  obtain ⟨i, -, rfl⟩ := List.mem_map.mp hd
  rw [toNat_ofNat_group (show 5 ≤ 8 by decide)]
  all_goals
    rw [BitVec.toNat_and]
    exact Nat.and_lt_two_pow _ (by decide)

@[simp] theorem length_checksumOf (variant : Bech32Variant) (hrp : Text) (data : Bytes) :
    (checksumOf variant hrp data).length = 6 := by
  simp [checksumOf]

theorem splitLast_append {front back : Text} (h : '1' ∉ back) :
    splitLast (front ++ '1' :: back) = some (front, back) := by
  have hback : ∀ c ∈ back.reverse, (c != '1') = true := by
    intro c hc
    rw [bne_iff_ne]
    rintro rfl
    exact h (List.mem_reverse.mp hc)
  have hreverse : (front ++ '1' :: back).reverse = back.reverse ++ '1' :: front.reverse := by
    simp
  rw [splitLast, hreverse, List.dropWhile_append_of_pos hback, List.takeWhile_append_of_pos hback]
  simp

theorem splitLast_eq_some {s front back : Text} (h : splitLast s = some (front, back)) :
    s = front ++ '1' :: back := by
  have hsplit := List.takeWhile_append_dropWhile (p := (· != '1')) (l := s.reverse)
  rw [splitLast] at h
  cases hdrop : s.reverse.dropWhile (· != '1') with
  | nil =>
    rw [hdrop] at h
    cases h
  | cons c rest =>
    have hc : c = '1' := by
      have hnot := List.head?_dropWhile_not (· != '1') s.reverse
      rw [hdrop] at hnot
      simpa using hnot
    rw [hdrop] at h hsplit
    generalize s.reverse.takeWhile (· != '1') = tail at h hsplit
    obtain ⟨rfl, rfl⟩ := Prod.mk.inj (Option.some.inj h)
    rw [← List.reverse_reverse s, ← hsplit, hc]
    simp

theorem charset_lower : ∀ c ∈ Base32.charset, c.isUpper = false ∧ c ≠ '1' := by
  simp [Base32.charset]

theorem charsetRev_alphanum : ∀ n < 128, (Base32.charsetRev[n]?).all (fun val =>
    val == -1 || (Char.ofNat n).isAlphanum) = true := by
  decide

theorem alphanum_of_decode {text : Text} {groups : Bytes} (h : Base32.decode text = .ok groups) :
    ∀ c ∈ text, c.isAlphanum = true := by
  induction text generalizing groups with
  | nil => simp
  | cons c text ih =>
    rw [Base32.decode] at h
    cases hrev : Base32.charsetRev[c.toNat]? with
    | none => simp [hrev] at h
    | some val =>
      simp only [hrev] at h
      by_cases hval : val = -1
      · simp [hval] at h
      · rw [if_neg hval] at h
        cases htail : Base32.decode text with
        | error reason =>
          rw [htail] at h
          cases h
        | ok tail =>
          obtain ⟨hlt, -⟩ := List.getElem?_eq_some_iff.mp hrev
          have htable := charsetRev_alphanum c.toNat hlt
          rw [hrev, Char.ofNat_toNat] at htable
          rw [List.forall_mem_cons]
          exact ⟨by simpa [hval] using htable, ih htail⟩

/-- What a string that is taken is made of. -/
theorem decodeText_eq_ok {s : Text} {r : Text × Bytes × Bech32Variant}
    (h : decodeText s = .ok r) :
    ∃ front back, s = front ++ '1' :: back ∧ (∀ c ∈ back, c.isAlphanum = true) ∧
      1 ≤ front.length ∧ front.length ≤ 83 ∧ (∀ c ∈ front, 33 ≤ c.toNat ∧ c.toNat ≤ 126) ∧
      r.1 = front.map Char.toLower := by
  rw [decodeText] at h
  cases hsplit : splitLast s with
  | none => simp [hsplit] at h
  | some parts =>
    obtain ⟨front, back⟩ := parts
    simp only [hsplit] at h
    by_cases hlength : front.length < 1 ∨ 83 < front.length
    · rw [if_pos hlength] at h
      cases h
    · rw [if_neg hlength] at h
      by_cases hchars : (front.any fun c => decide (c.toNat < 33) || decide (126 < c.toNat)) = true
      · simp [hchars] at h
      · rw [if_neg hchars] at h
        split at h
        · cases h
        · cases hdecode : Base32.decode back with
          | error reason => simp [hdecode] at h
          | ok symbols =>
            have hr : r.1 = front.map Char.toLower := by
              simp only [hdecode] at h
              split_ifs at h <;> cases h <;> rfl
            refine ⟨front, back, splitLast_eq_some hsplit, alphanum_of_decode hdecode, by omega,
              by omega, ?_, hr⟩
            intro c hc
            simp only [List.any_eq_true, not_exists, not_and, Bool.or_eq_true,
              decide_eq_true_eq, not_or, not_lt] at hchars
            exact hchars c hc

theorem encodeText_eq (hrp : Text) {data : Bytes} (hdata : IsGroups 5 data) :
    ∃ text, encodeText hrp data = hrp ++ '1' :: text ∧
      Base32.decode text = .ok (data ++ checksumOf .bech32 hrp data) ∧
      Base32.encode (data ++ checksumOf .bech32 hrp data) = .ok text ∧
      ∀ c ∈ text, c ∈ Base32.charset := by
  obtain ⟨text, hencode, hdecode, hmem⟩ :=
    base32_encode_spec (hdata.append (groups_checksumOf .bech32 hrp data))
  refine ⟨text, ?_, hdecode, hencode, hmem⟩
  rw [encodeText, hencode]
  rfl

theorem length_of_encode {groups : Bytes} {text : Text} (h : Base32.encode groups = .ok text) :
    text.length = groups.length := by
  induction groups generalizing text with
  | nil =>
    obtain rfl := Except.ok.inj h
    rfl
  | cons d groups ih =>
    rw [Base32.encode] at h
    cases hchar : Base32.charset[d.toNat]? with
    | none => simp [hchar] at h
    | some c =>
      rw [hchar] at h
      cases hrest : Base32.encode groups with
      | error reason =>
        rw [hrest] at h
        cases h
      | ok rest =>
        rw [hrest] at h
        obtain rfl := Except.ok.inj h
        rw [List.length_cons, List.length_cons, ih hrest]

theorem toLower_table : ∀ n < 127, 33 ≤ n → 33 ≤ (Char.ofNat n).toLower.toNat ∧
    (Char.ofNat n).toLower.toNat ≤ 126 := by
  decide

theorem validHrp_toLower {front : Text} (hlo : 1 ≤ front.length) (hhi : front.length ≤ 83)
    (h : ∀ c ∈ front, 33 ≤ c.toNat ∧ c.toNat ≤ 126) : ValidHrp (front.map Char.toLower) := by
  rw [ValidHrp, List.length_map]
  refine ⟨hlo, hhi, ?_⟩
  intro c hc
  obtain ⟨x, hx, rfl⟩ := List.mem_map.mp hc
  have htable := toLower_table x.toNat (by have := h x hx; omega) (h x hx).1
  rw [Char.ofNat_toNat] at htable
  exact ⟨htable.1, htable.2, Char.isUpper_toLower_eq_false x⟩

theorem decodeText_encodeText {hrp : Text} {data : Bytes} (hhrp : ValidHrp hrp)
    (hdata : IsGroups 5 data) : decodeText (encodeText hrp data) = .ok (hrp, data, .bech32) := by
  obtain ⟨hlo, hhi, hchars⟩ := hhrp
  obtain ⟨text, htext, hdecode, -, hmem⟩ := encodeText_eq hrp hdata
  have hone : '1' ∉ text := fun h => (charset_lower _ (hmem _ h)).2 rfl
  have hrange : ¬ (hrp.any fun c => decide (c.toNat < 33) || decide (126 < c.toNat)) = true := by
    simp only [List.any_eq_true, not_exists, not_and, Bool.or_eq_true, decide_eq_true_eq, not_or,
      not_lt]
    intro c hc
    exact ⟨(hchars c hc).1, (hchars c hc).2.1⟩
  have hupper : (hrp ++ '1' :: text).any Char.isUpper = false := by
    rw [List.any_eq_false]
    intro c hc
    simp only [List.mem_append, List.mem_cons] at hc
    obtain hc | rfl | hc := hc
    · simp [(hchars c hc).2.2]
    · decide
    · simp [(charset_lower c (hmem c hc)).1]
  have hlower : hrp.map Char.toLower = hrp := by
    apply (List.map_congr_left _).trans (List.map_id _)
    intro c hc
    exact Char.toLower_eq_of_not_isUpper (by simp [(hchars c hc).2.2])
  rw [decodeText, htext, splitLast_append hone]
  simp only [if_neg hrange, hupper, Bool.false_and, Bool.false_eq_true, if_false, hdecode, hlower,
    List.length_append, length_checksumOf, Nat.add_sub_cancel, List.take_left, List.drop_left,
    if_true]
  rw [if_neg (by omega), if_neg (by omega)]

theorem segwit_lawful : segwit.Lawful where
  decode_encode hrp data hhrp hdata := decodeText_encodeText hhrp hdata
  validHrp s hrp data variant h := by
    obtain ⟨front, back, -, -, hlo, hhi, hchars, rfl⟩ := decodeText_eq_ok h
    exact validHrp_toLower hlo hhi hchars
  separator s r h := by
    obtain ⟨front, back, hs, hback, -⟩ := decodeText_eq_ok h
    exact ⟨front, back, hs, hback⟩
  length_encode hrp data hdata := by
    obtain ⟨text, htext, -, hencode, -⟩ := encodeText_eq hrp hdata
    have hlength := length_of_encode hencode
    rw [List.length_append, length_checksumOf] at hlength
    simp only [segwit]
    rw [htext, List.length_append, List.length_cons, hlength]
    omega
  groups_toBase32 bytes := by
    obtain ⟨zeros, hpadded⟩ :=
      convertBits_pads 5 (by decide) (by decide) (isGroups_bytes bytes)
    exact hpadded.groups
  length_toBase32 bytes := by
    obtain ⟨zeros, hpadded⟩ :=
      convertBits_pads 5 (by decide) (by decide) (isGroups_bytes bytes)
    have hfewer := hpadded.fewer
    have htotal := hpadded.total
    simp only [segwit]
    omega
  fromBase32_toBase32 bytes := by
    obtain ⟨zeros, hpadded⟩ :=
      convertBits_pads 5 (by decide) (by decide) (isGroups_bytes bytes)
    have hback := convertBits_bytes bytes
    have hclean : CleanPadding (convertBits 8 5 bytes true).1 := by
      rw [← convertBits_symbols_eq_iff hpadded.groups, hback]
    simp only [segwit, if_pos hclean, hback]

end Bech32

/-! ### Addresses of a coin -/

/-- Hashes of zeros. -/
def zeroCrypto : ChecksumCrypto where
  sha256 _ := ⟨List.replicate 32 0, length_zeros32⟩
  ripemd160 _ := ⟨List.replicate 20 0, length_zeros20⟩
  groestl512 _ := ⟨List.replicate 64 0, length_zeros64⟩
  keccak256 _ := ⟨List.replicate 32 0, length_zeros32⟩

def sampleEnv : AddressEnv where
  unicode := asciiUnicode
  base58 := .bitcoin
  bech32 := .segwit
  crypto := zeroCrypto

theorem sampleEnv_lawful : sampleEnv.Lawful where
  unicode := asciiUnicode_lawful
  base58 := Base58.bitcoin_lawful
  bech32 := Bech32.segwit_lawful

/-- The prefixes that are the defaults. -/
def plainConfig : CoinConfig where
  ticker := "KMD"
  pubtype := none
  p2shtype := none
  taddr := none
  bech32Hrp := none

def sampleHash : AddressHashEnum := .addressHash ⟨List.replicate 20 7, by decide⟩

/-- No decoder takes an empty string. -/
theorem not_carries_nil {unicode : Unicode} {network : NetworkPrefix} {data : Bytes} :
    ¬ Carries unicode [] network data := by
  rintro ⟨payload, check, hsplit, hcase, -⟩
  have hpayload : payload = [] := (Prod.mk.inj (Except.ok.inj hsplit)).2.symm
  rw [hpayload] at hcase
  cases hcase

theorem displayable_plain :
    Displayable sampleEnv plainConfig .standard (.scriptHash sampleHash) :=
  ⟨fun _ => by decide, _, rfl, trivial⟩

theorem address_codec_plain :
    DisplaysBack sampleEnv plainConfig .standard (.scriptHash sampleHash) ∧
      NeverPanics sampleEnv plainConfig.build [] ∧ ReadsCanonical sampleEnv.unicode [] := by
  obtain ⟨hdisplays, hpanics, hreads⟩ :=
    address_codec_iff sampleEnv_lawful plainConfig .standard (.scriptHash sampleHash) []
  refine ⟨hdisplays.mpr displayable_plain, hpanics.mpr ?_, hreads.mpr ?_⟩
  · rintro ⟨network, data, hcarries, -⟩
    exact not_carries_nil hcarries
  · rintro ⟨network, data, version, hash, addressType, hcarries, -⟩
    exact not_carries_nil hcarries

/-- Script hashes with the prefix of key hashes. -/
def mergedConfig : CoinConfig := { plainConfig with p2shtype := some 60 }

theorem singleSymbol_sample : SingleSymbol asciiUnicode "q0n354ecu".toList :=
  ⟨.bitcoinCash, [0], ⟨"q0n354ecu".toList, [15, 19, 17, 20, 21, 25, 24, 28], rfl, rfl, rfl, rfl,
    by decide +kernel⟩, rfl⟩

/-- The symbols of a version and a hash, with a bit set behind them. -/
theorem loosePadding_sample :
    LoosePadding asciiUnicode "qqrswpc8qurswpc8qurswpc8qurswpc8qacwj6ydd0".toList :=
  ⟨.bitcoinCash, [0, 0, 3, 16, 14, 1, 24, 7, 0, 28, 3, 16, 14, 1, 24, 7, 0, 28, 3, 16, 14, 1, 24,
    7, 0, 28, 3, 16, 14, 1, 24, 7, 0, 29], 0, List.replicate 20 7, .p2pkh,
    ⟨"qqrswpc8qurswpc8qurswpc8qurswpc8qacwj6ydd0".toList, [24, 14, 18, 26, 4, 13, 13, 15], rfl,
      rfl, rfl, rfl, by decide +kernel⟩, by decide +kernel, rfl, rfl, by decide +kernel⟩

/-- A script hash is read as a key hash, a short string makes the decoder panic, and another
is not written back. -/
theorem address_codec_fails :
    ¬ DisplaysBack sampleEnv mergedConfig .standard (.scriptHash sampleHash) ∧
      ¬ NeverPanics sampleEnv plainConfig.build "q0n354ecu".toList ∧
      ¬ ReadsCanonical sampleEnv.unicode "qqrswpc8qurswpc8qurswpc8qurswpc8qacwj6ydd0".toList := by
  refine ⟨?_, ?_, ?_⟩
  · rw [displaysBack_iff sampleEnv_lawful]
    rintro ⟨hown, -⟩
    exact hown rfl (by decide)
  · rw [neverPanics_iff]
    exact not_not_intro singleSymbol_sample
  · rw [readsCanonical_iff]
    exact not_not_intro loosePadding_sample

end DeXFG.Utxo
