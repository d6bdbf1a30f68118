import DeXFG.Utxo.CashChecksum

/-!
# Reading addresses of Bitcoin Cash

What the decoder takes, when it panics, and which of the strings that it takes the
encoder writes back.
-/
namespace DeXFG.Utxo
open CashAddress (checksumSymbols symbols ofPayload versionByte)

variable {unicode : Unicode} {network : NetworkPrefix} {addr payload : Text}
  {data check : Bytes} {a : CashAddress} {version : UInt8} {hash : Bytes}

/-! ### Characters -/

theorem charsetRev_table : ∀ n < 128, (Base32.charsetRev[n]?).all (fun val =>
    val == -1 || (decide (0 ≤ val) && decide (val < 32) &&
      Base32.charset[val.toNat]? == some (Char.ofNat n).toLower)) = true := by
  decide

theorem charset_table : ∀ (i : ℕ), i < 32 → (Base32.charset[i]?).all (fun c =>
    Base32.charsetRev[c.toNat]? == some (i : ℤ)) = true := by
  decide

/-- A symbol's character, in lower case. -/
theorem charsetRev_spec {c : Char} {val : ℤ} (h : Base32.charsetRev[c.toNat]? = some val)
    (hval : val ≠ -1) :
    val.toNat < 32 ∧ Base32.charset[val.toNat]? = some c.toLower := by
  obtain ⟨hlt, -⟩ := List.getElem?_eq_some_iff.mp h
  have htable := charsetRev_table c.toNat hlt
  rw [h, Char.ofNat_toNat] at htable
  simp only [Option.all_some, Bool.or_eq_true, beq_iff_eq, hval, false_or, Bool.and_eq_true,
    decide_eq_true_eq] at htable
  exact ⟨by omega, htable.2⟩

theorem charset_spec {i : ℕ} {c : Char} (h : Base32.charset[i]? = some c) :
    Base32.charsetRev[c.toNat]? = some (i : ℤ) := by
  obtain ⟨hlt, -⟩ := List.getElem?_eq_some_iff.mp h
  have htable := charset_table i hlt
  rw [h] at htable
  simpa using htable

theorem exists_charset {i : ℕ} (h : i < 32) : ∃ c, Base32.charset[i]? = some c :=
  ⟨_, List.getElem?_eq_getElem h⟩

/-- The symbols that are read are written in lower case. -/
theorem base32_decode_spec {text : Text} {groups : Bytes} (h : Base32.decode text = .ok groups) :
    IsGroups 5 groups ∧ Base32.encode groups = .ok (text.map Char.toLower) := by
  induction text generalizing groups with
  | nil =>
    obtain rfl := Except.ok.inj h
    exact ⟨by simp [IsGroups], rfl⟩
  | cons c text ih =>
    rw [Base32.decode] at h
    cases hrev : Base32.charsetRev[c.toNat]? with
    | none =>
      rw [hrev] at h
      cases h
    | some val =>
      simp only [hrev] at h
      by_cases hval : val = -1
      · rw [if_pos hval] at h
        cases h
      · rw [if_neg hval] at h
        cases htail : Base32.decode text with
        | error reason =>
          rw [htail] at h
          cases h
        | ok tail =>
          rw [htail] at h
          obtain rfl := Except.ok.inj h
          obtain ⟨hgroups, hencode⟩ := ih htail
          obtain ⟨hlt, hchar⟩ := charsetRev_spec hrev hval
          have hsymbol : (UInt8.ofNat val.toNat).toNat = val.toNat :=
            toNat_ofNat_group (show 5 ≤ 8 by decide) hlt
          constructor
          · intro d hd
            cases List.mem_cons.mp hd with
            | inl heq =>
              rw [heq, hsymbol]
              exact hlt
            | inr hmem => exact hgroups d hmem
          · rw [Base32.encode, hsymbol, hchar, hencode]
            rfl

/-- The symbols that are written are read back. -/
theorem base32_encode_spec {groups : Bytes} (h : IsGroups 5 groups) :
    ∃ text, Base32.encode groups = .ok text ∧ Base32.decode text = .ok groups ∧
      ∀ c ∈ text, c ∈ Base32.charset := by
  induction groups with
  | nil => exact ⟨[], rfl, rfl, by simp⟩
  | cons d groups ih =>
    obtain ⟨text, hencode, hdecode, hmem⟩ := ih fun x hx => h x (List.mem_cons_of_mem _ hx)
    have hd : d.toNat < 32 := h d List.mem_cons_self
    obtain ⟨c, hc⟩ := exists_charset hd
    refine ⟨c :: text, ?_, ?_, ?_⟩
    · rw [Base32.encode, hc, hencode]
      rfl
    · have hval : ¬ (d.toNat : ℤ) = -1 := by omega
      rw [Base32.decode, charset_spec hc]
      simp only [if_neg hval, hdecode, Except.map, Int.toNat_natCast, UInt8.ofNat_toNat]
    · intro x hx
      cases List.mem_cons.mp hx with
      | inl heq =>
        rw [heq]
        exact List.mem_of_getElem? hc
      | inr htail => exact hmem x htail

theorem base32_encode_inj {groups groups' : Bytes} {text : Text} (h : IsGroups 5 groups)
    (h' : IsGroups 5 groups') (hencode : Base32.encode groups = .ok text)
    (hencode' : Base32.encode groups' = .ok text) : groups = groups' := by
  obtain ⟨t, ht, hdecode, -⟩ := base32_encode_spec h
  obtain ⟨t', ht', hdecode', -⟩ := base32_encode_spec h'
  obtain rfl := Except.ok.inj (hencode.symm.trans ht)
  obtain rfl := Except.ok.inj (hencode'.symm.trans ht')
  exact Except.ok.inj (hdecode.symm.trans hdecode')

/-! ### What is taken apart -/

/-- A string of one case with the symbols of some data, behind them a checksum that covers the
network and the data. -/
def Carries (unicode : Unicode) (addr : Text) (network : NetworkPrefix) (data : Bytes) : Prop :=
  ∃ payload check, splitAddress unicode addr = .ok (network, payload) ∧
    isMixedcase unicode payload = false ∧ Base32.decode payload = .ok (data ++ check) ∧
    check.length = 8 ∧ calculateChecksum network (data ++ check) = 0#64

theorem Carries.groups (h : Carries unicode addr network data) : IsGroups 5 data := by
  obtain ⟨payload, check, -, -, hdecode, -, -⟩ := h
  intro d hd
  exact (base32_decode_spec hdecode).1 d (List.mem_append_left _ hd)

theorem decode_eq (hsplit : splitAddress unicode addr = .ok (network, payload))
    (hcase : isMixedcase unicode payload = false) (hdecode : Base32.decode payload = .ok data)
    (hsum : calculateChecksum network data = 0#64) :
    CashAddress.decode unicode addr = ofPayload network data := by
  rw [CashAddress.decode, hsplit]
  simp only [hcase, Bool.false_eq_true, if_false, hdecode, hsum, ne_eq, not_true_eq_false]

/-- Every other error is one of the decoder's own. -/
theorem decode_cases (h : CashAddress.decode unicode addr = .error .panic ∨
    ∃ a, CashAddress.decode unicode addr = .ok a) :
    ∃ network payload data, splitAddress unicode addr = .ok (network, payload) ∧
      isMixedcase unicode payload = false ∧ Base32.decode payload = .ok data ∧
      calculateChecksum network data = 0#64 := by
  rw [CashAddress.decode] at h
  cases hsplit : splitAddress unicode addr with
  | error reason => simp [hsplit] at h
  | ok parts =>
    obtain ⟨network, payload⟩ := parts
    simp only [hsplit] at h
    by_cases hcase : isMixedcase unicode payload = true
    · simp [hcase] at h
    · simp only [if_neg hcase] at h
      cases hdecode : Base32.decode payload with
      | error reason => simp [hdecode] at h
      | ok data =>
        simp only [hdecode] at h
        by_cases hsum : calculateChecksum network data = 0#64
        · exact ⟨network, payload, data, rfl, by simpa using hcase, hdecode, hsum⟩
        · simp [hsum] at h

/-! ### The version -/

theorem lt_of_addrTypeFromVersion {addressType : CashAddrType}
    (h : addrTypeFromVersion version = .ok addressType) : version.toNat < 16 := by
  have hshift : (version >>> 3).toNat = version.toNat / 8 := by
    rw [UInt8.toNat_shiftRight]
    exact Nat.shiftRight_eq_div_pow _ 3
  rw [addrTypeFromVersion] at h
  split at h
  · cases h
  · split at h
    · omega
    · omega
    · cases h

/-- An address with a hash of zeros. -/
def zeroed (addressType : CashAddrType) (size : ℕ) : CashAddress :=
  { network := defaultNetwork, hash := List.replicate size 0, addressType := addressType }

theorem versionByte_zeroed (a : CashAddress) :
    a.versionByte = (zeroed a.addressType a.hash.length).versionByte := by
  rw [versionByte, versionByte, zeroed, List.length_replicate]

theorem versionByte_table : ∀ n < 16, ∀ addressType ∈ [CashAddrType.p2pkh, .p2sh],
    addrTypeFromVersion (UInt8.ofNat n) = .ok addressType →
      (zeroed addressType (hashSizeFromVersion (UInt8.ofNat n))).versionByte =
        .ok (UInt8.ofNat n) := by
  decide

/-- The version of a type and a size is the one that stands for them. -/
theorem versionByte_eq_ok : a.versionByte = .ok version ↔
    addrTypeFromVersion version = .ok a.addressType ∧
      a.hash.length = hashSizeFromVersion version := by
  constructor
  · intro h
    rw [versionByte] at h
    cases htype : a.addressType <;> simp only [htype] at h <;> split at h <;>
      first
      | (obtain rfl := Except.ok.inj h
         exact ⟨rfl, by assumption⟩)
      | cases h
  · rintro ⟨htype, hsize⟩
    have hmem : a.addressType ∈ [CashAddrType.p2pkh, .p2sh] := by
      cases a.addressType <;> decide
    have htable := versionByte_table version.toNat (lt_of_addrTypeFromVersion htype) _ hmem
    rw [UInt8.ofNat_toNat] at htable
    rw [versionByte_zeroed, hsize]
    exact htable htype

/-! ### Padding -/

/-- The bits that fill no byte are fewer than a symbol's, and zero. -/
def CleanPadding (data : Bytes) : Prop :=
  5 * data.length % 8 < 5 ∧ groupValue 5 data % 2 ^ (5 * data.length % 8) = 0

instance (data : Bytes) : Decidable (CleanPadding data) := by
  unfold CleanPadding
  infer_instance

/-- The bytes of some symbols are written with the same symbols if their padding is clean. -/
theorem convertBits_symbols_eq_iff (h : IsGroups 5 data) :
    (convertBits 8 5 (convertBits 5 8 data false).1 true).1 = data ↔ CleanPadding data := by
  obtain ⟨hlength, hvalue⟩ := convertBits_truncates 8 (by decide) (by decide) h
  have hbytes := isGroups_bytes (convertBits 5 8 data false).1
  obtain ⟨zeros, hpadded⟩ := convertBits_pads 5 (by decide) (by decide) hbytes
  generalize (convertBits 5 8 data false).1 = bytes at hlength hvalue hpadded ⊢
  generalize (convertBits 8 5 bytes true).1 = output at hpadded ⊢
  have hfewer := hpadded.fewer
  have htotal := hpadded.total
  have hnumber := hpadded.number
  have hsplit := Nat.div_add_mod (groupValue 5 data) (2 ^ (5 * data.length % 8))
  rw [hvalue] at hnumber
  constructor
  · intro heq
    subst heq
    have hrest : 5 * output.length % 8 = zeros := by omega
    refine ⟨by omega, ?_⟩
    rw [hrest] at hnumber hsplit ⊢
    rw [Nat.mul_comm] at hsplit
    omega
  · rintro ⟨hrest, hzero⟩
    have hzeros : zeros = 5 * data.length % 8 := by omega
    apply groupValue_inj (by decide) hpadded.groups h (by omega)
    rw [hnumber, hzeros]
    rw [hzero, Nat.mul_comm] at hsplit
    exact hsplit

/-- Bytes are read back from the symbols that they are written with. -/
theorem convertBits_bytes (bytes : Bytes) :
    (convertBits 5 8 (convertBits 8 5 bytes true).1 false).1 = bytes := by
  have hbytes := isGroups_bytes bytes
  obtain ⟨zeros, hpadded⟩ := convertBits_pads 5 (by decide) (by decide) hbytes
  generalize (convertBits 8 5 bytes true).1 = output at hpadded ⊢
  have hfewer := hpadded.fewer
  have htotal := hpadded.total
  have hgroups := isGroups_bytes (convertBits 5 8 output false).1
  obtain ⟨hlength, hvalue⟩ :=
    convertBits_truncates 8 (by decide) (by decide) hpadded.groups
  have hrest : 5 * output.length % 8 = zeros := by omega
  apply groupValue_inj (by decide) hgroups hbytes
  · rw [hlength]
    omega
  · rw [hvalue, hrest, hpadded.number, Nat.mul_div_cancel _ (Nat.two_pow_pos _)]

/-! ### What the decoder returns -/

theorem convertBits_eq_nil (h : IsGroups 5 data) :
    (convertBits 5 8 data false).1 = [] ↔ data.length < 2 := by
  obtain ⟨hlength, -⟩ := convertBits_truncates 8 (by decide) (by decide) h
  rw [← List.length_eq_zero_iff, hlength]
  omega

/-- A payload of one symbol before the checksum leaves nothing to pop off. -/
theorem ofPayload_eq_panic (hdata : IsGroups 5 data) (hcheck : check.length = 8) :
    ofPayload network (data ++ check) = .error .panic ↔ data.length = 1 := by
  have hnil := convertBits_eq_nil hdata
  rw [ofPayload, List.length_append, hcheck, Nat.add_sub_cancel, List.take_left]
  by_cases hfew : data.length + 8 < 9
  · simp only [if_pos hfew, Except.error.injEq, reduceCtorEq, false_iff]
    omega
  · rw [if_neg hfew]
    cases hbytes : (convertBits 5 8 data false).1 with
    | nil =>
      simp only [true_iff]
      have hlt := hnil.mp hbytes
      omega
    | cons version hash =>
      have hge : ¬ data.length < 2 := fun hlt => by simp [hnil.mpr hlt] at hbytes
      have hone : ¬ data.length = 1 := by omega
      simp only [hone, iff_false]
      cases addrTypeFromVersion version with
      | error reason => simp
      | ok addressType =>
        by_cases hsize : hash.length = hashSizeFromVersion version
        · simp [hsize]
        · simp [hsize]

theorem ofPayload_eq_ok (hdata : IsGroups 5 data) (hcheck : check.length = 8) :
    ofPayload network (data ++ check) = .ok a ↔ a.network = network ∧
      ∃ version, (convertBits 5 8 data false).1 = version :: a.hash ∧
        a.versionByte = .ok version := by
  have hnil := convertBits_eq_nil hdata
  rw [ofPayload, List.length_append, hcheck, Nat.add_sub_cancel, List.take_left]
  simp only [versionByte_eq_ok]
  by_cases hfew : data.length + 8 < 9
  · have hempty := hnil.mpr (by omega)
    simp [if_pos hfew, hempty]
  · rw [if_neg hfew]
    cases hbytes : (convertBits 5 8 data false).1 with
    | nil => simp
    | cons version hash =>
      simp only [List.cons.injEq]
      cases htype : addrTypeFromVersion version with
      | error reason =>
        simp only [reduceCtorEq, false_iff]
        rintro ⟨-, version', ⟨rfl, -⟩, htype', -⟩
        rw [htype] at htype'
        cases htype'
      | ok addressType =>
        by_cases hsize : hash.length = hashSizeFromVersion version
        · simp only [hsize, ne_eq, not_true_eq_false, if_false, Except.ok.injEq]
          constructor
          · rintro rfl
            exact ⟨rfl, version, ⟨rfl, rfl⟩, htype, hsize⟩
          · rintro ⟨rfl, version', ⟨rfl, rfl⟩, htype', -⟩
            rw [htype] at htype'
            obtain rfl := Except.ok.inj htype'
            rfl
        · simp only [hsize, ne_eq, not_false_eq_true, if_true, reduceCtorEq, false_iff]
          rintro ⟨-, version', ⟨rfl, rfl⟩, -, hsize'⟩
          exact hsize hsize'

theorem decode_eq_panic : CashAddress.decode unicode addr = .error .panic ↔
    ∃ network data, Carries unicode addr network data ∧ data.length = 1 := by
  constructor
  · intro h
    obtain ⟨network, payload, groups, hsplit, hcase, hdecode, hsum⟩ := decode_cases (.inl h)
    have hlast := h
    rw [decode_eq hsplit hcase hdecode hsum] at hlast
    have hlong : ¬ groups.length < 9 := by
      intro hfew
      rw [ofPayload, if_pos hfew] at hlast
      cases hlast
    have htake := List.take_append_drop (groups.length - 8) groups
    have hcheck : (groups.drop (groups.length - 8)).length = 8 := by
      rw [List.length_drop]
      omega
    have hdata : IsGroups 5 (groups.take (groups.length - 8)) := fun d hd =>
      (base32_decode_spec hdecode).1 d (List.mem_of_mem_take hd)
    refine ⟨network, groups.take (groups.length - 8), ⟨payload, _, hsplit, hcase, ?_, hcheck, ?_⟩, ?_⟩
    · rw [htake, hdecode]
    · rw [htake, hsum]
    · apply (ofPayload_eq_panic hdata hcheck).mp
      rw [htake, hlast]
  · rintro ⟨network, data, hcarries, hone⟩
    have hdata := hcarries.groups
    obtain ⟨payload, check, hsplit, hcase, hdecode, hcheck, hsum⟩ := hcarries
    rw [decode_eq hsplit hcase hdecode hsum]
    exact (ofPayload_eq_panic hdata hcheck).mpr hone

/-- An address is returned for the data that it is written with. -/
theorem decode_eq_ok : CashAddress.decode unicode addr = .ok a ↔
    ∃ data version, Carries unicode addr a.network data ∧
      (convertBits 5 8 data false).1 = version :: a.hash ∧ a.versionByte = .ok version := by
  constructor
  · intro h
    obtain ⟨network, payload, groups, hsplit, hcase, hdecode, hsum⟩ := decode_cases (.inr ⟨a, h⟩)
    have hlast := h
    rw [decode_eq hsplit hcase hdecode hsum] at hlast
    have hlong : ¬ groups.length < 9 := by
      intro hfew
      rw [ofPayload, if_pos hfew] at hlast
      cases hlast
    have htake := List.take_append_drop (groups.length - 8) groups
    have hcheck : (groups.drop (groups.length - 8)).length = 8 := by
      rw [List.length_drop]
      omega
    have hdata : IsGroups 5 (groups.take (groups.length - 8)) := fun d hd =>
      (base32_decode_spec hdecode).1 d (List.mem_of_mem_take hd)
    rw [← htake, ofPayload_eq_ok hdata hcheck] at hlast
    obtain ⟨rfl, version, hbytes, hversion⟩ := hlast
    refine ⟨_, version, ⟨payload, _, hsplit, hcase, ?_, hcheck, ?_⟩, hbytes, hversion⟩
    · rw [htake, hdecode]
    · rw [htake, hsum]
  · rintro ⟨data, version, hcarries, hbytes, hversion⟩
    have hdata := hcarries.groups
    obtain ⟨payload, check, hsplit, hcase, hdecode, hcheck, hsum⟩ := hcarries
    rw [decode_eq hsplit hcase hdecode hsum]
    exact (ofPayload_eq_ok hdata hcheck).mpr ⟨rfl, version, hbytes, hversion⟩

/-! ### The canonical text -/

/-- A string in lower case, with the default network where it names none. -/
def canonicalText (unicode : Unicode) (addr : Text) : Text :=
  match addr.splitOn ':' with
  | [payload] => defaultNetwork.toText ++ ':' :: payload.map Char.toLower
  | [network, payload] => unicode.toLowercase network ++ ':' :: payload.map Char.toLower
  | _ => addr

theorem toText_parse (unicode : Unicode) (s : Text) :
    (NetworkPrefix.parse unicode s).toText = unicode.toLowercase s := by
  rw [NetworkPrefix.parse]
  split_ifs with h1 h2 h3 h4 h5
  · exact h1.symm
  · exact h2.symm
  · exact h3.symm
  · exact h4.symm
  · exact h5.symm
  · rfl

theorem canonicalText_of_split (h : splitAddress unicode addr = .ok (network, payload)) :
    canonicalText unicode addr = network.toText ++ ':' :: payload.map Char.toLower := by
  rw [splitAddress] at h
  split at h
  next hparts =>
    obtain ⟨rfl, rfl⟩ := Prod.mk.inj (Except.ok.inj h)
    rw [canonicalText, hparts]
  next hparts =>
    obtain ⟨rfl, rfl⟩ := Prod.mk.inj (Except.ok.inj h)
    rw [canonicalText, hparts, toText_parse]
  · cases h

theorem groups_symbols (network : NetworkPrefix) (version : UInt8) (hash : Bytes) :
    IsGroups 5 (symbols network version hash) := by
  obtain ⟨zeros, hpadded⟩ :=
    convertBits_pads 5 (by decide) (by decide) (isGroups_bytes (version :: hash))
  exact hpadded.groups.append (groups_checksumSymbols _)

theorem encode_eq (h : a.versionByte = .ok version) {text : Text}
    (htext : Base32.encode (symbols a.network version a.hash) = .ok text) :
    a.encode = .ok (a.network.toText ++ ':' :: text) := by
  rw [CashAddress.encode, h]
  simp only [htext, Except.map]

/-- The symbols that are written for some data are the data's own if its padding is clean. -/
theorem symbols_eq_iff (hdata : IsGroups 5 data) (hcheck : IsGroups 5 check)
    (hlength : check.length = 8) (hsum : calculateChecksum network (data ++ check) = 0#64)
    (hbytes : (convertBits 5 8 data false).1 = version :: hash) :
    symbols network version hash = data ++ check ↔ CleanPadding data := by
  rw [← convertBits_symbols_eq_iff hdata, hbytes, symbols]
  constructor
  · intro heq
    exact List.append_inj_left' heq (by rw [length_checksumSymbols, hlength])
  · intro heq
    rw [heq, ← (calculateChecksum_eq_zero network hdata hcheck hlength).mp hsum]

/-- The address of some data is written as the string in lower case if the padding is clean. -/
theorem encode_canonical_iff (hcarries : Carries unicode addr a.network data)
    (hbytes : (convertBits 5 8 data false).1 = version :: a.hash)
    (hversion : a.versionByte = .ok version) :
    a.encode = .ok (canonicalText unicode addr) ↔ CleanPadding data := by
  have hdata := hcarries.groups
  obtain ⟨payload, check, hsplit, -, hdecode, hcheck, hsum⟩ := hcarries
  obtain ⟨hgroups, hlower⟩ := base32_decode_spec hdecode
  have hcheckGroups : IsGroups 5 check := fun d hd => hgroups d (List.mem_append_right _ hd)
  obtain ⟨text, htext, -, -⟩ := base32_encode_spec (groups_symbols a.network version a.hash)
  rw [encode_eq hversion htext, canonicalText_of_split hsplit,
    ← symbols_eq_iff hdata hcheckGroups hcheck hsum hbytes]
  simp only [Except.ok.injEq, List.append_cancel_left_eq, List.cons.injEq, true_and]
  constructor
  · rintro rfl
    exact base32_encode_inj (groups_symbols _ _ _) hgroups htext hlower
  · intro heq
    rw [heq] at htext
    exact Except.ok.inj (htext.symm.trans hlower)

/-- What is written for a string that is read, where it is the string in lower case. -/
def ReadsCanonical (unicode : Unicode) (addr : Text) : Prop :=
  ∀ a, CashAddress.decode unicode addr = .ok a → a.encode = .ok (canonicalText unicode addr)

/-- The string carries an address, and bits behind it that are not clean padding. -/
def LoosePadding (unicode : Unicode) (addr : Text) : Prop :=
  ∃ network data version hash addressType, Carries unicode addr network data ∧
    (convertBits 5 8 data false).1 = version :: hash ∧
    addrTypeFromVersion version = .ok addressType ∧ hash.length = hashSizeFromVersion version ∧
    ¬ CleanPadding data

theorem readsCanonical_iff (unicode : Unicode) (addr : Text) :
    ReadsCanonical unicode addr ↔ ¬ LoosePadding unicode addr := by
  constructor
  · rintro hreads ⟨network, data, version, hash, addressType, hcarries, hbytes, htype, hsize, hloose⟩
    have hversion : CashAddress.versionByte ⟨network, hash, addressType⟩ = .ok version :=
      versionByte_eq_ok.mpr ⟨htype, hsize⟩
    have hdecode : CashAddress.decode unicode addr = .ok ⟨network, hash, addressType⟩ :=
      decode_eq_ok.mpr ⟨data, version, hcarries, hbytes, hversion⟩
    have hencode := hreads _ hdecode
    rw [encode_canonical_iff hcarries hbytes hversion] at hencode
    exact hloose hencode
  · intro hclean a hdecode
    obtain ⟨data, version, hcarries, hbytes, hversion⟩ := decode_eq_ok.mp hdecode
    apply (encode_canonical_iff hcarries hbytes hversion).mpr
    by_contra hloose
    obtain ⟨htype, hsize⟩ := versionByte_eq_ok.mp hversion
    exact hclean ⟨_, data, version, _, _, hcarries, hbytes, htype, hsize, hloose⟩

/-! ### Reading what was written -/

/-- What the standard library promises. -/
structure Unicode.Lawful (unicode : Unicode) : Prop where
  toLowercase_idem : ∀ s, unicode.toLowercase (unicode.toLowercase s) = unicode.toLowercase s
  isLowercase_ascii : ∀ c : Char, c.toNat < 128 → unicode.isLowercase c = c.isLower
  isNumeric_ascii : ∀ c : Char, c.toNat < 128 → unicode.isNumeric c = c.isDigit

theorem charset_plain : ∀ c ∈ Base32.charset,
    c.toNat < 128 ∧ (c.isLower || c.isDigit) = true ∧ c ≠ ':' := by
  simp [Base32.charset]

theorem isMixedcase_symbols (hlaw : unicode.Lawful) {first : Char} {rest : Text}
    (hfirst : first.isLower = true) (h : ∀ c ∈ first :: rest, c ∈ Base32.charset) :
    isMixedcase unicode (first :: rest) = false := by
  have hascii := (charset_plain first (h first List.mem_cons_self)).1
  rw [isMixedcase, Bool.not_eq_false', List.all_eq_true]
  intro c hc
  obtain ⟨hlt, hkind, -⟩ := charset_plain c (h c hc)
  rw [hlaw.isLowercase_ascii c hlt, hlaw.isLowercase_ascii first hascii,
    hlaw.isNumeric_ascii c hlt, hfirst]
  cases hlower : c.isLower with
  | true => simp
  | false =>
    rw [hlower, Bool.false_or] at hkind
    simp [hkind]

/-- The first symbol is the type. -/
theorem head_symbols (network : NetworkPrefix) (hash : Bytes) (hversion : version.toNat < 16) :
    ∃ d groups, symbols network version hash = d :: groups ∧ d.toNat < 2 := by
  obtain ⟨zeros, hpadded⟩ :=
    convertBits_pads 5 (by decide) (by decide) (isGroups_bytes (version :: hash))
  rw [symbols]
  generalize (convertBits 8 5 (version :: hash) true).1 = output at hpadded ⊢
  have htotal := hpadded.total
  have hnumber := hpadded.number
  cases output with
  | nil =>
    simp only [List.length_nil, List.length_cons] at htotal
    omega
  | cons d groups =>
    refine ⟨d, _, rfl, ?_⟩
    have hhash := groupValue_lt (by decide) (isGroups_bytes hash)
    simp only [List.length_cons] at htotal
    rw [groupValue_cons, groupValue_cons] at hnumber
    have hplace : (2 : ℕ) ^ (5 * groups.length) = 2 ^ 3 * (2 ^ (8 * hash.length) * 2 ^ zeros) := by
      rw [← pow_add, ← pow_add]
      congr 1
      omega
    have hbelow : version.toNat * 2 ^ (8 * hash.length) + groupValue 8 hash <
        2 * 2 ^ 3 * 2 ^ (8 * hash.length) := by
      have hle : version.toNat * 2 ^ (8 * hash.length) ≤ 15 * 2 ^ (8 * hash.length) :=
        Nat.mul_le_mul_right _ (by omega)
      omega
    have hlt : d.toNat * 2 ^ (5 * groups.length) < 2 * 2 ^ (5 * groups.length) := by
      calc d.toNat * 2 ^ (5 * groups.length)
          ≤ (version.toNat * 2 ^ (8 * hash.length) + groupValue 8 hash) * 2 ^ zeros := by omega
        _ < 2 * 2 ^ 3 * 2 ^ (8 * hash.length) * 2 ^ zeros :=
          Nat.mul_lt_mul_of_pos_right hbelow (Nat.two_pow_pos _)
        _ = 2 * 2 ^ (5 * groups.length) := by
          rw [hplace]
          ring
    exact Nat.lt_of_mul_lt_mul_right hlt

theorem splitAddress_append (hcolon : ':' ∉ addr) (hcolon' : ':' ∉ payload) :
    splitAddress unicode (addr ++ ':' :: payload) =
      .ok (NetworkPrefix.parse unicode addr, payload) := by
  rw [splitAddress, List.splitOn_append_cons_self, List.splitOn_eq_singleton hcolon,
    List.splitOn_eq_singleton hcolon']
  rfl

/-- An address is read back from the text that it is written with. -/
theorem decode_encode (hlaw : unicode.Lawful) (hversion : a.versionByte = .ok version)
    (hcolon : ':' ∉ a.network.toText)
    (hnetwork : NetworkPrefix.parse unicode a.network.toText = a.network) :
    ∃ payload, a.encode = .ok (a.network.toText ++ ':' :: payload) ∧
      (∀ c ∈ payload, c ∈ Base32.charset) ∧
      CashAddress.decode unicode (a.network.toText ++ ':' :: payload) = .ok a := by
  obtain ⟨payload, hencode, hdecode, hmem⟩ :=
    base32_encode_spec (groups_symbols a.network version a.hash)
  have hcolon' : ':' ∉ payload := fun h => (charset_plain _ (hmem _ h)).2.2 rfl
  refine ⟨payload, encode_eq hversion hencode, hmem, ?_⟩
  have hlt := lt_of_addrTypeFromVersion (versionByte_eq_ok.mp hversion).1
  obtain ⟨d, groups, hhead, hd⟩ := head_symbols a.network a.hash hlt
  have hcase : isMixedcase unicode payload = false := by
    rw [hhead, Base32.encode] at hencode
    have hfirst : ∃ c, Base32.charset[d.toNat]? = some c ∧ c.isLower = true := by
      have hvalues : d.toNat = 0 ∨ d.toNat = 1 := by omega
      cases hvalues with
      | inl hzero => exact ⟨'q', by rw [hzero]; rfl, rfl⟩
      | inr hone => exact ⟨'p', by rw [hone]; rfl, rfl⟩
    obtain ⟨c, hc, hlower⟩ := hfirst
    rw [hc] at hencode
    cases hrest : Base32.encode groups with
    | error reason =>
      rw [hrest] at hencode
      cases hencode
    | ok rest =>
      rw [hrest] at hencode
      obtain rfl := Except.ok.inj hencode
      exact isMixedcase_symbols hlaw hlower hmem
  have hgroups := isGroups_bytes (version :: a.hash)
  obtain ⟨zeros, hpadded⟩ := convertBits_pads 5 (by decide) (by decide) hgroups
  have hbytes := convertBits_bytes (version :: a.hash)
  rw [decode_eq_ok]
  refine ⟨(convertBits 8 5 (version :: a.hash) true).1, version, ?_, hbytes, hversion⟩
  have hsplit := @splitAddress_append unicode _ _ hcolon hcolon'
  rw [hnetwork] at hsplit
  refine ⟨payload, _, hsplit, hcase, hdecode, length_checksumSymbols _, ?_⟩
  exact (calculateChecksum_eq_zero a.network hpadded.groups (groups_checksumSymbols _)
    (length_checksumSymbols _)).mpr rfl

end DeXFG.Utxo
