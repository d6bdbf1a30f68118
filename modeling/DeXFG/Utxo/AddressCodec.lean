import DeXFG.Utxo.Address
import DeXFG.Utxo.CashAddressCodec

/-!
# Reading displayed addresses

Which addresses are read back from the text that they are displayed as, and on which
strings the decoders panic.
-/
namespace DeXFG.Utxo

/-! ### What the libraries promise -/

/-- A human readable part that `bech32` takes and leaves as it is. -/
def ValidHrp (hrp : Text) : Prop :=
  1 ≤ hrp.length ∧ hrp.length ≤ 83 ∧
    ∀ c ∈ hrp, 33 ≤ c.toNat ∧ c.toNat ≤ 126 ∧ c.isUpper = false

structure Bech32.Lawful (bech32 : Bech32) : Prop where
  decode_encode : ∀ hrp data, ValidHrp hrp → IsGroups 5 data →
    bech32.decode (bech32.encode hrp data) = .ok (hrp, data, .bech32)
  validHrp : ∀ s hrp data variant, bech32.decode s = .ok (hrp, data, variant) → ValidHrp hrp
  /-- What stands behind the separator. -/
  separator : ∀ s r, bech32.decode s = .ok r →
    ∃ front back, s = front ++ '1' :: back ∧ ∀ c ∈ back, c.isAlphanum = true
  /-- A separator and six characters of a checksum. -/
  length_encode : ∀ hrp data, IsGroups 5 data →
    (bech32.encode hrp data).length = hrp.length + data.length + 7
  groups_toBase32 : ∀ bytes, IsGroups 5 (bech32.toBase32 bytes)
  length_toBase32 : ∀ bytes, (bech32.toBase32 bytes).length = (8 * bytes.length + 4) / 5
  fromBase32_toBase32 : ∀ bytes, bech32.fromBase32 (bech32.toBase32 bytes) = .ok bytes

structure Base58.Lawful (base58 : Base58) : Prop where
  decode_encode : ∀ bytes, base58.decode (base58.encode bytes) = some bytes
  encode_decode : ∀ s bytes, base58.decode s = some bytes → base58.encode bytes = s
  alphanum_encode : ∀ bytes, ∀ c ∈ base58.encode bytes, c.isAlphanum = true
  /-- 138 characters for 100 bytes are enough. -/
  length_encode : ∀ bytes, (base58.encode bytes).length * 100 ≤ 138 * bytes.length + 100

structure AddressEnv.Lawful (env : AddressEnv) : Prop where
  unicode : env.unicode.Lawful
  base58 : env.base58.Lawful
  bech32 : env.bech32.Lawful

variable {env : AddressEnv} {crypto : ChecksumCrypto} {s : Text}

/-! ### Legacy addresses -/

theorem length_checksum (crypto : ChecksumCrypto) (data : Bytes) (checksumType : ChecksumType) :
    (checksum crypto data checksumType).length = 4 := by
  cases checksumType with
  | dsha256 => simp [checksum, (crypto.dhash256 data).property]
  | dgroestl512 =>
    simp [checksum, (crypto.groestl512 (crypto.groestl512 data).val).property]
  | keccak256 => simp [checksum, (crypto.keccak256 data).property]

theorem detectChecksum_ne_panic (crypto : ChecksumCrypto) (data sum : Bytes) :
    detectChecksum crypto data sum ≠ .error .panic := by
  rw [detectChecksum]
  split_ifs <;> simp

/-- No type of checksum that is tried before has the same four bytes. -/
def DetectedFirst (crypto : ChecksumCrypto) (data : Bytes) : ChecksumType → Prop
  | .dsha256 => True
  | .dgroestl512 => checksum crypto data .dgroestl512 ≠ checksum crypto data .dsha256
  | .keccak256 => checksum crypto data .keccak256 ≠ checksum crypto data .dsha256 ∧
      checksum crypto data .keccak256 ≠ checksum crypto data .dgroestl512

/-- A checksum is always found, and as its own type if none before has the same bytes. -/
theorem detectChecksum_checksum (crypto : ChecksumCrypto) (data : Bytes)
    (checksumType : ChecksumType) :
    ∃ found, detectChecksum crypto data (checksum crypto data checksumType) = .ok found ∧
      (found = checksumType ↔ DetectedFirst crypto data checksumType) := by
  rw [detectChecksum]
  by_cases hsha : checksum crypto data checksumType = checksum crypto data .dsha256
  · refine ⟨.dsha256, if_pos hsha, ?_⟩
    cases checksumType with
    | dsha256 => simp [DetectedFirst]
    | dgroestl512 => simp [DetectedFirst, hsha]
    | keccak256 => simp [DetectedFirst, hsha]
  · rw [if_neg hsha]
    by_cases hgroestl : checksum crypto data checksumType = checksum crypto data .dgroestl512
    · refine ⟨.dgroestl512, if_pos hgroestl, ?_⟩
      cases checksumType with
      | dsha256 => exact absurd rfl hsha
      | dgroestl512 => simp [DetectedFirst, hsha]
      | keccak256 => simp [DetectedFirst, hgroestl]
    · rw [if_neg hgroestl]
      cases checksumType with
      | dsha256 => exact absurd rfl hsha
      | dgroestl512 => exact absurd rfl hgroestl
      | keccak256 => exact ⟨.keccak256, if_pos rfl, by simp [DetectedFirst, hsha, hgroestl]⟩

theorem slice_append (front middle back : Bytes) :
    slice (front ++ middle ++ back) front.length (front.length + middle.length) = .ok middle := by
  rw [slice, if_pos (by simp)]
  simp [List.take_append]

/-- A prefix that can stand in a layout. -/
theorem tryFrom_data (p : AddressPrefix) (hp : p.data ≠ []) :
    AddressPrefix.tryFrom p.data = some p := by
  rw [AddressPrefix.tryFrom, dif_pos ⟨hp, p.length_le⟩]

theorem fromLayoutOf_append (p : AddressPrefix) (hp : p.data ≠ []) {hash sum : Bytes}
    (hhash : hash.length = 20) :
    LegacyAddress.fromLayoutOf crypto p.data.length (p.data ++ hash ++ sum) =
      (detectChecksum crypto (p.data ++ hash) sum).map
        fun checksumType => { addressPrefix := p, checksumType, hash } := by
  have hbody : slice (p.data ++ hash ++ sum) 0 (p.data.length + 20) = .ok (p.data ++ hash) := by
    have h := slice_append [] (p.data ++ hash) sum
    rw [List.length_append, hhash] at h
    simpa using h
  have hsum : slice (p.data ++ hash ++ sum) (p.data.length + 20)
      (p.data ++ hash ++ sum).length = .ok sum := by
    have h := slice_append (p.data ++ hash) sum []
    have hlength : (p.data ++ hash).length = p.data.length + 20 := by
      rw [List.length_append, hhash]
    rw [List.append_nil, ← List.length_append, hlength] at h
    exact h
  have hmiddle : slice (p.data ++ hash ++ sum) p.data.length (p.data.length + 20) = .ok hash := by
    have h := slice_append p.data hash sum
    rw [hhash] at h
    exact h
  have hfront : slice (p.data ++ hash ++ sum) 0 p.data.length = .ok p.data := by
    have h := slice_append [] p.data (hash ++ sum)
    simpa using h
  rw [LegacyAddress.fromLayoutOf, hbody, hsum, hmiddle, hfront]
  simp only [bind, Except.bind, tryFrom_data p hp]
  cases detectChecksum crypto (p.data ++ hash) sum with
  | error fault => rfl
  | ok found => rfl

theorem fromLayout_append (p : AddressPrefix) (hp : p.data ≠ []) {hash sum : Bytes}
    (hhash : hash.length = 20) (hsum : sum.length = 4) :
    LegacyAddress.fromLayout crypto (p.data ++ hash ++ sum) =
      (detectChecksum crypto (p.data ++ hash) sum).map
        fun checksumType => { addressPrefix := p, checksumType, hash } := by
  have hpos : p.data.length ≠ 0 := by
    rw [Ne, List.length_eq_zero_iff]
    exact hp
  have hle := p.length_le
  rw [← fromLayoutOf_append p hp hhash, LegacyAddress.fromLayout, List.length_append,
    List.length_append, hhash, hsum]
  obtain hone | htwo : p.data.length = 1 ∨ p.data.length = 2 := by omega
  · simp only [hone]
  · simp only [htwo]

/-- A layout of another length is no address. -/
theorem fromLayout_of_length {data : Bytes} (h : data.length ≠ 25) (h' : data.length ≠ 26) :
    LegacyAddress.fromLayout crypto data = .error (.error "Invalid Address") := by
  rw [LegacyAddress.fromLayout]
  split
  · contradiction
  · contradiction
  · rfl

theorem exists_layout {data : Bytes} (h : data.length = 25 ∨ data.length = 26) :
    ∃ (p : AddressPrefix) (hash sum : Bytes), data = p.data ++ hash ++ sum ∧ p.data ≠ [] ∧
      hash.length = 20 ∧ sum.length = 4 := by
  have hsize : (data.take (data.length - 24)).length = data.length - 24 := by
    rw [List.length_take]
    omega
  refine ⟨⟨data.take (data.length - 24), by omega⟩, (data.drop (data.length - 24)).take 20,
    (data.drop (data.length - 24)).drop 20, ?_, ?_, ?_, ?_⟩
  · rw [List.append_assoc, List.take_append_drop, List.take_append_drop]
  · intro hnil
    have hzero := congrArg List.length hnil
    rw [hsize, List.length_nil] at hzero
    omega
  · rw [List.length_take, List.length_drop]
    omega
  · rw [List.length_drop, List.length_drop]
    omega

theorem legacy_fromStr_spec (env : AddressEnv) (s : Text) :
    LegacyAddress.fromStr env s ≠ .error .panic ∧
      ∀ address, LegacyAddress.fromStr env s = .ok address → address.hash.length = 20 := by
  rw [LegacyAddress.fromStr]
  cases env.base58.decode s with
  | none => simp
  | some data =>
    by_cases hlength : data.length = 25 ∨ data.length = 26
    · obtain ⟨p, hash, sum, rfl, hp, hhash, hsum⟩ := exists_layout hlength
      simp only [fromLayout_append p hp hhash hsum]
      have hfound := detectChecksum_ne_panic env.crypto (p.data ++ hash) sum
      cases hdetect : detectChecksum env.crypto (p.data ++ hash) sum with
      | error fault =>
        rw [hdetect] at hfound
        constructor
        · simpa [Except.map] using hfound
        · intro address haddress
          cases haddress
      | ok found =>
        constructor
        · intro hpanic
          cases hpanic
        · intro address haddress
          obtain rfl := Except.ok.inj haddress
          exact hhash
    · push Not at hlength
      simp [fromLayout_of_length hlength.1 hlength.2]

theorem copyFromSlice_addressHash {bytes : Bytes} (h : bytes.length = 20) :
    AddressHashEnum.defaultAddressHash.copyFromSlice bytes = .ok (.addressHash ⟨bytes, h⟩) :=
  dif_pos h

theorem copyFromSlice_witnessScriptHash {bytes : Bytes} (h : bytes.length = 32) :
    AddressHashEnum.defaultWitnessScriptHash.copyFromSlice bytes =
      .ok (.witnessScriptHash ⟨bytes, h⟩) :=
  dif_pos h

theorem fromLegacyaddress_ne_panic (env : AddressEnv) (s : Text)
    (prefixes : NetworkAddressPrefixes) :
    Address.fromLegacyaddress env s prefixes ≠ .error .panic := by
  obtain ⟨hpanic, hlength⟩ := legacy_fromStr_spec env s
  rw [Address.fromLegacyaddress]
  cases hread : LegacyAddress.fromStr env s with
  | error fault =>
    cases fault with
    | error reason => simp
    | panic => exact absurd hread hpanic
  | ok address =>
    have hhash := hlength address hread
    simp only [hhash, ne_eq, not_true_eq_false, if_false, copyFromSlice_addressHash hhash]
    split_ifs <;> simp [bind, Except.bind, pure, Except.pure]

/-! ### Segwit addresses -/

theorem segwit_fromStr_ne_panic (bech32 : Bech32) (s : Text) :
    SegwitAddress.fromStr bech32 s ≠ .error .panic := by
  rw [SegwitAddress.fromStr]
  cases bech32.decode s with
  | error e => simp
  | ok r =>
    obtain ⟨hrp, payload, variant⟩ := r
    cases payload with
    | nil => simp
    | cons version p5 =>
      cases variant with
      | bech32m => simp
      | bech32 =>
        simp only [List.isEmpty_cons, Bool.false_eq_true, if_false]
        cases bech32.fromBase32 p5 with
        | error e => simp
        | ok program =>
          simp only
          split_ifs <;> simp

theorem fromSegwitaddress_ne_panic (env : AddressEnv) (s : Text) (checksumType : ChecksumType) :
    Address.fromSegwitaddress env s checksumType ≠ .error .panic := by
  rw [Address.fromSegwitaddress]
  cases hread : SegwitAddress.fromStr env.bech32 s with
  | error fault =>
    intro hpanic
    rw [Except.error.inj hpanic] at hread
    exact segwit_fromStr_ne_panic env.bech32 s hread
  | ok address =>
    by_cases hshort : address.program.length = 20
    · simp [hshort, copyFromSlice_addressHash hshort, bind, Except.bind, pure, Except.pure]
    · by_cases hlong : address.program.length = 32
      · simp [hlong, copyFromSlice_witnessScriptHash hlong, bind, Except.bind, pure,
          Except.pure]
      · simp [hshort, hlong, bind, Except.bind]

/-! ### Panics -/

/-- None of the three decoders panics on a string. -/
def NeverPanics (env : AddressEnv) (conf : UtxoCoinConf) (s : Text) : Prop :=
  Address.fromLegacyaddress env s conf.addressPrefixes ≠ .error .panic ∧
    Address.fromSegwitaddress env s conf.checksumType ≠ .error .panic ∧
    Address.fromCashaddress env s conf.checksumType conf.addressPrefixes ≠ .error .panic

/-- A payload of one symbol and a valid checksum. -/
def SingleSymbol (unicode : Unicode) (s : Text) : Prop :=
  ∃ network data, Carries unicode s network data ∧ data.length = 1

theorem fromCashaddress_eq_panic {checksumType : ChecksumType}
    {prefixes : NetworkAddressPrefixes} :
    Address.fromCashaddress env s checksumType prefixes = .error .panic ↔
      SingleSymbol env.unicode s := by
  rw [SingleSymbol, ← decode_eq_panic, Address.fromCashaddress]
  cases CashAddress.decode env.unicode s with
  | error fault => simp
  | ok address =>
    by_cases hsize : address.hash.length = 20
    · simp [hsize, copyFromSlice_addressHash hsize, bind, Except.bind, pure, Except.pure]
    · simp [hsize]

theorem neverPanics_iff (env : AddressEnv) (conf : UtxoCoinConf) (s : Text) :
    NeverPanics env conf s ↔ ¬ SingleSymbol env.unicode s := by
  rw [NeverPanics, Ne, Ne, Ne, fromCashaddress_eq_panic]
  simp only [fromLegacyaddress_ne_panic env s, fromSegwitaddress_ne_panic env s, not_false_eq_true,
    true_and]

end DeXFG.Utxo
