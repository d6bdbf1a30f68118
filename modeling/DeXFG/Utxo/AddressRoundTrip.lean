import DeXFG.Utxo.AddressCodec

/-!
# Addresses that are read back

For each format the configurations and hashes whose addresses are read back as they
were built.
-/
namespace DeXFG.Utxo

variable {env : AddressEnv} {config : CoinConfig} {buildOption : AddressBuilderOption}

/-! ### What is asked for -/

/-- The builder of an address of a coin. -/
def CoinConfig.builder (config : CoinConfig) (format : AddressFormat)
    (buildOption : AddressBuilderOption) : AddressBuilder :=
  .ofConf config.build (config.addressFormat format) buildOption

/-- An address that is built for a coin is displayed, and its text is read as an equal one. -/
def DisplaysBack (env : AddressEnv) (config : CoinConfig) (format : AddressFormat)
    (buildOption : AddressBuilderOption) : Prop :=
  ∀ address, (config.builder format buildOption).build env.crypto.toBitcrypto = .ok address →
    ∃ text back, address.displayAddress env = .ok text ∧
      addressFromStrUnchecked env config.build text = .ok back ∧ back.Same address

def AddressBuilderOption.isScript : AddressBuilderOption → Bool
  | .scriptHash _ => true
  | .pubkeyHash _ | .fromPubKey _ => false

/-- The prefix of a coin's key or script hashes. -/
def CoinConfig.prefixFor (config : CoinConfig) (buildOption : AddressBuilderOption) :
    AddressPrefix :=
  if buildOption.isScript then config.build.addressPrefixes.p2sh
  else config.build.addressPrefixes.p2pkh

/-- Script hashes have a prefix of their own. -/
def OwnPrefix (config : CoinConfig) (buildOption : AddressBuilderOption) : Prop :=
  buildOption.isScript = true →
    config.build.addressPrefixes.p2sh ≠ config.build.addressPrefixes.p2pkh

/-- What a format asks of the configuration and of the hash. -/
def Displayable (env : AddressEnv) (config : CoinConfig) (format : AddressFormat)
    (buildOption : AddressBuilderOption) : Prop :=
  match format with
  | .standard =>
    OwnPrefix config buildOption ∧
      ∃ hash : H160, AddressBuilder.getHash env.crypto.toBitcrypto buildOption =
          .addressHash hash ∧
        DetectedFirst env.crypto ((config.prefixFor buildOption).data ++ hash.val)
          config.checksumType
  | .segwit =>
    AddressBuilder.checkSegwitHash buildOption = .ok () →
      ∀ hrp, config.bech32Hrp = some hrp → ValidHrp hrp
  | .cashAddress network _ _ =>
    OwnPrefix config buildOption ∧ config.tAddressPrefix = 0 ∧
      (AddressBuilder.getHash env.crypto.toBitcrypto buildOption).isAddressHash = true ∧
      env.unicode.toLowercase network = network ∧ ':' ∉ network

/-! ### Which decoder has returned an address -/

theorem addrFormat_of_legacy {s : Text} {prefixes : NetworkAddressPrefixes} {back : Address}
    (h : Address.fromLegacyaddress env s prefixes = .ok back) : back.addrFormat = .standard := by
  rw [Address.fromLegacyaddress] at h
  cases hread : LegacyAddress.fromStr env s with
  | error fault => cases fault <;> simp [hread] at h
  | ok address =>
    have hsize := (legacy_fromStr_spec env s).2 address hread
    simp only [hread, hsize, ne_eq, not_true_eq_false, if_false, copyFromSlice_addressHash hsize,
      bind, Except.bind] at h
    split_ifs at h <;> cases h <;> rfl

theorem fromSegwitaddress_spec (hlaw : env.bech32.Lawful) {s : Text} {checksumType : ChecksumType}
    {back : Address} (h : Address.fromSegwitaddress env s checksumType = .ok back) :
    back.addrFormat = .segwit ∧ ∃ hrp, back.hrp = some hrp ∧ ValidHrp hrp := by
  rw [Address.fromSegwitaddress] at h
  cases hread : SegwitAddress.fromStr env.bech32 s with
  | error fault => simp [hread] at h
  | ok address =>
    have hvalid : ValidHrp address.hrp := by
      rw [SegwitAddress.fromStr] at hread
      cases hdecode : env.bech32.decode s with
      | error e => simp [hdecode] at hread
      | ok r =>
        obtain ⟨hrp, payload, variant⟩ := r
        have hhrp := hlaw.validHrp s hrp payload variant hdecode
        simp only [hdecode] at hread
        split at hread
        · cases hread
        · split at hread
          · cases hread
          · split at hread
            · cases hread
            · split at hread
              · cases hread
              · split_ifs at hread
                cases hread
                exact hhrp
    simp only [hread, bind, Except.bind] at h
    by_cases hshort : address.program.length = 20
    · simp only [hshort, if_true, copyFromSlice_addressHash hshort] at h
      cases h
      exact ⟨rfl, _, rfl, hvalid⟩
    · by_cases hlong : address.program.length = 32
      · simp only [hlong, if_true, copyFromSlice_witnessScriptHash hlong] at h
        cases h
        exact ⟨rfl, _, rfl, hvalid⟩
      · simp [hshort, hlong] at h

theorem fromCashaddress_eq_ok {s : Text} {checksumType : ChecksumType}
    {prefixes : NetworkAddressPrefixes} {back : Address}
    (h : Address.fromCashaddress env s checksumType prefixes = .ok back) :
    ∃ address, CashAddress.decode env.unicode s = .ok address ∧
      back.hash.isAddressHash = true ∧
      back.addrFormat = .cashAddress address.network.toText prefixes.p2pkh.getSizeOne
        prefixes.p2sh.getSizeOne ∧
      back.scriptType = (match address.addressType with | .p2pkh => .p2pkh | .p2sh => .p2sh) := by
  rw [Address.fromCashaddress] at h
  cases hread : CashAddress.decode env.unicode s with
  | error fault => simp [hread] at h
  | ok address =>
    by_cases hsize : address.hash.length = 20
    · simp only [hread, hsize, ne_eq, not_true_eq_false, if_false,
        copyFromSlice_addressHash hsize, bind, Except.bind] at h
      refine ⟨address, rfl, ?_⟩
      cases htype : address.addressType <;> simp only [htype] at h <;> cases h <;>
        exact ⟨rfl, rfl, rfl⟩
    · simp [hread, hsize] at h

/-- An address that is read has the format of the decoder that read it. -/
theorem addressFromStr_cases {conf : UtxoCoinConf} {s : Text} {back : Address}
    (h : addressFromStrUnchecked env conf s = .ok back) :
    Address.fromLegacyaddress env s conf.addressPrefixes = .ok back ∨
      Address.fromSegwitaddress env s conf.checksumType = .ok back ∨
      Address.fromCashaddress env s conf.checksumType conf.addressPrefixes = .ok back := by
  rw [addressFromStrUnchecked] at h
  split at h
  next hlegacy => exact .inl (hlegacy.trans h)
  next => cases h
  next =>
    split at h
    next hsegwit => exact .inr (.inl (hsegwit.trans h))
    next => cases h
    next =>
      split at h
      next hcash => exact .inr (.inr (hcash.trans h))
      next => cases h
      next => cases h

theorem addressFromStr_legacy {conf : UtxoCoinConf} {s : Text} {back : Address}
    (h : Address.fromLegacyaddress env s conf.addressPrefixes = .ok back) :
    addressFromStrUnchecked env conf s = .ok back := by
  rw [addressFromStrUnchecked, h]

/-- A decoder that does not panic and does not return leaves the string to the next. -/
theorem error_of_not_ok {α : Type} {r : Except DecodeFault α} (hpanic : r ≠ .error .panic)
    (hok : ∀ a, r ≠ .ok a) : ∃ reason, r = .error (.error reason) := by
  cases r with
  | ok a => exact absurd rfl (hok a)
  | error fault =>
    cases fault with
    | error reason => exact ⟨reason, rfl⟩
    | panic => exact absurd rfl hpanic

theorem addressFromStr_segwit {conf : UtxoCoinConf} {s : Text} {back : Address}
    (hlegacy : ∀ a, Address.fromLegacyaddress env s conf.addressPrefixes ≠ .ok a)
    (h : Address.fromSegwitaddress env s conf.checksumType = .ok back) :
    addressFromStrUnchecked env conf s = .ok back := by
  obtain ⟨reason, hreason⟩ := error_of_not_ok (fromLegacyaddress_ne_panic env s _) hlegacy
  rw [addressFromStrUnchecked, hreason]
  simp only [h]

theorem addressFromStr_cash {conf : UtxoCoinConf} {s : Text} {back : Address}
    (hlegacy : ∀ a, Address.fromLegacyaddress env s conf.addressPrefixes ≠ .ok a)
    (hsegwit : ∀ a, Address.fromSegwitaddress env s conf.checksumType ≠ .ok a)
    (h : Address.fromCashaddress env s conf.checksumType conf.addressPrefixes = .ok back) :
    addressFromStrUnchecked env conf s = .ok back := by
  obtain ⟨reason, hreason⟩ := error_of_not_ok (fromLegacyaddress_ne_panic env s _) hlegacy
  obtain ⟨reason', hreason'⟩ := error_of_not_ok (fromSegwitaddress_ne_panic env s _) hsegwit
  rw [addressFromStrUnchecked, hreason]
  simp only [hreason', h]

/-! ### Building -/

theorem CoinConfig.prefixOf_ne_nil (tAddrPrefix addrPrefix : UInt8) :
    (CoinConfig.prefixOf tAddrPrefix addrPrefix).data ≠ [] := by
  rw [CoinConfig.prefixOf]
  split <;> simp [AddressPrefix.ofByte]

theorem CoinConfig.prefixFor_ne_nil (config : CoinConfig) (buildOption : AddressBuilderOption) :
    (config.prefixFor buildOption).data ≠ [] := by
  rw [CoinConfig.prefixFor]
  split
  · exact CoinConfig.prefixOf_ne_nil _ _
  · exact CoinConfig.prefixOf_ne_nil _ _

/-- An address with a prefix. -/
def CoinConfig.prefixed (config : CoinConfig) (crypto : Bitcrypto) (format : AddressFormat)
    (buildOption : AddressBuilderOption) : Address where
  addressPrefix := config.prefixFor buildOption
  hrp := none
  pubkey := AddressBuilder.getPubkey buildOption
  hash := AddressBuilder.getHash crypto buildOption
  checksumType := config.checksumType
  addrFormat := config.addressFormat format
  scriptType := if buildOption.isScript then .p2sh else .p2pkh

theorem getAddressPrefix_builder (config : CoinConfig) (format : AddressFormat)
    (buildOption : AddressBuilderOption) :
    (config.builder format buildOption).getAddressPrefix buildOption =
      .ok (config.prefixFor buildOption) := by
  have hne := config.prefixFor_ne_nil buildOption
  cases buildOption with
  | pubkeyHash hash => exact if_neg fun hempty => hne (List.isEmpty_iff.mp hempty)
  | scriptHash hash => exact if_neg fun hempty => hne (List.isEmpty_iff.mp hempty)
  | fromPubKey pubkey => exact if_neg fun hempty => hne (List.isEmpty_iff.mp hempty)

theorem buildPrefixed_builder (config : CoinConfig) (crypto : Bitcrypto) (format : AddressFormat)
    (buildOption : AddressBuilderOption) :
    (config.builder format buildOption).buildPrefixed crypto buildOption =
      .ok (config.prefixed crypto format buildOption) := by
  rw [AddressBuilder.buildPrefixed, getAddressPrefix_builder]
  cases buildOption <;> rfl

theorem build_standard (config : CoinConfig) (crypto : Bitcrypto)
    (buildOption : AddressBuilderOption) :
    (config.builder .standard buildOption).build crypto =
      .ok (config.prefixed crypto .standard buildOption) :=
  buildPrefixed_builder config crypto .standard buildOption

theorem build_cashAddress (config : CoinConfig) (crypto : Bitcrypto) (network : Text)
    (pubAddrPrefix p2shAddrPrefix : UInt8) (buildOption : AddressBuilderOption) :
    (config.builder (.cashAddress network pubAddrPrefix p2shAddrPrefix) buildOption).build crypto =
      .ok (config.prefixed crypto (.cashAddress network pubAddrPrefix p2shAddrPrefix)
        buildOption) :=
  buildPrefixed_builder config crypto _ buildOption

theorem prefixFor_of_ne
    (h : config.prefixFor buildOption ≠ config.build.addressPrefixes.p2pkh) :
    config.prefixFor buildOption = config.build.addressPrefixes.p2sh := by
  rw [CoinConfig.prefixFor] at h ⊢
  cases hkind : buildOption.isScript with
  | true => rfl
  | false => simp [hkind] at h

/-- The type of the script that a prefix stands for. -/
theorem ownPrefix_iff (config : CoinConfig) (buildOption : AddressBuilderOption) :
    OwnPrefix config buildOption ↔
      (config.prefixFor buildOption = config.build.addressPrefixes.p2pkh ↔
        buildOption.isScript = false) := by
  rw [OwnPrefix, CoinConfig.prefixFor]
  cases buildOption.isScript <;> simp

/-! ### Standard addresses -/

/-- What the legacy decoder makes of a layout. -/
def CoinConfig.legacyBack (config : CoinConfig) (buildOption : AddressBuilderOption) (hash : H160)
    (found : ChecksumType) : Address where
  addressPrefix := config.prefixFor buildOption
  hrp := none
  pubkey := none
  hash := .addressHash hash
  checksumType := found
  addrFormat := .standard
  scriptType :=
    if config.prefixFor buildOption = config.build.addressPrefixes.p2pkh then .p2pkh else .p2sh

theorem fromLegacyaddress_of_read {s : Text} {hash : H160} {found : ChecksumType}
    (hread : LegacyAddress.fromStr env s =
      .ok { addressPrefix := config.prefixFor buildOption, checksumType := found
            hash := hash.val }) :
    Address.fromLegacyaddress env s config.build.addressPrefixes =
      .ok (config.legacyBack buildOption hash found) := by
  rw [Address.fromLegacyaddress, hread]
  simp only [hash.property, ne_eq, not_true_eq_false, if_false,
    copyFromSlice_addressHash hash.property, bind, Except.bind]
  by_cases hkey : config.prefixFor buildOption = config.build.addressPrefixes.p2pkh
  · simp only [if_pos hkey, CoinConfig.legacyBack]
    rfl
  · have hscript := prefixFor_of_ne hkey
    simp only [if_neg hkey, if_pos hscript, CoinConfig.legacyBack]
    rfl

theorem legacyBack_same {hash : H160} {found : ChecksumType}
    (hhash : AddressBuilder.getHash env.crypto.toBitcrypto buildOption = .addressHash hash) :
    (config.legacyBack buildOption hash found).Same
        (config.prefixed env.crypto.toBitcrypto .standard buildOption) ↔
      found = config.checksumType ∧ OwnPrefix config buildOption := by
  have hscript : (config.legacyBack buildOption hash found).scriptType =
      (config.prefixed env.crypto.toBitcrypto .standard buildOption).scriptType ↔
      OwnPrefix config buildOption := by
    rw [ownPrefix_iff, CoinConfig.legacyBack, CoinConfig.prefixed]
    by_cases hkey : config.prefixFor buildOption = config.build.addressPrefixes.p2pkh
    · cases buildOption.isScript <;> simp [hkey]
    · cases buildOption.isScript <;> simp [hkey]
  rw [Address.Same, hscript]
  simp only [CoinConfig.legacyBack, CoinConfig.prefixed, CoinConfig.addressFormat, hhash, true_and]

/-- The layout of a hash of 32 bytes is too long for an address. -/
theorem fromLegacyaddress_ne_ok {s : Text} {data : Bytes} (hdecode : env.base58.decode s = some data)
    (h : data.length ≠ 25) (h' : data.length ≠ 26) (prefixes : NetworkAddressPrefixes)
    (back : Address) : Address.fromLegacyaddress env s prefixes ≠ .ok back := by
  rw [Address.fromLegacyaddress, LegacyAddress.fromStr, hdecode]
  simp [fromLayout_of_length h h']

/-- The text of a coin's legacy address. -/
def CoinConfig.legacyText (config : CoinConfig) (env : AddressEnv)
    (buildOption : AddressBuilderOption) : Text :=
  LegacyAddress.display env
    { addressPrefix := config.prefixFor buildOption, checksumType := config.checksumType
      hash := (AddressBuilder.getHash env.crypto.toBitcrypto buildOption).toVec }

theorem displayAddress_standard (config : CoinConfig) (env : AddressEnv)
    (buildOption : AddressBuilderOption) :
    (config.prefixed env.crypto.toBitcrypto .standard buildOption).displayAddress env =
      .ok (config.legacyText env buildOption) :=
  rfl

theorem decode_legacyText (config : CoinConfig) (buildOption : AddressBuilderOption)
    (hlaw : env.base58.Lawful) :
    env.base58.decode (config.legacyText env buildOption) =
      some (LegacyAddress.layout env.crypto
        { addressPrefix := config.prefixFor buildOption, checksumType := config.checksumType
          hash := (AddressBuilder.getHash env.crypto.toBitcrypto buildOption).toVec }) :=
  hlaw.decode_encode _

theorem fromStr_legacyText (config : CoinConfig) (hlaw : env.base58.Lawful) {hash : H160}
    (hhash : AddressBuilder.getHash env.crypto.toBitcrypto buildOption = .addressHash hash) :
    ∃ found, LegacyAddress.fromStr env (config.legacyText env buildOption) =
        .ok { addressPrefix := config.prefixFor buildOption, checksumType := found
              hash := hash.val } ∧
      (found = config.checksumType ↔ DetectedFirst env.crypto
        ((config.prefixFor buildOption).data ++ hash.val) config.checksumType) := by
  obtain ⟨found, hdetect, hfound⟩ := detectChecksum_checksum env.crypto
    ((config.prefixFor buildOption).data ++ hash.val) config.checksumType
  refine ⟨found, ?_, hfound⟩
  rw [LegacyAddress.fromStr, decode_legacyText config buildOption hlaw, hhash]
  simp only [LegacyAddress.layout, AddressHashEnum.toVec]
  rw [fromLayout_append _ (config.prefixFor_ne_nil buildOption) hash.property
    (length_checksum _ _ _), hdetect]
  rfl

theorem displaysBack_standard (hlaw : env.Lawful) :
    DisplaysBack env config .standard buildOption ↔
      Displayable env config .standard buildOption := by
  have hbuild := build_standard config env.crypto.toBitcrypto buildOption
  constructor
  · intro hback
    obtain ⟨text, back, hdisplay, hread, hsame⟩ := hback _ hbuild
    rw [displayAddress_standard] at hdisplay
    obtain rfl := Except.ok.inj hdisplay
    have hformat : back.addrFormat = .standard := hsame.2.2.2.2.1
    cases hhash : AddressBuilder.getHash env.crypto.toBitcrypto buildOption with
    | addressHash hash =>
      obtain ⟨found, hfromStr, hfound⟩ := fromStr_legacyText config hlaw.base58 hhash
      rw [addressFromStr_legacy (fromLegacyaddress_of_read hfromStr)] at hread
      obtain rfl := Except.ok.inj hread
      obtain ⟨hsum, hown⟩ := (legacyBack_same hhash).mp hsame
      exact ⟨hown, hash, hhash, hfound.mp hsum⟩
    | witnessScriptHash hash =>
      exfalso
      have hdecode := decode_legacyText config buildOption hlaw.base58
      have hlong : 37 ≤ (LegacyAddress.layout env.crypto
          { addressPrefix := config.prefixFor buildOption, checksumType := config.checksumType
            hash := (AddressBuilder.getHash env.crypto.toBitcrypto buildOption).toVec }).length := by
        have hpos : 0 < (config.prefixFor buildOption).data.length :=
          List.length_pos_iff.mpr (config.prefixFor_ne_nil buildOption)
        rw [hhash]
        simp only [LegacyAddress.layout, AddressHashEnum.toVec, List.length_append,
          length_checksum, hash.property]
        omega
      obtain hlegacy | hsegwit | hcash := addressFromStr_cases hread
      · exact fromLegacyaddress_ne_ok hdecode (by omega) (by omega) _ back hlegacy
      · have hother := (fromSegwitaddress_spec hlaw.bech32 hsegwit).1
        rw [hformat] at hother
        cases hother
      · obtain ⟨_, _, _, hother, _⟩ := fromCashaddress_eq_ok hcash
        rw [hformat] at hother
        cases hother
  · rintro ⟨hown, hash, hhash, hfirst⟩ address haddress
    rw [hbuild] at haddress
    obtain rfl := Except.ok.inj haddress
    obtain ⟨found, hfromStr, hfound⟩ := fromStr_legacyText config hlaw.base58 hhash
    refine ⟨_, _, displayAddress_standard config env buildOption,
      addressFromStr_legacy (fromLegacyaddress_of_read hfromStr), ?_⟩
    exact (legacyBack_same hhash).mpr ⟨hfound.mpr hfirst, hown⟩

/-! ### Segwit addresses -/

/-- A segwit address of a coin. -/
def CoinConfig.segwit (config : CoinConfig) (crypto : Bitcrypto) (hrp : Text)
    (buildOption : AddressBuilderOption) : Address where
  addressPrefix := AddressPrefix.default
  hrp := some hrp
  pubkey := AddressBuilder.getPubkey buildOption
  hash := AddressBuilder.getHash crypto buildOption
  checksumType := config.checksumType
  addrFormat := .segwit
  scriptType := AddressBuilder.getSegwitScriptType buildOption

/-- A segwit address is built for a human readable part and a hash of the kind of the script. -/
theorem build_segwit {crypto : Bitcrypto} {address : Address} :
    (config.builder .segwit buildOption).build crypto = .ok address ↔
      AddressBuilder.checkSegwitHash buildOption = .ok () ∧
        ∃ hrp, config.bech32Hrp = some hrp ∧ address = config.segwit crypto hrp buildOption := by
  have hbuild : (config.builder .segwit buildOption).build crypto = (do
      (config.builder .segwit buildOption).checkSegwitHrp
      AddressBuilder.checkSegwitHash buildOption
      return { addressPrefix := AddressPrefix.default, hrp := config.bech32Hrp
               hash := AddressBuilder.getHash crypto buildOption
               pubkey := AddressBuilder.getPubkey buildOption
               checksumType := config.checksumType, addrFormat := .segwit
               scriptType := AddressBuilder.getSegwitScriptType buildOption }) := rfl
  have hhrp : (config.builder .segwit buildOption).checkSegwitHrp =
      config.bech32Hrp.elim (.error "no hrp for address") fun _ => .ok () := by
    have hhrp' : (config.builder .segwit buildOption).hrp = config.bech32Hrp := rfl
    rw [AddressBuilder.checkSegwitHrp, hhrp']
    cases config.bech32Hrp <;> rfl
  rw [hbuild, hhrp]
  cases config.bech32Hrp with
  | none => simp [bind, Except.bind]
  | some hrp =>
    cases AddressBuilder.checkSegwitHash buildOption with
    | error e => simp [bind, Except.bind]
    | ok passed =>
      simp only [Option.elim_some, bind, Except.bind, pure, Except.pure, Except.ok.injEq,
        Option.some.injEq, exists_eq_left', true_and]
      exact eq_comm

/-- The kind of hash that the script of an address asks for. -/
theorem checkSegwitHash_spec (crypto : Bitcrypto)
    (h : AddressBuilder.checkSegwitHash buildOption = .ok ()) :
    (∃ hash, AddressBuilder.getHash crypto buildOption = .addressHash hash ∧
        AddressBuilder.getSegwitScriptType buildOption = .p2wpkh) ∨
      ∃ hash, AddressBuilder.getHash crypto buildOption = .witnessScriptHash hash ∧
        AddressBuilder.getSegwitScriptType buildOption = .p2wsh := by
  cases buildOption with
  | pubkeyHash hash =>
    cases hash with
    | addressHash hash => exact .inl ⟨hash, rfl, rfl⟩
    | witnessScriptHash hash => cases h
  | scriptHash hash =>
    cases hash with
    | addressHash hash => cases h
    | witnessScriptHash hash => exact .inr ⟨hash, rfl, rfl⟩
  | fromPubKey pubkey => exact .inl ⟨_, rfl, rfl⟩

/-- The text of a segwit address. -/
def CoinConfig.segwitText (env : AddressEnv) (hrp : Text) (buildOption : AddressBuilderOption) :
    Text :=
  env.bech32.encode hrp
    (0 :: env.bech32.toBase32 (AddressBuilder.getHash env.crypto.toBitcrypto buildOption).toVec)

theorem displayAddress_segwit (config : CoinConfig) (env : AddressEnv) (hrp : Text)
    (buildOption : AddressBuilderOption) :
    (config.segwit env.crypto.toBitcrypto hrp buildOption).displayAddress env =
      .ok (CoinConfig.segwitText env hrp buildOption) :=
  rfl

theorem groups_segwit (hlaw : env.bech32.Lawful) (bytes : Bytes) :
    IsGroups 5 (0 :: env.bech32.toBase32 bytes) := by
  intro d hd
  cases List.mem_cons.mp hd with
  | inl heq =>
    rw [heq]
    decide
  | inr hmem => exact hlaw.groups_toBase32 _ d hmem

theorem segwit_fromStr_text (hlaw : env.bech32.Lawful) {hrp : Text} (hvalid : ValidHrp hrp)
    (hlength : (AddressBuilder.getHash env.crypto.toBitcrypto buildOption).toVec.length = 20 ∨
      (AddressBuilder.getHash env.crypto.toBitcrypto buildOption).toVec.length = 32) :
    SegwitAddress.fromStr env.bech32 (CoinConfig.segwitText env hrp buildOption) =
      .ok { hrp := hrp, version := 0
            program := (AddressBuilder.getHash env.crypto.toBitcrypto buildOption).toVec } := by
  rw [SegwitAddress.fromStr, CoinConfig.segwitText,
    hlaw.decode_encode hrp _ hvalid (groups_segwit hlaw _)]
  simp only [List.isEmpty_cons, Bool.false_eq_true, if_false, hlaw.fromBase32_toBase32]
  rw [if_neg (by decide), if_neg (by omega), if_neg (by simp), if_neg (by omega)]

theorem length_segwitText (hlaw : env.bech32.Lawful) (hrp : Text)
    (buildOption : AddressBuilderOption) :
    (CoinConfig.segwitText env hrp buildOption).length = hrp.length + 1 +
      (8 * (AddressBuilder.getHash env.crypto.toBitcrypto buildOption).toVec.length + 4) / 5 + 7 := by
  rw [CoinConfig.segwitText, hlaw.length_encode _ _ (groups_segwit hlaw _), List.length_cons,
    hlaw.length_toBase32]
  omega

theorem length_toVec (hash : AddressHashEnum) : hash.toVec.length = 20 ∨ hash.toVec.length = 32 := by
  cases hash with
  | addressHash h => exact .inl h.property
  | witnessScriptHash h => exact .inr h.property

/-- A segwit address is too long for a legacy one. -/
theorem segwitText_not_legacy (hlaw : env.Lawful) (hrp : Text)
    (prefixes : NetworkAddressPrefixes) (back : Address) :
    Address.fromLegacyaddress env (CoinConfig.segwitText env hrp buildOption) prefixes ≠
      .ok back := by
  have hlength := length_segwitText hlaw.bech32 hrp buildOption
  have hhash := length_toVec (AddressBuilder.getHash env.crypto.toBitcrypto buildOption)
  cases hdecode : env.base58.decode (CoinConfig.segwitText env hrp buildOption) with
  | none => simp [Address.fromLegacyaddress, LegacyAddress.fromStr, hdecode]
  | some data =>
    have hbound := hlaw.base58.length_encode data
    rw [hlaw.base58.encode_decode _ _ hdecode] at hbound
    exact fromLegacyaddress_ne_ok hdecode (by omega) (by omega) prefixes back

theorem fromSegwitaddress_text (hlaw : env.bech32.Lawful) {hrp : Text} (hvalid : ValidHrp hrp)
    (hhash : AddressBuilder.checkSegwitHash buildOption = .ok ()) (checksumType : ChecksumType) :
    Address.fromSegwitaddress env (CoinConfig.segwitText env hrp buildOption) checksumType =
      .ok { addressPrefix := AddressPrefix.default, hrp := some hrp, pubkey := none
            hash := AddressBuilder.getHash env.crypto.toBitcrypto buildOption
            checksumType := checksumType, addrFormat := .segwit
            scriptType := AddressBuilder.getSegwitScriptType buildOption } := by
  rw [Address.fromSegwitaddress, segwit_fromStr_text hlaw hvalid (length_toVec _)]
  obtain ⟨hash, hkind, hscript⟩ | ⟨hash, hkind, hscript⟩ :=
    checkSegwitHash_spec env.crypto.toBitcrypto hhash
  · rw [hkind, hscript]
    simp [AddressHashEnum.toVec, hash.property, copyFromSlice_addressHash hash.property, bind,
      Except.bind, pure, Except.pure]
  · rw [hkind, hscript]
    simp [AddressHashEnum.toVec, hash.property, copyFromSlice_witnessScriptHash hash.property,
      bind, Except.bind, pure, Except.pure]

theorem displaysBack_segwit (hlaw : env.Lawful) :
    DisplaysBack env config .segwit buildOption ↔
      Displayable env config .segwit buildOption := by
  constructor
  · intro hback hhash hrp hhrp
    obtain ⟨text, back, hdisplay, hread, hsame⟩ :=
      hback _ (build_segwit.mpr ⟨hhash, hrp, hhrp, rfl⟩)
    rw [displayAddress_segwit] at hdisplay
    obtain rfl := Except.ok.inj hdisplay
    have hformat : back.addrFormat = .segwit := hsame.2.2.2.2.1
    obtain hlegacy | hsegwit | hcash := addressFromStr_cases hread
    · exact absurd hlegacy (segwitText_not_legacy hlaw hrp _ back)
    · obtain ⟨-, hrp', hback', hvalid⟩ := fromSegwitaddress_spec hlaw.bech32 hsegwit
      have hsameHrp : back.hrp = some hrp := hsame.2.1
      rw [hback'] at hsameHrp
      exact Option.some.inj hsameHrp ▸ hvalid
    · obtain ⟨_, _, _, hother, _⟩ := fromCashaddress_eq_ok hcash
      rw [hformat] at hother
      cases hother
  · intro hshown address haddress
    obtain ⟨hhash, hrp, hhrp, rfl⟩ := build_segwit.mp haddress
    have hvalid := hshown hhash hrp hhrp
    refine ⟨_, _, displayAddress_segwit config env hrp buildOption, addressFromStr_segwit
      (segwitText_not_legacy hlaw hrp _) (fromSegwitaddress_text hlaw.bech32 hvalid hhash _), ?_⟩
    exact ⟨rfl, rfl, rfl, rfl, rfl, rfl⟩

/-! ### Addresses of Bitcoin Cash -/

theorem colon_not_legacy (hlaw : env.base58.Lawful) {s : Text} (hcolon : ':' ∈ s)
    (prefixes : NetworkAddressPrefixes) (back : Address) :
    Address.fromLegacyaddress env s prefixes ≠ .ok back := by
  cases hdecode : env.base58.decode s with
  | none => simp [Address.fromLegacyaddress, LegacyAddress.fromStr, hdecode]
  | some data =>
    have halphanum := hlaw.alphanum_encode data ':'
    rw [hlaw.encode_decode _ _ hdecode] at halphanum
    exact absurd (halphanum hcolon) (by decide)

/-- Behind the last separator of a segwit address stands no colon, and the payload of Bitcoin
Cash has no separator. -/
theorem cashText_not_segwit (hlaw : env.bech32.Lawful) {network payload : Text}
    (hpayload : ∀ c ∈ payload, c ∈ Base32.charset) (checksumType : ChecksumType)
    (back : Address) :
    Address.fromSegwitaddress env (network ++ ':' :: payload) checksumType ≠ .ok back := by
  cases hdecode : env.bech32.decode (network ++ ':' :: payload) with
  | error e => simp [Address.fromSegwitaddress, SegwitAddress.fromStr, hdecode]
  | ok r =>
    obtain ⟨front, rest, hparts, halphanum⟩ := hlaw.separator _ _ hdecode
    have hone : '1' ∉ payload := fun h => absurd (hpayload _ h) (by decide)
    have hcolon : ':' ∉ rest := fun h => absurd (halphanum _ h) (by decide)
    obtain ⟨middle, -, heq⟩ | ⟨middle, -, heq⟩ := List.append_eq_append_iff.mp hparts
    · cases middle with
      | nil => cases heq
      | cons c middle =>
        obtain ⟨-, rfl⟩ := List.cons.inj heq
        simp at hone
    · cases middle with
      | nil => cases heq
      | cons c middle =>
        obtain ⟨-, rfl⟩ := List.cons.inj heq
        simp at hcolon

theorem fromCashaddress_of_decode {s : Text} {address : CashAddress}
    (h : CashAddress.decode env.unicode s = .ok address) (hsize : address.hash.length = 20)
    (checksumType : ChecksumType) (prefixes : NetworkAddressPrefixes) :
    Address.fromCashaddress env s checksumType prefixes =
      .ok { addressPrefix := match address.addressType with
              | .p2pkh => prefixes.p2pkh
              | .p2sh => prefixes.p2sh
            hrp := none, pubkey := none, hash := .addressHash ⟨address.hash, hsize⟩
            checksumType := checksumType
            addrFormat := .cashAddress address.network.toText prefixes.p2pkh.getSizeOne
              prefixes.p2sh.getSizeOne
            scriptType := match address.addressType with
              | .p2pkh => .p2pkh
              | .p2sh => .p2sh } := by
  rw [Address.fromCashaddress, h]
  simp only [hsize, ne_eq, not_true_eq_false, if_false, copyFromSlice_addressHash hsize, bind,
    Except.bind]
  cases address.addressType <;> rfl

/-- The address of Bitcoin Cash behind an address of a coin. -/
def CoinConfig.cash (config : CoinConfig) (env : AddressEnv) (network : Text)
    (buildOption : AddressBuilderOption) : CashAddress where
  network := NetworkPrefix.parse env.unicode network
  hash := (AddressBuilder.getHash env.crypto.toBitcrypto buildOption).toVec
  addressType :=
    if config.prefixFor buildOption = config.build.addressPrefixes.p2pkh then .p2pkh else .p2sh

theorem build_addressPrefixes (h : config.tAddressPrefix = 0) :
    config.build.addressPrefixes =
      { p2pkh := .ofByte config.pubAddrPrefix, p2sh := .ofByte config.p2shAddressPrefix } := by
  simp [CoinConfig.build, CoinConfig.prefixOf, h]

theorem cash_new (env : AddressEnv) (network : Text)
    (buildOption : AddressBuilderOption) (addressType : CashAddrType) :
    CashAddress.new env.unicode network
        (AddressBuilder.getHash env.crypto.toBitcrypto buildOption).toVec addressType =
      .ok { network := NetworkPrefix.parse env.unicode network
            hash := (AddressBuilder.getHash env.crypto.toBitcrypto buildOption).toVec
            addressType := addressType } := by
  apply if_pos
  cases length_toVec (AddressBuilder.getHash env.crypto.toBitcrypto buildOption) with
  | inl h =>
    rw [h]
    decide
  | inr h =>
    rw [h]
    decide

/-- A coin without a prefix of two bytes displays what is written for Bitcoin Cash. -/
theorem displayAddress_cash (h : config.tAddressPrefix = 0) (network : Text)
    (pubAddrPrefix p2shAddrPrefix : UInt8) :
    (config.prefixed env.crypto.toBitcrypto (.cashAddress network pubAddrPrefix p2shAddrPrefix)
      buildOption).displayAddress env = (config.cash env network buildOption).encode := by
  have hpub : config.build.addressPrefixes.p2pkh = .ofByte config.pubAddrPrefix := by
    rw [build_addressPrefixes h]
  have hp2sh : config.build.addressPrefixes.p2sh = .ofByte config.p2shAddressPrefix := by
    rw [build_addressPrefixes h]
  simp only [Address.displayAddress, CoinConfig.prefixed, CoinConfig.addressFormat,
    Address.toCashaddress, ← hpub, ← hp2sh]
  by_cases hkey : config.prefixFor buildOption = config.build.addressPrefixes.p2pkh
  · simp only [if_pos hkey, bind, Except.bind, cash_new, CoinConfig.cash]
  · have hscript := prefixFor_of_ne hkey
    simp only [if_neg hkey, if_pos hscript, bind, Except.bind, cash_new, CoinConfig.cash]

/-- A coin with a prefix of two bytes displays no address of Bitcoin Cash. -/
theorem displayAddress_cash_error (h : config.tAddressPrefix ≠ 0) (network : Text)
    (pubAddrPrefix p2shAddrPrefix : UInt8) (text : Text) :
    (config.prefixed env.crypto.toBitcrypto (.cashAddress network pubAddrPrefix p2shAddrPrefix)
      buildOption).displayAddress env ≠ .ok text := by
  have htwo : (config.prefixFor buildOption).data.length = 2 := by
    rw [CoinConfig.prefixFor]
    split <;> simp [CoinConfig.build, CoinConfig.prefixOf, h]
  have hne : ∀ byte, config.prefixFor buildOption ≠ AddressPrefix.ofByte byte := by
    intro byte heq
    rw [heq] at htwo
    cases htwo
  simp only [Address.displayAddress, CoinConfig.prefixed, CoinConfig.addressFormat,
    Address.toCashaddress, hne, if_false, bind, Except.bind]
  simp

theorem exists_versionByte {a : CashAddress} (h : a.hash.length = 20 ∨ a.hash.length = 32) :
    ∃ version, a.versionByte = .ok version := by
  rw [versionByte_zeroed]
  cases h with
  | inl hsize =>
    rw [hsize]
    cases a.addressType with
    | p2pkh => exact ⟨_, rfl⟩
    | p2sh => exact ⟨_, rfl⟩
  | inr hsize =>
    rw [hsize]
    cases a.addressType with
    | p2pkh => exact ⟨_, rfl⟩
    | p2sh => exact ⟨_, rfl⟩

/-- The text has the network in lower case, and is read back if that has no colon. -/
theorem cash_encode (network : Text) :
    ∃ payload, (config.cash env network buildOption).encode =
        .ok (env.unicode.toLowercase network ++ ':' :: payload) ∧
      (∀ c ∈ payload, c ∈ Base32.charset) := by
  obtain ⟨version, hversion⟩ := exists_versionByte (a := config.cash env network buildOption)
    (length_toVec _)
  obtain ⟨payload, hencode, -, hmem⟩ := base32_encode_spec
    (groups_symbols (config.cash env network buildOption).network version
      (config.cash env network buildOption).hash)
  refine ⟨payload, ?_, hmem⟩
  rw [encode_eq hversion hencode, CoinConfig.cash, toText_parse]

theorem cash_decode (hlaw : env.unicode.Lawful) {network payload : Text}
    (hlower : env.unicode.toLowercase network = network) (hcolon : ':' ∉ network)
    (hencode : (config.cash env network buildOption).encode =
      .ok (env.unicode.toLowercase network ++ ':' :: payload)) :
    CashAddress.decode env.unicode (env.unicode.toLowercase network ++ ':' :: payload) =
      .ok (config.cash env network buildOption) := by
  obtain ⟨version, hversion⟩ := exists_versionByte (a := config.cash env network buildOption)
    (length_toVec _)
  have htext : (config.cash env network buildOption).network.toText = network := by
    rw [CoinConfig.cash, toText_parse, hlower]
  have hparse : NetworkPrefix.parse env.unicode
      (config.cash env network buildOption).network.toText =
      (config.cash env network buildOption).network := by
    rw [htext, CoinConfig.cash]
  obtain ⟨payload', hencode', -, hdecode⟩ :=
    decode_encode hlaw hversion (by rwa [htext]) hparse
  rw [hencode] at hencode'
  rw [Except.ok.inj hencode']
  exact hdecode

theorem splitAddress_of_mem (unicode : Unicode) {front : Text} (payload : Text) (h : ':' ∈ front) :
    ∃ reason, splitAddress unicode (front ++ ':' :: payload) = .error reason := by
  obtain ⟨before, after, rfl⟩ := List.append_of_mem h
  rw [splitAddress, List.append_assoc, List.cons_append, List.splitOn_append_cons_self,
    List.splitOn_append_cons_self]
  have hbefore := List.splitOn_ne_nil ':' before
  have hafter := List.splitOn_ne_nil ':' after
  have hpayload := List.splitOn_ne_nil ':' payload
  cases hb : before.splitOn ':' with
  | nil => exact absurd hb hbefore
  | cons x xs =>
    cases ha : after.splitOn ':' with
    | nil => exact absurd ha hafter
    | cons y ys =>
      cases hp : payload.splitOn ':' with
      | nil => exact absurd hp hpayload
      | cons z zs =>
        refine ⟨"Invalid address: expect 'network:payload'", ?_⟩
        cases xs with
        | nil =>
          cases ys with
          | nil => rfl
          | cons y' ys => rfl
        | cons x' xs =>
          cases xs with
          | nil => rfl
          | cons x'' xs => rfl

theorem displaysBack_cash (hlaw : env.Lawful) (network : Text)
    (pubAddrPrefix p2shAddrPrefix : UInt8) :
    DisplaysBack env config (.cashAddress network pubAddrPrefix p2shAddrPrefix) buildOption ↔
      Displayable env config (.cashAddress network pubAddrPrefix p2shAddrPrefix) buildOption := by
  have hbuild := build_cashAddress config env.crypto.toBitcrypto network pubAddrPrefix
    p2shAddrPrefix buildOption
  obtain ⟨payload, hencode, hmem⟩ :=
    @cash_encode env config buildOption network
  have hcolon' : ':' ∉ payload := fun h => (charset_plain _ (hmem _ h)).2.2 rfl
  constructor
  · intro hback
    obtain ⟨text, back, hdisplay, hread, hsame⟩ := hback _ hbuild
    have htaddr : config.tAddressPrefix = 0 := by
      by_contra hne
      exact displayAddress_cash_error hne network _ _ text hdisplay
    rw [displayAddress_cash htaddr, hencode] at hdisplay
    obtain rfl := Except.ok.inj hdisplay
    have hformat : back.addrFormat = .cashAddress network config.pubAddrPrefix
        config.p2shAddressPrefix := hsame.2.2.2.2.1
    obtain hlegacy | hsegwit | hcash := addressFromStr_cases hread
    · exact absurd hlegacy (colon_not_legacy hlaw.base58 (by simp) _ back)
    · exact absurd hsegwit (cashText_not_segwit hlaw.bech32 hmem _ back)
    · obtain ⟨address, hdecode, hkind, hshown, hscript⟩ := fromCashaddress_eq_ok hcash
      rw [hformat] at hshown
      have hname : network = address.network.toText := (AddressFormat.cashAddress.inj hshown).1
      obtain ⟨data, version, ⟨_, _, hsplit, -⟩, -⟩ := decode_eq_ok.mp hdecode
      have hlowerColon : ':' ∉ env.unicode.toLowercase network := by
        intro hcolon
        obtain ⟨reason, herror⟩ :=
          splitAddress_of_mem env.unicode payload hcolon
        rw [herror] at hsplit
        cases hsplit
      rw [splitAddress_append hlowerColon hcolon'] at hsplit
      have hparse := (Prod.mk.inj (Except.ok.inj hsplit)).1
      have hlower : env.unicode.toLowercase network = network := by
        rw [← hparse, toText_parse, hlaw.unicode.toLowercase_idem] at hname
        exact hname.symm
      have hcolon : ':' ∉ network := hlower ▸ hlowerColon
      rw [cash_decode hlaw.unicode hlower hcolon hencode] at hdecode
      obtain rfl := Except.ok.inj hdecode
      have hhash : back.hash = AddressBuilder.getHash env.crypto.toBitcrypto buildOption :=
        hsame.2.2.1
      refine ⟨?_, htaddr, hhash ▸ hkind, hlower, hcolon⟩
      have htype : back.scriptType = if buildOption.isScript then .p2sh else .p2pkh :=
        hsame.2.2.2.2.2
      rw [hscript, CoinConfig.cash] at htype
      rw [ownPrefix_iff]
      by_cases hkey : config.prefixFor buildOption = config.build.addressPrefixes.p2pkh
      · cases hscr : buildOption.isScript <;> simp [hkey, hscr] at htype ⊢
      · cases hscr : buildOption.isScript <;> simp [hkey, hscr] at htype ⊢
  · rintro ⟨hown, htaddr, hkind, hlower, hcolon⟩ address haddress
    rw [hbuild] at haddress
    obtain rfl := Except.ok.inj haddress
    have hdecode := cash_decode hlaw.unicode hlower hcolon hencode
    obtain ⟨hash, hhash⟩ : ∃ hash, AddressBuilder.getHash env.crypto.toBitcrypto buildOption =
        .addressHash hash := by
      cases hget : AddressBuilder.getHash env.crypto.toBitcrypto buildOption with
      | addressHash hash => exact ⟨hash, rfl⟩
      | witnessScriptHash hash =>
        rw [hget] at hkind
        cases hkind
    have hsize : (config.cash env network buildOption).hash.length = 20 := by
      rw [CoinConfig.cash, hhash]
      exact hash.property
    refine ⟨_, _, (displayAddress_cash htaddr network _ _).trans hencode,
      addressFromStr_cash (colon_not_legacy hlaw.base58 (by simp) _)
        (cashText_not_segwit hlaw.bech32 hmem _)
        (fromCashaddress_of_decode hdecode hsize _ _), ?_⟩
    have hkey := (ownPrefix_iff config buildOption).mp hown
    have hname : (NetworkPrefix.parse env.unicode network).toText = network := by
      rw [toText_parse, hlower]
    have hsizes : config.build.addressPrefixes.p2pkh.getSizeOne = config.pubAddrPrefix ∧
        config.build.addressPrefixes.p2sh.getSizeOne = config.p2shAddressPrefix := by
      rw [build_addressPrefixes htaddr]
      exact ⟨rfl, rfl⟩
    refine ⟨?_, rfl, ?_, rfl, ?_, ?_⟩
    · simp only [CoinConfig.cash, CoinConfig.prefixed]
      by_cases hp2pkh : config.prefixFor buildOption = config.build.addressPrefixes.p2pkh
      · simp only [if_pos hp2pkh]
        exact hp2pkh.symm
      · simp only [if_neg hp2pkh]
        exact (prefixFor_of_ne hp2pkh).symm
    · simp only [CoinConfig.cash, CoinConfig.prefixed, hhash]
      rfl
    · simp only [CoinConfig.cash, CoinConfig.prefixed, CoinConfig.addressFormat, hname, hsizes]
    · simp only [CoinConfig.cash, CoinConfig.prefixed, hkey]
      cases buildOption.isScript <;> simp

/-! ### The codec -/

theorem displaysBack_iff (hlaw : env.Lawful) (format : AddressFormat) :
    DisplaysBack env config format buildOption ↔ Displayable env config format buildOption := by
  cases format with
  | standard => exact displaysBack_standard hlaw
  | segwit => exact displaysBack_segwit hlaw
  | cashAddress network pubAddrPrefix p2shAddrPrefix =>
    exact displaysBack_cash hlaw network pubAddrPrefix p2shAddrPrefix

/-- Which addresses of a coin are read back, on which strings no decoder panics, and which
strings of Bitcoin Cash are written back. -/
theorem address_codec_iff (hlaw : env.Lawful) (config : CoinConfig) (format : AddressFormat)
    (buildOption : AddressBuilderOption) (s : Text) :
    (DisplaysBack env config format buildOption ↔ Displayable env config format buildOption) ∧
      (NeverPanics env config.build s ↔ ¬ SingleSymbol env.unicode s) ∧
      (ReadsCanonical env.unicode s ↔ ¬ LoosePadding env.unicode s) :=
  ⟨displaysBack_iff hlaw format, neverPanics_iff env config.build s,
    readsCanonical_iff env.unicode s⟩

end DeXFG.Utxo
