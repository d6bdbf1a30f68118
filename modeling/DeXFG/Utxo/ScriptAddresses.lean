import DeXFG.Utxo.ScriptTotality

/-!
# Addresses of scripts

When the addresses of a script can be told without a panic, and which addresses are told from
their own output scripts.
-/
namespace DeXFG.Utxo
open Script

variable {platform : Platform} {crypto : Bitcrypto} {coin : UtxoCoinFields} {script : Script}

/-! ## What is asked for -/

/-- The walks over a script end and nothing panics. -/
structure Analysed (platform : Platform) (crypto : Bitcrypto) (coin : UtxoCoinFields)
    (script : Script) : Prop where
  scriptType : script.scriptType platform ≠ none
  isMultisigScript : script.isMultisigScript platform ≠ none
  sigopsCount : ∀ serializedScript, script.sigopsCount platform serializedScript ≠ none
  extractDestinations : script.extractDestinations platform crypto ≠ .error .panic
  addressesFromScript : coin.addressesFromScript platform crypto script ≠ .error .panic
  instructions : Ends (script.instructionsNext platform) 0
  opcodes : Ends (script.opcodesNext platform) 0

/-- Every instruction can be read, the signature operations fit a `usize`, what looks like a
multisig has less than 256 keys in a row, and only a coin with a human readable part is given a
witness program. -/
def Readable (platform : Platform) (coin : UtxoCoinFields) (script : Script) : Prop :=
  ∃ instrs, script.instructionsFrom platform 0 = some instrs ∧
    sigopsBound instrs < platform.usizeLimit ∧
    (script.MultisigFrame → ((instrs.drop 1).takeWhile isKeyInstruction).length < 256) ∧
    (coin.config.bech32Hrp = none →
      script.isPayToWitnessKeyHash ≠ some true ∧ script.isPayToWitnessScriptHash ≠ some true)

/-- The address that is built for a coin comes back alone from its output script. -/
def ReadBack (platform : Platform) (crypto : Bitcrypto) (coin : UtxoCoinFields)
    (format : AddressFormat) (buildOption : AddressBuilderOption) : Prop :=
  ∀ address, (coin.config.builder format buildOption).build crypto = .ok address →
    ∃ script back, outputScript address = .ok script ∧
      coin.addressesFromScript platform crypto script = .ok [back] ∧ back.Same address

/-! ## Building addresses -/

/-- The format of standard scripts before the prefixes are set. -/
def UtxoCoinFields.standardFormat (coin : UtxoCoinFields) : AddressFormat :=
  match coin.addressFormat with
  | .segwit => .standard
  | format => format

theorem addrFormatForStandardScripts_eq :
    coin.addrFormatForStandardScripts = coin.config.addressFormat coin.standardFormat := by
  rw [UtxoCoinFields.addrFormatForStandardScripts, UtxoCoinFields.defaultAddressFormat,
    UtxoCoinFields.standardFormat]
  cases coin.addressFormat <;> rfl

theorem standardFormat_ne_segwit : coin.standardFormat ≠ .segwit := by
  rw [UtxoCoinFields.standardFormat]
  cases coin.addressFormat <;> simp

theorem build_of_ne_segwit {config : CoinConfig} {format : AddressFormat}
    (h : format ≠ .segwit) (buildOption : AddressBuilderOption) :
    (config.builder format buildOption).build crypto =
      .ok (config.prefixed crypto format buildOption) := by
  cases format with
  | standard => exact build_standard config crypto buildOption
  | segwit => exact absurd rfl h
  | cashAddress network pubAddrPrefix p2shAddrPrefix =>
    exact build_cashAddress config crypto network pubAddrPrefix p2shAddrPrefix buildOption

/-- An address of a witness program. -/
def CoinConfig.segwitAddress (config : CoinConfig) (crypto : Bitcrypto)
    (buildOption : AddressBuilderOption) : Address where
  addressPrefix := AddressPrefix.default
  hrp := config.bech32Hrp
  hash := AddressBuilder.getHash crypto buildOption
  pubkey := AddressBuilder.getPubkey buildOption
  checksumType := config.checksumType
  addrFormat := .segwit
  scriptType := AddressBuilder.getSegwitScriptType buildOption

theorem build_segwit_of_some {config : CoinConfig} (hhrp : config.bech32Hrp ≠ none)
    {buildOption : AddressBuilderOption}
    (hhash : AddressBuilder.checkSegwitHash buildOption = .ok ()) :
    (config.builder .segwit buildOption).build crypto =
      .ok (config.segwitAddress crypto buildOption) := by
  obtain ⟨hrp, hsome⟩ := Option.ne_none_iff_exists'.mp hhrp
  have hcheck : (config.builder .segwit buildOption).checkSegwitHrp = .ok () := by
    have hbuilder : (config.builder .segwit buildOption).hrp = some hrp := hsome
    rw [AddressBuilder.checkSegwitHrp, hbuilder]
  change (do
    (config.builder .segwit buildOption).checkSegwitHrp
    AddressBuilder.checkSegwitHash buildOption
    pure (config.segwitAddress crypto buildOption)) = _
  rw [hcheck, hhash]
  rfl

theorem build_segwit_of_none {config : CoinConfig} (hhrp : config.bech32Hrp = none)
    (buildOption : AddressBuilderOption) :
    (config.builder .segwit buildOption).build crypto = .error "no hrp for address" := by
  have hbuilder : (config.builder .segwit buildOption).hrp = none := hhrp
  have hcheck : (config.builder .segwit buildOption).checkSegwitHrp =
      .error "no hrp for address" := by
    rw [AddressBuilder.checkSegwitHrp, hbuilder]
  change (do
    (config.builder .segwit buildOption).checkSegwitHrp
    AddressBuilder.checkSegwitHash buildOption
    pure (config.segwitAddress crypto buildOption)) = _
  rw [hcheck]
  rfl

/-! ### Addresses of destinations -/

theorem addressOf_p2pkh (hash : AddressHashEnum) :
    coin.addressOf crypto ⟨.p2pkh, hash⟩ =
      .ok (coin.config.prefixed crypto coin.standardFormat (.pubkeyHash hash)) := by
  have hbuilder : coin.builderOf ⟨.p2pkh, hash⟩ =
      coin.config.builder coin.standardFormat (.pubkeyHash hash) := by
    rw [CoinConfig.builder, ← addrFormatForStandardScripts_eq]
    rfl
  rw [UtxoCoinFields.addressOf, hbuilder, build_of_ne_segwit standardFormat_ne_segwit]

theorem addressOf_p2sh (hash : AddressHashEnum) :
    coin.addressOf crypto ⟨.p2sh, hash⟩ =
      .ok (coin.config.prefixed crypto coin.standardFormat (.scriptHash hash)) := by
  have hbuilder : coin.builderOf ⟨.p2sh, hash⟩ =
      coin.config.builder coin.standardFormat (.scriptHash hash) := by
    rw [CoinConfig.builder, ← addrFormatForStandardScripts_eq]
    rfl
  rw [UtxoCoinFields.addressOf, hbuilder, build_of_ne_segwit standardFormat_ne_segwit]

theorem addressOf_p2wpkh (hhrp : coin.config.bech32Hrp ≠ none) {hash : AddressHashEnum}
    (hhash : hash.isAddressHash = true) :
    coin.addressOf crypto ⟨.p2wpkh, hash⟩ =
      .ok (coin.config.segwitAddress crypto (.pubkeyHash hash)) := by
  have hcheck : AddressBuilder.checkSegwitHash (.pubkeyHash hash) = .ok () := if_pos hhash
  have hbuilder : coin.builderOf ⟨.p2wpkh, hash⟩ =
      coin.config.builder .segwit (.pubkeyHash hash) := rfl
  rw [UtxoCoinFields.addressOf, hbuilder, build_segwit_of_some hhrp hcheck]

theorem addressOf_p2wsh (hhrp : coin.config.bech32Hrp ≠ none) {hash : AddressHashEnum}
    (hhash : hash.isWitnessScriptHash = true) :
    coin.addressOf crypto ⟨.p2wsh, hash⟩ =
      .ok (coin.config.segwitAddress crypto (.scriptHash hash)) := by
  have hcheck : AddressBuilder.checkSegwitHash (.scriptHash hash) = .ok () := if_pos hhash
  have hbuilder : coin.builderOf ⟨.p2wsh, hash⟩ =
      coin.config.builder .segwit (.scriptHash hash) := rfl
  rw [UtxoCoinFields.addressOf, hbuilder, build_segwit_of_some hhrp hcheck]

/-- The builder has valid properties for what a script of a coin with a human readable part, or a
script that is no witness program, pays to. -/
theorem addressOf_of_destination
    (hhrp : coin.config.bech32Hrp = none → script.isPayToWitnessKeyHash ≠ some true ∧
      script.isPayToWitnessScriptHash ≠ some true)
    {dst : ScriptAddress} (h : script.Destination dst) :
    ∃ address, coin.addressOf crypto dst = .ok address := by
  obtain ⟨kind, hash⟩ := dst
  rcases h with h | h | ⟨h, hhash, hscript⟩ | ⟨h, hhash, hscript⟩
  · cases h
    exact ⟨_, addressOf_p2pkh hash⟩
  · cases h
    exact ⟨_, addressOf_p2sh hash⟩
  · cases h
    exact ⟨_, addressOf_p2wpkh (fun hnone => (hhrp hnone).1 hscript) hhash⟩
  · cases h
    exact ⟨_, addressOf_p2wsh (fun hnone => (hhrp hnone).2 hscript) hhash⟩

theorem mapM_addressOf {dsts : List ScriptAddress}
    (h : ∀ dst ∈ dsts, ∃ address, coin.addressOf crypto dst = .ok address) :
    ∃ addresses, dsts.mapM (coin.addressOf crypto) = .ok addresses := by
  induction dsts with
  | nil => exact ⟨[], rfl⟩
  | cons dst dsts ih =>
    rw [List.forall_mem_cons] at h
    obtain ⟨address, haddress⟩ := h.1
    obtain ⟨addresses, haddresses⟩ := ih h.2
    refine ⟨address :: addresses, ?_⟩
    rw [List.mapM_cons, haddress, haddresses]
    rfl

/-! ## Scripts that are got through -/

theorem addressesFromScript_ne_panic (htype : script.scriptType platform ≠ none)
    (hhrp : coin.config.bech32Hrp = none → script.isPayToWitnessKeyHash ≠ some true ∧
      script.isPayToWitnessScriptHash ≠ some true) :
    coin.addressesFromScript platform crypto script ≠ .error .panic := by
  rw [UtxoCoinFields.addressesFromScript]
  have hcases : (∃ dsts, script.extractDestinations platform crypto = .ok dsts ∧ _) ∨ _ :=
    extractDestinations_cases htype
  rcases hcases with ⟨dsts, hok, hdsts⟩ | ⟨e, he⟩
  · have hmap : ∃ addresses, dsts.mapM (coin.addressOf crypto) = .ok addresses :=
      mapM_addressOf fun dst hdst => addressOf_of_destination hhrp (hdsts dst hdst)
    obtain ⟨addresses, haddresses⟩ := hmap
    rw [hok]
    change dsts.mapM (coin.addressOf crypto) ≠ _
    rw [haddresses]
    simp
  · rw [he]
    intro h
    cases h

theorem extractDestinations_ne_panic (htype : script.scriptType platform ≠ none) :
    script.extractDestinations platform crypto ≠ .error .panic := by
  rcases extractDestinations_cases htype with ⟨dsts, hok, _⟩ | ⟨e, he⟩
  · rw [hok]
    simp
  · rw [he]
    simp

theorem analysed_of_readable (h : Readable platform coin script) :
    Analysed platform crypto coin script := by
  obtain ⟨instrs, hinstrs, hsigops, hkeys, hhrp⟩ := h
  have hmultisig : script.isMultisigScript platform ≠ none := by
    rw [Ne, isMultisigScript_eq_none_iff hinstrs]
    rintro ⟨hframe, hmany⟩
    exact absurd (hkeys hframe) (not_lt.mpr hmany)
  have htype := scriptType_ne_none hinstrs hmultisig
  constructor
  · exact htype
  · exact hmultisig
  · intro serialized
    exact sigopsFrom_ne_none hinstrs serialized _ _ (by rwa [Nat.zero_add])
  · exact extractDestinations_ne_panic htype
  · exact addressesFromScript_ne_panic htype hhrp
  · exact ends_instructions hinstrs
  · exact ends_opcodes hinstrs

/-! ### Witness programs -/

theorem hashAt_of_length {kind : AddressScriptType} {start stop : ℕ} (hle : start ≤ stop)
    (hstop : stop ≤ script.length) (hlength : stop - start = 20) :
    ∃ hash, slice script start stop = .ok hash.val ∧
      script.hashAt kind start stop = .ok ⟨kind, .addressHash hash⟩ := by
  obtain ⟨bytes, hslice, hbytes⟩ := slice_of_le hle hstop
  rw [hlength] at hbytes
  refine ⟨⟨bytes, hbytes⟩, hslice, ?_⟩
  simp only [hashAt, hslice]
  exact dif_pos hbytes

theorem witnessHashAt_of_length {start stop : ℕ} (hle : start ≤ stop)
    (hstop : stop ≤ script.length) (hlength : stop - start = 32) :
    ∃ hash, slice script start stop = .ok hash.val ∧
      script.witnessHashAt start stop = .ok ⟨.p2wsh, .witnessScriptHash hash⟩ := by
  obtain ⟨bytes, hslice, hbytes⟩ := slice_of_le hle hstop
  rw [hlength] at hbytes
  refine ⟨⟨bytes, hbytes⟩, hslice, ?_⟩
  simp only [witnessHashAt, hslice]
  exact dif_pos hbytes

/-- One destination makes one address. -/
theorem addressesFromScript_of_one {dst : ScriptAddress}
    (h : script.extractDestinations platform crypto = .ok [dst]) :
    coin.addressesFromScript platform crypto script =
      (coin.addressOf crypto dst).map fun address => [address] := by
  rw [UtxoCoinFields.addressesFromScript, h]
  change [dst].mapM (coin.addressOf crypto) = _
  rw [List.mapM_cons]
  cases coin.addressOf crypto dst <;> rfl

theorem extractDestinations_witnessKey (h : script.isPayToWitnessKeyHash = some true) :
    ∃ hash : H160, slice script 2 22 = .ok hash.val ∧
      script.extractDestinations platform crypto = .ok [⟨.p2wpkh, .addressHash hash⟩] := by
  obtain ⟨hlength, _, _⟩ := witnessKey_places h
  have hfound : ∃ hash : H160, slice script 2 22 = .ok hash.val ∧
      script.hashAt .p2wpkh 2 22 = .ok ⟨.p2wpkh, .addressHash hash⟩ :=
    hashAt_of_length (by omega) hlength.ge rfl
  obtain ⟨hash, hslice, hhash⟩ := hfound
  refine ⟨hash, hslice, ?_⟩
  simp only [extractDestinations, scriptType_witnessKey h, hhash]
  rfl

theorem extractDestinations_witnessScript (h : script.isPayToWitnessScriptHash = some true) :
    ∃ hash : H256, slice script 2 34 = .ok hash.val ∧
      script.extractDestinations platform crypto = .ok [⟨.p2wsh, .witnessScriptHash hash⟩] := by
  obtain ⟨hlength, _, _⟩ := witnessScript_places h
  have hfound : ∃ hash : H256, slice script 2 34 = .ok hash.val ∧
      script.witnessHashAt 2 34 = .ok ⟨.p2wsh, .witnessScriptHash hash⟩ :=
    witnessHashAt_of_length (by omega) hlength.ge rfl
  obtain ⟨hash, hslice, hhash⟩ := hfound
  refine ⟨hash, hslice, ?_⟩
  simp only [extractDestinations, scriptType_witnessScript h, hhash]
  rfl

/-- The builder of a coin without a human readable part fails on a witness program. -/
theorem addressOf_of_none (hhrp : coin.config.bech32Hrp = none) {dst : ScriptAddress}
    (h : dst.kind = .p2wpkh ∨ dst.kind = .p2wsh) :
    coin.addressOf crypto dst = .error .panic := by
  obtain ⟨kind, hash⟩ := dst
  cases h with
  | inl hkind =>
    cases hkind
    have hbuilder : coin.builderOf ⟨.p2wpkh, hash⟩ =
        coin.config.builder .segwit (.pubkeyHash hash) := rfl
    rw [UtxoCoinFields.addressOf, hbuilder, build_segwit_of_none hhrp]
  | inr hkind =>
    cases hkind
    have hbuilder : coin.builderOf ⟨.p2wsh, hash⟩ =
        coin.config.builder .segwit (.scriptHash hash) := rfl
    rw [UtxoCoinFields.addressOf, hbuilder, build_segwit_of_none hhrp]

theorem readable_of_analysed (h : Analysed platform crypto coin script) :
    Readable platform coin script := by
  obtain ⟨instrs, hinstrs⟩ := exists_of_ends h.opcodes
  have hpos : 0 < platform.usizeLimit := by cases platform <;> decide
  refine ⟨instrs, hinstrs, ?_, ?_, ?_⟩
  · have hbound := bound_of_sigopsFrom hinstrs Opcode.op0 0 hpos (h.sigopsCount false)
    rwa [Nat.zero_add] at hbound
  · intro hframe
    by_contra hmany
    exact h.isMultisigScript
      ((isMultisigScript_eq_none_iff hinstrs).mpr ⟨hframe, not_lt.mp hmany⟩)
  · intro hhrp
    constructor
    · intro hwitness
      apply h.addressesFromScript
      obtain ⟨hash, _, hdst⟩ := extractDestinations_witnessKey hwitness
      rw [addressesFromScript_of_one hdst, addressOf_of_none hhrp (.inl rfl)]
      rfl
    · intro hwitness
      apply h.addressesFromScript
      obtain ⟨hash, _, hdst⟩ := extractDestinations_witnessScript hwitness
      rw [addressesFromScript_of_one hdst, addressOf_of_none hhrp (.inr rfl)]
      rfl

/-! ## Addresses from their own scripts -/

theorem pushHeader_of_hash (hash : AddressHashEnum) :
    Builder.pushHeader hash.toVec.length = [UInt8.ofNat hash.toVec.length] := by
  cases hash with
  | addressHash hash =>
    rw [AddressHashEnum.toVec, hash.property]
    rfl
  | witnessScriptHash hash =>
    rw [AddressHashEnum.toVec, hash.property]
    rfl

theorem p2pkhOf_eq (hash : AddressHashEnum) :
    Builder.p2pkhOf hash = [0x76, 0xa9, UInt8.ofNat hash.toVec.length] ++ hash.toVec ++
      [0x88, 0xac] := by
  change ([0x76, 0xa9] ++ (Builder.pushHeader hash.toVec.length ++ hash.toVec) ++ [0x88]) ++
    [0xac] = _
  rw [pushHeader_of_hash]
  simp

theorem p2shOf_eq (hash : AddressHashEnum) :
    Builder.p2shOf hash = [0xa9, UInt8.ofNat hash.toVec.length] ++ hash.toVec ++ [0x87] := by
  change [0xa9] ++ (Builder.pushHeader hash.toVec.length ++ hash.toVec) ++ [0x87] = _
  rw [pushHeader_of_hash]
  simp

/-- Of the standard types a script that starts like this can only be one of two. -/
theorem scriptType_of_first {first : Opcode} (hfirst : script[0]? = some first)
    (hkey : first.isKeyPush = false) (hnumber : first.isWithinOpN = false)
    (h0 : first ≠ Opcode.op0) (hreturn : first ≠ Opcode.opReturn) {isKeyHash isScriptHash : Bool}
    (hkeyHash : script.isPayToPublicKeyHash = some isKeyHash)
    (hscriptHash : script.isPayToScriptHash = some isScriptHash) :
    script.scriptType platform =
      some (if isKeyHash then .pubKeyHash else if isScriptHash then .scriptHash
        else .nonStandard) := by
  have hwitnessKey : script.isPayToWitnessKeyHash = some false := by
    obtain ⟨b, hb⟩ := Option.ne_none_iff_exists'.mp script.isPayToWitnessKeyHash_ne_none
    cases b with
    | true => exact absurd (Option.some.inj (hfirst.symm.trans (witnessKey_places hb).2.1)) h0
    | false => exact hb
  have hwitnessScript : script.isPayToWitnessScriptHash = some false := by
    obtain ⟨b, hb⟩ := Option.ne_none_iff_exists'.mp script.isPayToWitnessScriptHash_ne_none
    cases b with
    | true => exact absurd (Option.some.inj (hfirst.symm.trans (witnessScript_places hb).2.1)) h0
    | false => exact hb
  simp [scriptType, isPayToPublicKey_of_first hfirst hkey,
    isMultisigScript_of_first hfirst h0 hnumber, isNullDataScript_of_first hfirst hreturn,
    hwitnessKey, hwitnessScript, hkeyHash, hscriptHash]
  split
  · rfl
  · split <;> rfl

/-- The hash between some bytes. -/
theorem hashAt_append (kind : AddressScriptType) (front back : Bytes) (hash : H160) :
    Script.hashAt (front ++ hash.val ++ back) kind front.length (front.length + 20) =
      .ok ⟨kind, .addressHash hash⟩ := by
  have hslice := slice_append front hash.val back
  rw [hash.property] at hslice
  simp only [hashAt, hslice]
  exact dif_pos hash.property

theorem extractDestinations_p2pkh (hash : H160) :
    Script.extractDestinations platform (Builder.p2pkhOf (.addressHash hash)) crypto =
      .ok [⟨.p2pkh, .addressHash hash⟩] := by
  have hlength := hash.property
  have hscript : Builder.p2pkhOf (.addressHash hash) =
      [0x76, 0xa9, 0x14] ++ hash.val ++ [0x88, 0xac] := by
    rw [p2pkhOf_eq, AddressHashEnum.toVec, hlength]
    rfl
  rw [hscript]
  have hkeyHash : Script.isPayToPublicKeyHash ([0x76, 0xa9, 0x14] ++ hash.val ++ [0x88, 0xac]) =
      some true := by
    rw [Script.isPayToPublicKeyHash, if_pos (by simp [hlength]), hasBytes_eq_true]
    simp [hlength]
  have hscriptHash : Script.isPayToScriptHash ([0x76, 0xa9, 0x14] ++ hash.val ++ [0x88, 0xac]) =
      some false :=
    if_neg (by simp [hlength])
  have hfirst : ([0x76, 0xa9, 0x14] ++ hash.val ++ [0x88, 0xac])[0]? = some 0x76 := rfl
  have htype : Script.scriptType platform _ = some .pubKeyHash :=
    scriptType_of_first hfirst (by decide) (by decide) (by decide) (by decide) hkeyHash hscriptHash
  have hhash : Script.hashAt ([0x76, 0xa9, 0x14] ++ hash.val ++ [0x88, 0xac]) .p2pkh 3 23 = _ :=
    hashAt_append .p2pkh [0x76, 0xa9, 0x14] [0x88, 0xac] hash
  simp only [extractDestinations, htype, hhash]
  rfl

theorem extractDestinations_p2sh (hash : H160) :
    Script.extractDestinations platform (Builder.p2shOf (.addressHash hash)) crypto =
      .ok [⟨.p2sh, .addressHash hash⟩] := by
  have hlength := hash.property
  have hscript : Builder.p2shOf (.addressHash hash) = [0xa9, 0x14] ++ hash.val ++ [0x87] := by
    rw [p2shOf_eq, AddressHashEnum.toVec, hlength]
    rfl
  rw [hscript]
  have hkeyHash : Script.isPayToPublicKeyHash ([0xa9, 0x14] ++ hash.val ++ [0x87]) =
      some false :=
    if_neg (by simp [hlength])
  have hscriptHash : Script.isPayToScriptHash ([0xa9, 0x14] ++ hash.val ++ [0x87]) =
      some true := by
    rw [Script.isPayToScriptHash, if_pos (by simp [hlength]), hasBytes_eq_true]
    simp [hlength]
  have hfirst : ([0xa9, 0x14] ++ hash.val ++ [0x87])[0]? = some 0xa9 := rfl
  have htype : Script.scriptType platform _ = some .scriptHash :=
    scriptType_of_first hfirst (by decide) (by decide) (by decide) (by decide) hkeyHash hscriptHash
  have hhash : Script.hashAt ([0xa9, 0x14] ++ hash.val ++ [0x87]) .p2sh 2 22 = _ :=
    hashAt_append .p2sh [0xa9, 0x14] [0x87] hash
  simp only [extractDestinations, htype, hhash]
  rfl

/-- A standard script of a hash of 32 bytes pays to nobody. -/
theorem extractDestinations_p2pkh_long (hash : H256) :
    Script.extractDestinations platform (Builder.p2pkhOf (.witnessScriptHash hash)) crypto =
      .ok [] := by
  have hlength : (Builder.p2pkhOf (.witnessScriptHash hash)).length = 37 := by
    rw [p2pkhOf_eq]
    simp [AddressHashEnum.toVec, hash.property]
  have hfirst : (Builder.p2pkhOf (.witnessScriptHash hash))[0]? = some 0x76 := rfl
  have htype : Script.scriptType platform _ = some .nonStandard :=
    scriptType_of_first hfirst (by decide) (by decide) (by decide) (by decide)
      (if_neg (by omega)) (if_neg (by omega))
  simp only [extractDestinations, htype]

theorem extractDestinations_p2sh_long (hash : H256) :
    Script.extractDestinations platform (Builder.p2shOf (.witnessScriptHash hash)) crypto =
      .ok [] := by
  have hlength : (Builder.p2shOf (.witnessScriptHash hash)).length = 35 := by
    rw [p2shOf_eq]
    simp [AddressHashEnum.toVec, hash.property]
  have hfirst : (Builder.p2shOf (.witnessScriptHash hash))[0]? = some 0xa9 := rfl
  have htype : Script.scriptType platform _ = some .nonStandard :=
    scriptType_of_first hfirst (by decide) (by decide) (by decide) (by decide)
      (if_neg (by omega)) (if_neg (by omega))
  simp only [extractDestinations, htype]

/-- The scripts of witness programs. -/
theorem extractDestinations_p2wpkh (hash : H160) :
    ∃ script, Builder.buildP2wpkh (.addressHash hash) = .ok script ∧
      script.extractDestinations platform crypto = .ok [⟨.p2wpkh, .addressHash hash⟩] := by
  refine ⟨[0x00, 0x14] ++ hash.val ++ [], ?_, ?_⟩
  · rw [Builder.buildP2wpkh]
    change Except.ok ([0x00] ++ (Builder.pushHeader hash.val.length ++ hash.val)) = _
    rw [hash.property, List.append_nil]
    rfl
  · have hlength := hash.property
    have hwitness : Script.isPayToWitnessKeyHash ([0x00, 0x14] ++ hash.val ++ []) = some true := by
      rw [Script.isPayToWitnessKeyHash, if_pos (by simp [hlength]), hasBytes_eq_true]
      simp
    have hhash : Script.hashAt ([0x00, 0x14] ++ hash.val ++ []) .p2wpkh 2 22 = _ :=
      hashAt_append .p2wpkh [0x00, 0x14] [] hash
    simp only [extractDestinations, scriptType_witnessKey hwitness, hhash]
    rfl

theorem extractDestinations_p2wsh (hash : H256) :
    ∃ script, Builder.buildP2wsh (.witnessScriptHash hash) = .ok script ∧
      script.extractDestinations platform crypto = .ok [⟨.p2wsh, .witnessScriptHash hash⟩] := by
  refine ⟨[0x00, 0x20] ++ hash.val ++ [], ?_, ?_⟩
  · rw [Builder.buildP2wsh]
    change Except.ok ([0x00] ++ (Builder.pushHeader hash.val.length ++ hash.val)) = _
    rw [hash.property, List.append_nil]
    rfl
  · have hlength := hash.property
    have hwitness : Script.isPayToWitnessScriptHash ([0x00, 0x20] ++ hash.val ++ []) =
        some true := by
      rw [Script.isPayToWitnessScriptHash, if_pos (by simp [hlength]), hasBytes_eq_true]
      simp
    have hslice := slice_append [0x00, 0x20] hash.val []
    rw [hlength] at hslice
    have hhash : Script.witnessHashAt ([0x00, 0x20] ++ hash.val ++ []) 2 34 =
        .ok ⟨.p2wsh, .witnessScriptHash hash⟩ := by
      rw [witnessHashAt, show slice _ 2 34 = _ from hslice]
      exact dif_pos hlength
    simp only [extractDestinations, scriptType_witnessScript hwitness, hhash]
    rfl

/-! ### Addresses that come back -/

/-- What an address with a prefix pays to. -/
theorem addressesFromScript_prefixed (config : CoinConfig) (format : AddressFormat)
    {buildOption : AddressBuilderOption} {hash : H160} (hcoin : coin.config = config)
    (hhash : AddressBuilder.getHash crypto buildOption = .addressHash hash) :
    ∃ script, outputScript (config.prefixed crypto format buildOption) = .ok script ∧
      coin.addressesFromScript platform crypto script =
        .ok [config.prefixed crypto coin.standardFormat
          (if buildOption.isScript then .scriptHash (.addressHash hash)
            else .pubkeyHash (.addressHash hash))] := by
  cases hcoin
  cases hscript : buildOption.isScript with
  | true =>
    refine ⟨Builder.p2shOf (.addressHash hash), ?_, ?_⟩
    · simp [outputScript, CoinConfig.prefixed, hscript, hhash]
    · rw [addressesFromScript_of_one (extractDestinations_p2sh hash), addressOf_p2sh]
      rfl
  | false =>
    refine ⟨Builder.p2pkhOf (.addressHash hash), ?_, ?_⟩
    · simp [outputScript, CoinConfig.prefixed, hscript, hhash]
    · rw [addressesFromScript_of_one (extractDestinations_p2pkh hash), addressOf_p2pkh]
      rfl

/-- A hash of 32 bytes is lost in a standard script. -/
theorem addressesFromScript_prefixed_long {format : AddressFormat}
    {buildOption : AddressBuilderOption} {hash : H256}
    (hhash : AddressBuilder.getHash crypto buildOption = .witnessScriptHash hash)
    {script : Script}
    (hscript : outputScript (coin.config.prefixed crypto format buildOption) = .ok script) :
    coin.addressesFromScript platform crypto script = .ok [] := by
  have hdst : script.extractDestinations platform crypto = .ok [] := by
    cases hkind : buildOption.isScript with
    | true =>
      simp only [outputScript, CoinConfig.prefixed, hkind, hhash, if_true,
        Except.ok.injEq] at hscript
      rw [← hscript]
      exact extractDestinations_p2sh_long hash
    | false =>
      simp only [outputScript, CoinConfig.prefixed, hkind, hhash, Bool.false_eq_true, if_false,
        Except.ok.injEq] at hscript
      rw [← hscript]
      exact extractDestinations_p2pkh_long hash
  rw [UtxoCoinFields.addressesFromScript, hdst]
  rfl

theorem of_build_segwit {config : CoinConfig} {buildOption : AddressBuilderOption}
    {address : Address} (h : (config.builder .segwit buildOption).build crypto = .ok address) :
    config.bech32Hrp ≠ none ∧ AddressBuilder.checkSegwitHash buildOption = .ok () ∧
      address = config.segwitAddress crypto buildOption := by
  by_cases hhrp : config.bech32Hrp = none
  · rw [build_segwit_of_none hhrp] at h
    cases h
  · cases hcheck : AddressBuilder.checkSegwitHash buildOption with
    | ok =>
      rw [build_segwit_of_some hhrp hcheck] at h
      cases h
      exact ⟨hhrp, rfl, rfl⟩
    | error e =>
      obtain ⟨hrp, hsome⟩ := Option.ne_none_iff_exists'.mp hhrp
      have hbuilder : (config.builder .segwit buildOption).hrp = some hrp := hsome
      change (do
        (config.builder .segwit buildOption).checkSegwitHrp
        AddressBuilder.checkSegwitHash buildOption
        pure (config.segwitAddress crypto buildOption)) = _ at h
      rw [AddressBuilder.checkSegwitHrp, hbuilder, hcheck] at h
      cases h

/-- The address of a witness program comes back. -/
theorem readBack_segwit (buildOption : AddressBuilderOption) :
    ReadBack platform crypto coin .segwit buildOption := by
  intro address hbuild
  obtain ⟨hhrp, hcheck, rfl⟩ := of_build_segwit hbuild
  cases buildOption with
  | pubkeyHash hash =>
    cases hash with
    | addressHash hash =>
      obtain ⟨script, hscript, hdst⟩ := extractDestinations_p2wpkh hash
      refine ⟨script, _, hscript, ?_, ⟨rfl, rfl, rfl, rfl, rfl, rfl⟩⟩
      rw [addressesFromScript_of_one hdst, addressOf_p2wpkh hhrp rfl]
      rfl
    | witnessScriptHash hash => cases hcheck
  | scriptHash hash =>
    cases hash with
    | addressHash hash => cases hcheck
    | witnessScriptHash hash =>
      obtain ⟨script, hscript, hdst⟩ := extractDestinations_p2wsh hash
      refine ⟨script, _, hscript, ?_, ⟨rfl, rfl, rfl, rfl, rfl, rfl⟩⟩
      rw [addressesFromScript_of_one hdst, addressOf_p2wsh hhrp rfl]
      rfl
  | fromPubKey pubkey =>
    obtain ⟨script, hscript, hdst⟩ := extractDestinations_p2wpkh (crypto.dhash160 pubkey.val)
    -- the key itself is not told
    refine ⟨script, coin.config.segwitAddress crypto
      (.pubkeyHash (.addressHash (crypto.dhash160 pubkey.val))), hscript, ?_,
      ⟨rfl, rfl, rfl, rfl, rfl, rfl⟩⟩
    rw [addressesFromScript_of_one hdst, addressOf_p2wpkh hhrp rfl]
    rfl

/-- The key does not count. -/
theorem prefixed_same {config : CoinConfig} {format format' : AddressFormat}
    {buildOption buildOption' : AddressBuilderOption}
    (hkind : buildOption'.isScript = buildOption.isScript)
    (hhash : AddressBuilder.getHash crypto buildOption' =
      AddressBuilder.getHash crypto buildOption)
    (hformat : config.addressFormat format' = config.addressFormat format) :
    (config.prefixed crypto format' buildOption').Same
      (config.prefixed crypto format buildOption) := by
  refine ⟨?_, rfl, hhash, rfl, hformat, ?_⟩
  · simp [CoinConfig.prefixed, CoinConfig.prefixFor, hkind]
  · simp [CoinConfig.prefixed, hkind]

/-- An address with a prefix comes back when its hash has 20 bytes and its format is the one that
the coin has for standard scripts. -/
theorem readBack_prefixed_iff {format : AddressFormat} (hformat : format ≠ .segwit)
    (buildOption : AddressBuilderOption) :
    ReadBack platform crypto coin format buildOption ↔
      (AddressBuilder.getHash crypto buildOption).isAddressHash = true ∧
        coin.config.addressFormat format = coin.addrFormatForStandardScripts := by
  have hbuild : (coin.config.builder format buildOption).build crypto =
      .ok (coin.config.prefixed crypto format buildOption) :=
    build_of_ne_segwit hformat buildOption
  cases hhash : AddressBuilder.getHash crypto buildOption with
  | witnessScriptHash hash =>
    constructor
    · intro hback
      obtain ⟨script, back, hscript, haddresses, _⟩ := hback _ hbuild
      rw [addressesFromScript_prefixed_long hhash hscript] at haddresses
      cases haddresses
    · intro h
      cases h.1
  | addressHash hash =>
    have hown : ∃ script, outputScript (coin.config.prefixed crypto format buildOption) =
        .ok script ∧ coin.addressesFromScript platform crypto script = .ok [_] :=
      addressesFromScript_prefixed coin.config format rfl hhash
    obtain ⟨script, hscript, haddresses⟩ := hown
    rw [addrFormatForStandardScripts_eq]
    constructor
    · intro hback
      obtain ⟨script', back, hscript', haddresses', hsame⟩ := hback _ hbuild
      rw [hscript] at hscript'
      cases hscript'
      rw [haddresses] at haddresses'
      cases haddresses'
      exact ⟨rfl, hsame.2.2.2.2.1.symm⟩
    · intro hsame address haddress
      rw [hbuild] at haddress
      cases haddress
      refine ⟨script, _, hscript, haddresses, prefixed_same ?_ ?_ hsame.2.symm⟩
      · cases hkind : buildOption.isScript <;> rfl
      · rw [hhash]
        cases hkind : buildOption.isScript <;> rfl

theorem readBack_iff (format : AddressFormat) (buildOption : AddressBuilderOption) :
    ReadBack platform crypto coin format buildOption ↔
      format = .segwit ∨ ((AddressBuilder.getHash crypto buildOption).isAddressHash = true ∧
        coin.config.addressFormat format = coin.addrFormatForStandardScripts) := by
  by_cases hformat : format = .segwit
  · subst hformat
    exact iff_of_true (readBack_segwit buildOption) (.inl rfl)
  · rw [readBack_prefixed_iff hformat, or_iff_right hformat]

/-! ## When scripts are analysed -/

/-- A script is got through exactly when all of its instructions can be read, its signature
operations fit, no multisig has 256 keys in a row, and no witness program is paid to where the
coin has no human readable part. An address comes back from its output script exactly when it is
one of a witness program, or has a hash of 20 bytes and the format of the coin's standard
scripts. -/
theorem scripts_analysed_iff (platform : Platform) (crypto : Bitcrypto)
    (coin : UtxoCoinFields) :
    (∀ script : HeldScript platform,
      Analysed platform crypto coin script.data ↔ Readable platform coin script.data) ∧
    (∀ format buildOption, ReadBack platform crypto coin format buildOption ↔
      format = .segwit ∨ ((AddressBuilder.getHash crypto buildOption).isAddressHash = true ∧
        coin.config.addressFormat format = coin.addrFormatForStandardScripts)) :=
  ⟨fun _ => ⟨readable_of_analysed, analysed_of_readable⟩, readBack_iff⟩

/-- A coin without a human readable part. -/
def plainCoin : UtxoCoinFields where
  config :=
    { ticker := "RICK", pubtype := some 60, p2shtype := some 85, taddr := none
      bech32Hrp := none }
  addressFormat := .standard

def zeroHashes : Bitcrypto where
  sha256 _ := ⟨List.replicate 32 0, length_zeros32⟩
  ripemd160 _ := ⟨List.replicate 20 0, length_zeros20⟩

/-- A payment to a witness key is enough. -/
theorem witness_key_panics :
    ¬ Analysed .bits64 zeroHashes plainCoin (0x00 :: 0x14 :: List.replicate 20 0) := by
  intro h
  have hwitness : Script.isPayToWitnessKeyHash (0x00 :: 0x14 :: List.replicate 20 0) =
      some true := by decide
  apply h.addressesFromScript
  obtain ⟨hash, _, hdst⟩ := extractDestinations_witnessKey hwitness
  rw [addressesFromScript_of_one hdst, addressOf_of_none rfl (.inl rfl)]
  rfl

end DeXFG.Utxo
