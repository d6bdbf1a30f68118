import DeXFG.Utxo.SlpCodec

/-!
# What becomes of an SLP script

Which descriptions of a token are read from the script that is written for them, and that the
amounts of a transfer always are.
-/
namespace DeXFG.Utxo.Slp
open Library Library.Reading Library.Utf8

variable {s' : Input ChainVariant} {context : ChainVariant} {canonical : Bool}
  {data rest : Bytes}

/-! ## The fields of a token -/

theorem ofNat_ne_opPushdata1 {n : ℕ} (h : n ≤ 75) : UInt8.ofNat n ≠ Opcode.opPushdata1 := by
  intro heq
  have hnat := congrArg UInt8.toNat heq
  rw [UInt8.toNat_ofNat_of_lt' (by norm_num; omega)] at hnat
  have : Opcode.opPushdata1.toNat = 76 := rfl
  omega

/-- Behind the opcode for long data there is a text like any other. -/
theorem reads_url_long {bytes : Bytes} {string : String} (h : Reads text bytes string) :
    Reads tokenDocumentUrl (Opcode.opPushdata1 :: bytes) string :=
  (reads_u8 Opcode.opPushdata1).bind h

theorem reads_url (url : String) (h : (asBytes url).length ≤ 0xfc) :
    Reads tokenDocumentUrl (pushBytes (asBytes url)) url := by
  by_cases hshort : (asBytes url).length ≤ 75
  · rw [pushBytes_of_short hshort]
    apply (reads_u8 (UInt8.ofNat (asBytes url).length)).bind
    rw [if_neg (ofNat_ne_opPushdata1 hshort)]
    intro rest context canonical
    have hnat : (UInt8.ofNat (asBytes url).length).toNat = (asBytes url).length :=
      UInt8.toNat_ofNat_of_lt' (by norm_num; omega)
    rw [hnat]
    apply (run_bind_of_ok (Reads.takeBytes _ (asBytes url) rest context canonical)).trans
    have hdecode : Utf8.decode (asBytes url) = some url := Utf8.decode_encode url
    rw [hdecode]
    rfl
  · rw [pushBytes_of_long (by omega) (by omega)]
    exact reads_url_long (reads_asBytes _ h)

theorem reads_hash_long {bytes : Bytes} {hash : Bytes} (h : Reads byteList bytes hash) :
    Reads tokenDocumentHash (Opcode.opPushdata1 :: bytes) hash :=
  (reads_u8 Opcode.opPushdata1).bind h

theorem reads_hash (h : data.length ≤ 75) : Reads tokenDocumentHash (chunk data) data := by
  apply (reads_u8 (UInt8.ofNat data.length)).bind
  rw [if_neg (ofNat_ne_opPushdata1 h), UInt8.toNat_ofNat_of_lt' (by norm_num; omega)]
  exact Reads.takeBytes _ data

theorem reads_mintBatonVout (vout : UInt8) : Reads mintBatonVout (chunk [vout]) (some vout) := by
  apply (reads_u8 (UInt8.ofNat [vout].length)).bind
  rw [if_neg (ofNat_ne_opPushdata1 (by simp))]
  exact (reads_u8 vout).map some

theorem reads_noMintBaton :
    Reads mintBatonVout [Opcode.opPushdata1, Opcode.op0] none :=
  (reads_u8 Opcode.opPushdata1).bind ((reads_u8 Opcode.op0).map fun _ => none)

@[simp] theorem length_toBeBytes (n : UInt64) : (toBeBytes n).length = 8 := by
  simp [toBeBytes]

@[simp] theorem fromBeBytes_toBeBytes (n : UInt64) : fromBeBytes (toBeBytes n) = n := by
  rw [fromBeBytes, toBeBytes, List.reverse_reverse, leNat_leBytes n.toNat_lt,
    UInt64.ofNat_toNat]

theorem reads_quantity (n : UInt64) : Reads quantity (chunk (toBeBytes n)) n := by
  intro rest context canonical
  rw [quantity, run_bind_of_ok (reads_byteList _ (by simp) rest context canonical),
    if_neg (by simp), fromBeBytes_toBeBytes, run_pure]

theorem reads_tokenId (id : H256) : Reads tokenId (chunk id.val) id := by
  intro rest context canonical
  have hlength : id.val.length ≤ 0xfc := by
    rw [id.property]
    norm_num
  rw [tokenId, run_bind_of_ok (reads_byteList _ hlength rest context canonical),
    dif_pos id.property, run_pure]

/-! ## The front of a script -/

theorem data_header (kind : String) :
    (header kind).data = Opcode.opReturn ::
      (chunk (asBytes slpLokadId) ++ (chunk [slpFungible] ++ pushBytes (asBytes kind))) :=
  rfl

/-- A script of this front is read as what the transaction behind it is. -/
theorem parseSlpScript_header (kind : String) (body : Bytes) (transaction' : SlpTransaction) :
    (parseSlpScript ((header kind).data ++ body)).map SlpTxDetails.transaction =
        .ok transaction' ↔
      ∃ s', transaction.run ⟨pushBytes (asBytes kind) ++ body, .standard, true⟩ =
        .ok (transaction', s') ∧ s'.buffer = [] := by
  have hfront : ∀ rest, details.run ⟨Opcode.opReturn ::
      (chunk (asBytes slpLokadId) ++ (chunk [slpFungible] ++ rest)), .standard, true⟩ =
      (do let transaction ← transaction
          pure (⟨Opcode.opReturn, slpLokadId, [slpFungible], transaction⟩ : SlpTxDetails) :
            Reader SlpTxDetails).run ⟨rest, .standard, true⟩ := by
    intro rest
    rw [details]
    apply (run_bind_of_ok (reads_u8 Opcode.opReturn _ _ _)).trans
    apply (run_bind_of_ok (reads_asBytes slpLokadId (by decide) _ _ _)).trans
    exact run_bind_of_ok (reads_byteList [slpFungible] (by decide) _ _ _)
  have hscript : (header kind).data ++ body = Opcode.opReturn ::
      (chunk (asBytes slpLokadId) ++ (chunk [slpFungible] ++
        (pushBytes (asBytes kind) ++ body))) := by
    rw [data_header]
    simp only [List.cons_append, List.append_assoc]
  rw [parseSlpScript, deserialize, hscript, hfront]
  cases hrun : transaction.run ⟨pushBytes (asBytes kind) ++ body, .standard, true⟩ with
  | error e =>
    rw [run_bind_of_error hrun]
    constructor
    · intro h
      cases h
    · intro h
      obtain ⟨s', hs', _⟩ := h
      cases hs'
  | ok result =>
    obtain ⟨found, s'⟩ := result
    rw [run_bind_of_ok hrun, run_pure]
    by_cases hempty : s'.buffer = []
    · simp only [hempty, if_true]
      have hcode : ¬ Opcode.fromU8 Opcode.opReturn ≠ some Opcode.opReturn := by decide
      rw [if_neg hcode, if_neg (by simp), if_neg (by simp)]
      constructor
      · intro h
        cases h
        exact ⟨s', rfl, hempty⟩
      · intro h
        obtain ⟨_, hs', _⟩ := h
        cases hs'
        rfl
    · simp only [hempty, if_false]
      constructor
      · intro h
        cases h
      · intro h
        obtain ⟨_, hs', hbuffer⟩ := h
        cases hs'
        exact absurd hbuffer hempty

/-! ## Transfers -/

theorem data_foldl_pushData {α : Type} (f : α → Bytes) (xs : List α) (b : Builder) :
    (xs.foldl (fun builder x => builder.pushData (f x)) b).data =
      b.data ++ xs.flatMap fun x => pushBytes (f x) := by
  induction xs generalizing b with
  | nil => simp
  | cons x xs ih =>
    rw [List.foldl_cons, ih, List.flatMap_cons, ← List.append_assoc]
    rfl

theorem pushBytes_amount (amount : UInt64) :
    pushBytes (toBeBytes amount) = chunk (toBeBytes amount) :=
  pushBytes_of_short (by simp)

/-- The loop reads amounts up to the end of the script. -/
theorem run_amountsUpTo {amounts : List UInt64} {fuel : ℕ} (h : amounts.length < fuel) :
    (amountsUpTo fuel).run
        ⟨amounts.flatMap fun amount => pushBytes (toBeBytes amount), context, canonical⟩ =
      .ok (amounts, ⟨[], context, canonical⟩) := by
  induction amounts generalizing fuel with
  | nil =>
    obtain ⟨fuel, rfl⟩ := Nat.exists_eq_succ_of_ne_zero (Nat.ne_of_gt h)
    rfl
  | cons amount amounts ih =>
    obtain ⟨fuel, rfl⟩ := Nat.exists_eq_succ_of_ne_zero (Nat.ne_of_gt (Nat.zero_lt_of_lt h))
    have hmore : ∀ rest, Reader.isFinished.run ⟨chunk (toBeBytes amount) ++ rest, context,
        canonical⟩ = .ok (false, ⟨chunk (toBeBytes amount) ++ rest, context, canonical⟩) :=
      fun rest => rfl
    rw [List.flatMap_cons, pushBytes_amount, amountsUpTo, run_bind_of_ok (hmore _),
      if_neg Bool.false_ne_true,
      run_bind_of_ok (reads_quantity amount _ _ _), run_bind_of_ok (ih (Nat.lt_of_succ_lt_succ h)),
      run_pure]

theorem run_sendAmounts {amounts : List UInt64} (h : amounts.length ≤ 19) :
    sendAmounts.run
        ⟨amounts.flatMap fun amount => pushBytes (toBeBytes amount), context, canonical⟩ =
      .ok (amounts, ⟨[], context, canonical⟩) := by
  have hfuel : amounts.length ≤
      (amounts.flatMap fun amount => pushBytes (toBeBytes amount)).length := by
    rw [List.length_flatMap]
    apply le_trans _ (List.length_le_sum_of_one_le _ _)
    · rw [List.length_map]
    · intro n hn
      obtain ⟨amount, _, rfl⟩ := List.mem_map.mp hn
      rw [pushBytes_amount]
      simp [chunk]
  have hread : Slp.amounts.run
      ⟨amounts.flatMap fun amount => pushBytes (toBeBytes amount), context, canonical⟩ =
      .ok (amounts, ⟨[], context, canonical⟩) :=
    run_amountsUpTo (Nat.lt_succ_of_le hfuel)
  rw [sendAmounts, run_bind_of_ok hread, if_neg (not_lt.mpr h), run_pure]

/-- Every transfer to at most 19 is read from its script. -/
theorem parse_slpSendOutput (id : H256) {amounts : List UInt64} (h : amounts.length ≤ 19) :
    (parseSlpScript (slpSendOutput id amounts).scriptPubkey).map SlpTxDetails.transaction =
      .ok (.send id amounts) := by
  have hscript : (slpSendOutput id amounts).scriptPubkey = (header slpSend).data ++
      (chunk id.val ++ amounts.flatMap fun amount => pushBytes (toBeBytes amount)) := by
    have hid : pushBytes id.val = chunk id.val := by
      apply pushBytes_of_short
      rw [id.property]
      norm_num
    rw [← hid, ← List.append_assoc]
    exact data_foldl_pushData toBeBytes amounts ((header slpSend).pushData id.val)
  rw [hscript, parseSlpScript_header]
  refine ⟨⟨[], .standard, true⟩, ?_, rfl⟩
  have hkind : pushBytes (asBytes slpSend) = chunk (asBytes slpSend) :=
    pushBytes_of_short (by decide)
  rw [transaction, hkind,
    run_bind_of_ok (reads_asBytes slpSend (by decide) _ _ _),
    if_neg (by decide), if_neg (by decide), if_pos rfl,
    run_bind_of_ok (reads_tokenId id _ _ _), run_bind_of_ok (run_sendAmounts h), run_pure]

/-! ## Descriptions of tokens -/

/-- What `pushOptional` appends. -/
def optionalBytes : Option Bytes → Bytes
  | some data => pushBytes data
  | none => [Opcode.opPushdata1, Opcode.op0]

theorem data_pushData (b : Builder) (data : Bytes) :
    (b.pushData data).data = b.data ++ pushBytes data := rfl

theorem data_pushOptional (b : Builder) (data : Option Bytes) :
    (pushOptional b data).data = b.data ++ optionalBytes data := by
  cases data with
  | some data => rfl
  | none => exact List.append_assoc _ _ _

/-- What is to be read from the script. -/
def GenesisOutput.params (args : GenesisOutput) : SlpGenesisParams where
  tokenTicker := args.ticker
  tokenName := args.name
  tokenDocumentUrl := args.tokenDocumentUrl.getD ""
  tokenDocumentHash := (args.tokenDocumentHash.map Subtype.val).getD []
  decimals := [args.decimals]
  mintBatonVout := args.mintBatonVout
  initialTokenMintQuantity := args.initialTokenMintQuantity

/-- The fields behind the two names. -/
def GenesisOutput.numbers (args : GenesisOutput) : Bytes :=
  chunk [args.decimals] ++ (optionalBytes (args.mintBatonVout.map fun vout => [vout]) ++
    chunk (toBeBytes args.initialTokenMintQuantity))

/-- The fields behind the type of the transaction. -/
def GenesisOutput.body (args : GenesisOutput) : Bytes :=
  pushBytes (asBytes args.ticker) ++ (pushBytes (asBytes args.name) ++
    (optionalBytes (args.tokenDocumentUrl.map asBytes) ++
      (optionalBytes (args.tokenDocumentHash.map Subtype.val) ++ args.numbers)))

theorem GenesisOutput.scriptPubkey_slpGenesisOutput (args : GenesisOutput) :
    (slpGenesisOutput args).scriptPubkey = (header slpGenesis).data ++ args.body := by
  have hdecimals : pushBytes [args.decimals] = chunk [args.decimals] :=
    pushBytes_of_short (by simp)
  rw [body, numbers, ← hdecimals, ← pushBytes_amount]
  simp only [← List.append_assoc]
  change (pushOptional _ _).data ++ _ = _
  simp only [data_pushOptional, data_pushData]
  rfl

/-- A description is read from pieces that its fields are read from. -/
theorem reads_genesisParams (args : GenesisOutput) {ticker name url hash : Bytes}
    (hticker : Reads text ticker args.ticker) (hname : Reads text name args.name)
    (hurl : Reads tokenDocumentUrl url args.params.tokenDocumentUrl)
    (hhash : Reads tokenDocumentHash hash args.params.tokenDocumentHash) :
    Reads genesisParams (ticker ++ (name ++ (url ++ (hash ++ args.numbers)))) args.params := by
  have hbaton : Reads mintBatonVout (optionalBytes (args.mintBatonVout.map fun vout => [vout]))
      args.mintBatonVout := by
    cases args.mintBatonVout with
    | some vout => exact reads_mintBatonVout vout
    | none => exact reads_noMintBaton
  apply hticker.bind
  apply hname.bind
  apply hurl.bind
  apply hhash.bind
  apply (reads_byteList [args.decimals] (by simp)).bind
  apply hbaton.bind
  exact (reads_quantity args.initialTokenMintQuantity).map _

/-- The descriptions that are read back. The two odd kinds have a name that reads itself: the
byte that is left of it stands for the opcode in front of the address of the document, and one
that is left of the address for that in front of the hash. -/
def GenesisOutput.IsReadBack (args : GenesisOutput) : Prop :=
  (asBytes args.ticker).length ≤ 75 ∧
    (((asBytes args.name).length ≤ 75 ∧
        ∀ url ∈ args.tokenDocumentUrl, (asBytes url).length ≤ 0xfc) ∨
      (args.name = selfReading ∧ ∃ url, args.tokenDocumentUrl = some url ∧
        ((asBytes url).length ≤ 75 ∨
          (url = selfReading ∧ args.tokenDocumentHash ≠ none))))

theorem parse_slpGenesisOutput (args : GenesisOutput) :
    (parseSlpScript (slpGenesisOutput args).scriptPubkey).map SlpTxDetails.transaction =
        .ok (.genesis args.params) ↔
      ∃ s', genesisParams.run ⟨args.body, .standard, true⟩ = .ok (args.params, s') ∧
        s'.buffer = [] := by
  have hkind : pushBytes (asBytes slpGenesis) = chunk (asBytes slpGenesis) :=
    pushBytes_of_short (by decide)
  have hgenesis : transaction.run ⟨pushBytes (asBytes slpGenesis) ++ args.body, .standard,
      true⟩ = (do let params ← genesisParams; pure (.genesis params) :
        Reader SlpTransaction).run ⟨args.body, .standard, true⟩ := by
    rw [transaction, hkind,
      run_bind_of_ok (reads_asBytes slpGenesis (by decide) _ _ _), if_pos rfl]
  rw [GenesisOutput.scriptPubkey_slpGenesisOutput, parseSlpScript_header, hgenesis]
  constructor
  · intro h
    obtain ⟨s', hrun, hempty⟩ := h
    obtain ⟨params, s₁, hparams, hpure⟩ := run_bind_eq_ok.mp hrun
    rw [run_pure] at hpure
    cases hpure
    exact ⟨_, hparams, hempty⟩
  · intro h
    obtain ⟨s', hrun, hempty⟩ := h
    exact ⟨s', by rw [run_bind_of_ok hrun, run_pure], hempty⟩

theorem pushBytes_selfReading :
    pushBytes (asBytes selfReading) = chunk (asBytes selfReading) ++ [Opcode.opPushdata1] := by
  have hlength := length_selfReading
  have hall := drop_selfReading 0
  rw [List.drop_zero, Nat.sub_zero] at hall
  rw [pushBytes_of_long (by omega) (by omega), chunk, hlength, hall]
  rfl

theorem reads_short {string : String} (h : (asBytes string).length ≤ 75) :
    Reads text (pushBytes (asBytes string)) string := by
  rw [pushBytes_of_short h]
  exact reads_asBytes _ (by omega)

theorem reads_selfReading : Reads text (chunk (asBytes selfReading)) selfReading :=
  reads_asBytes _ (by rw [length_selfReading]; norm_num)

theorem reads_optional_hash (args : GenesisOutput) :
    Reads tokenDocumentHash (optionalBytes (args.tokenDocumentHash.map Subtype.val))
      args.params.tokenDocumentHash := by
  rw [GenesisOutput.params]
  cases args.tokenDocumentHash with
  | some hash =>
    have hshort : hash.val.length ≤ 75 := by
      rw [hash.property]
      norm_num
    rw [Option.map_some, optionalBytes, pushBytes_of_short hshort]
    exact reads_hash hshort
  | none => exact reads_hash_long (reads_byteList [] (by simp))

theorem run_genesisParams_of_isReadBack {args : GenesisOutput}
    (h : args.IsReadBack) :
    ∃ s', genesisParams.run ⟨args.body, .standard, true⟩ = .ok (args.params, s') ∧
      s'.buffer = [] := by
  obtain ⟨hticker, hrest⟩ := h
  have hreads : Reads genesisParams args.body args.params := by
    rw [GenesisOutput.body]
    rcases hrest with ⟨hname, hurl⟩ | ⟨hname, url, hurl, hshort⟩
    · apply reads_genesisParams args (reads_short hticker) (reads_short hname) _
        (reads_optional_hash args)
      rw [GenesisOutput.params]
      cases hsome : args.tokenDocumentUrl with
      | some url => exact reads_url url (hurl url hsome)
      | none => exact reads_url_long (reads_asBytes "" (by decide))
    · have hread : args.params.tokenDocumentUrl = url := by
        rw [GenesisOutput.params, hurl]
        rfl
      rw [hname, hurl, Option.map_some, optionalBytes, pushBytes_selfReading,
        List.append_assoc]
      have hname' : Reads text (chunk (asBytes selfReading)) args.name := by
        rw [hname]
        exact reads_selfReading
      rcases hshort with hshort | ⟨rfl, hhash⟩
      · have hurl' : Reads tokenDocumentUrl (Opcode.opPushdata1 :: pushBytes (asBytes url))
            args.params.tokenDocumentUrl := by
          rw [hread]
          exact reads_url_long (reads_short hshort)
        have hall := reads_genesisParams args (reads_short hticker) hname' hurl'
          (reads_optional_hash args)
        simpa only [List.append_assoc, List.cons_append, List.nil_append] using hall
      · obtain ⟨hash, hsome⟩ := Option.ne_none_iff_exists'.mp hhash
        have hlength : hash.val.length ≤ 75 := by
          rw [hash.property]
          norm_num
        have hread' : args.params.tokenDocumentHash = hash.val := by
          rw [GenesisOutput.params, hsome]
          rfl
        rw [hsome, Option.map_some, optionalBytes, pushBytes_of_short hlength]
        have hhash' : Reads tokenDocumentHash (Opcode.opPushdata1 :: chunk hash.val)
            args.params.tokenDocumentHash := by
          rw [hread']
          exact reads_hash_long (reads_byteList _ (by omega))
        have hurl' : Reads tokenDocumentUrl (Opcode.opPushdata1 :: chunk (asBytes selfReading))
            args.params.tokenDocumentUrl := by
          rw [hread]
          exact reads_url_long reads_selfReading
        have hall := reads_genesisParams args (reads_short hticker) hname' hurl' hhash'
        rw [pushBytes_selfReading]
        simpa only [List.append_assoc, List.cons_append, List.nil_append] using hall
  refine ⟨⟨[], .standard, true⟩, ?_, rfl⟩
  have hrun := hreads [] .standard true
  rwa [List.append_nil] at hrun

/-! ### No others -/

/-- The address of a document behind a byte that is left of the name. -/
theorem of_url_shifted {bytes : Bytes} {url : String}
    (h : tokenDocumentUrl.run ⟨Opcode.opPushdata1 :: bytes, context, canonical⟩ =
      .ok (url, s')) : text.run ⟨bytes, context, canonical⟩ = .ok (url, s') := by
  rw [tokenDocumentUrl] at h
  obtain ⟨first, s₁, hfirst, hrest⟩ := run_bind_eq_ok.mp h
  change Reader.u8.run ⟨[Opcode.opPushdata1] ++ bytes, context, canonical⟩ = _ at hfirst
  obtain ⟨rfl, rfl⟩ := (reads_u8 Opcode.opPushdata1).eq_of_run hfirst
  rwa [if_pos rfl] at hrest

theorem of_url {url : String}
    (h : tokenDocumentUrl.run ⟨pushBytes (asBytes url) ++ rest, context, canonical⟩ =
      .ok (url, s')) : (asBytes url).length ≤ 0xfc := by
  by_contra hlong
  by_cases hlt : (asBytes url).length < 0x100
  · rw [pushBytes_of_long (by omega) hlt, List.cons_append] at h
    exact not_text_of_flag (by omega) hlt (of_url_shifted h)
  · obtain ⟨opcode, length, hpush, hopcode⟩ := pushBytes_of_longer (not_lt.mp hlt)
    rw [hpush, List.cons_append, tokenDocumentUrl] at h
    obtain ⟨first, s₁, hfirst, hrest⟩ := run_bind_eq_ok.mp h
    obtain ⟨rfl, rfl⟩ := (reads_u8 opcode).eq_of_run hfirst
    have hne : first ≠ Opcode.opPushdata1 ∧ first.toNat ≤ 78 := by
      rcases hopcode with rfl | rfl <;> decide
    rw [if_neg hne.1] at hrest
    obtain ⟨bytes, s₂, htake, hdecode⟩ := run_bind_eq_ok.mp hrest
    obtain ⟨hlength, _⟩ := of_takeBytes htake
    split at hdecode
    · rename_i string hstring
      rw [run_pure] at hdecode
      cases hdecode
      have hencode : asBytes url = bytes := Utf8.decode_eq_some.mp hstring
      rw [hencode] at hlt
      omega
    · cases hdecode

theorem of_hash_shifted {bytes hash : Bytes}
    (h : tokenDocumentHash.run ⟨Opcode.opPushdata1 :: bytes, context, canonical⟩ =
      .ok (hash, s')) : byteList.run ⟨bytes, context, canonical⟩ = .ok (hash, s') := by
  rw [tokenDocumentHash] at h
  obtain ⟨first, s₁, hfirst, hrest⟩ := run_bind_eq_ok.mp h
  change Reader.u8.run ⟨[Opcode.opPushdata1] ++ bytes, context, canonical⟩ = _ at hfirst
  obtain ⟨rfl, rfl⟩ := (reads_u8 Opcode.opPushdata1).eq_of_run hfirst
  rwa [if_pos rfl] at hrest

/-- A list of bytes whose length is the byte in front of it. -/
theorem length_of_byteList {first : UInt8} (hfirst : first ≤ 0xfc) {bytes : Bytes}
    (h : byteList.run ⟨first :: rest, context, canonical⟩ = .ok (bytes, s')) :
    bytes.length = first.toNat := by
  have hle : first.toNat ≤ 0xfc := UInt8.le_iff_toNat_le.mp hfirst
  rw [byteList, Reader.list] at h
  obtain ⟨n, s₁, hlength, hmany⟩ := run_bind_eq_ok.mp h
  have hcompact : Reads Reader.compactInteger [first] first.toNat := by
    have hreads := reads_compactInteger hle
    rwa [UInt8.ofNat_toNat] at hreads
  obtain ⟨rfl, rfl⟩ := hcompact.eq_of_run hlength
  exact ((codec_readMany codec_u8 first.toNat).sound hmany).1.1

/-- No address is read as none is written where a byte is left in front. -/
theorem not_text_empty :
    text.run ⟨Opcode.opPushdata1 :: rest, context, canonical⟩ ≠ .ok ("", s') := by
  intro h
  have hlength : 76 ≤ (asBytes "").length := (length_of_text (by decide) h).1
  exact absurd hlength (by decide)

/-- No hash is read where two bytes are left in front. -/
theorem not_hash_shifted (args : GenesisOutput) :
    tokenDocumentHash.run ⟨Opcode.opPushdata1 :: Opcode.opPushdata1 :: rest, context,
      canonical⟩ ≠ .ok (args.params.tokenDocumentHash, s') := by
  intro h
  have hlength : args.params.tokenDocumentHash.length = 76 :=
    length_of_byteList (by decide) (of_hash_shifted h)
  have hle : args.params.tokenDocumentHash.length ≤ 32 := by
    rw [GenesisOutput.params]
    cases args.tokenDocumentHash with
    | none => exact Nat.zero_le 32
    | some hash => exact hash.property.le
  omega

theorem isReadBack_of_run_genesisParams {args : GenesisOutput}
    (h : genesisParams.run ⟨args.body, context, canonical⟩ = .ok (args.params, s')) :
    args.IsReadBack := by
  rw [genesisParams] at h
  obtain ⟨ticker, s₁, hticker, h⟩ := run_bind_eq_ok.mp h
  obtain ⟨name, s₂, hname, h⟩ := run_bind_eq_ok.mp h
  obtain ⟨url, s₃, hurl, h⟩ := run_bind_eq_ok.mp h
  obtain ⟨hash, s₄, hhash, h⟩ := run_bind_eq_ok.mp h
  obtain ⟨decimals, s₅, _, h⟩ := run_bind_eq_ok.mp h
  obtain ⟨vout, s₆, _, h⟩ := run_bind_eq_ok.mp h
  obtain ⟨quantity, s₇, _, h⟩ := run_bind_eq_ok.mp h
  rw [run_pure] at h
  have hparams := (Prod.mk.inj (Except.ok.inj h)).1
  obtain rfl : ticker = args.ticker := congrArg SlpGenesisParams.tokenTicker hparams
  obtain rfl : name = args.name := congrArg SlpGenesisParams.tokenName hparams
  obtain rfl : url = args.params.tokenDocumentUrl :=
    congrArg SlpGenesisParams.tokenDocumentUrl hparams
  obtain rfl : hash = args.params.tokenDocumentHash :=
    congrArg SlpGenesisParams.tokenDocumentHash hparams
  have hparam : args.params.tokenDocumentUrl = args.tokenDocumentUrl.getD "" := rfl
  obtain ⟨buffer₁, context₁, canonical₁⟩ := s₁
  obtain ⟨buffer₂, context₂, canonical₂⟩ := s₂
  obtain ⟨buffer₃, context₃, canonical₃⟩ := s₃
  rcases of_text_pushBytes hticker with ⟨hshort, hs⟩ | ⟨_, hbuffer⟩
  · cases hs
    refine ⟨hshort, ?_⟩
    rcases of_text_pushBytes hname with ⟨hshort', hs⟩ | ⟨hself, hbuffer⟩
    · cases hs
      left
      refine ⟨hshort', ?_⟩
      intro url hsome
      rw [hparam, hsome] at hurl
      exact of_url hurl
    · right
      refine ⟨hself, ?_⟩
      change buffer₂ = _ at hbuffer
      subst hbuffer
      have htext := of_url_shifted hurl
      cases hsome : args.tokenDocumentUrl with
      | none =>
        rw [hparam, hsome] at htext
        exact absurd htext not_text_empty
      | some url =>
        refine ⟨url, rfl, ?_⟩
        rw [hparam, hsome] at htext
        rcases of_text_pushBytes htext with ⟨hshort'', _⟩ | ⟨hself', hbuffer⟩
        · exact .inl hshort''
        · right
          refine ⟨hself', ?_⟩
          intro hnone
          change buffer₃ = _ at hbuffer
          rw [hbuffer, hnone] at hhash
          exact not_hash_shifted args hhash
  -- no name, address and hash follow a ticker that leaves a byte
  · change buffer₁ = _ at hbuffer
    subst hbuffer
    have hbuffer := (of_text_shifted hname).2
    change buffer₂ = _ at hbuffer
    subst hbuffer
    have htext := of_url_shifted hurl
    cases hsome : args.tokenDocumentUrl with
    | none =>
      rw [hparam, hsome] at htext
      exact absurd htext not_text_empty
    | some url =>
      rw [hparam, hsome] at htext
      have hbuffer := (of_text_shifted htext).2
      change buffer₃ = _ at hbuffer
      rw [hbuffer] at hhash
      exact absurd hhash (not_hash_shifted args)

/-- Which descriptions are read back. -/
theorem parse_genesis_iff (args : GenesisOutput) :
    (parseSlpScript (slpGenesisOutput args).scriptPubkey).map SlpTxDetails.transaction =
      .ok (.genesis args.params) ↔ args.IsReadBack := by
  rw [parse_slpGenesisOutput]
  constructor
  · intro h
    obtain ⟨s', hrun, _⟩ := h
    exact isReadBack_of_run_genesisParams hrun
  · exact run_genesisParams_of_isReadBack

end DeXFG.Utxo.Slp
