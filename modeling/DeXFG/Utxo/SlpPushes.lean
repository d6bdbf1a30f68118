import DeXFG.Library.BitcoinScript
import DeXFG.Utxo.SlpRoundTrip

/-!
# What the pushes of an SLP script carry

The interpreter of scripts splits a script into pushes. A script that is read as a token
transaction carries the same fields in its pushes where each of these is as long as its opcode.
-/
namespace DeXFG.Utxo.Slp
open Library Library.BitcoinScript
open Library.Reading hiding Bytes readLe

/-! ## The fields of a transaction -/

/-- No baton is a push of no bytes. -/
def batonBytes : Option UInt8 → Bytes
  | some vout => [vout]
  | none => []

def SlpGenesisParams.fields (params : SlpGenesisParams) : List Bytes :=
  [asBytes params.tokenTicker, asBytes params.tokenName, asBytes params.tokenDocumentUrl,
    params.tokenDocumentHash, params.decimals, batonBytes params.mintBatonVout,
    toBeBytes params.initialTokenMintQuantity]

def SlpTransaction.fields : SlpTransaction → List Bytes
  | .genesis params => asBytes slpGenesis :: params.fields
  | .mint id vout amount => [asBytes slpMint, id.val, batonBytes vout, toBeBytes amount]
  | .send id amounts => asBytes slpSend :: id.val :: amounts.map toBeBytes

def SlpTxDetails.fields (details : SlpTxDetails) : List Bytes :=
  asBytes details.lokadId :: details.tokenType :: details.transaction.fields

/-- The script has a token type of one byte, and its pushes carry what was read. -/
structure IsTypeOne (script : Script) (details : SlpTxDetails) : Prop where
  tokenType : details.tokenType = [slpFungible]
  pushes : ∃ instrs, decode script = some (⟨Opcode.opReturn, []⟩ :: instrs) ∧
    instrs.map Instr.op = details.fields.map Op.push

/-! ## Pushes as both read them -/

/-- How a field is read. -/
inductive Shape where
  | text
  | bytes
  | longText
  | longBytes
  | baton

/-- The bytes are a string, with nothing to replace. -/
def IsText (data : Bytes) : Prop := ∃ string, asBytes string = data

/-- A push that the reader takes as the interpreter does. -/
def Shape.Fits : Shape → Instr → Prop
  | .text, instr => instr.opcode ≤ 0x4b ∧ IsText instr.data
  | .bytes, instr => instr.opcode ≤ 0x4b
  | .longText, instr =>
    (instr.opcode ≤ 0x4b ∨ (instr.opcode = 0x4c ∧ instr.data.length ≤ 0xfc)) ∧
      IsText instr.data
  | .longBytes, instr =>
    instr.opcode ≤ 0x4b ∨ (instr.opcode = 0x4c ∧ instr.data.length ≤ 0xfc)
  | .baton, instr => instr.opcode = 1 ∨ (instr.opcode = 0x4c ∧ instr.data = [])

/-! How the fields behind the type of the transaction are read. -/

def genesisShape : ℕ → Shape
  | 0 => .text
  | 1 => .text
  | 2 => .longText
  | 3 => .longBytes
  | 5 => .baton
  | _ => .bytes

def mintShape : ℕ → Shape
  | 1 => .baton
  | _ => .bytes

def sendShape : ℕ → Shape := fun _ => .bytes

def shapeAt (kind : Bytes) : ℕ → Shape :=
  if kind = asBytes slpGenesis then genesisShape
  else if kind = asBytes slpMint then mintShape
  else sendShape

/-- The fields are pushes that fit how they are read. -/
def FieldsFit (shapes : ℕ → Shape) (instrs : List Instr) : Prop :=
  ∀ place instr, instrs[place]? = some instr → (shapes place).Fits instr

/-- The interpreter finds pushes that the reader takes as it does, one of them of the token type,
which is one byte. -/
def IsPlain (script : Script) : Prop :=
  ∃ first lokadId tokenType kind instrs,
    decode script = some (first :: lokadId :: tokenType :: kind :: instrs) ∧
      Shape.text.Fits lokadId ∧ Shape.bytes.Fits tokenType ∧ tokenType.data.length = 1 ∧
      Shape.text.Fits kind ∧ FieldsFit (shapeAt kind.data) instrs

/-! ## One field -/

theorem toBeBytes_fromBeBytes {bytes : Bytes} (h : bytes.length = 8) :
    toBeBytes (fromBeBytes bytes) = bytes := by
  have hlt := leNat_lt bytes.reverse
  rw [List.length_reverse, h] at hlt
  have hnat : (UInt64.ofNat (leNat bytes.reverse)).toNat = leNat bytes.reverse :=
    UInt64.toNat_ofNat_of_lt' hlt
  have hbytes := leBytes_leNat bytes.reverse
  rw [List.length_reverse, h] at hbytes
  rw [toBeBytes, fromBeBytes, hnat, hbytes, List.reverse_reverse]

variable {α : Type} {r : Reader α} {data : Bytes} {instr : Instr} {instrs : List Instr}
  {s s' : Input ChainVariant}

/-- What a reader takes is a push that carries it, if the push fits. -/
def Carries (r : Reader α) (shape : Shape) (bytes : α → Bytes) : Prop :=
  ∀ ⦃s x s' instr instrs⦄, r.run s = .ok (x, s') → decode s.buffer = some (instr :: instrs) →
    shape.Fits instr → instr.op = .push (bytes x) ∧ decode s'.buffer = some instrs

theorem op_of_le (h : instr.opcode ≤ 0x4e) : instr.op = .push instr.data := by
  rw [Instr.op, if_pos h]

theorem le_of_short (h : instr.opcode ≤ 0x4b) : instr.opcode ≤ 0x4e :=
  UInt8.le_trans h (by decide)

/-- A push that is as long as its opcode is read as what it carries. -/
theorem carried_short (value : α) {x : α} (hrun : r.run s = .ok (x, s'))
    (hdecode : decode s.buffer = some (instr :: instrs)) (hshort : instr.opcode ≤ 0x4b)
    (hreads : instr.data.length ≤ 75 → Reads r (chunk instr.data) value) :
    x = value ∧ decode s'.buffer = some instrs := by
  obtain ⟨rest, hbuffer, hlength, hrest⟩ := of_decode_short hdecode hshort
  have hle : instr.data.length ≤ 75 := by
    rw [hlength]
    exact UInt8.le_iff_toNat_le.mp hshort
  obtain ⟨buffer, context, canonical⟩ := s
  change buffer = chunk instr.data ++ rest at hbuffer
  subst hbuffer
  obtain ⟨rfl, rfl⟩ := (hreads hle).eq_of_run hrun
  exact ⟨rfl, hrest⟩

theorem carried_long (value : α) {x : α} (hrun : r.run s = .ok (x, s'))
    (hdecode : decode s.buffer = some (instr :: instrs)) (hlong : instr.opcode = 0x4c)
    (hreads : Reads r (Opcode.opPushdata1 :: chunk instr.data) value) :
    x = value ∧ decode s'.buffer = some instrs := by
  obtain ⟨rest, hbuffer, hrest⟩ := of_decode_long hdecode hlong
  obtain ⟨buffer, context, canonical⟩ := s
  change buffer = Opcode.opPushdata1 :: chunk instr.data ++ rest at hbuffer
  subst hbuffer
  obtain ⟨rfl, rfl⟩ := hreads.eq_of_run hrun
  exact ⟨rfl, hrest⟩

theorem carries_text : Carries text .text asBytes := by
  intro s x s' instr instrs hrun hdecode hfits
  obtain ⟨hshort, string, hstring⟩ := hfits
  obtain ⟨rfl, hrest⟩ := carried_short string hrun hdecode hshort (by
    intro hle
    rw [← hstring] at hle ⊢
    exact reads_asBytes _ (by omega))
  rw [op_of_le (le_of_short hshort), hstring]
  exact ⟨rfl, hrest⟩

theorem carries_byteList : Carries byteList .bytes id := by
  intro s x s' instr instrs hrun hdecode hshort
  obtain ⟨rfl, hrest⟩ := carried_short _ hrun hdecode hshort fun hle =>
    reads_byteList _ (by omega)
  exact ⟨op_of_le (le_of_short hshort), hrest⟩

theorem carries_url : Carries tokenDocumentUrl .longText asBytes := by
  intro s x s' instr instrs hrun hdecode hfits
  obtain ⟨hopcode, string, hstring⟩ := hfits
  rcases hopcode with hshort | ⟨hlong, hle⟩
  · obtain ⟨rfl, hrest⟩ := carried_short string hrun hdecode hshort (by
      intro hle
      rw [← hstring] at hle ⊢
      have hreads := reads_url string (by omega)
      rwa [pushBytes_of_short hle] at hreads)
    rw [op_of_le (le_of_short hshort), hstring]
    exact ⟨rfl, hrest⟩
  · obtain ⟨rfl, hrest⟩ := carried_long string hrun hdecode hlong (by
      rw [← hstring] at hle ⊢
      exact reads_url_long (reads_asBytes _ hle))
    rw [op_of_le (by rw [hlong]; decide), hstring]
    exact ⟨rfl, hrest⟩

theorem carries_hash : Carries tokenDocumentHash .longBytes id := by
  intro s x s' instr instrs hrun hdecode hfits
  rcases hfits with hshort | ⟨hlong, hle⟩
  · obtain ⟨rfl, hrest⟩ := carried_short _ hrun hdecode hshort reads_hash
    exact ⟨op_of_le (le_of_short hshort), hrest⟩
  · obtain ⟨rfl, hrest⟩ := carried_long _ hrun hdecode hlong
      (reads_hash_long (reads_byteList _ hle))
    exact ⟨op_of_le (by rw [hlong]; decide), hrest⟩

theorem carries_mintBatonVout : Carries mintBatonVout .baton batonBytes := by
  intro s x s' instr instrs hrun hdecode hfits
  rcases hfits with hone | ⟨hlong, hnone⟩
  · have hshort : instr.opcode ≤ 0x4b := by
      rw [hone]
      decide
    obtain ⟨_, _, hlength, _⟩ := of_decode_short hdecode hshort
    rw [hone] at hlength
    obtain ⟨vout, hvout⟩ := List.length_eq_one_iff.mp hlength
    obtain ⟨rfl, hrest⟩ := carried_short (some vout) hrun hdecode hshort (by
      intro _
      rw [hvout]
      exact reads_mintBatonVout vout)
    rw [op_of_le (le_of_short hshort), hvout]
    exact ⟨rfl, hrest⟩
  · obtain ⟨rfl, hrest⟩ := carried_long none hrun hdecode hlong (by
      rw [hnone]
      exact reads_noMintBaton)
    rw [op_of_le (by rw [hlong]; decide), hnone]
    exact ⟨rfl, hrest⟩

theorem carries_quantity : Carries quantity .bytes toBeBytes := by
  intro s x s' instr instrs hrun hdecode hshort
  rw [quantity] at hrun
  obtain ⟨bytes, s₁, hbytes, hrest⟩ := run_bind_eq_ok.mp hrun
  obtain ⟨hop, hdecode'⟩ := carries_byteList hbytes hdecode hshort
  split at hrest
  · cases hrest
  · rename_i hlength
    rw [run_pure] at hrest
    cases hrest
    rw [hop, id, toBeBytes_fromBeBytes (not_not.mp hlength)]
    exact ⟨rfl, hdecode'⟩

theorem carries_tokenId : Carries tokenId .bytes Subtype.val := by
  intro s x s' instr instrs hrun hdecode hshort
  rw [tokenId] at hrun
  obtain ⟨bytes, s₁, hbytes, hrest⟩ := run_bind_eq_ok.mp hrun
  obtain ⟨hop, hdecode'⟩ := carries_byteList hbytes hdecode hshort
  split at hrest
  · rw [run_pure] at hrest
    cases hrest
    exact ⟨hop, hdecode'⟩
  · cases hrest

/-! ## One field after the other -/

/-- A reader that returns nothing for no bytes. -/
def NeedsByte (r : Reader α) : Prop := ∀ ⦃s x s'⦄, r.run s = .ok (x, s') → s.buffer ≠ []

theorem NeedsByte.bind {β : Type} {f : α → Reader β} (hr : NeedsByte r) : NeedsByte (r >>= f) := by
  intro s y s' hrun
  obtain ⟨x, s₁, hx, _⟩ := run_bind_eq_ok.mp hrun
  exact hr hx

theorem needsByte_of_codec {write : α → Bytes} {V : α → Prop} (hr : Codec r write V)
    (hwrite : ∀ x, 1 ≤ (write x).length) : NeedsByte r := by
  intro s x s' hrun hempty
  obtain ⟨taken, hbuffer, hlength, _⟩ := (hr.sound hrun).2.bytes
  have hone := hwrite x
  rw [hempty] at hbuffer
  have htaken := List.append_eq_nil_iff.mp hbuffer.symm
  rw [htaken.1, List.length_nil] at hlength
  omega

theorem needsByte_u8 : NeedsByte Reader.u8 := needsByte_of_codec codec_u8 (by simp)

theorem needsByte_compactInteger : NeedsByte Reader.compactInteger := by
  apply needsByte_of_codec codec_compactInteger
  intro n
  rw [length_compactInteger]
  repeat' split
  all_goals omega

theorem needsByte_text : NeedsByte text := needsByte_compactInteger.bind.bind

theorem needsByte_byteList : NeedsByte byteList := needsByte_compactInteger.bind

/-- The next field is the next push. -/
theorem Carries.next {shape : Shape} {bytes : α → Bytes} (hr : Carries r shape bytes)
    (hneeds : NeedsByte r) {x : α} (hrun : r.run s = .ok (x, s'))
    (hdecode : decode s.buffer = some instrs) {shapes : ℕ → Shape}
    (hfits : FieldsFit shapes instrs) (hshape : shapes 0 = shape) :
    ∃ instr rest, instrs = instr :: rest ∧ instr.op = .push (bytes x) ∧
      decode s'.buffer = some rest ∧ FieldsFit (fun place => shapes (place + 1)) rest := by
  cases instrs with
  | nil =>
    exfalso
    apply hneeds hrun
    cases hbuffer : s.buffer with
    | nil => rfl
    | cons first rest =>
      rw [hbuffer, decode_cons] at hdecode
      obtain ⟨_, _, hmap⟩ := Option.bind_eq_some_iff.mp hdecode
      obtain ⟨_, _, hnil⟩ := Option.map_eq_some_iff.mp hmap
      cases hnil
  | cons instr rest =>
    have hfirst := hfits 0 instr rfl
    rw [hshape] at hfirst
    obtain ⟨hop, hrest⟩ := hr hrun hdecode hfirst
    exact ⟨instr, rest, rfl, hop, hrest, fun place field hfield => hfits (place + 1) field hfield⟩

theorem eq_nil_of_decode (hdecode : decode s.buffer = some instrs) (hempty : s.buffer = []) :
    instrs = [] := by
  rw [hempty, decode_nil] at hdecode
  exact (Option.some.inj hdecode).symm

theorem pushes_genesisParams {params : SlpGenesisParams}
    (hrun : genesisParams.run s = .ok (params, s')) (hempty : s'.buffer = [])
    (hdecode : decode s.buffer = some instrs) (hfits : FieldsFit genesisShape instrs) :
    instrs.map Instr.op = params.fields.map Op.push := by
  rw [genesisParams] at hrun
  obtain ⟨ticker, s₁, hticker, hrun⟩ := run_bind_eq_ok.mp hrun
  obtain ⟨name, s₂, hname, hrun⟩ := run_bind_eq_ok.mp hrun
  obtain ⟨url, s₃, hurl, hrun⟩ := run_bind_eq_ok.mp hrun
  obtain ⟨hash, s₄, hhash, hrun⟩ := run_bind_eq_ok.mp hrun
  obtain ⟨decimals, s₅, hdecimals, hrun⟩ := run_bind_eq_ok.mp hrun
  obtain ⟨vout, s₆, hvout, hrun⟩ := run_bind_eq_ok.mp hrun
  obtain ⟨amount, s₇, hamount, hrun⟩ := run_bind_eq_ok.mp hrun
  rw [run_pure] at hrun
  cases hrun
  obtain ⟨_, _, rfl, hop₁, hdecode, hfits⟩ :=
    carries_text.next needsByte_text hticker hdecode hfits rfl
  obtain ⟨_, _, rfl, hop₂, hdecode, hfits⟩ :=
    carries_text.next needsByte_text hname hdecode hfits rfl
  obtain ⟨_, _, rfl, hop₃, hdecode, hfits⟩ :=
    carries_url.next needsByte_u8.bind hurl hdecode hfits rfl
  obtain ⟨_, _, rfl, hop₄, hdecode, hfits⟩ :=
    carries_hash.next needsByte_u8.bind hhash hdecode hfits rfl
  obtain ⟨_, _, rfl, hop₅, hdecode, hfits⟩ :=
    carries_byteList.next needsByte_byteList hdecimals hdecode hfits rfl
  obtain ⟨_, _, rfl, hop₆, hdecode, hfits⟩ :=
    carries_mintBatonVout.next needsByte_u8.bind hvout hdecode hfits rfl
  obtain ⟨_, _, rfl, hop₇, hdecode, hfits⟩ :=
    carries_quantity.next needsByte_byteList.bind hamount hdecode hfits rfl
  obtain rfl := eq_nil_of_decode hdecode hempty
  simp only [List.map_cons, List.map_nil, hop₁, hop₂, hop₃, hop₄, hop₅, hop₆, hop₇]
  rfl

theorem pushes_amountsUpTo {fuel : ℕ} {amounts : List UInt64}
    (hrun : (amountsUpTo fuel).run s = .ok (amounts, s')) (hempty : s'.buffer = [])
    (hdecode : decode s.buffer = some instrs) (hfits : FieldsFit sendShape instrs) :
    instrs.map Instr.op = (amounts.map toBeBytes).map Op.push := by
  induction fuel generalizing s amounts instrs with
  | zero =>
    rw [amountsUpTo, run_pure] at hrun
    cases hrun
    obtain rfl := eq_nil_of_decode hdecode hempty
    rfl
  | succ fuel ih =>
    rw [amountsUpTo] at hrun
    obtain ⟨finished, s₁, hfinished, hrun⟩ := run_bind_eq_ok.mp hrun
    cases hfinished
    split at hrun
    · rename_i hdone
      rw [run_pure] at hrun
      cases hrun
      obtain rfl := eq_nil_of_decode hdecode (of_decide_eq_true hdone)
      rfl
    · obtain ⟨amount, s₂, hamount, hrun⟩ := run_bind_eq_ok.mp hrun
      obtain ⟨more, s₃, hmore, hrun⟩ := run_bind_eq_ok.mp hrun
      rw [run_pure] at hrun
      cases hrun
      obtain ⟨_, _, rfl, hop, hdecode, hfits⟩ :=
        carries_quantity.next needsByte_byteList.bind hamount hdecode hfits rfl
      rw [List.map_cons, hop, ih hmore hdecode hfits]
      rfl

theorem pushes_sendAmounts {amounts : List UInt64}
    (hrun : sendAmounts.run s = .ok (amounts, s')) (hempty : s'.buffer = [])
    (hdecode : decode s.buffer = some instrs) (hfits : FieldsFit sendShape instrs) :
    instrs.map Instr.op = (amounts.map toBeBytes).map Op.push := by
  rw [sendAmounts] at hrun
  obtain ⟨found, s₁, hfound, hrun⟩ := run_bind_eq_ok.mp hrun
  split at hrun
  · cases hrun
  · rw [run_pure] at hrun
    cases hrun
    exact pushes_amountsUpTo hfound hempty hdecode hfits

/-- The pushes behind the token type, the first of them of the type of the transaction. -/
theorem pushes_transaction {transaction' : SlpTransaction}
    (hrun : transaction.run s = .ok (transaction', s')) (hempty : s'.buffer = [])
    (hdecode : decode s.buffer = some (instr :: instrs)) (hkind : Shape.text.Fits instr)
    (hfits : FieldsFit (shapeAt instr.data) instrs) :
    (instr :: instrs).map Instr.op = transaction'.fields.map Op.push := by
  rw [transaction] at hrun
  obtain ⟨kind, s₁, hread, hrun⟩ := run_bind_eq_ok.mp hrun
  obtain ⟨hop, hdecode⟩ := carries_text hread hdecode hkind
  have hdata : instr.data = asBytes kind := by
    rw [op_of_le (le_of_short hkind.1)] at hop
    exact Op.push.inj hop
  rw [hdata] at hfits
  rw [List.map_cons, hop]
  split at hrun
  · rename_i hgenesis
    obtain ⟨params, s₂, hparams, hrun⟩ := run_bind_eq_ok.mp hrun
    rw [run_pure] at hrun
    cases hrun
    rw [hgenesis, shapeAt, if_pos rfl] at hfits
    rw [pushes_genesisParams hparams hempty hdecode hfits, hgenesis]
    rfl
  split at hrun
  · rename_i hmint
    obtain ⟨id, s₂, hid, hrun⟩ := run_bind_eq_ok.mp hrun
    obtain ⟨vout, s₃, hvout, hrun⟩ := run_bind_eq_ok.mp hrun
    obtain ⟨amount, s₄, hamount, hrun⟩ := run_bind_eq_ok.mp hrun
    rw [run_pure] at hrun
    cases hrun
    rw [hmint, shapeAt, if_neg (by decide), if_pos rfl] at hfits
    obtain ⟨_, _, rfl, hop₁, hdecode, hfits⟩ :=
      carries_tokenId.next needsByte_byteList.bind hid hdecode hfits rfl
    obtain ⟨_, _, rfl, hop₂, hdecode, hfits⟩ :=
      carries_mintBatonVout.next needsByte_u8.bind hvout hdecode hfits rfl
    obtain ⟨_, _, rfl, hop₃, hdecode, hfits⟩ :=
      carries_quantity.next needsByte_byteList.bind hamount hdecode hfits rfl
    obtain rfl := eq_nil_of_decode hdecode hempty
    simp only [List.map_cons, List.map_nil, hop₁, hop₂, hop₃, hmint]
    rfl
  split at hrun
  · rename_i hsend
    obtain ⟨id, s₂, hid, hrun⟩ := run_bind_eq_ok.mp hrun
    obtain ⟨amounts, s₃, hamounts, hrun⟩ := run_bind_eq_ok.mp hrun
    rw [run_pure] at hrun
    cases hrun
    rw [hsend, shapeAt, if_neg (by decide), if_neg (by decide)] at hfits
    obtain ⟨_, _, rfl, hop₁, hdecode, hfits⟩ :=
      carries_tokenId.next needsByte_byteList.bind hid hdecode hfits rfl
    rw [List.map_cons, hop₁, pushes_sendAmounts hamounts hempty hdecode hfits, hsend]
    rfl
  · cases hrun

theorem eq_of_fromU8 {u opcode : UInt8} (h : Opcode.fromU8 u = some opcode) : u = opcode := by
  rw [Opcode.fromU8] at h
  split at h
  · exact Option.some.inj h
  · cases h

/-- What is read behind the opcode for a script that only carries data. -/
theorem isTypeOne_of_details {script : Script} {details' : SlpTxDetails}
    {first lokadId tokenType' kind : Instr}
    (hdecode : decode script = some (first :: lokadId :: tokenType' :: kind :: instrs))
    (hlokad : Shape.text.Fits lokadId) (htype : Shape.bytes.Fits tokenType')
    (hone : tokenType'.data.length = 1) (hkind : Shape.text.Fits kind)
    (hfits : FieldsFit (shapeAt kind.data) instrs)
    (hrun : details.run ⟨script, .standard, true⟩ = .ok (details', s'))
    (hempty : s'.buffer = []) (hreturn : details'.opCode = Opcode.opReturn)
    (hfungible : details'.tokenType.head? = some slpFungible) :
    IsTypeOne script details' := by
  rw [details] at hrun
  obtain ⟨opCode, s₁, hopCode, hrun⟩ := run_bind_eq_ok.mp hrun
  obtain ⟨lokad, s₂, hread, hrun⟩ := run_bind_eq_ok.mp hrun
  obtain ⟨type, s₃, hread', hrun⟩ := run_bind_eq_ok.mp hrun
  obtain ⟨transaction', s₄, htransaction, hrun⟩ := run_bind_eq_ok.mp hrun
  rw [run_pure] at hrun
  cases hrun
  change opCode = Opcode.opReturn at hreturn
  subst hreturn
  obtain ⟨rest, rest', rfl, hfirst, hrest⟩ := of_decode_cons hdecode
  change Reader.u8.run ⟨[first.opcode] ++ rest, .standard, true⟩ = _ at hopCode
  obtain ⟨hcode, rfl⟩ := (reads_u8 first.opcode).eq_of_run hopCode
  rw [← hcode] at hfirst
  have hplain : readInstr Opcode.opReturn rest = some (⟨Opcode.opReturn, []⟩, rest) := rfl
  rw [hplain] at hfirst
  simp only [Option.some.injEq, Prod.mk.injEq] at hfirst
  obtain ⟨rfl, rfl⟩ := hfirst
  obtain ⟨hop₁, hdecode₁⟩ := carries_text hread hrest hlokad
  obtain ⟨hop₂, hdecode₂⟩ := carries_byteList hread' hdecode₁ htype
  have hpushes := pushes_transaction htransaction hempty hdecode₂ hkind hfits
  constructor
  · have hdata : tokenType'.data = type := by
      rw [op_of_le (le_of_short htype)] at hop₂
      exact Op.push.inj hop₂
    rw [hdata] at hone
    obtain ⟨byte, hbyte⟩ := List.length_eq_one_iff.mp hone
    dsimp only at hfungible ⊢
    rw [hbyte, List.head?_cons] at hfungible
    rw [hbyte, Option.some.inj hfungible]
  · refine ⟨_, hdecode, ?_⟩
    rw [List.map_cons, List.map_cons, hop₁, hop₂, hpushes]
    rfl

/-- A plain script is of the type of its token, and its pushes carry what is read. -/
theorem isTypeOne_of_parse {script : Script} {details' : SlpTxDetails} (hplain : IsPlain script)
    (hparse : parseSlpScript script = .ok details') : IsTypeOne script details' := by
  obtain ⟨first, lokadId, tokenType, kind, instrs, hdecode, hlokad, htype, hone, hkind, hfits⟩ :=
    hplain
  rw [parseSlpScript, deserialize] at hparse
  cases hdetails : details.run ⟨script, .standard, true⟩ with
  | error e =>
    rw [hdetails] at hparse
    cases hparse
  | ok result =>
    obtain ⟨found, s'⟩ := result
    rw [hdetails] at hparse
    dsimp only at hparse
    by_cases hempty : s'.buffer = []
    · rw [if_pos hempty] at hparse
      dsimp only at hparse
      split at hparse
      · cases hparse
      split at hparse
      · cases hparse
      split at hparse
      · cases hparse
      rename_i hreturn hlokadId hfungible
      cases hparse
      exact isTypeOne_of_details hdecode hlokad htype hone hkind hfits hdetails hempty
        (eq_of_fromU8 (not_not.mp hreturn)) (not_not.mp hfungible)
    · rw [if_neg hempty] at hparse
      cases hparse

/-! ## Scripts and their transactions -/

/-- Which descriptions of tokens are read back, that transfers are, and which scripts carry in
their pushes what is read from them. -/
theorem slp_scripts_iff (args : GenesisOutput) (id : H256) (amounts : List UInt64)
    (script : Script) (details : SlpTxDetails) :
    ((parseSlpScript (slpGenesisOutput args).scriptPubkey).map SlpTxDetails.transaction =
        .ok (.genesis args.params) ↔ args.IsReadBack) ∧
      (amounts.length ≤ 19 →
        (parseSlpScript (slpSendOutput id amounts).scriptPubkey).map SlpTxDetails.transaction =
          .ok (.send id amounts)) ∧
      (IsPlain script → parseSlpScript script = .ok details → IsTypeOne script details) := by
  refine ⟨parse_genesis_iff args, ?_, ?_⟩
  · intro h
    exact parse_slpSendOutput id h
  · intro hplain hparse
    exact isTypeOne_of_parse hplain hparse

def someId : H256 := ⟨List.replicate 32 0x11, rfl⟩

def longTicker : GenesisOutput where
  ticker := String.ofList (List.replicate 76 'T')
  name := "Token"
  tokenDocumentUrl := none
  tokenDocumentHash := none
  decimals := 8
  mintBatonVout := none
  initialTokenMintQuantity := 1000

/-- A transfer whose token type is pushed as two bytes. -/
def wideTokenType : Script :=
  Opcode.opReturn :: (chunk (asBytes slpLokadId) ++ (chunk [slpFungible, 2] ++
    (chunk (asBytes slpSend) ++ (chunk someId.val ++ chunk (toBeBytes 5)))))

def wideDetails : SlpTxDetails where
  opCode := Opcode.opReturn
  lokadId := slpLokadId
  tokenType := [slpFungible, 2]
  transaction := .send someId [5]

/-- A long ticker is not read back, and two bytes are taken for the token type. -/
theorem long_ticker_not_read :
    (parseSlpScript (slpGenesisOutput longTicker).scriptPubkey).map SlpTxDetails.transaction ≠
        .ok (.genesis longTicker.params) ∧
      parseSlpScript wideTokenType = .ok wideDetails ∧
        ¬ IsTypeOne wideTokenType wideDetails := by
  refine ⟨?_, by decide +kernel, ?_⟩
  · intro h
    have hshort : (asBytes longTicker.ticker).length ≤ 75 := ((parse_genesis_iff _).mp h).1
    have hlength : (asBytes longTicker.ticker).length = 76 := by decide +kernel
    omega
  · intro h
    exact absurd h.tokenType (by decide)

def shortToken : GenesisOutput where
  ticker := "TKN"
  name := "Token"
  tokenDocumentUrl := some "token.example"
  tokenDocumentHash := none
  decimals := 8
  mintBatonVout := some 2
  initialTokenMintQuantity := 1000

theorem short_token_read :
    (parseSlpScript (slpGenesisOutput shortToken).scriptPubkey).map SlpTxDetails.transaction =
        .ok (.genesis shortToken.params) ∧
      (parseSlpScript (slpSendOutput someId [5]).scriptPubkey).map SlpTxDetails.transaction =
        .ok (.send someId [5]) ∧
      IsTypeOne (slpSendOutput someId [5]).scriptPubkey
        ⟨Opcode.opReturn, slpLokadId, [slpFungible], .send someId [5]⟩ := by
  have hall := slp_scripts_iff shortToken someId [5] (slpSendOutput someId [5]).scriptPubkey
    ⟨Opcode.opReturn, slpLokadId, [slpFungible], .send someId [5]⟩
  have hback : shortToken.IsReadBack := by
    refine ⟨by decide +kernel, .inl ⟨by decide +kernel, ?_⟩⟩
    intro url hurl
    cases hurl
    decide +kernel
  have hplain : IsPlain (slpSendOutput someId [5]).scriptPubkey := by
    refine ⟨⟨Opcode.opReturn, []⟩, ⟨4, asBytes slpLokadId⟩, ⟨1, [slpFungible]⟩,
      ⟨4, asBytes slpSend⟩, [⟨32, someId.val⟩, ⟨8, toBeBytes 5⟩], by decide +kernel,
      ⟨by decide, slpLokadId, rfl⟩, (by decide : (1 : UInt8) ≤ 0x4b), rfl,
      ⟨by decide, slpSend, rfl⟩, ?_⟩
    have hshape : shapeAt (asBytes slpSend) = sendShape := by
      rw [shapeAt, if_neg (by decide), if_neg (by decide)]
    rw [hshape]
    intro place instr hplace
    match place, hplace with
    | 0, hplace =>
      cases hplace
      exact (by decide : (32 : UInt8) ≤ 0x4b)
    | 1, hplace =>
      cases hplace
      exact (by decide : (8 : UInt8) ≤ 0x4b)
  exact ⟨hall.1.mpr hback, hall.2.1 (by decide), hall.2.2 hplain (by decide +kernel)⟩

end DeXFG.Utxo.Slp
