import DeXFG.Utxo.TxFormat

/-!
# Transactions read back

A transaction is read in a format from its bytes in that format, and the bytes that
it is read from are at least as long as these.
-/
namespace DeXFG.Utxo
open Library Library.Reading

namespace Transaction

def isSpark (tx : Transaction) : Bool := maybeSpark (header tx.version tx.overwintered)

def shielded (tx : Transaction) : Shielded where
  expiryHeight := tx.expiryHeight
  valueBalance := tx.valueBalance
  spends := tx.shieldedSpends
  outputs := tx.shieldedOutputs

def joins (tx : Transaction) : JoinSplits where
  joinSplits := tx.joinSplits
  pubkey := tx.joinSplitPubkey
  sig := tx.joinSplitSig

def hasJoinSplits (tx : Transaction) : Bool :=
  tx.zcash ∧ (tx.version = 2 ∨ tx.overwintered)

def hasBindingSig (tx : Transaction) : Bool :=
  tx.zcash ∧ tx.overwintered ∧ 4 ≤ tx.version ∧
    ¬ (tx.shieldedSpends = [] ∧ tx.shieldedOutputs = [])

/-- The bytes of a transaction in a format, with a flag and witnesses or without, up to its
extra payload. -/
def body (txType : TxType) (witness : Bool) (tx : Transaction) : Bytes :=
  Stream.i32 (header tx.version tx.overwintered) ++
  ((if tx.overwintered then Stream.u32 tx.versionGroupId else []) ++
  ((if txType = .posWithNTime then optional Stream.u32 tx.nTime else []) ++
  (writeInputs (witness, tx.inputs) ++
  (Stream.list TransactionOutput.serialize tx.outputs ++
  ((if witness then tx.inputs.flatMap writeWitness else []) ++
  (Stream.u32 tx.lockTime ++
  ((if tx.posv then optional Stream.u32 tx.nTime else []) ++
  (writeShielded tx.overwintered tx.version tx.shielded ++
  (writeJoinSplits tx.hasJoinSplits tx.joins ++
  ((if tx.hasBindingSig then tx.bindingSig.val else []) ++
  optional writeString tx.strDZeel))))))))))

/-- The bytes that a transaction is read from. -/
def wire (txType : TxType) (witness : Bool) (tx : Transaction) : Bytes :=
  tx.body txType witness ++ optional Stream.bytes tx.vExtraPayload

/-- The transactions of a format. -/
structure Fits (txType : TxType) (witness : Bool) (tx : Transaction) : Prop where
  version : overwinteredOf tx.version = false
  versionGroupId : tx.overwintered = false → tx.versionGroupId = 0
  inputs : InputsFit txType tx.overwintered (witness, tx.inputs.map TransactionInput.bare)
  witnesses : ∀ input ∈ tx.inputs,
    if witness then WitnessFits input else input.scriptWitness = []
  outputs : tx.outputs.length ≤ maxListSize ∧ ∀ output ∈ tx.outputs, output.Fits
  hasOutputs : txType.usesWitness = true → tx.outputs ≠ []
  posv : tx.posv = decide (txType = .posvWithNTime ∧ tx.isSpark = false)
  nTime : tx.nTime.isSome = (decide (txType = .posWithNTime) || tx.posv)
  shielded : ShieldedFits tx.overwintered tx.version tx.shielded
  zcash : tx.zcash = decide (tx.overwintered ∨ txType = .zcash)
  joins : JoinSplitsFit tx.hasJoinSplits tx.version tx.joins
  bindingSig : tx.hasBindingSig = false → tx.bindingSig = H512.default
  strDZeel : ∀ string, tx.strDZeel = some string → txType = .posWithNTime ∧ StringFits string
  vExtraPayload : ∀ payload, tx.vExtraPayload = some payload →
    tx.isSpark = true ∧ payload.length < 2 ^ 64
  txHashAlgo : tx.txHashAlgo = .dsha256

/-- What ends a transaction that leaves some bytes: what it could have after these is there
or they are none. -/
structure Ends (txType : TxType) (tx : Transaction) (rest : Bytes) : Prop where
  strDZeel : txType = .posWithNTime → tx.strDZeel = none → tx.vExtraPayload = none ∧ rest = []
  vExtraPayload : tx.isSpark = true → tx.vExtraPayload = none → rest = []

end Transaction

variable {txType : TxType} {witness : Bool} {tx : Transaction} {rest : Bytes}
  {s s' : Input ChainVariant}

theorem writeInputs_bare (witness : Bool) (inputs : List TransactionInput) :
    writeInputs (witness, inputs.map TransactionInput.bare) = writeInputs (witness, inputs) := by
  simp only [writeInputs, Stream.list, List.length_map, List.flatMap_map]
  rfl

theorem isSome_ite (present : Bool) {α : Type} (x : α) :
    (if present then some x else none).isSome = present := by
  cases present <;> rfl

theorem optional_ite (present : Bool) {α : Type} (write : α → Bytes) (x : α) :
    optional write (if present then some x else none) = if present then write x else [] := by
  cases present <;> rfl

/-- A section that is there exactly in some formats. -/
theorem optional_eq_ite {present : Bool} {α : Type} {x? : Option α} (h : x?.isSome = present)
    (write : α → Bytes) (default : α) :
    optional write x? = if present then write (x?.getD default) else [] := by
  subst h
  cases x? <;> rfl

theorem eq_none_of_isSome {present : Bool} {α : Type} {x? : Option α} (h : x?.isSome = present)
    (habsent : present = false) : x? = none := by
  rw [habsent, Option.isSome_eq_false_iff, Option.isNone_iff_eq_none] at h
  exact h

theorem optional_ite_some (present : Prop) [Decidable present] {α : Type} (write : α → Bytes)
    (x? : Option α) :
    optional write (if present then x? else none) = if present then optional write x? else [] := by
  split <;> rfl

/-- An input of a transaction without witnesses. -/
theorem map_bare_eq {inputs : List TransactionInput}
    (h : ∀ input ∈ inputs, input.scriptWitness = []) :
    inputs.map TransactionInput.bare = inputs := by
  induction inputs with
  | nil => rfl
  | cons input inputs ih =>
    rw [List.forall_mem_cons] at h
    have hinput : input.bare = input := by
      cases input
      simp only [TransactionInput.bare, TransactionInput.mk.injEq, true_and]
      exact h.1.symm
    rw [List.map_cons, ih h.2, hinput]

/-- The witnesses of a transaction are read onto its inputs. -/
theorem reads_witnesses (h : tx.Fits txType witness) (rest : Bytes) (context : ChainVariant)
    (canonical : Bool) :
    (readScriptWitnesses witness (tx.inputs.map TransactionInput.bare)).run
        ⟨(if witness then tx.inputs.flatMap writeWitness else []) ++ rest, context, canonical⟩ =
      .ok (tx.inputs, ⟨rest, context, canonical⟩) := by
  have hwitnesses := h.witnesses
  cases witness with
  | false =>
    rw [map_bare_eq hwitnesses]
    rfl
  | true =>
    have hbare : ∀ input ∈ tx.inputs.map TransactionInput.bare, input.scriptWitness = [] := by
      intro input hinput
      obtain ⟨input', _, rfl⟩ := List.mem_map.mp hinput
      rfl
    exact (codec_readWitnesses _ hbare).reads tx.inputs ⟨rfl, hwitnesses⟩ rest context canonical

/-- The string at the end is there, or nothing is left that could be one. -/
theorem reads_strDZeel (h : tx.Fits txType witness) (hends : tx.Ends txType rest)
    (context : ChainVariant) (canonical : Bool) :
    (readStrDZeel txType).run
        ⟨optional writeString tx.strDZeel ++ (optional Stream.bytes tx.vExtraPayload ++ rest),
          context, canonical⟩ =
      .ok (tx.strDZeel, ⟨optional Stream.bytes tx.vExtraPayload ++ rest, context, canonical⟩) := by
  cases hstring : tx.strDZeel with
  | none =>
    apply run_readStrDZeel_none
    intro htype
    obtain ⟨hpayload, hrest⟩ := hends.strDZeel htype hstring
    rw [hpayload, hrest]
    rfl
  | some string =>
    obtain ⟨htype, hfits⟩ := h.strDZeel string hstring
    exact run_readStrDZeel_some htype hfits _ context canonical

theorem reads_vExtraPayload (h : tx.Fits txType witness) (hends : tx.Ends txType rest)
    (context : ChainVariant) (canonical : Bool) :
    (readExtraPayload tx.isSpark).run
        ⟨optional Stream.bytes tx.vExtraPayload ++ rest, context, canonical⟩ =
      .ok (tx.vExtraPayload, ⟨rest, context, canonical⟩) := by
  cases hpayload : tx.vExtraPayload with
  | none =>
    apply run_readExtraPayload_none
    intro hspark
    exact hends.vExtraPayload hspark hpayload
  | some payload =>
    obtain ⟨hspark, hfits⟩ := h.vExtraPayload payload hpayload
    exact run_readExtraPayload_some hspark hfits rest context canonical

namespace Transaction.Fits

theorem isSome_early (h : tx.Fits txType witness) :
    (if txType = .posWithNTime then tx.nTime else none).isSome =
      decide (txType = .posWithNTime) := by
  have hsome := h.nTime
  by_cases htype : txType = .posWithNTime
  · rw [if_pos htype, hsome, decide_eq_true htype]
    rfl
  · rw [if_neg htype, decide_eq_false htype]
    rfl

theorem isSome_late (h : tx.Fits txType witness) :
    (if tx.posv then tx.nTime else none).isSome = tx.posv := by
  have hsome := h.nTime
  cases hposv : tx.posv with
  | false => rfl
  | true =>
    rw [if_pos rfl, hsome, hposv, Bool.or_true]

/-- The time is that of its place. -/
theorem nTime_eq (h : tx.Fits txType witness) :
    (if tx.posv then (if tx.posv then tx.nTime else none)
      else if txType = .posWithNTime then tx.nTime else none) = tx.nTime := by
  have hsome := h.nTime
  cases hposv : tx.posv with
  | true => rfl
  | false =>
    by_cases htype : txType = .posWithNTime
    · simp [htype]
    · rw [hposv, decide_eq_false htype, Bool.or_self, Option.isSome_eq_false_iff,
        Option.isNone_iff_eq_none] at hsome
      simp [hsome]

theorem versionGroupId_eq (h : tx.Fits txType witness) :
    (if tx.overwintered then some tx.versionGroupId else none).getD 0 = tx.versionGroupId := by
  cases hover : tx.overwintered with
  | true => rfl
  | false => exact (h.versionGroupId hover).symm

theorem bindingSig_eq (h : tx.Fits txType witness) :
    (if tx.hasBindingSig then some tx.bindingSig else none).getD H512.default =
      tx.bindingSig := by
  cases hbind : tx.hasBindingSig with
  | true => rfl
  | false => exact (h.bindingSig hbind).symm

end Transaction.Fits

/-- The bytes of a format are read back. -/
theorem deserializeTx_reads (h : tx.Fits txType witness) (hends : tx.Ends txType rest)
    (context : ChainVariant) (canonical : Bool) :
    (deserializeTx txType).run ⟨tx.wire txType witness ++ rest, context, canonical⟩ =
      .ok (tx, ⟨rest, context, canonical⟩) := by
  have hmax : maxListSize < 2 ^ 64 := by norm_num [maxListSize]
  have hgroup := (codec_readIf tx.overwintered codec_u32).reads
    (if tx.overwintered then some tx.versionGroupId else none) ⟨isSome_ite _ _, fun _ _ => trivial⟩
  have htime := (codec_readIf (decide (txType = .posWithNTime)) codec_u32).reads
    (if txType = .posWithNTime then tx.nTime else none) ⟨h.isSome_early, fun _ _ => trivial⟩
  have hinputs := codec_readInputs.reads _ h.inputs
  have houtputs := (codec_listMax codec_transactionOutput hmax).reads _ h.outputs
  have hlate := (codec_readIf tx.posv codec_u32).reads
    (if tx.posv then tx.nTime else none) ⟨h.isSome_late, fun _ _ => trivial⟩
  have hjoins := (codec_readJoinSplits tx.hasJoinSplits).reads tx.joins h.joins
  have hbinding := (codec_readIf tx.hasBindingSig (codec_fixed 64)).reads
    (if tx.hasBindingSig then some tx.bindingSig else none) ⟨isSome_ite _ _, fun _ _ => trivial⟩
  rw [optional_ite] at hgroup hbinding
  rw [optional_ite_some] at htime hlate
  have houtput : ¬ (tx.outputs = [] ∧ txType.usesWitness = true) :=
    fun hand => h.hasOutputs hand.2 hand.1
  have hspark : maybeSpark (Transaction.header tx.version tx.overwintered) = tx.isSpark := rfl
  have hposv : decide (txType = .posvWithNTime ∧ tx.isSpark = false) = tx.posv := h.posv.symm
  have hzcash : decide (tx.overwintered = true ∨ txType = .zcash) = tx.zcash := h.zcash.symm
  simp only [Transaction.wire, Transaction.body, List.append_assoc]
  refine (run_bind_of_ok (codec_i32.reads _ trivial _ context canonical)).trans ?_
  rw [overwinteredOf_header h.version, versionOf_header h.version, hspark]
  refine (run_bind_of_ok (hgroup _ context canonical)).trans ?_
  refine (run_bind_of_ok (htime _ context canonical)).trans ?_
  rw [← writeInputs_bare]
  refine (run_bind_of_ok (hinputs _ context canonical)).trans ?_
  refine (run_bind_of_ok (houtputs _ context canonical)).trans ?_
  rw [if_neg houtput]
  refine (run_bind_of_ok (reads_witnesses h _ context canonical)).trans ?_
  refine (run_bind_of_ok (codec_u32.reads _ trivial _ context canonical)).trans ?_
  rw [hposv]
  refine (run_bind_of_ok (hlate _ context canonical)).trans ?_
  refine (run_bind_of_ok (codec_readShielded.reads tx.shielded h.shielded _ context
    canonical)).trans ?_
  rw [hzcash]
  refine (run_bind_of_ok (hjoins _ context canonical)).trans ?_
  refine (run_bind_of_ok (hbinding _ context canonical)).trans ?_
  refine (run_bind_of_ok (reads_strDZeel h hends context canonical)).trans ?_
  refine (run_bind_of_ok (reads_vExtraPayload h hends context canonical)).trans ?_
  rw [run_pure, h.nTime_eq, h.versionGroupId_eq, h.bindingSig_eq, ← h.txHashAlgo]
  rfl

theorem writeInputs_map_bare (witness : Bool) {inputs inputs' : List TransactionInput}
    (h : inputs'.map TransactionInput.bare = inputs) :
    writeInputs (witness, inputs') = writeInputs (witness, inputs) := by
  rw [← writeInputs_bare, h]

/-- The witnesses that a reader adds to inputs. -/
theorem sound_readScriptWitnesses {inputs inputs' : List TransactionInput}
    (hbare : ∀ input ∈ inputs, input.scriptWitness = [])
    (hrun : (readScriptWitnesses witness inputs).run s = .ok (inputs', s')) :
    inputs'.map TransactionInput.bare = inputs ∧
      (∀ input ∈ inputs', if witness then WitnessFits input else input.scriptWitness = []) ∧
      Takes s (if witness then inputs'.flatMap writeWitness else []) s' := by
  cases witness with
  | false =>
    rw [readScriptWitnesses, if_neg Bool.false_ne_true, run_pure] at hrun
    cases hrun
    exact ⟨map_bare_eq hbare, hbare, Takes.refl s⟩
  | true =>
    obtain ⟨⟨hmap, hwitness⟩, htakes⟩ := (codec_readWitnesses inputs hbare).sound hrun
    exact ⟨hmap, hwitness, htakes⟩

/-- What is read was written in the format, or in longer bytes. -/
theorem deserializeTx_sound (hrun : (deserializeTx txType).run s = .ok (tx, s')) :
    ∃ witness, tx.Fits txType witness ∧ tx.Ends txType s'.buffer ∧
      Takes s (tx.wire txType witness) s' := by
  have hmax : maxListSize < 2 ^ 64 := by norm_num [maxListSize]
  rw [deserializeTx] at hrun
  obtain ⟨header, s₁, hheader, hrun⟩ := run_bind_eq_ok.mp hrun
  obtain ⟨_, hthead⟩ := codec_i32.sound hheader
  obtain ⟨groupId, s₂, hgroup, hrun⟩ := run_bind_eq_ok.mp hrun
  obtain ⟨⟨hgsome, _⟩, htgroup⟩ := (codec_readIf _ codec_u32).sound hgroup
  obtain ⟨nTime, s₃, htime, hrun⟩ := run_bind_eq_ok.mp hrun
  obtain ⟨⟨htsome, _⟩, httime⟩ := (codec_readIf _ codec_u32).sound htime
  obtain ⟨⟨witness, inputs⟩, s₄, hinputs, hrun⟩ := run_bind_eq_ok.mp hrun
  obtain ⟨hifit, htinputs⟩ := codec_readInputs.sound hinputs
  obtain ⟨outputs, s₅, houtputs, hrun⟩ := run_bind_eq_ok.mp hrun
  obtain ⟨hofit, htoutputs⟩ := (codec_listMax codec_transactionOutput hmax).sound houtputs
  dsimp only at hrun
  split at hrun
  · cases hrun
  rename_i hhas
  obtain ⟨inputs', s₆, hwitnesses, hrun⟩ := run_bind_eq_ok.mp hrun
  obtain ⟨hmap, hwfit, htwitness⟩ :=
    sound_readScriptWitnesses (fun input hinput => (hifit.1.2 input hinput).2) hwitnesses
  obtain ⟨lockTime, s₇, hlock, hrun⟩ := run_bind_eq_ok.mp hrun
  obtain ⟨_, htlock⟩ := codec_u32.sound hlock
  obtain ⟨nTimeV, s₈, hlate, hrun⟩ := run_bind_eq_ok.mp hrun
  obtain ⟨⟨hlsome, _⟩, htlate⟩ := (codec_readIf _ codec_u32).sound hlate
  obtain ⟨shielded, s₉, hshielded, hrun⟩ := run_bind_eq_ok.mp hrun
  obtain ⟨hsfit, htshielded⟩ := codec_readShielded.sound hshielded
  obtain ⟨joins, s₁₀, hjoins, hrun⟩ := run_bind_eq_ok.mp hrun
  obtain ⟨hjfit, htjoins⟩ := (codec_readJoinSplits _).sound hjoins
  obtain ⟨binding, s₁₁, hbinding, hrun⟩ := run_bind_eq_ok.mp hrun
  obtain ⟨⟨hbsome, _⟩, htbinding⟩ := (codec_readIf _ (codec_fixed 64)).sound hbinding
  obtain ⟨string, s₁₂, hstring, hrun⟩ := run_bind_eq_ok.mp hrun
  obtain ⟨hzfit, hzend, htstring⟩ := sound_readStrDZeel hstring
  obtain ⟨payload, s₁₃, hpayload, hrun⟩ := run_bind_eq_ok.mp hrun
  obtain ⟨hpfit, hpend, htpayload⟩ := sound_readExtraPayload hpayload
  rw [run_pure] at hrun
  cases hrun
  have hheader := header_versionOf header
  have hspark : ∀ tx : Transaction, tx.version = versionOf header →
      tx.overwintered = overwinteredOf header → tx.isSpark = maybeSpark header := by
    intro tx hversion hover
    rw [Transaction.isSpark, hversion, hover, hheader]
  refine ⟨witness, ?_, ?_, ?_⟩
  · constructor
    case version => exact overwinteredOf_versionOf header
    case versionGroupId =>
      intro hover
      have hnone := eq_none_of_isSome hgsome hover
      rw [hnone, Option.getD_none]
    case inputs =>
      rw [hmap]
      exact hifit
    case witnesses => exact hwfit
    case outputs => exact hofit
    case hasOutputs =>
      intro hwitness hnil
      exact hhas ⟨hnil, hwitness⟩
    case posv => rw [hspark _ rfl rfl]
    case nTime =>
      by_cases hposv : decide (txType = .posvWithNTime ∧ maybeSpark header = false) = true
      · rw [hposv] at hlsome
        rw [hposv, if_pos rfl, hlsome, Bool.or_true]
      · have hfalse := Bool.eq_false_iff.mpr hposv
        rw [hfalse, if_neg Bool.false_ne_true, htsome, Bool.or_false]
    case shielded => exact hsfit
    case zcash => rfl
    case joins => exact hjfit
    case bindingSig =>
      intro habsent
      have hnone := eq_none_of_isSome hbsome habsent
      rw [hnone, Option.getD_none]
    case strDZeel => exact hzfit
    case vExtraPayload =>
      rw [hspark _ rfl rfl]
      exact hpfit
    case txHashAlgo => rfl
  · constructor
    case strDZeel =>
      intro htype hnone
      have hlength := (htstring.trans htpayload).length_le
      rw [hzend hnone htype, List.length_nil, List.length_append] at hlength
      constructor
      · cases payload with
        | none => rfl
        | some payload =>
          have hpos := length_compactInteger_pos payload.length
          simp only [optional, Stream.bytes, List.length_append] at hlength
          omega
      · apply List.eq_nil_of_length_eq_zero
        omega
    case vExtraPayload =>
      rw [hspark _ rfl rfl]
      intro hmaybe hnone
      have hlength := htpayload.length_le
      rw [hpend hnone hmaybe, List.length_nil] at hlength
      apply List.eq_nil_of_length_eq_zero
      omega
  · have hall := hthead.trans (htgroup.trans (httime.trans (htinputs.trans (htoutputs.trans
      (htwitness.trans (htlock.trans (htlate.trans (htshielded.trans (htjoins.trans
      (htbinding.trans (htstring.trans htpayload)))))))))))
    have hearly : optional Stream.u32 nTime =
        if txType = .posWithNTime then optional Stream.u32
          (if decide (txType = .posvWithNTime ∧ maybeSpark header = false) then nTimeV else nTime)
        else [] := by
      by_cases htype : txType = .posWithNTime
      · simp [htype]
      · rw [if_neg htype, eq_none_of_isSome htsome (decide_eq_false htype), optional]
    have hlate : optional Stream.u32 nTimeV =
        if decide (txType = .posvWithNTime ∧ maybeSpark header = false) then optional Stream.u32
          (if decide (txType = .posvWithNTime ∧ maybeSpark header = false) then nTimeV else nTime)
        else [] := by
      cases hposv : decide (txType = .posvWithNTime ∧ maybeSpark header = false) with
      | true => rfl
      | false => rw [if_neg Bool.false_ne_true, eq_none_of_isSome hlsome hposv, optional]
    rw [optional_eq_ite hgsome Stream.u32 0, optional_eq_ite hbsome _ H512.default, hearly, hlate,
      ← writeInputs_map_bare witness hmap] at hall
    rw [Transaction.wire, Transaction.body, hheader]
    simp only [List.append_assoc]
    exact hall

end DeXFG.Utxo
