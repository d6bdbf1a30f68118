import DeXFG.Utxo.TxCodec

/-!
# Transactions written and read back

A transaction that a format has read is written with its witness, and read again in
the same format.
-/
namespace DeXFG.Utxo
open Library Library.Reading

variable {txType : TxType} {witness : Bool} {tx : Transaction} {s s' : Input ChainVariant}

/-- The transactions that a format returns. -/
def Returned (txType : TxType) (tx : Transaction) : Prop :=
  ∃ s s', (deserializeTx txType).run s = .ok (tx, s')

/-- Reading the bytes of a transaction in a format gives it back and takes all of them. -/
def ReadsBack (txType : TxType) (tx : Transaction) : Prop :=
  ∀ context canonical, (deserializeTx txType).run ⟨tx.serializeWithWitness, context, canonical⟩ =
    .ok (tx, ⟨[], context, canonical⟩)

/-- The writer leaves nothing out, and the reader does not take an empty list of inputs
for the place of the flag. -/
structure WrittenWhole (txType : TxType) (tx : Transaction) : Prop where
  inputs : ¬ (tx.inputs = [] ∧ txType.usesWitness = true ∧ tx.overwintered = false)
  witness : tx.hasWitness = true → tx.nTime = none ∧ tx.vExtraPayload = none
  payload : tx.vExtraPayload ≠ some []

namespace Transaction

theorem hasWitness_eq_false :
    tx.hasWitness = false ↔ ∀ input ∈ tx.inputs, input.scriptWitness = [] := by
  simp [hasWitness]

theorem Fits.eq_true_of_hasWitness (h : tx.Fits txType witness) (hw : tx.hasWitness = true) :
    witness = true := by
  cases witness with
  | true => rfl
  | false =>
    have hnone := hasWitness_eq_false.mpr h.witnesses
    rw [hw] at hnone
    cases hnone

/-- What is written of a payload. -/
def writePayload (payload? : Option Bytes) : Bytes :=
  match payload? with
  | none => []
  | some payload => if payload = [] then [] else Stream.bytes payload

theorem getD_map_eq_optional {α : Type} (write : α → Bytes) (x? : Option α) :
    (x?.map write).getD [] = optional write x? := by
  cases x? <;> rfl

/-- The time is written early unless it is written late. -/
theorem Fits.writeEarly_eq (h : tx.Fits txType witness) :
    (if !tx.posv then (tx.nTime.map Stream.u32).getD [] else []) =
      if txType = .posWithNTime then optional Stream.u32 tx.nTime else [] := by
  have hsome := h.nTime
  have hposv := h.posv
  rw [getD_map_eq_optional]
  by_cases htype : txType = .posWithNTime
  · have hnot : tx.posv = false := by
      rw [hposv, htype]
      rfl
    rw [if_pos htype, hnot]
    rfl
  · rw [if_neg htype]
    cases hlate : tx.posv with
    | true => rfl
    | false =>
      rw [hlate, decide_eq_false htype] at hsome
      rw [eq_none_of_isSome hsome rfl]
      rfl

theorem writeShielded_eq :
    (if tx.overwintered ∧ 3 ≤ tx.version then
      Stream.u32 tx.expiryHeight ++
        if 4 ≤ tx.version then
          Stream.i64 tx.valueBalance ++ Stream.list ShieldedSpend.serialize tx.shieldedSpends ++
            Stream.list ShieldedOutput.serialize tx.shieldedOutputs
        else []
    else []) = writeShielded tx.overwintered tx.version tx.shielded := by
  unfold writeShielded
  split
  · rw [List.append_assoc]
    rfl
  · rfl

theorem writeJoinSplits_eq :
    (if tx.zcash then
      (if tx.version = 2 ∨ tx.overwintered then
        Stream.list JoinSplit.serialize tx.joinSplits ++
          if tx.joinSplits = [] then [] else tx.joinSplitPubkey.val ++ tx.joinSplitSig.val
      else []) ++
      (if 4 ≤ tx.version ∧ tx.overwintered ∧
          ¬ (tx.shieldedOutputs = [] ∧ tx.shieldedSpends = []) then
        tx.bindingSig.val
      else [])
    else []) = writeJoinSplits tx.hasJoinSplits tx.joins ++
      if tx.hasBindingSig then tx.bindingSig.val else [] := by
  unfold writeJoinSplits hasJoinSplits hasBindingSig
  cases tx.zcash with
  | false => simp
  | true =>
    simp only [if_true, true_and, decide_eq_true_eq]
    congr 1
    apply if_congr _ rfl rfl
    rw [and_left_comm, and_comm (a := tx.shieldedOutputs = [])]

/-- Without witnesses all but an empty payload is written. -/
theorem Fits.serialize_eq (h : tx.Fits txType witness) :
    tx.serialize = tx.body txType false ++ writePayload tx.vExtraPayload := by
  rw [serialize, h.writeEarly_eq, writeShielded_eq, writeJoinSplits_eq, getD_map_eq_optional]
  simp only [body, writeInputs, Bool.false_eq_true, if_false, List.nil_append, List.append_assoc]
  cases tx.strDZeel <;> cases tx.vExtraPayload <;> rfl

theorem length_body_true : (tx.body txType true).length =
    (tx.body txType false).length + 2 + (tx.inputs.flatMap writeWitness).length := by
  simp only [body, writeInputs, List.length_append, if_pos, Bool.false_eq_true, if_false,
    List.length_cons, List.length_nil]
  omega

theorem Ends.nil {rest : Bytes} (h : tx.Ends txType rest) : tx.Ends txType [] where
  strDZeel := fun htype hnone => ⟨(h.strDZeel htype hnone).1, rfl⟩
  vExtraPayload := fun _ _ => rfl

/-- A format with a flag has no section for one kind of chain only, but for a late time. -/
theorem Fits.body_true_eq (h : tx.Fits txType true) (hw : tx.hasWitness = true) :
    tx.body txType true = tx.serializeWithWitness ++
      if tx.posv then optional Stream.u32 tx.nTime else [] := by
  obtain ⟨hover, huses⟩ : tx.overwintered = false ∧ txType.usesWitness = true := h.inputs.2
  have hpos : txType ≠ .posWithNTime := by
    rintro rfl
    cases huses
  have hzcash : tx.zcash = false := by
    have hne : txType ≠ .zcash := by
      rintro rfl
      cases huses
    rw [h.zcash, hover]
    simp [hne]
  have hstring : tx.strDZeel = none := by
    cases hsome : tx.strDZeel with
    | none => rfl
    | some string => exact absurd (h.strDZeel string hsome).1 hpos
  simp only [body, serializeWithWitness, hw, writeInputs, writeShielded, writeJoinSplits,
    hasJoinSplits, hasBindingSig, hzcash, hover, hstring, hpos, optional, if_true, if_false,
    Bool.false_eq_true, false_and, decide_false, List.nil_append, List.append_nil,
    List.append_assoc]
  rfl

theorem Fits.hasFlag (h : tx.Fits txType true) : HasFlag txType tx.overwintered := h.inputs.2

/-- An empty list of inputs is written in the place of the flag. -/
theorem Fits.not_noInputs (h : tx.Fits txType false) :
    ¬ (tx.inputs = [] ∧ txType.usesWitness = true ∧ tx.overwintered = false) := by
  intro hall
  obtain ⟨hnil, huses, hover⟩ := hall
  apply h.inputs.2
  rw [hnil]
  exact ⟨rfl, hover, huses⟩

theorem length_bytes_pos (data : Bytes) : 0 < (Stream.bytes data).length := by
  have hpos := length_compactInteger_pos data.length
  rw [Stream.bytes, List.length_append]
  omega

theorem writePayload_eq {payload? : Option Bytes} (h : payload? ≠ some []) :
    writePayload payload? = optional Stream.bytes payload? := by
  cases payload? with
  | none => rfl
  | some payload =>
    have hne : payload ≠ [] := by
      rintro rfl
      exact h rfl
    exact if_neg hne

/-- An empty payload is the only one that is not written. -/
theorem length_writePayload (payload? : Option Bytes) :
    (writePayload payload?).length ≤ (optional Stream.bytes payload?).length ∧
      (payload? = some [] → (writePayload payload?).length < (optional Stream.bytes payload?).length) := by
  cases payload? with
  | none => exact ⟨le_rfl, nofun⟩
  | some payload =>
    by_cases hnil : payload = []
    · subst hnil
      exact ⟨Nat.zero_le _, fun _ => length_bytes_pos []⟩
    · rw [writePayload, if_neg hnil]
      constructor
      · exact le_rfl
      · intro hsome
        exact absurd (Option.some.inj hsome) hnil

/-- A transaction that is not written whole has more bytes in its format than are written. -/
theorem Fits.length_lt (h : tx.Fits txType witness) (hlost : ¬ WrittenWhole txType tx) :
    tx.serializeWithWitness.length < (tx.wire txType witness).length := by
  by_contra hle
  apply hlost
  cases hw : tx.hasWitness with
  | true =>
    obtain rfl := h.eq_true_of_hasWitness hw
    rw [wire, h.body_true_eq hw, List.length_append, List.length_append] at hle
    have hpayload : tx.vExtraPayload = none := by
      cases hsome : tx.vExtraPayload with
      | none => rfl
      | some payload =>
        have hpos := length_bytes_pos payload
        rw [hsome, optional] at hle
        omega
    have hlate : tx.posv = false := by
      cases hposv : tx.posv with
      | false => rfl
      | true =>
        obtain ⟨nTime, hnTime⟩ := Option.isSome_iff_exists.mp (h.nTime.trans (by simp [hposv]))
        rw [hposv, if_pos rfl, hnTime, optional, Stream.u32, length_leBytes] at hle
        omega
    have hearly : txType ≠ .posWithNTime := by
      rintro rfl
      cases h.hasFlag.2
    constructor
    case inputs =>
      intro hall
      rw [hasWitness, hall.1] at hw
      cases hw
    case witness =>
      intro _
      have hnTime := h.nTime
      rw [hlate, decide_eq_false hearly] at hnTime
      exact ⟨eq_none_of_isSome hnTime rfl, hpayload⟩
    case payload =>
      rw [hpayload]
      intro hsome
      cases hsome
  | false =>
    obtain ⟨hshort, hempty⟩ := length_writePayload tx.vExtraPayload
    rw [serializeWithWitness, hw, if_neg Bool.false_ne_true, h.serialize_eq, wire,
      List.length_append, List.length_append] at hle
    constructor
    case inputs =>
      cases witness with
      | false => exact h.not_noInputs
      | true =>
        have hlonger := @length_body_true txType tx
        omega
    case witness =>
      intro hw'
      cases hw.symm.trans hw'
    case payload =>
      intro hsome
      have hlt := hempty hsome
      cases witness with
      | false => omega
      | true =>
        have hlonger := @length_body_true txType tx
        omega

/-- A transaction that is written whole is written in its format. -/
theorem Fits.serializeWithWitness_eq (h : tx.Fits txType witness)
    (hwhole : WrittenWhole txType tx) :
    ∃ witness', tx.Fits txType witness' ∧ tx.serializeWithWitness = tx.wire txType witness' := by
  cases hw : tx.hasWitness with
  | true =>
    obtain rfl := h.eq_true_of_hasWitness hw
    obtain ⟨hnTime, hpayload⟩ := hwhole.witness hw
    refine ⟨true, h, ?_⟩
    rw [wire, h.body_true_eq hw, hnTime, hpayload]
    simp [optional]
  | false =>
    have hpayload := writePayload_eq hwhole.payload
    refine ⟨false, ?_, ?_⟩
    · have hinputs : InputsFit txType tx.overwintered
          (false, tx.inputs.map TransactionInput.bare) := by
        refine ⟨h.inputs.1, ?_⟩
        intro hall
        exact hwhole.inputs ⟨List.map_eq_nil_iff.mp hall.1, hall.2.2, hall.2.1⟩
      exact { h with inputs := hinputs, witnesses := hasWitness_eq_false.mp hw }
    · rw [serializeWithWitness, hw, if_neg Bool.false_ne_true, h.serialize_eq, hpayload, wire]

end Transaction

/-- What a format reads in the bytes of a transaction is all of it. -/
theorem writtenWhole_of_run (hbuffer : s.buffer = tx.serializeWithWitness)
    (hrun : (deserializeTx txType).run s = .ok (tx, s')) : WrittenWhole txType tx := by
  by_contra hlost
  obtain ⟨witness, hfits, _, htakes⟩ := deserializeTx_sound hrun
  have hlt := hfits.length_lt hlost
  have hle := htakes.length_le
  rw [hbuffer] at hle
  omega

theorem ReadsBack.writtenWhole (hback : ReadsBack txType tx) : WrittenWhole txType tx :=
  writtenWhole_of_run rfl (hback .standard true)

theorem WrittenWhole.readsBack (hwhole : WrittenWhole txType tx) (h : tx.Fits txType witness)
    (hends : tx.Ends txType []) : ReadsBack txType tx := by
  intro context canonical
  obtain ⟨witness', hfits, hbytes⟩ := h.serializeWithWitness_eq hwhole
  have hread := deserializeTx_reads hfits hends context canonical
  rw [List.append_nil] at hread
  rw [hbytes]
  exact hread

/-- A transaction is read back from its bytes unless the writer has left something out. -/
theorem reads_back_iff (h : Returned txType tx) :
    ReadsBack txType tx ↔ WrittenWhole txType tx := by
  obtain ⟨s, s', hrun⟩ := h
  obtain ⟨witness, hfits, hends, _⟩ := deserializeTx_sound hrun
  constructor
  · exact ReadsBack.writtenWhole
  · intro hwhole
    exact hwhole.readsBack hfits hends.nil

/-! ### A proof-of-stake transaction with a witness -/

def stakeTx : Transaction where
  version := 1
  nTime := some 1600000000
  overwintered := false
  versionGroupId := 0
  inputs :=
    [{ previousOutput := { hash := H256.default, index := 0 }, scriptSig := []
       sequence := 0xFFFFFFFF, scriptWitness := [[1, 2, 3]] }]
  outputs := [{ value := 1000, scriptPubkey := [0x51] }]
  lockTime := 0
  expiryHeight := 0
  shieldedSpends := []
  shieldedOutputs := []
  joinSplits := []
  valueBalance := 0
  joinSplitPubkey := H256.default
  joinSplitSig := H512.default
  bindingSig := H512.default
  zcash := false
  posv := true
  strDZeel := none
  txHashAlgo := .dsha256
  vExtraPayload := none

theorem stakeTx_fits : stakeTx.Fits .posvWithNTime true where
  version := by decide
  versionGroupId := fun _ => rfl
  inputs := by
    refine ⟨⟨by decide, ?_⟩, rfl, rfl⟩
    simp [stakeTx, TransactionInput.bare, TransactionInput.Fits]
  witnesses := by simp [stakeTx, WitnessFits, maxListSize]
  outputs := by simp [stakeTx, TransactionOutput.Fits, maxListSize]
  hasOutputs := by simp [stakeTx]
  posv := by decide
  nTime := rfl
  shielded := rfl
  zcash := rfl
  joins := rfl
  bindingSig := fun _ => rfl
  strDZeel := nofun
  vExtraPayload := nofun
  txHashAlgo := rfl

theorem stakeTx_ends (rest : Bytes) : stakeTx.Ends .posvWithNTime rest where
  strDZeel := nofun
  vExtraPayload := nofun

theorem stakeTx_returned : Returned .posvWithNTime stakeTx :=
  ⟨_, _, deserializeTx_reads stakeTx_fits (stakeTx_ends []) .standard true⟩

theorem reads_back_stake :
    ReadsBack .posvWithNTime stakeTx ↔ WrittenWhole .posvWithNTime stakeTx :=
  reads_back_iff stakeTx_returned

/-- Its time is not written with its witness. -/
theorem reads_back_fails : Returned .posvWithNTime stakeTx ∧ ¬ ReadsBack .posvWithNTime stakeTx := by
  constructor
  · exact stakeTx_returned
  · intro hback
    cases (hback.writtenWhole.witness rfl).1

end DeXFG.Utxo
