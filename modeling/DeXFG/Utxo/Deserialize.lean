import DeXFG.Utxo.Reader

/-!
# Reading transactions

The reader of transactions takes the format as an argument: with witnesses, of
Zcash, or with a time before or after the other fields.
-/
namespace DeXFG.Utxo
open Library Library.Reading

/-! ## The parts of a transaction -/

def OutPoint.deserialize : Reader OutPoint := do
  let hash ← Reader.fixed 32
  let index ← Reader.u32
  pure { hash := hash, index := index }

def TransactionInput.deserialize : Reader TransactionInput := do
  let previousOutput ← OutPoint.deserialize
  let scriptSig ← Reader.bytes
  let sequence ← Reader.u32
  pure
    { previousOutput := previousOutput, scriptSig := scriptSig, sequence := sequence
      scriptWitness := [] }

def TransactionOutput.deserialize : Reader TransactionOutput := do
  let value ← Reader.u64
  let scriptPubkey ← Reader.bytes
  pure { value := value, scriptPubkey := scriptPubkey }

def ShieldedSpend.deserialize : Reader ShieldedSpend := do
  let cv ← Reader.fixed 32
  let anchor ← Reader.fixed 32
  let nullifier ← Reader.fixed 32
  let rk ← Reader.fixed 32
  let zkproof ← Reader.fixed 192
  let spendAuthSig ← Reader.fixed 64
  pure
    { cv := cv, anchor := anchor, nullifier := nullifier, rk := rk, zkproof := zkproof
      spendAuthSig := spendAuthSig }

def ShieldedOutput.deserialize : Reader ShieldedOutput := do
  let cv ← Reader.fixed 32
  let cmu ← Reader.fixed 32
  let ephemeralKey ← Reader.fixed 32
  let encCipherText ← Reader.fixed 580
  let outCipherText ← Reader.fixed 80
  let zkproof ← Reader.fixed 192
  pure
    { cv := cv, cmu := cmu, ephemeralKey := ephemeralKey, encCipherText := encCipherText
      outCipherText := outCipherText, zkproof := zkproof }

def JoinSplitProof.deserialize (useGroth : Bool) : Reader JoinSplitProof :=
  if useGroth then do
    let proof ← Reader.fixed 192
    pure (.groth proof)
  else do
    let proof ← Reader.fixed 296
    pure (.phgr proof)

/-- Two values one after the other. -/
def Reader.two {α : Type} (r : Reader α) : Reader (α × α) := do
  let x ← r
  let y ← r
  pure (x, y)

def deserializeJoinSplit (useGroth : Bool) : Reader JoinSplit := do
  let vPubOld ← Reader.fixed 8
  let vPubNew ← Reader.fixed 8
  let anchor ← Reader.fixed 32
  let nullifiers ← Reader.two (Reader.fixed 32)
  let commitments ← Reader.two (Reader.fixed 32)
  let ephemeralKey ← Reader.fixed 32
  let randomSeed ← Reader.fixed 32
  let macs ← Reader.two (Reader.fixed 32)
  let zkproof ← JoinSplitProof.deserialize useGroth
  let ciphertexts ← Reader.two (Reader.fixed 601)
  pure
    { vPubOld := vPubOld, vPubNew := vPubNew, anchor := anchor, nullifiers := nullifiers
      commitments := commitments, ephemeralKey := ephemeralKey, randomSeed := randomSeed
      macs := macs, zkproof := zkproof, ciphertexts := ciphertexts }

inductive TxType where
  | standardWithWitness
  | zcash
  | posWithNTime
  | posvWithNTime
  deriving DecidableEq, Repr

def TxType.usesWitness : TxType → Bool
  | standardWithWitness | posvWithNTime => true
  | zcash | posWithNTime => false

/-- Maximum supported list size (inputs, outputs, etc.). -/
def maxListSize : ℕ := 8192

/-- The top bit of the header, which is shifted as a signed number. -/
def overwinteredOf (header : Int32) : Bool := header >>> 31 ≠ 0

def versionOf (header : Int32) : Int32 :=
  if overwinteredOf header then header &&& 0x7FFFFFFF else header

/-- A version 3 (Spark) transaction may have an extra payload. -/
def maybeSpark (header : Int32) : Bool := header &&& 0xFFFF = 3

/-- The inputs, after the flag of a witness if there is one. -/
def readInputs (txType : TxType) (overwintered : Bool) :
    Reader (Bool × List TransactionInput) := do
  let inputs ← Reader.listMax maxListSize TransactionInput.deserialize
  if inputs = [] ∧ overwintered = false ∧ txType.usesWitness = true then do
    let flag ← Reader.u8
    if flag ≠ Transaction.witnessFlag then throw .malformedData
    else do
      let inputs ← Reader.listMax maxListSize TransactionInput.deserialize
      pure (true, inputs)
  else pure (false, inputs)

/-- The witnesses, one for each input. -/
def readWitnesses : List TransactionInput → Reader (List TransactionInput)
  | [] => pure []
  | input :: inputs => do
    let scriptWitness ← Reader.listMax maxListSize Reader.bytes
    let inputs ← readWitnesses inputs
    pure ({ input with scriptWitness := scriptWitness } :: inputs)

def readScriptWitnesses (readWitness : Bool) (inputs : List TransactionInput) :
    Reader (List TransactionInput) :=
  if readWitness then readWitnesses inputs else pure inputs

structure Shielded where
  expiryHeight : UInt32
  valueBalance : Int64
  spends : List ShieldedSpend
  outputs : List ShieldedOutput

def Shielded.none : Shielded where
  expiryHeight := 0
  valueBalance := 0
  spends := []
  outputs := []

def readShielded (overwintered : Bool) (version : Int32) : Reader Shielded :=
  if overwintered = true ∧ 3 ≤ version then do
    let expiryHeight ← Reader.u32
    if 4 ≤ version then do
      let valueBalance ← Reader.i64
      let spends ← Reader.listMax maxListSize ShieldedSpend.deserialize
      let outputs ← Reader.listMax maxListSize ShieldedOutput.deserialize
      pure
        { expiryHeight := expiryHeight, valueBalance := valueBalance, spends := spends
          outputs := outputs }
    else pure { Shielded.none with expiryHeight := expiryHeight }
  else pure Shielded.none

structure JoinSplits where
  joinSplits : List JoinSplit
  pubkey : H256
  sig : H512

def JoinSplits.none : JoinSplits where
  joinSplits := []
  pubkey := H256.default
  sig := H512.default

/-- The join splits of a transaction that has them, with their key and signature. -/
def readJoinSplits (hasJoinSplits : Bool) (version : Int32) : Reader JoinSplits :=
  if hasJoinSplits then do
    let len ← Reader.compactInteger
    if 0 < len then
      if maxListSize < len then throw .malformedData
      else do
        let joinSplits ← readMany (deserializeJoinSplit (decide (2 < version))) len
        let pubkey ← Reader.fixed 32
        let sig ← Reader.fixed 64
        pure { joinSplits := joinSplits, pubkey := pubkey, sig := sig }
    else pure JoinSplits.none
  else pure JoinSplits.none

/-- `std::str::from_utf8`. -/
def fromUtf8 (bytes : Bytes) : Option String := String.fromUTF8? ⟨bytes.toArray⟩

def readStrDZeel (txType : TxType) : Reader (Option String) := do
  let finished ← Reader.isFinished
  if txType = .posWithNTime ∧ finished = false then do
    let len ← Reader.compactInteger
    let buf ← takeBytes .unexpectedEnd len
    match fromUtf8 buf with
    | none => throw .malformedData
    | some string => pure (some string)
  else pure none

def readExtraPayload (maybeSpark : Bool) : Reader (Option Bytes) := do
  let finished ← Reader.isFinished
  if maybeSpark = true ∧ finished = false then do
    let len ← Reader.compactInteger
    let buf ← takeBytes .unexpectedEnd len
    pure (some buf)
  else pure none

/-- A value that is only there in some formats. -/
def readIf {α : Type} (present : Bool) (r : Reader α) : Reader (Option α) :=
  if present then do
    let x ← r
    pure (some x)
  else pure none

def deserializeTx (txType : TxType) : Reader Transaction := do
  let header ← Reader.i32
  let overwintered := overwinteredOf header
  let version := versionOf header
  let maybeSpark := maybeSpark header
  let versionGroupId ← readIf overwintered Reader.u32
  let nTime ← readIf (txType = .posWithNTime) Reader.u32
  let (readWitness, inputs) ← readInputs txType overwintered
  let outputs ← Reader.listMax maxListSize TransactionOutput.deserialize
  if outputs = [] ∧ txType.usesWitness = true then
    throw (.custom "Transaction has no output")
  else do
    let inputs ← readScriptWitnesses readWitness inputs
    let lockTime ← Reader.u32
    let posv : Bool := txType = .posvWithNTime ∧ maybeSpark = false
    let nTimeV ← readIf posv Reader.u32
    let shielded ← readShielded overwintered version
    let zcash : Bool := overwintered ∨ txType = .zcash
    let joins ← readJoinSplits (zcash ∧ (version = 2 ∨ overwintered)) version
    let bindingSig ← readIf (zcash ∧ overwintered ∧ 4 ≤ version ∧
      ¬ (shielded.spends = [] ∧ shielded.outputs = [])) (Reader.fixed 64)
    let strDZeel ← readStrDZeel txType
    let vExtraPayload ← readExtraPayload maybeSpark
    pure
      { version := version
        nTime := if posv then nTimeV else nTime
        overwintered := overwintered
        versionGroupId := versionGroupId.getD 0
        expiryHeight := shielded.expiryHeight
        valueBalance := shielded.valueBalance
        inputs := inputs
        outputs := outputs
        lockTime := lockTime
        bindingSig := bindingSig.getD H512.default
        joinSplitPubkey := joins.pubkey
        joinSplitSig := joins.sig
        joinSplits := joins.joinSplits
        shieldedSpends := shielded.spends
        shieldedOutputs := shielded.outputs
        zcash := zcash
        posv := posv
        strDZeel := strDZeel
        txHashAlgo := .dsha256
        vExtraPayload := vExtraPayload }

/-- `Transaction::deserialize`: the formats are tried one after the other on all of the bytes. -/
def Transaction.deserialize (bytes : Bytes) : Except SerError Transaction :=
  let read := fun txType => ((deserializeTx txType).run ⟨bytes, .standard, true⟩).map Prod.fst
  read .posvWithNTime <|> read .standardWithWitness <|> read .posWithNTime <|> read .zcash

/-! ### What they are read from -/

variable {α : Type} {r : Reader α} {write : α → Bytes} {V : α → Prop}

theorem codec_outPoint : Codec OutPoint.deserialize OutPoint.serialize fun _ => True := by
  refine (Codec.field OutPoint.hash (codec_fixed 32) fun hash =>
    Codec.field OutPoint.index codec_u32 fun index =>
    Codec.pure ?_).of_write_eq ?_
  · intro outpoint
    cases outpoint
    simp
  · simp [OutPoint.serialize]

/-- The inputs that can be read, before their witnesses. -/
def TransactionInput.Fits (input : TransactionInput) : Prop :=
  input.scriptSig.length ≤ 65536 ∧ input.scriptWitness = []

theorem codec_transactionInput : Codec TransactionInput.deserialize TransactionInput.serialize
    TransactionInput.Fits := by
  refine (Codec.field TransactionInput.previousOutput codec_outPoint fun previousOutput =>
    Codec.bind TransactionInput.scriptSig codec_bytes (fun _ h => h.1.1) fun scriptSig hscript =>
    Codec.field TransactionInput.sequence codec_u32 fun sequence =>
    Codec.pure ?_).of_write_eq ?_
  · intro input
    cases input
    simp only [TransactionInput.Fits, TransactionInput.mk.injEq]
    constructor
    · intro h
      obtain ⟨⟨⟨⟨_, rfl⟩, rfl⟩, rfl⟩, rfl⟩ := h
      simp
    · intro h
      obtain ⟨rfl, rfl, rfl, rfl⟩ := h
      simp [hscript]
  · simp [TransactionInput.serialize]

def TransactionOutput.Fits (output : TransactionOutput) : Prop :=
  output.value < 256 ^ 8 ∧ output.scriptPubkey.length ≤ 65536

theorem codec_transactionOutput : Codec TransactionOutput.deserialize TransactionOutput.serialize
    TransactionOutput.Fits := by
  refine (Codec.bind TransactionOutput.value codec_u64 (fun _ h => h.1) fun value hvalue =>
    Codec.bind TransactionOutput.scriptPubkey codec_bytes (fun _ h => h.1.2) fun scriptPubkey hscript =>
    Codec.pure ?_).of_write_eq ?_
  · intro output
    cases output
    simp only [TransactionOutput.Fits, TransactionOutput.mk.injEq]
    constructor
    · intro h
      exact ⟨h.1.2, h.2⟩
    · intro h
      obtain ⟨rfl, rfl⟩ := h
      exact ⟨⟨⟨hvalue, hscript⟩, rfl⟩, rfl⟩
  · simp [TransactionOutput.serialize]

theorem codec_shieldedSpend : Codec ShieldedSpend.deserialize ShieldedSpend.serialize
    fun _ => True := by
  refine (Codec.field ShieldedSpend.cv (codec_fixed 32) fun cv =>
    Codec.field ShieldedSpend.anchor (codec_fixed 32) fun anchor =>
    Codec.field ShieldedSpend.nullifier (codec_fixed 32) fun nullifier =>
    Codec.field ShieldedSpend.rk (codec_fixed 32) fun rk =>
    Codec.field ShieldedSpend.zkproof (codec_fixed 192) fun zkproof =>
    Codec.field ShieldedSpend.spendAuthSig (codec_fixed 64) fun spendAuthSig =>
    Codec.pure ?_).of_write_eq ?_
  · intro spend
    cases spend
    simp [and_assoc]
  · simp [ShieldedSpend.serialize]

theorem codec_shieldedOutput : Codec ShieldedOutput.deserialize ShieldedOutput.serialize
    fun _ => True := by
  refine (Codec.field ShieldedOutput.cv (codec_fixed 32) fun cv =>
    Codec.field ShieldedOutput.cmu (codec_fixed 32) fun cmu =>
    Codec.field ShieldedOutput.ephemeralKey (codec_fixed 32) fun ephemeralKey =>
    Codec.field ShieldedOutput.encCipherText (codec_fixed 580) fun encCipherText =>
    Codec.field ShieldedOutput.outCipherText (codec_fixed 80) fun outCipherText =>
    Codec.field ShieldedOutput.zkproof (codec_fixed 192) fun zkproof =>
    Codec.pure ?_).of_write_eq ?_
  · intro output
    cases output
    simp [and_assoc]
  · simp [ShieldedOutput.serialize]

def JoinSplitProof.isGroth : JoinSplitProof → Bool
  | phgr _ => false
  | groth _ => true

theorem codec_joinSplitProof (useGroth : Bool) :
    Codec (JoinSplitProof.deserialize useGroth) JoinSplitProof.serialize
      fun proof => proof.isGroth = useGroth := by
  unfold JoinSplitProof.deserialize
  cases useGroth with
  | true =>
    apply (codec_fixed 192).map JoinSplitProof.groth fun proof =>
      match proof with
      | .groth proof => proof
      | .phgr _ => ⟨List.replicate 192 0, List.length_replicate⟩
    · intro proof _
      exact ⟨rfl, rfl, rfl⟩
    · intro proof hproof
      cases proof with
      | phgr proof => cases hproof
      | groth proof => exact ⟨trivial, rfl⟩
  | false =>
    apply (codec_fixed 296).map JoinSplitProof.phgr fun proof =>
      match proof with
      | .phgr proof => proof
      | .groth _ => ⟨List.replicate 296 0, List.length_replicate⟩
    · intro proof _
      exact ⟨rfl, rfl, rfl⟩
    · intro proof hproof
      cases proof with
      | phgr proof => exact ⟨trivial, rfl⟩
      | groth proof => cases hproof

theorem codec_two (hr : Codec r write fun _ => True) :
    Codec (Reader.two r) (fun pair => write pair.1 ++ write pair.2) fun _ => True := by
  refine (Codec.field Prod.fst hr fun x =>
    Codec.field Prod.snd hr fun y =>
    Codec.pure ?_).of_write_eq ?_
  · intro pair
    cases pair
    simp
  · simp

theorem codec_joinSplit (useGroth : Bool) :
    Codec (deserializeJoinSplit useGroth) JoinSplit.serialize
      fun split => split.zkproof.isGroth = useGroth := by
  refine (Codec.field JoinSplit.vPubOld (codec_fixed 8) fun vPubOld =>
    Codec.field JoinSplit.vPubNew (codec_fixed 8) fun vPubNew =>
    Codec.field JoinSplit.anchor (codec_fixed 32) fun anchor =>
    Codec.field JoinSplit.nullifiers (codec_two (codec_fixed 32)) fun nullifiers =>
    Codec.field JoinSplit.commitments (codec_two (codec_fixed 32)) fun commitments =>
    Codec.field JoinSplit.ephemeralKey (codec_fixed 32) fun ephemeralKey =>
    Codec.field JoinSplit.randomSeed (codec_fixed 32) fun randomSeed =>
    Codec.field JoinSplit.macs (codec_two (codec_fixed 32)) fun macs =>
    Codec.bind JoinSplit.zkproof (codec_joinSplitProof useGroth) (fun _ h => h.1.1.1.1.1.1.1.1) fun zkproof hproof =>
    Codec.field JoinSplit.ciphertexts (codec_two (codec_fixed 601)) fun ciphertexts =>
    Codec.pure ?_).of_write_eq ?_
  · intro split
    cases split
    simp only [JoinSplit.mk.injEq, and_assoc]
    constructor
    · intro h
      exact h.2
    · intro h
      refine ⟨?_, h⟩
      obtain ⟨_, _, _, _, _, _, _, _, rfl, _⟩ := h
      exact hproof
  · simp [JoinSplit.serialize]

/-! ### The header -/

theorem getLsbD_lowMask (i : ℕ) (hi : i < 32) : (0x7FFFFFFF#32).getLsbD i = decide (i < 31) := by
  interval_cases i <;> rfl

theorem getLsbD_topBit (i : ℕ) (hi : i < 32) : (0x80000000#32).getLsbD i = decide (i = 31) := by
  interval_cases i <;> rfl

theorem overwinteredOf_eq_getLsbD (header : Int32) :
    overwinteredOf header = header.toBitVec.getLsbD 31 := by
  have hshift : (header >>> 31).toBitVec = header.toBitVec.sshiftRight 31 := rfl
  have hmsb : header.toBitVec.msb = header.toBitVec.getLsbD 31 := rfl
  have hbit : ∀ i < 32, (header >>> 31).toBitVec.getLsbD i = header.toBitVec.getLsbD 31 := by
    intro i hi
    rw [hshift, BitVec.getLsbD_sshiftRight, hmsb]
    by_cases h0 : i = 0
    · subst h0
      simp
    · have hbeyond : ¬ 31 + i < 32 := by omega
      simp [hbeyond, hi]
  unfold overwinteredOf
  cases hb : header.toBitVec.getLsbD 31 with
  | true =>
    apply decide_eq_true
    intro hzero
    have hfirst := hbit 0 (by norm_num)
    rw [hzero, hb] at hfirst
    cases hfirst
  | false =>
    apply decide_eq_false
    rw [not_not]
    apply Int32.toBitVec_inj.mp
    apply BitVec.eq_of_getLsbD_eq
    intro i hi
    rw [hbit i hi, hb]
    simp

theorem header_versionOf (header : Int32) :
    Transaction.header (versionOf header) (overwinteredOf header) = header := by
  have htop := overwinteredOf_eq_getLsbD header
  unfold Transaction.header versionOf
  cases h : overwinteredOf header with
  | false => rfl
  | true =>
    rw [h] at htop
    rw [if_pos rfl, if_pos rfl]
    apply Int32.toBitVec_inj.mp
    change (header.toBitVec &&& 0x7FFFFFFF#32) ||| 0x80000000#32 = header.toBitVec
    apply BitVec.eq_of_getLsbD_eq
    intro i hi
    rw [BitVec.getLsbD_or, BitVec.getLsbD_and, getLsbD_lowMask i hi, getLsbD_topBit i hi]
    by_cases h31 : i = 31
    · subst h31
      simp [← htop]
    · have hlow : i < 31 := by omega
      simp [h31, hlow]

theorem overwinteredOf_versionOf (header : Int32) : overwinteredOf (versionOf header) = false := by
  unfold versionOf
  cases h : overwinteredOf header with
  | false => simpa using h
  | true =>
    rw [if_pos rfl, overwinteredOf_eq_getLsbD]
    change (header.toBitVec &&& 0x7FFFFFFF#32).getLsbD 31 = false
    rw [BitVec.getLsbD_and, getLsbD_lowMask 31 (by norm_num)]
    simp

theorem overwinteredOf_header {version : Int32} (h : overwinteredOf version = false)
    (overwintered : Bool) :
    overwinteredOf (Transaction.header version overwintered) = overwintered := by
  cases overwintered with
  | false => exact h
  | true =>
    rw [overwinteredOf_eq_getLsbD, Transaction.header, if_pos rfl]
    change (version.toBitVec ||| 0x80000000#32).getLsbD 31 = true
    rw [BitVec.getLsbD_or, getLsbD_topBit 31 (by norm_num)]
    simp

theorem versionOf_header {version : Int32} (h : overwinteredOf version = false)
    (overwintered : Bool) : versionOf (Transaction.header version overwintered) = version := by
  rw [versionOf, overwinteredOf_header h]
  cases overwintered with
  | false => rfl
  | true =>
    rw [overwinteredOf_eq_getLsbD] at h
    rw [if_pos rfl, Transaction.header, if_pos rfl]
    apply Int32.toBitVec_inj.mp
    change (version.toBitVec ||| 0x80000000#32) &&& 0x7FFFFFFF#32 = version.toBitVec
    apply BitVec.eq_of_getLsbD_eq
    intro i hi
    rw [BitVec.getLsbD_and, BitVec.getLsbD_or, getLsbD_lowMask i hi, getLsbD_topBit i hi]
    by_cases h31 : i = 31
    · subst h31
      rw [h]
      rfl
    · have hlow : i < 31 := by omega
      simp [h31, hlow]

end DeXFG.Utxo
