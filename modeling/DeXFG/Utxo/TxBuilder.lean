import DeXFG.Library.Loops
import DeXFG.Utxo.ScriptAnalysis
import DeXFG.Utxo.TxFee

/-!
# The builder of unsigned transactions

The builder takes inputs for the outputs and the fee, adds the change, and begins anew with the
fee of the transaction it got as long as that is not paid.
-/
namespace DeXFG.Utxo
open Library.Loops (Flow loop)

/-- Fee policy applied on transaction creation. -/
inductive FeePolicy where
  /-- Send the exact amount specified in output(s). -/
  | sendExact
  /-- The index of the output from which the fee should be deducted. -/
  | deductFromOutput (i : ℕ)
  deriving DecidableEq, Repr

inductive GenerateTxError where
  | emptyUtxoSet (required : ℕ)
  | emptyOutputs
  | outputValueLessThanDust (value dust : ℕ)
  | deductFeeFromOutputFailed (outputIdx outputValue required : ℕ)
  | notEnoughUtxos (sumUtxos required : ℕ)
  | transport (msg : String)
  | internal (msg : String)
  /-- An index of a slice is out of bounds. -/
  | panic
  deriving DecidableEq, Repr

/-- What is read of a transaction that an input spends. -/
structure VerboseTransaction where
  height : Option ℕ
  locktime : UInt32
  deriving DecidableEq, Repr

/-- What the coin is told in one turn of the builder. -/
structure InterestSources where
  currentMtp : Except GenerateTxError UInt32
  prevTxns : Except GenerateTxError (H256 → Option VerboseTransaction)
  nowSec : UInt32

structure TxGenerationOps where
  dustAmount : ℕ
  supportsInterest : Bool
  getFeeRate : Except GenerateTxError ActualFeeRate
  getMinRelayRate : Except GenerateTxError (Option ℕ)
  interestSources : ℕ → InterestSources

/-- The interest of inputs, each from the transaction it spends. -/
def sumInterest (prevTxns : H256 → Option VerboseTransaction) (lockTime : UInt32) :
    ℕ → List UnsignedTransactionInput → Except GenerateTxError ℕ
  | interest, [] => .ok interest
  | interest, input :: inputs =>
    match prevTxns input.previousOutput.hash with
    | none => .error (.internal "previous tx not found")
    | some tx =>
      match kmdInterest tx.height input.amount tx.locktime.toNat lockTime.toNat with
      | .ok outputInterest =>
        sumInterest prevTxns lockTime (wrapping (interest + outputInterest)) inputs
      | .error _ => sumInterest prevTxns lockTime interest inputs

/-- The transaction with the lock time that is needed for the interest, and the interest. -/
def calcInterestIfRequired (coin : TxGenerationOps) (turn : ℕ)
    (unsigned : TransactionInputSigner) : Except GenerateTxError (TransactionInputSigner × ℕ) :=
  if coin.supportsInterest then do
    let lockTime ← (coin.interestSources turn).currentMtp
    let prevTxns ← (coin.interestSources turn).prevTxns
    let interest ← sumInterest prevTxns lockTime 0 unsigned.inputs
    -- without interest the lowest lock time is set, to claim it later
    let lockTime :=
      if interest = 0 then (coin.interestSources turn).nowSec - 3600 + 777 * 2 else lockTime
    pure ({ unsigned with lockTime := lockTime }, interest)
  else pure (unsigned, 0)

structure UtxoTxBuilder where
  fromAddress : Option Address
  /-- The required inputs that *must* be added in the resulting tx. -/
  requiredInputs : List UnspentInfo
  /-- The available inputs that *can* be included in the resulting tx. -/
  availableInputs : List UnspentInfo
  outputs : List TransactionOutput
  feePolicy : FeePolicy
  fee : Option ActualFeeRate
  gasFee : Option ℕ
  tx : TransactionInputSigner
  sumInputs : ℕ
  sumOutputs : ℕ
  txFeeNeeded : ℕ
  minRelayFeeRate : Option ℕ
  dust : Option ℕ
  interest : ℕ

structure AdditionalTxData where
  feeAmount : ℕ
  receivedByMe : ℕ
  spentByMe : ℕ
  kmdRewards : Option ℕ
  deriving DecidableEq, Repr

def sequenceFinal : UInt32 := 0xffffffff

def UnspentInfo.toInput (utxo : UnspentInfo) : UnsignedTransactionInput where
  previousOutput := utxo.outpoint
  prevScript := utxo.script
  sequence := sequenceFinal
  amount := utxo.value

/-- Take available inputs until the total reaches the amount. -/
def takeAvailable (amount : ℕ) : ℕ → List UnspentInfo → List UnspentInfo
  | _, [] => []
  | total, utxo :: utxos =>
    if amount ≤ total then []
    else utxo :: takeAvailable amount (wrapping (total + utxo.value)) utxos

def sumValues (values : List ℕ) : ℕ := values.foldl (fun total value => wrapping (total + value)) 0

namespace UtxoTxBuilder

variable (coin : TxGenerationOps) (platform : Platform) (b : UtxoTxBuilder)

/-- `UtxoTxBuilder::new`, with the preimage and the address of the coin. -/
def new (tx : TransactionInputSigner) (fromAddress : Option Address) : UtxoTxBuilder where
  fromAddress := fromAddress
  requiredInputs := []
  availableInputs := []
  outputs := []
  feePolicy := .sendExact
  fee := none
  gasFee := none
  tx := tx
  sumInputs := 0
  sumOutputs := 0
  txFeeNeeded := 0
  minRelayFeeRate := none
  dust := none
  interest := 0

def withFromAddress (address : Address) : UtxoTxBuilder := { b with fromAddress := some address }

def withDust (dustAmount : ℕ) : UtxoTxBuilder := { b with dust := some dustAmount }

def addRequiredInputs (inputs : List UnspentInfo) : UtxoTxBuilder :=
  { b with requiredInputs := b.requiredInputs ++ inputs }

def addAvailableInputs (inputs : List UnspentInfo) : UtxoTxBuilder :=
  { b with availableInputs := b.availableInputs ++ inputs }

def addOutputs (outputs : List TransactionOutput) : UtxoTxBuilder :=
  { b with outputs := b.outputs ++ outputs }

def withFeePolicy (newPolicy : FeePolicy) : UtxoTxBuilder := { b with feePolicy := newPolicy }

def withFee (fee : ActualFeeRate) : UtxoTxBuilder := { b with fee := some fee }

def withGasFee (gasFee : ℕ) : UtxoTxBuilder := { b with gasFee := some gasFee }

def withTransactionInputSigner (tx : TransactionInputSigner) : UtxoTxBuilder := { b with tx := tx }

/-- `dust`. -/
def dustLimit : ℕ := b.dust.getD coin.dustAmount

def totalTxFeeNeeded : ℕ := wrapping (b.txFeeNeeded + b.gasFee.getD 0)

def requiredAmount : ℕ :=
  let sumOutput := sumValues (b.outputs.map TransactionOutput.value)
  match b.feePolicy with
  | .sendExact => wrapping (sumOutput + b.totalTxFeeNeeded)
  | .deductFromOutput _ => sumOutput

/-- The inputs that are taken for an amount. -/
def selected (amount : ℕ) : List UnspentInfo :=
  b.requiredInputs ++
    takeAvailable amount (sumValues (b.requiredInputs.map UnspentInfo.value)) b.availableInputs

def addTxInputs (amount : ℕ) : UtxoTxBuilder :=
  { b with
    tx := { b.tx with inputs := (b.selected amount).map UnspentInfo.toInput }
    sumInputs := sumValues ((b.selected amount).map UnspentInfo.value) }

def addTxOutputs : UtxoTxBuilder :=
  { b with
    tx := { b.tx with outputs := b.outputs }
    sumOutputs := sumValues (b.outputs.map TransactionOutput.value) }

/-- The builder with a change output, if there is one, and what it is worth. -/
def addChange (changeScriptPubkey : Script) : UtxoTxBuilder × ℕ :=
  let sumOutputWithFee := wrapping (b.sumOutputs + b.totalTxFeeNeeded)
  if b.sumInputs < sumOutputWithFee then (b, 0)
  else
    let change := wrapping (b.sumInputs + b.interest) - sumOutputWithFee
    if change < b.dustLimit coin then (b, 0)
    else
      let output := { value := change, scriptPubkey := changeScriptPubkey }
      ({ b with tx := { b.tx with outputs := b.tx.outputs ++ [output] } }, change)

def updateTxFee (fromAddrFormat : AddressFormat) (feeRate : ActualFeeRate) : UtxoTxBuilder :=
  let vSize := txSizeInVBytes fromAddrFormat (.fromSigner b.tx)
  { b with txFeeNeeded := getTxFeeWithRelayFee feeRate vSize b.minRelayFeeRate }

/-- The builder with the fee taken from an output, and what was taken. -/
def deductTxfeeFromOutput : Except GenerateTxError (UtxoTxBuilder × ℕ) :=
  match b.feePolicy with
  | .sendExact => .ok (b, 0)
  | .deductFromOutput i =>
    let txFee := b.totalTxFeeNeeded
    let minOutput := wrapping (txFee + b.dustLimit coin)
    match b.tx.outputs[i]? with
    | none => .error .panic
    | some output =>
      if output.value < minOutput then
        .error (.deductFeeFromOutputFailed i output.value minOutput)
      else
        let outputs := b.tx.outputs.set i { output with value := output.value - txFee }
        .ok ({ b with tx := { b.tx with outputs := outputs } }, txFee)

/-- Outputs that begin with `OP_RETURN` may be worth less. -/
def validateNotDust : List TransactionOutput → Except GenerateTxError Unit
  | [] => .ok ()
  | output :: outputs =>
    match (Script.opcodesNext platform output.scriptPubkey 0).map Prod.fst with
    | some (.error .panic) => .error .panic
    | first =>
      if first ≠ some (.ok Opcode.opReturn) ∧ output.value < b.dustLimit coin then
        .error (.outputValueLessThanDust output.value (b.dustLimit coin))
      else validateNotDust outputs

def sumReceivedByMe (changeScriptPubkey : Script) : ℕ :=
  sumValues ((b.tx.outputs.filter fun output => output.scriptPubkey = changeScriptPubkey).map
    TransactionOutput.value)

def txFeeFact : Except GenerateTxError ℕ :=
  let total := wrapping (b.sumInputs + b.interest)
  let gas := b.gasFee.getD 0
  if total < gas then .error (.internal "gas_fee underflow")
  else if total - gas < b.sumOutputs then .error (.internal "sum_outputs underflow")
  else .ok (total - gas - b.sumOutputs)

/-! ## The loop -/

/-- What the loop begins with. -/
structure Started where
  builder : UtxoTxBuilder
  format : AddressFormat
  feeRate : ActualFeeRate
  changeScriptPubkey : Script

/-- The builder, if its inputs reach the amount. -/
def checkInputs (amount : ℕ) : Except GenerateTxError UtxoTxBuilder :=
  if b.sumInputs < amount then .error (.notEnoughUtxos b.sumInputs b.requiredAmount) else .ok b

/-- A turn of the loop of `build`, up to its check that there are enough inputs. -/
def collect (s : Started) (n : ℕ) (oneTimeFeeUpdate : Bool) :
    Except GenerateTxError UtxoTxBuilder := do
  let requiredAmount0 := b.requiredAmount
  let b := (b.addTxInputs requiredAmount0).addTxOutputs
  let (tx, interest) ← calcInterestIfRequired coin n b.tx
  let b := { b with tx := tx, interest := interest }
  -- the fee without the change output is tried once
  (if oneTimeFeeUpdate then b else b.updateTxFee s.format s.feeRate).checkInputs requiredAmount0

/-- The end of a turn, in which a fee was taken from an output, and whether the fee is paid. -/
def addChangeAndFee (s : Started) (deducted : ℕ) : UtxoTxBuilder × Bool :=
  let b := { b with sumOutputs := b.sumOutputs - deducted }
  let (b, change) := b.addChange coin s.changeScriptPubkey
  let b := { b with sumOutputs := wrapping (b.sumOutputs + change) }
  -- the fee with the change output, if added
  let b := b.updateTxFee s.format s.feeRate
  (b, decide (wrapping (b.sumOutputs + b.totalTxFeeNeeded) ≤ wrapping (b.sumInputs + b.interest)))

/-- The rest of the turn. -/
def settle (s : Started) : Except GenerateTxError (UtxoTxBuilder × Bool) := do
  let (b, deducted) ← b.deductTxfeeFromOutput coin
  if b.sumOutputs < deducted then throw (.internal "sum_outputs underflow")
  pure (b.addChangeAndFee coin s deducted)

/-- A turn of the loop of `build`, with its number. -/
def turn (s : Started) : ℕ × UtxoTxBuilder → Flow (Except GenerateTxError UtxoTxBuilder)
    (ℕ × UtxoTxBuilder)
  | (n, b) =>
    match b.collect coin s n (decide (n ≠ 0)) >>= fun b => b.settle coin s with
    | .error e => .done (.error e)
    | .ok (b, true) => .done (.ok b)
    | .ok (b, false) => .again (n + 1, b)

/-- `build` before its loop. -/
def start : Except GenerateTxError Started := do
  let address ←
    match b.fromAddress with
    | some address => pure address
    | none => throw (.internal "'from' address is not specified")
  let changeScriptPubkey ← (outputScript address).mapError .internal
  let actualFeeRate ←
    match b.fee with
    | some fee => pure fee
    | none => coin.getFeeRate
  if b.outputs = [] then throw .emptyOutputs
  b.validateNotDust coin platform b.outputs
  if b.availableInputs = [] ∧ b.tx.inputs = [] then throw (.emptyUtxoSet b.requiredAmount)
  let minRelayFeeRate ← coin.getMinRelayRate
  pure { builder := { b with minRelayFeeRate := minRelayFeeRate }, format := address.addrFormat
         feeRate := actualFeeRate, changeScriptPubkey := changeScriptPubkey }

/-- `build` after its loop. -/
def finish (s : Started) : Except GenerateTxError (TransactionInputSigner × AdditionalTxData) := do
  let feeAmount ← b.txFeeFact
  pure (b.tx, { feeAmount := feeAmount
                receivedByMe := b.sumReceivedByMe s.changeScriptPubkey
                spentByMe := b.sumInputs
                kmdRewards := if coin.supportsInterest then some b.interest else none })

def build (fuel : ℕ) :
    Option (Except GenerateTxError (TransactionInputSigner × AdditionalTxData)) :=
  match b.start coin platform with
  | .error e => some (.error e)
  | .ok s => (loop (turn coin s) fuel (0, s.builder)).map fun result =>
      result >>= fun b => b.finish coin s

end UtxoTxBuilder

end DeXFG.Utxo
