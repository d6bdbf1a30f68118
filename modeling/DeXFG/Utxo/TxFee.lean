import DeXFG.Utxo.Address
import DeXFG.Utxo.Serialize

/-!
# Fees and rewards

The fee of a transaction is read off its size, and inputs of KMD earn a reward. Sums and products
of satoshis wrap like `u64`.
-/
namespace DeXFG.Utxo

/-- The value of a sum or a product in `u64`. -/
def wrapping (n : ℕ) : ℕ := n % 2 ^ 64

theorem wrapping_eq {n : ℕ} (h : n < 2 ^ 64) : wrapping n = n := Nat.mod_eq_of_lt h

theorem wrapping_le (n : ℕ) : wrapping n ≤ n := Nat.mod_le _ _

theorem wrapping_wrapping_add (m n : ℕ) : wrapping (wrapping m + n) = wrapping (m + n) := by
  simp [wrapping]

/-! ## Fee rates -/

def kiloByte : ℕ := 1000

/-- The actual "runtime" tx fee rate (per kb). -/
inductive ActualFeeRate where
  | dynamic (feeRate : ℕ)
  | fixedPerKb (feeRate : ℕ)
  | fixedPerKbDingo (feeRate : ℕ)
  deriving DecidableEq, Repr

namespace ActualFeeRate

def perKb : ActualFeeRate → ℕ
  | dynamic feeRate => feeRate
  | fixedPerKb feeRate => feeRate
  | fixedPerKbDingo feeRate => feeRate

/-- The kilobytes of a size, rounded up. -/
def txSizeKb (txSize : ℕ) : ℕ :=
  if txSize % kiloByte = 0 then txSize / kiloByte else txSize / kiloByte + 1

theorem txSizeKb_mono {size size' : ℕ} (h : size ≤ size') : txSizeKb size ≤ txSizeKb size' := by
  unfold txSizeKb kiloByte
  split <;> split <;> omega

theorem txSizeKb_le (size : ℕ) : txSizeKb size ≤ size := by
  unfold txSizeKb kiloByte
  split <;> omega

def getTxFee (rate : ActualFeeRate) (txSize : ℕ) : ℕ :=
  match rate with
  | dynamic feeRate => wrapping (feeRate * txSize) / kiloByte
  | fixedPerKb feeRate => wrapping (feeRate * txSize) / kiloByte
  | fixedPerKbDingo feeRate => wrapping (feeRate * txSizeKb txSize)

/-- A larger transaction does not pay less, as long as the product fits. -/
theorem getTxFee_mono (rate : ActualFeeRate) {size size' : ℕ} (h : size ≤ size')
    (hfits : rate.perKb * size' < 2 ^ 64) : rate.getTxFee size ≤ rate.getTxFee size' := by
  have hperKb : ∀ feeRate, feeRate * size' < 2 ^ 64 →
      wrapping (feeRate * size) / kiloByte ≤ wrapping (feeRate * size') / kiloByte := by
    intro feeRate hlt
    have hle : feeRate * size ≤ feeRate * size' := Nat.mul_le_mul_left feeRate h
    rw [wrapping_eq hlt, wrapping_eq (hle.trans_lt hlt)]
    exact Nat.div_le_div_right hle
  cases rate with
  | dynamic feeRate => exact hperKb feeRate hfits
  | fixedPerKb feeRate => exact hperKb feeRate hfits
  | fixedPerKbDingo feeRate =>
    have hle := Nat.mul_le_mul_left feeRate (txSizeKb_mono h)
    have hlt := (Nat.mul_le_mul_left feeRate (txSizeKb_le size')).trans_lt hfits
    simp only [getTxFee]
    rw [wrapping_eq hlt, wrapping_eq (hle.trans_lt hlt)]
    exact hle

end ActualFeeRate

def getTxFeeWithRelayFee (feeRate : ActualFeeRate) (txSize : ℕ)
    (minRelayFeeRate : Option ℕ) : ℕ :=
  let txFee := feeRate.getTxFee txSize
  match minRelayFeeRate with
  | some minRelayFeeRate =>
    let minRelayTxFee := (ActualFeeRate.dynamic minRelayFeeRate).getTxFee txSize
    if txFee < minRelayTxFee then minRelayTxFee else txFee
  | none => txFee

theorem getTxFeeWithRelayFee_mono {feeRate : ActualFeeRate} {minRelayFeeRate : Option ℕ}
    {size size' : ℕ} (h : size ≤ size') (hfits : feeRate.perKb * size' < 2 ^ 64)
    (hrelay : ∀ minRelay, minRelayFeeRate = some minRelay → minRelay * size' < 2 ^ 64) :
    getTxFeeWithRelayFee feeRate size minRelayFeeRate ≤
      getTxFeeWithRelayFee feeRate size' minRelayFeeRate := by
  have hfee := feeRate.getTxFee_mono h hfits
  cases minRelayFeeRate with
  | none => exact hfee
  | some minRelay =>
    have hmin := (ActualFeeRate.dynamic minRelay).getTxFee_mono h (hrelay minRelay rfl)
    simp only [getTxFeeWithRelayFee]
    split <;> split <;> omega

/-! ## The size of a transaction once it is signed -/

def maxDerSignatureLen : ℕ := 72

def compressedPubkeyLen : ℕ := 33

def txSizeInVBytes (fromAddrFormat : AddressFormat) (tx : Transaction) : ℕ :=
  let transactionBytes := tx.serialize
  -- 2 bytes are used to indicate the length of signature and pubkey
  let additionalLen := 2 + maxDerSignatureLen + compressedPubkeyLen
  match fromAddrFormat with
  | .segwit =>
    let baseSize := transactionBytes.length
    let totalSize := transactionBytes.length + 4 + tx.inputs.length * (additionalLen + 1)
    -- the sum of 0.75 and 0.25 of the sizes is exact before it is cut off
    (3 * baseSize + totalSize) / 4
  | _ => transactionBytes.length + tx.inputs.length * additionalLen

theorem length_compactInteger_mono {m n : ℕ} (h : m ≤ n) :
    (Stream.compactInteger m).length ≤ (Stream.compactInteger n).length := by
  unfold Stream.compactInteger
  split_ifs <;> simp <;> omega

/-- The bytes that outputs are written in, apart from how many they are. -/
def outputsLength (outputs : List TransactionOutput) : ℕ :=
  (outputs.flatMap TransactionOutput.serialize).length

@[simp] theorem outputsLength_append (outputs outputs' : List TransactionOutput) :
    outputsLength (outputs ++ outputs') = outputsLength outputs + outputsLength outputs' := by
  simp [outputsLength]

/-- What an output is worth does not change its size. -/
theorem outputsLength_congr {outputs outputs' : List TransactionOutput}
    (h : outputs.map TransactionOutput.scriptPubkey =
      outputs'.map TransactionOutput.scriptPubkey) :
    outputsLength outputs = outputsLength outputs' := by
  have hlength : ∀ outputs, outputsLength outputs =
      ((outputs.map TransactionOutput.scriptPubkey).map fun script =>
        8 + (Stream.bytes script).length).sum := by
    intro outputs
    simp only [outputsLength, List.length_flatMap, List.map_map]
    congr 1
    apply List.map_congr_left
    intro output _
    simp [TransactionOutput.serialize, Stream.u64]
  rw [hlength, hlength, h]

/-- An input without its signature. -/
def UnsignedTransactionInput.unsigned (input : UnsignedTransactionInput) : TransactionInput where
  previousOutput := input.previousOutput
  scriptSig := []
  sequence := input.sequence
  scriptWitness := []

theorem length_inputs (inputs : List UnsignedTransactionInput) :
    (Stream.list TransactionInput.serialize (inputs.map UnsignedTransactionInput.unsigned)).length =
      (Stream.compactInteger inputs.length).length + inputs.length * 41 := by
  have hinput : ∀ input : UnsignedTransactionInput, input.unsigned.serialize.length = 41 := by
    intro input
    simp [UnsignedTransactionInput.unsigned, TransactionInput.serialize, OutPoint.serialize,
      Stream.bytes, Stream.u32, Stream.compactInteger, input.previousOutput.hash.property]
  simp [Stream.list, List.length_flatMap, Function.comp_def, hinput]

theorem length_outputs (outputs : List TransactionOutput) :
    (Stream.list TransactionOutput.serialize outputs).length =
      (Stream.compactInteger outputs.length).length + outputsLength outputs :=
  List.length_append

/-- The rest of a transaction is as long with other inputs, outputs and lock time. -/
theorem length_serialize_with (tx : Transaction) (inputs : List TransactionInput)
    (outputs : List TransactionOutput) (lockTime : UInt32) :
    { tx with inputs := inputs, outputs := outputs, lockTime := lockTime }.serialize.length +
        (Stream.list TransactionInput.serialize tx.inputs).length +
        (Stream.list TransactionOutput.serialize tx.outputs).length =
      tx.serialize.length + (Stream.list TransactionInput.serialize inputs).length +
        (Stream.list TransactionOutput.serialize outputs).length := by
  simp only [Transaction.serialize, List.length_append, Stream.u32,
    Library.Reading.length_leBytes]
  omega

/-- More inputs and outputs make a transaction larger. -/
theorem txSizeInVBytes_mono (format : AddressFormat) (tx : TransactionInputSigner)
    {inputs inputs' : List UnsignedTransactionInput} {outputs outputs' : List TransactionOutput}
    {lockTime lockTime' : UInt32} (hinputs : inputs.length ≤ inputs'.length)
    (houtputs : outputs.length ≤ outputs'.length)
    (hlength : outputsLength outputs ≤ outputsLength outputs') :
    txSizeInVBytes format (.fromSigner
        { tx with inputs := inputs, outputs := outputs, lockTime := lockTime }) ≤
      txSizeInVBytes format (.fromSigner
        { tx with inputs := inputs', outputs := outputs', lockTime := lockTime' }) := by
  have hserialized := length_serialize_with (.fromSigner tx)
  have hsize : ∀ inputs outputs lockTime, txSizeInVBytes format (.fromSigner
      { tx with inputs := inputs, outputs := outputs, lockTime := lockTime }) =
        txSizeInVBytes format { Transaction.fromSigner tx with
          inputs := inputs.map UnsignedTransactionInput.unsigned
          outputs := outputs
          lockTime := lockTime } :=
    fun _ _ _ => rfl
  have h := hserialized (inputs.map UnsignedTransactionInput.unsigned) outputs lockTime
  have h' := hserialized (inputs'.map UnsignedTransactionInput.unsigned) outputs' lockTime'
  simp only [length_inputs, length_outputs] at h h'
  have hcount := length_compactInteger_mono hinputs
  have hcount' := length_compactInteger_mono houtputs
  rw [hsize, hsize]
  cases format <;>
    simp only [txSizeInVBytes, List.length_map, maxDerSignatureLen, compressedPubkeyLen] <;> omega

/-! ## Rewards -/

inductive KmdRewardsNotAccruedReason where
  | locktimeNotSet
  | locktimeLessThanThreshold
  | utxoHeightGreaterThanEndOfEra
  | utxoAmountLessThanTen
  | oneHourNotPassedYet
  | transactionInMempool
  deriving DecidableEq, Repr

def komodoEndofera : ℕ := 7777777

def locktimeThreshold : ℕ := 500000000

/-- dPoW Season 7, Fri Jun 30 2023 -/
def nS7HardforkHeight : ℕ := 3484958

def minutesPerYear : ℕ := 525600

/-- Minutes required for 100% active user reward. -/
def minutesPerAur : ℕ := 20 * minutesPerYear

def kmdInterest (height : Option ℕ) (value lockTime currentTime : ℕ) :
    Except KmdRewardsNotAccruedReason ℕ :=
  if value < 1000000000 then .error .utxoAmountLessThanTen
  else if lockTime = 0 then .error .locktimeNotSet
  else if lockTime < locktimeThreshold then .error .locktimeLessThanThreshold
  else
    match height with
    | none => .error .transactionInMempool
    | some height =>
      if komodoEndofera ≤ height then .error .utxoHeightGreaterThanEndOfEra
      else if currentTime < lockTime then .error .oneHourNotPassedYet
      else
        let minutes := (currentTime - lockTime) / 60
        if minutes < 60 then .error .oneHourNotPassedYet
        else
          -- a year counts for old blocks, a month for those after
          let minutes := min minutes minutesPerYear
          let minutes := if 1000000 ≤ height then min minutes (31 * 24 * 60) else minutes
          let minutes := minutes - 59
          if nS7HardforkHeight ≤ height then .ok (value / minutesPerAur * minutes / 500)
          else .ok (value / minutesPerAur * minutes)

/-- A reward is at most a twentieth of the value. -/
theorem twenty_mul_kmdInterest_le {height : Option ℕ} {value lockTime currentTime reward : ℕ}
    (h : kmdInterest height value lockTime currentTime = .ok reward) : 20 * reward ≤ value := by
  have hmul : ∀ minutes, minutes ≤ minutesPerYear →
      20 * (value / minutesPerAur * minutes) ≤ value := by
    intro minutes hminutes
    calc 20 * (value / minutesPerAur * minutes)
        ≤ 20 * (value / minutesPerAur * minutesPerYear) := by gcongr
      _ = value / minutesPerAur * minutesPerAur := by rw [minutesPerAur]; ring
      _ ≤ value := Nat.div_mul_le_self _ _
  cases height with
  | none =>
    rw [kmdInterest] at h
    split_ifs at h
  | some height =>
    simp only [kmdInterest] at h
    set minutes := (if 1000000 ≤ height then
      min (min ((currentTime - lockTime) / 60) minutesPerYear) (31 * 24 * 60)
      else min ((currentTime - lockTime) / 60) minutesPerYear) - 59 with hset
    have hminutes : minutes ≤ minutesPerYear := by
      rw [hset]
      split <;> omega
    have hle := hmul minutes hminutes
    split_ifs at h
    · cases h
      have hdiv := Nat.div_le_self (value / minutesPerAur * minutes) 500
      omega
    · cases h
      exact hle

end DeXFG.Utxo
