import DeXFG.Utxo.Types

/-!
# Transactions and their unsigned form

A transaction is signed in a form of its own, which knows the amounts of the
inputs and the consensus branch but no signatures. The two forms are converted
into each other.
-/
namespace DeXFG.Utxo

structure TransactionInput where
  previousOutput : OutPoint
  scriptSig : Bytes
  sequence : UInt32
  scriptWitness : List Bytes
  deriving DecidableEq

structure ShieldedSpend where
  cv : H256
  anchor : H256
  nullifier : H256
  rk : H256
  zkproof : ZkProofSapling
  spendAuthSig : H512
  deriving DecidableEq

structure ShieldedOutput where
  cv : H256
  cmu : H256
  ephemeralKey : H256
  encCipherText : EncCipherText
  outCipherText : OutCipherText
  zkproof : ZkProofSapling
  deriving DecidableEq

inductive JoinSplitProof where
  | phgr (proof : ZkProof)
  | groth (proof : ZkProofSapling)
  deriving DecidableEq

structure JoinSplit where
  vPubOld : H64
  vPubNew : H64
  anchor : H256
  nullifiers : H256 × H256
  commitments : H256 × H256
  ephemeralKey : H256
  randomSeed : H256
  macs : H256 × H256
  zkproof : JoinSplitProof
  ciphertexts : CipherText × CipherText
  deriving DecidableEq

inductive TxHashAlgo where
  | dsha256
  | sha256
  deriving DecidableEq, Repr

structure Transaction where
  version : Int32
  nTime : Option UInt32
  overwintered : Bool
  versionGroupId : UInt32
  inputs : List TransactionInput
  outputs : List TransactionOutput
  lockTime : UInt32
  expiryHeight : UInt32
  shieldedSpends : List ShieldedSpend
  shieldedOutputs : List ShieldedOutput
  joinSplits : List JoinSplit
  valueBalance : Int64
  joinSplitPubkey : H256
  joinSplitSig : H512
  bindingSig : H512
  zcash : Bool
  posv : Bool
  strDZeel : Option String
  txHashAlgo : TxHashAlgo
  vExtraPayload : Option Bytes
  deriving DecidableEq

namespace Transaction

def firstOutput (tx : Transaction) : Option TransactionOutput := tx.outputs.head?

end Transaction

structure UnsignedTransactionInput where
  previousOutput : OutPoint
  prevScript : Script
  sequence : UInt32
  amount : ℕ
  deriving DecidableEq

structure TransactionInputSigner where
  version : Int32
  nTime : Option UInt32
  overwintered : Bool
  versionGroupId : UInt32
  consensusBranchId : UInt32
  expiryHeight : UInt32
  valueBalance : Int64
  inputs : List UnsignedTransactionInput
  outputs : List TransactionOutput
  lockTime : UInt32
  joinSplits : List JoinSplit
  shieldedSpends : List ShieldedSpend
  shieldedOutputs : List ShieldedOutput
  zcash : Bool
  posv : Bool
  strDZeel : Option String
  hashAlgo : TxHashAlgo
  vExtraPayload : Option Bytes
  deriving DecidableEq

namespace UnsignedTransactionInput

/-- `From<TransactionInput>`. -/
def fromTransactionInput (i : TransactionInput) : UnsignedTransactionInput where
  previousOutput := i.previousOutput
  prevScript := []
  sequence := i.sequence
  amount := 0

end UnsignedTransactionInput

/-- `H256::default` and `H512::default`. -/
def H256.default : H256 := ⟨List.replicate 32 0, length_zeros32⟩

def H512.default : H512 := ⟨List.replicate 64 0, length_zeros64⟩

namespace TransactionInputSigner

/-- `From<Transaction>`. -/
def fromTransaction (t : Transaction) : TransactionInputSigner where
  version := t.version
  nTime := t.nTime
  overwintered := t.overwintered
  versionGroupId := t.versionGroupId
  consensusBranchId := 0
  expiryHeight := t.expiryHeight
  valueBalance := t.valueBalance
  inputs := t.inputs.map UnsignedTransactionInput.fromTransactionInput
  outputs := t.outputs
  lockTime := t.lockTime
  joinSplits := t.joinSplits
  shieldedSpends := t.shieldedSpends
  shieldedOutputs := t.shieldedOutputs
  zcash := t.zcash
  posv := t.posv
  strDZeel := t.strDZeel
  hashAlgo := t.txHashAlgo
  vExtraPayload := t.vExtraPayload

end TransactionInputSigner

namespace Transaction

/-- `From<TransactionInputSigner>`. -/
def fromSigner (t : TransactionInputSigner) : Transaction where
  version := t.version
  nTime := t.nTime
  overwintered := t.overwintered
  versionGroupId := t.versionGroupId
  inputs := t.inputs.map fun input =>
    { previousOutput := input.previousOutput, scriptSig := [], sequence := input.sequence
      scriptWitness := [] }
  outputs := t.outputs
  lockTime := t.lockTime
  expiryHeight := t.expiryHeight
  shieldedSpends := t.shieldedSpends
  shieldedOutputs := t.shieldedOutputs
  joinSplits := t.joinSplits
  valueBalance := t.valueBalance
  joinSplitPubkey := H256.default
  joinSplitSig := H512.default
  bindingSig := H512.default
  zcash := t.zcash
  posv := t.posv
  strDZeel := t.strDZeel
  txHashAlgo := t.hashAlgo
  vExtraPayload := t.vExtraPayload

end Transaction

end DeXFG.Utxo
