import DeXFG.Library.Reading
import DeXFG.Utxo.Transaction

/-!
# Serialized transactions

The bytes of a transaction with or without its witness, and its hash.
-/
namespace DeXFG.Utxo
open Library.Reading (leBytes)

namespace Stream

def u32 (n : UInt32) : Bytes := leBytes 4 n.toNat

def i32 (n : Int32) : Bytes := leBytes 4 n.toUInt32.toNat

def i64 (n : Int64) : Bytes := leBytes 8 n.toUInt64.toNat

def u64 (n : ℕ) : Bytes := leBytes 8 n

def compactInteger (n : ℕ) : Bytes :=
  if n ≤ 0xfc then leBytes 1 n
  else if n ≤ 0xffff then 0xfd :: leBytes 2 n
  else if n ≤ 0xffffffff then 0xfe :: leBytes 4 n
  else 0xff :: leBytes 8 n

def bytes (data : Bytes) : Bytes := compactInteger data.length ++ data

def list {α : Type} (serialize : α → Bytes) (items : List α) : Bytes :=
  compactInteger items.length ++ items.flatMap serialize

end Stream

/-- What is written of a section that may be missing. -/
def optional {α : Type} (serialize : α → Bytes) : Option α → Bytes
  | none => []
  | some x => serialize x

def OutPoint.serialize (outpoint : OutPoint) : Bytes :=
  outpoint.hash.val ++ Stream.u32 outpoint.index

def TransactionInput.serialize (input : TransactionInput) : Bytes :=
  input.previousOutput.serialize ++ Stream.bytes input.scriptSig ++ Stream.u32 input.sequence

def TransactionOutput.serialize (output : TransactionOutput) : Bytes :=
  Stream.u64 output.value ++ Stream.bytes output.scriptPubkey

def ShieldedSpend.serialize (spend : ShieldedSpend) : Bytes :=
  spend.cv.val ++ spend.anchor.val ++ spend.nullifier.val ++ spend.rk.val ++ spend.zkproof.val ++
    spend.spendAuthSig.val

def ShieldedOutput.serialize (output : ShieldedOutput) : Bytes :=
  output.cv.val ++ output.cmu.val ++ output.ephemeralKey.val ++ output.encCipherText.val ++
    output.outCipherText.val ++ output.zkproof.val

def JoinSplitProof.serialize : JoinSplitProof → Bytes
  | phgr proof => proof.val
  | groth proof => proof.val

def JoinSplit.serialize (split : JoinSplit) : Bytes :=
  split.vPubOld.val ++ split.vPubNew.val ++ split.anchor.val ++ split.nullifiers.1.val ++
    split.nullifiers.2.val ++ split.commitments.1.val ++ split.commitments.2.val ++
    split.ephemeralKey.val ++ split.randomSeed.val ++ split.macs.1.val ++ split.macs.2.val ++
    split.zkproof.serialize ++ split.ciphertexts.1.val ++ split.ciphertexts.2.val

namespace Transaction

/-- The version with the flag of overwintered transactions in its top bit. -/
def header (version : Int32) (overwintered : Bool) : Int32 :=
  if overwintered then version ||| Int32.minValue else version

def serialize (tx : Transaction) : Bytes :=
  Stream.i32 (header tx.version tx.overwintered) ++
  (if tx.overwintered then Stream.u32 tx.versionGroupId else []) ++
  (if !tx.posv then (tx.nTime.map Stream.u32).getD [] else []) ++
  Stream.list TransactionInput.serialize tx.inputs ++
  Stream.list TransactionOutput.serialize tx.outputs ++
  Stream.u32 tx.lockTime ++
  (if tx.posv then (tx.nTime.map Stream.u32).getD [] else []) ++
  (if tx.overwintered ∧ 3 ≤ tx.version then
    Stream.u32 tx.expiryHeight ++
      if 4 ≤ tx.version then
        Stream.i64 tx.valueBalance ++ Stream.list ShieldedSpend.serialize tx.shieldedSpends ++
          Stream.list ShieldedOutput.serialize tx.shieldedOutputs
      else []
  else []) ++
  (if tx.zcash then
    (if tx.version = 2 ∨ tx.overwintered then
      Stream.list JoinSplit.serialize tx.joinSplits ++
        if tx.joinSplits = [] then [] else tx.joinSplitPubkey.val ++ tx.joinSplitSig.val
    else []) ++
    (if 4 ≤ tx.version ∧ tx.overwintered ∧ ¬ (tx.shieldedOutputs = [] ∧ tx.shieldedSpends = []) then
      tx.bindingSig.val
    else [])
  else []) ++
  (match tx.strDZeel with
    | none => []
    | some string => Stream.bytes string.toUTF8.data.toList) ++
  (match tx.vExtraPayload with
    | none => []
    | some payload => if payload = [] then [] else Stream.bytes payload)

/-- The marker that stands where a transaction has its inputs, and the flag after it. -/
def witnessMarker : UInt8 := 0

def witnessFlag : UInt8 := 1

def hasWitness (tx : Transaction) : Bool := tx.inputs.any fun input => !input.scriptWitness.isEmpty

/-- `serialize_with_flags` with `SERIALIZE_TRANSACTION_WITNESS`. -/
def serializeWithWitness (tx : Transaction) : Bytes :=
  if tx.hasWitness then
    Stream.i32 tx.version ++ [witnessMarker, witnessFlag] ++
    Stream.list TransactionInput.serialize tx.inputs ++
    Stream.list TransactionOutput.serialize tx.outputs ++
    tx.inputs.flatMap (fun input => Stream.list Stream.bytes input.scriptWitness) ++
    Stream.u32 tx.lockTime
  else tx.serialize

def hash (crypto : Bitcrypto) (tx : Transaction) : H256 :=
  match tx.txHashAlgo with
  | .dsha256 => crypto.dhash256 tx.serialize
  | .sha256 => crypto.sha256 tx.serialize

end Transaction

end DeXFG.Utxo
