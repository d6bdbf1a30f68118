import DeXFG.Utxo.Reader

/-!
# Block headers

The header of a block of any of the chains, with the sections that only some of
them have, and the bytes that its hash is computed from.
-/
namespace DeXFG.Utxo
open Library.Reading (leBytes)

inductive BlockHeaderNonce where
  | u32 (n : UInt32)
  | h256 (h : H256)
  deriving DecidableEq

/-- A target in compact form, or the same number of another type. -/
inductive BlockHeaderBits where
  | compact (c : UInt32)
  | u32 (n : UInt32)
  deriving DecidableEq, Repr

namespace BlockHeaderBits

def toU32 : BlockHeaderBits → UInt32
  | compact c => c
  | u32 n => n

end BlockHeaderBits

/-- The version number used by AuxPow-enabled coins is a bitmask. -/
def auxpowVersionFlag : UInt32 := 0x100

def mtpPowVersion : UInt32 := 0x20001000

def progPowSwitchTime : UInt32 := 1635228000

def bip9NoSoftForkBlockHeaderVersion : UInt32 := 536870912

/-- RVN. -/
def kawpowVersion : UInt32 := 805306368

structure MerkleBranch where
  branchHashes : List H256
  branchSideMask : Int32
  deriving DecidableEq

/-- The proof of a merge mined block, with the header of its parent. -/
structure AuxPow (α : Type) where
  coinbaseTx : Transaction
  parentBlockHash : H256
  coinbaseBranch : MerkleBranch
  blockchainBranch : MerkleBranch
  parentBlockHeader : α

structure ProgPow where
  nHeight : UInt32
  nNonce64 : UInt64
  mixHash : H256
  deriving DecidableEq

structure MtpPow where
  nVersionMtp : Int32
  mtpHashValue : H256
  reserved0 : H256
  reserved1 : H256
  deriving DecidableEq

/-- All of a header but the proof of merged mining. -/
structure BlockHeaderFields where
  version : UInt32
  previousHeaderHash : H256
  merkleRootHash : H256
  claimTrieRoot : Option H256
  hashFinalSaplingRoot : Option H256
  time : UInt32
  bits : BlockHeaderBits
  nonce : BlockHeaderNonce
  solution : Option Bytes
  progPow : Option ProgPow
  mtpPow : Option MtpPow
  isVerus : Bool
  hashStateRoot : Option H256
  hashUtxoRoot : Option H256
  prevoutStake : Option OutPoint
  vchBlockSigDlgt : Option Bytes
  nHeight : Option UInt32
  nNonceU64 : Option UInt64
  mixHash : Option H256
  deriving DecidableEq

structure BlockHeader extends BlockHeaderFields where
  auxPow : Option (AuxPow BlockHeader)

/-! ## Their bytes -/

def BlockHeaderNonce.serialize : BlockHeaderNonce → Bytes
  | u32 n => Stream.u32 n
  | h256 h => h.val

def BlockHeaderBits.serialize : BlockHeaderBits → Bytes
  | compact c => Stream.u32 c
  | u32 n => Stream.u32 n

def MerkleBranch.serialize (branch : MerkleBranch) : Bytes :=
  Stream.list Subtype.val branch.branchHashes ++ Stream.i32 branch.branchSideMask

def ProgPow.serialize (pow : ProgPow) : Bytes :=
  Stream.u32 pow.nHeight ++ leBytes 8 pow.nNonce64.toNat ++ pow.mixHash.val

def MtpPow.serialize (pow : MtpPow) : Bytes :=
  Stream.i32 pow.nVersionMtp ++ pow.mtpHashValue.val ++ pow.reserved0.val ++ pow.reserved1.val

namespace BlockHeaderFields

variable (header : BlockHeaderFields)

def isProgPow : Bool := header.version = mtpPowVersion ∧ progPowSwitchTime ≤ header.time

/-- Up to the solution. -/
def serializeBefore : Bytes :=
  Stream.u32 (if header.isVerus then header.version ^^^ 0x00010000 else header.version) ++
  header.previousHeaderHash.val ++
  header.merkleRootHash.val ++
  optional Subtype.val header.claimTrieRoot ++
  -- the sapling root is before the time in headers in the style of Zcash
  (if header.solution.isSome then optional Subtype.val header.hashFinalSaplingRoot else []) ++
  Stream.u32 header.time ++
  header.bits.serialize ++
  (if !header.isProgPow ∧ (header.version ≠ kawpowVersion ∨ header.nonce ≠ .u32 0) then
    header.nonce.serialize
  else []) ++
  -- and after the nonce in headers in the style of PIVX
  (if header.solution.isNone then optional Subtype.val header.hashFinalSaplingRoot else []) ++
  optional Stream.bytes header.solution

/-- After the proof of merged mining. -/
def serializeAfter : Bytes :=
  optional ProgPow.serialize header.progPow ++
  optional MtpPow.serialize header.mtpPow ++
  optional Subtype.val header.hashStateRoot ++
  optional Subtype.val header.hashUtxoRoot ++
  optional OutPoint.serialize header.prevoutStake ++
  optional Stream.bytes header.vchBlockSigDlgt ++
  optional Stream.u32 header.nHeight ++
  optional (fun n : UInt64 => leBytes 8 n.toNat) header.nNonceU64 ++
  optional Subtype.val header.mixHash

end BlockHeaderFields

namespace BlockHeader

def serialize : BlockHeader → Bytes
  | ⟨fields, none⟩ => fields.serializeBefore ++ fields.serializeAfter
  | ⟨fields, some ⟨coinbaseTx, parentBlockHash, coinbaseBranch, blockchainBranch, parent⟩⟩ =>
    fields.serializeBefore ++
    (coinbaseTx.serialize ++ parentBlockHash.val ++ coinbaseBranch.serialize ++
      blockchainBranch.serialize ++ parent.serialize) ++
    fields.serializeAfter

/-- The bytes that the storage keeps, in hex. -/
def raw (header : BlockHeader) : Bytes := header.serialize

def hash (crypto : Bitcrypto) (header : BlockHeader) : H256 := crypto.dhash256 header.serialize

end BlockHeader

end DeXFG.Utxo
