import DeXFG.Library.MerkleTree
import DeXFG.Library.BitcoinScript
import DeXFG.Spv.Types

/-!
# Proofs that a transaction is in a block

A server proves that a transaction is in a block with the nodes beside the way to
the merkle root of its header. The nodes are packed into one array, and each is
hashed in on the side that the next bit of the index says.
-/
namespace DeXFG.Spv
open Utxo Library
open Library.BitcoinScript (readLe)

/-! ## Lists of inputs and outputs -/

inductive CompactIntegerError where
  | parseError (reason : String)
  deriving DecidableEq, Repr

/-- `CompactInteger::data_length`. -/
def dataLength (flag : UInt8) : ℕ :=
  if flag = 0xfd then 2 else if flag = 0xfe then 4 else if flag = 0xff then 8 else 0

def parseCompactInt : Bytes → Except CompactIntegerError ℕ
  | [] => .error (.parseError "Empty buffer!")
  | flag :: rest =>
    let length := dataLength flag
    if length = 0 then .ok flag.toNat
    else if rest.length < length then .error (.parseError "Insufficient bytes!")
    else .ok (readLe (rest.take length))

/-- `CompactInteger::serialized_length`. -/
def serializedLength (n : ℕ) : ℕ :=
  if n ≤ 0xfc then 1 else if n ≤ 0xffff then 3 else if n ≤ 0xffffffff then 5 else 9

/-- Arithmetic of a `usize`. -/
def wrapUsize (n : ℕ) : ℕ := n % 2 ^ 64

def determineInputLength (txIn : Bytes) : Except SPVError ℕ :=
  if txIn.length < 37 then .error .readOverrun
  else match parseCompactInt (txIn.drop 36) with
    | .error _ => .error .badCompactInt
    -- 40 = 36 (outpoint) + 4 (sequence)
    | .ok scriptSigLen => .ok (wrapUsize (40 + serializedLength scriptSigLen + scriptSigLen))

def determineOutputLength (txOut : Bytes) : Except SPVError ℕ :=
  if txOut.length < 9 then .error .malformattedOutput
  else match parseCompactInt (txOut.drop 8) with
    | .error _ => .error .badCompactInt
    | .ok scriptPubkeyLen =>
      .ok (wrapUsize (8 + serializedLength scriptPubkeyLen + scriptPubkeyLen))

/-- The end of some items, from an offset. -/
def skipItems (determineLength : Bytes → Except SPVError ℕ) (bytes : Bytes) : ℕ → ℕ → Option ℕ
  | 0, offset => some offset
  | n + 1, offset =>
    if bytes.length ≤ offset then none
    else match determineLength (bytes.drop offset) with
      | .error _ => none
      | .ok v => skipItems determineLength bytes n (wrapUsize (offset + v))

/-- Items after their number take all of the bytes. -/
def validateItems (determineLength : Bytes → Except SPVError ℕ) (bytes : Bytes) : Bool :=
  match parseCompactInt bytes with
  | .error _ => false
  | .ok n =>
    if n = 0 then false
    else skipItems determineLength bytes n (serializedLength n) = some bytes.length

def validateVin (vin : Bytes) : Bool := validateItems determineInputLength vin

def validateVout (vout : Bytes) : Bool := validateItems determineOutputLength vout

/-! ## The proof -/

/-- Hashes packed one after the other. -/
structure MerkleArray where
  bytes : Bytes
  isMultiple : bytes.length % 32 = 0

namespace MerkleArray

def new (slice : Bytes) : Except SPVError MerkleArray :=
  if h : slice.length % 32 = 0 then .ok ⟨slice, h⟩ else .error .badMerkleProof

def len (array : MerkleArray) : ℕ := array.bytes.length / 32

def index (array : MerkleArray) (i : ℕ) : Except SPVError H256 :=
  if h : array.bytes.length < (i + 1) * 32 then .error .badMerkleProof
  else .ok ⟨(array.bytes.drop (i * 32)).take 32, by
    rw [List.length_take, List.length_drop]
    omega⟩

end MerkleArray

variable (crypto : Bitcrypto)

def hash256MerkleStep (a b : H256) : H256 := crypto.dhash256 (a.val ++ b.val)

/-- The loop over the nodes that are left, from a position on. -/
def verifyFrom (nodes : MerkleArray) : ℕ → ℕ → H256 → ℕ → Except SPVError H256
  | 0, _, current, _ => .ok current
  | n + 1, i, current, idx => do
    let next ← nodes.index i
    let current := if idx % 2 = 1 then hash256MerkleStep crypto next current
      else hash256MerkleStep crypto current next
    verifyFrom nodes n (i + 1) current (idx >>> 1)

def verifyHash256Merkle (txid merkleRoot : H256) (intermediateNodes : MerkleArray) (index : ℕ) :
    Except SPVError Unit :=
  let proofLen := intermediateNodes.len
  if (proofLen = 0 ∧ txid = merkleRoot) ∨ proofLen = 1 then .ok ()
  else do
    let current ← verifyFrom crypto intermediateNodes proofLen 0 txid index
    if current ≠ merkleRoot then .error .badMerkleProof else .ok ()

def merkleProve (txid merkleRoot : H256) (intermediateNodes : List H256) (index : ℕ) :
    Except SPVError Unit :=
  if txid = merkleRoot ∧ index = 0 ∧ intermediateNodes = [] then .ok ()
  else do
    let nodes ← MerkleArray.new (intermediateNodes.flatMap Subtype.val)
    verifyHash256Merkle crypto txid merkleRoot nodes index

structure SPVProof where
  txId : H256
  /-- The vin serialized. -/
  vin : Bytes
  /-- The vout serialized. -/
  vout : Bytes
  /-- The transaction index in the merkle tree. -/
  index : ℕ
  /-- The digests between leaf and root. -/
  intermediateNodes : List H256

def SPVProof.validate (proof : SPVProof) (validatedHeader : BlockHeader) : Except SPVError Unit :=
  if !validateVin proof.vin then .error .invalidVin
  else if !validateVout proof.vout then .error .invalidVout
  else merkleProve crypto proof.txId validatedHeader.merkleRootHash proof.intermediateNodes
    proof.index

/-- The root of a row of hashes; without hashes the source does not return. -/
def merkleRoot (hashes : List H256) : Option H256 :=
  MerkleTree.root (hash256MerkleStep crypto) hashes

/-- What a transaction hashes to with the nodes of a proof. -/
def provenRoot (txid : H256) (nodes : List H256) (index : ℕ) : H256 :=
  MerkleTree.fold (hash256MerkleStep crypto) txid nodes index

/-! ## What is proved -/

variable {crypto} {nodes : List H256} {array : MerkleArray} {txid root : H256} {index : ℕ}

theorem length_pack (nodes : List H256) : (nodes.flatMap Subtype.val).length = 32 * nodes.length := by
  induction nodes with
  | nil => rfl
  | cons node nodes ih =>
    rw [List.flatMap_cons, List.length_append, ih, node.property, List.length_cons]
    omega

/-- The array of some nodes has them at their positions. -/
theorem exists_array (nodes : List H256) :
    ∃ array, MerkleArray.new (nodes.flatMap Subtype.val) = .ok array ∧ array.len = nodes.length ∧
      ∀ i node, nodes[i]? = some node → array.index i = .ok node := by
  have hlength := length_pack nodes
  have hmod : (nodes.flatMap Subtype.val).length % 32 = 0 := by omega
  refine ⟨⟨_, hmod⟩, dif_pos hmod, ?_, ?_⟩
  · change (nodes.flatMap Subtype.val).length / 32 = _
    omega
  · intro i node hnode
    have hlt : i < nodes.length := (List.getElem?_eq_some_iff.mp hnode).1
    have hdrop : ∀ (nodes : List H256) (i : ℕ) (node : H256), nodes[i]? = some node →
        ((nodes.flatMap Subtype.val).drop (i * 32)).take 32 = node.val := by
      intro nodes
      induction nodes with
      | nil =>
        intro i node h
        cases h
      | cons first nodes ih =>
        intro i node h
        rw [List.flatMap_cons]
        cases i with
        | zero =>
          rw [List.getElem?_cons_zero] at h
          cases h
          rw [Nat.zero_mul, List.drop_zero, List.take_left' first.property]
        | succ i =>
          rw [List.getElem?_cons_succ] at h
          have hsplit : (i + 1) * 32 = first.val.length + i * 32 := by
            rw [first.property]
            omega
          rw [hsplit, List.drop_append, List.drop_eq_nil_of_le (by omega), List.nil_append,
            Nat.add_sub_cancel_left]
          exact ih i node h
    have hnot : ¬ (nodes.flatMap Subtype.val).length < (i + 1) * 32 := by omega
    rw [MerkleArray.index, dif_neg hnot]
    exact congrArg Except.ok (Subtype.ext (hdrop nodes i node hnode))

/-- The loop folds the nodes from its position on. -/
theorem verifyFrom_eq (harray : ∀ i node, nodes[i]? = some node → array.index i = .ok node) :
    ∀ (n i : ℕ) (current : H256) (idx : ℕ), i + n = nodes.length →
      verifyFrom crypto array n i current idx = .ok (provenRoot crypto current (nodes.drop i) idx)
  | 0, i, current, idx, hsum => by
    rw [List.drop_eq_nil_of_le (by omega)]
    rfl
  | n + 1, i, current, idx, hsum => by
    have hlt : i < nodes.length := by omega
    have hnode := harray i nodes[i] (List.getElem?_eq_getElem hlt)
    rw [verifyFrom, hnode, List.drop_eq_getElem_cons hlt, Nat.shiftRight_one]
    exact verifyFrom_eq harray n (i + 1) _ _ (by omega)

/-- What is accepted: a single node whatever it is, and otherwise what hashes to the root. -/
theorem merkleProve_eq_ok_iff :
    merkleProve crypto txid root nodes index = .ok () ↔
      nodes.length = 1 ∨ provenRoot crypto txid nodes index = root := by
  unfold merkleProve
  split
  · rename_i hself
    obtain ⟨rfl, _, rfl⟩ := hself
    exact iff_of_true rfl (Or.inr rfl)
  · obtain ⟨array, hnew, hlen, hindex⟩ := exists_array nodes
    rw [hnew]
    change verifyHash256Merkle crypto txid root array index = .ok () ↔ _
    unfold verifyHash256Merkle
    dsimp only
    rw [hlen]
    split
    · rename_i hshort
      apply iff_of_true rfl
      rcases hshort with ⟨hnil, rfl⟩ | hone
      · rw [List.length_eq_zero_iff.mp hnil]
        exact Or.inr rfl
      · exact Or.inl hone
    · rename_i hlong
      have hone : nodes.length ≠ 1 := fun h => hlong (Or.inr h)
      rw [verifyFrom_eq hindex nodes.length 0 txid index (by omega), List.drop_zero]
      simp only [bind, Except.bind, ne_eq, ite_not, hone, false_or]
      split
      · rename_i heq
        exact iff_of_true rfl heq
      · rename_i hne
        exact iff_of_false (by simp) hne

/-- The branch of a leaf hashes to the root. -/
theorem provenRoot_branch {leaves : List H256} {leaf : H256} {i : ℕ}
    (hleaf : leaves[i]? = some leaf) (hroot : merkleRoot crypto leaves = some root) :
    provenRoot crypto leaf (MerkleTree.branch (hash256MerkleStep crypto) leaves i) i = root := by
  have hfold := @MerkleTree.fold_branch _ (hash256MerkleStep crypto) _ _ _ hleaf
  rw [merkleRoot, hfold] at hroot
  exact Option.some.inj hroot

theorem validate_eq_ok_iff {proof : SPVProof} {header : BlockHeader}
    (hvin : validateVin proof.vin = true) (hvout : validateVout proof.vout = true) :
    proof.validate crypto header = .ok () ↔
      merkleProve crypto proof.txId header.merkleRootHash proof.intermediateNodes proof.index =
        .ok () := by
  rw [SPVProof.validate, hvin, hvout]
  rfl

/-- A proof is accepted just if it hashes to the root of the header, and the branch of every leaf
is accepted. -/
structure SPVProof.Exact (crypto : Bitcrypto) (proof : SPVProof) (header : BlockHeader) : Prop where
  prove : merkleProve crypto proof.txId header.merkleRootHash proof.intermediateNodes proof.index =
      .ok () ↔
    provenRoot crypto proof.txId proof.intermediateNodes proof.index = header.merkleRootHash
  validate : validateVin proof.vin = true → validateVout proof.vout = true →
    (proof.validate crypto header = .ok () ↔
      provenRoot crypto proof.txId proof.intermediateNodes proof.index = header.merkleRootHash)
  complete : ∀ (leaves : List H256) (i : ℕ) (leaf : H256), leaves[i]? = some leaf →
    ∃ root, merkleRoot crypto leaves = some root ∧
      merkleProve crypto leaf root
        (MerkleTree.branch (hash256MerkleStep crypto) leaves i) i = .ok ()

/-- Proofs are checked as they should be, but a single node is never checked. -/
theorem spv_proof_exact_iff (crypto : Bitcrypto) (proof : SPVProof) (header : BlockHeader) :
    proof.Exact crypto header ↔
      (proof.intermediateNodes.length = 1 →
        provenRoot crypto proof.txId proof.intermediateNodes proof.index =
          header.merkleRootHash) := by
  have haccepted := @merkleProve_eq_ok_iff crypto proof.intermediateNodes proof.txId
    header.merkleRootHash proof.index
  constructor
  · intro h hone
    exact h.prove.mp (haccepted.mpr (Or.inl hone))
  · intro h
    have hprove : merkleProve crypto proof.txId header.merkleRootHash proof.intermediateNodes
        proof.index = .ok () ↔
        provenRoot crypto proof.txId proof.intermediateNodes proof.index =
          header.merkleRootHash := by
      rw [haccepted]
      exact or_iff_right_of_imp h
    constructor
    case prove => exact hprove
    case validate =>
      intro hvin hvout
      rw [validate_eq_ok_iff hvin hvout, hprove]
    case complete =>
      intro leaves i leaf hleaf
      have hroot := @MerkleTree.fold_branch _ (hash256MerkleStep crypto) _ _ _ hleaf
      exact ⟨_, hroot, merkleProve_eq_ok_iff.mpr (Or.inr (provenRoot_branch hleaf hroot))⟩

/-- With one node every transaction is proved to be in every block. -/
theorem merkle_prove_unsound : ¬ ∀ (crypto : Bitcrypto) (txid root : H256) (nodes : List H256)
    (index : ℕ), merkleProve crypto txid root nodes index = .ok () ↔
      provenRoot crypto txid nodes index = root := by
  intro h
  let crypto : Bitcrypto :=
    { sha256 := fun _ => H256.default
      ripemd160 := fun _ => ⟨List.replicate 20 0, List.length_replicate⟩ }
  let ones : H256 := ⟨List.replicate 32 1, List.length_replicate⟩
  have haccepted : merkleProve crypto ones ones [ones] 0 = .ok () :=
    merkleProve_eq_ok_iff.mpr (Or.inl rfl)
  have hroot : H256.default = ones := (h crypto ones ones [ones] 0).mp haccepted
  exact absurd hroot (by decide)

end DeXFG.Spv
