import DeXFG.Utxo.BlockHeader
import DeXFG.Utxo.TxCodec

/-!
# Reading block headers

Which sections a header has depends on its version and time and on the variant of
the chain. A merge mined header holds the header of its parent, read by the same
rules.
-/
namespace DeXFG.Utxo
open Library Library.Reading

namespace ChainVariant

/-- `version == 4` of chains in the style of Zcash. -/
def isZcashStyle (variant : ChainVariant) (version : UInt32) : Bool :=
  (version = 4 ∧ variant ≠ btc ∧ variant ≠ ppc) ∨ variant.isKmdAssetchain

/-- The headers of Qtum that have the roots of contracts and a stake. -/
def isQtumStyle (variant : ChainVariant) (version : UInt32) : Bool :=
  version = bip9NoSoftForkBlockHeaderVersion ∧ variant = qtum

def isKawpow (variant : ChainVariant) (version : UInt32) : Bool :=
  version = kawpowVersion ∧ variant = rvn

end ChainVariant

def MerkleBranch.deserialize : Reader MerkleBranch := do
  let branchHashes ← Reader.list (Reader.fixed 32)
  let branchSideMask ← Reader.i32
  pure { branchHashes := branchHashes, branchSideMask := branchSideMask }

def ProgPow.deserialize : Reader ProgPow := do
  let nHeight ← Reader.u32
  let nNonce64 ← Reader.uint64
  let mixHash ← Reader.fixed 32
  pure { nHeight := nHeight, nNonce64 := nNonce64, mixHash := mixHash }

def MtpPow.deserialize : Reader MtpPow := do
  let nVersionMtp ← Reader.i32
  let mtpHashValue ← Reader.fixed 32
  let reserved0 ← Reader.fixed 32
  let reserved1 ← Reader.fixed 32
  pure
    { nVersionMtp := nVersionMtp, mtpHashValue := mtpHashValue, reserved0 := reserved0
      reserved1 := reserved1 }

def BlockHeaderBits.deserialize (isZcashStyle : Bool) : Reader BlockHeaderBits :=
  if isZcashStyle then do
    let n ← Reader.u32
    pure (.u32 n)
  else do
    let c ← Reader.u32
    pure (.compact c)

def BlockHeaderNonce.deserialize (isZcashStyle : Bool) : Reader BlockHeaderNonce :=
  if isZcashStyle then do
    let h ← Reader.fixed 32
    pure (.h256 h)
  else do
    let n ← Reader.u32
    pure (.u32 n)

/-! ## The sections before and after the proof of merged mining -/

/-- What is read first, as it stands in the bytes. -/
structure HeaderFront where
  rawVersion : UInt32
  previousHeaderHash : H256
  merkleRootHash : H256
  claimTrieRoot : Option H256
  /-- In the style of Zcash. -/
  earlySaplingRoot : Option H256
  time : UInt32
  bits : BlockHeaderBits
  nonce : Option BlockHeaderNonce
  /-- In the style of PIVX. -/
  lateSaplingRoot : Option H256
  solution : Option Bytes
  deriving DecidableEq

def isVerusVersion (rawVersion : UInt32) : Bool := rawVersion ^^^ 0x00010000 = 4

def versionOfRaw (rawVersion : UInt32) : UInt32 :=
  if isVerusVersion rawVersion then rawVersion ^^^ 0x00010000 else rawVersion

namespace HeaderFront

variable (front : HeaderFront)

def isVerus : Bool := isVerusVersion front.rawVersion

def version : UInt32 := versionOfRaw front.rawVersion

end HeaderFront

/-- Whether there is a nonce among the first sections. -/
def hasNonce (variant : ChainVariant) (version time : UInt32) : Bool :=
  variant.isZcashStyle version ∨
    ¬ (variant.isKawpow version ∨ (version = mtpPowVersion ∧ progPowSwitchTime ≤ time))

def readFront (variant : ChainVariant) : Reader HeaderFront := do
  let rawVersion ← Reader.u32
  let version := versionOfRaw rawVersion
  let isZcashStyle := variant.isZcashStyle version
  let previousHeaderHash ← Reader.fixed 32
  let merkleRootHash ← Reader.fixed 32
  let claimTrieRoot ←
    readIf (version = bip9NoSoftForkBlockHeaderVersion ∧ variant = .lbc) (Reader.fixed 32)
  let earlySaplingRoot ← readIf isZcashStyle (Reader.fixed 32)
  let time ← Reader.u32
  let bits ← BlockHeaderBits.deserialize isZcashStyle
  let nonce ← readIf (hasNonce variant version time) (BlockHeaderNonce.deserialize isZcashStyle)
  let lateSaplingRoot ← readIf (variant = .pivx) (Reader.fixed 32)
  let solution ← readIf isZcashStyle (Reader.list Reader.u8)
  pure
    { rawVersion := rawVersion, previousHeaderHash := previousHeaderHash
      merkleRootHash := merkleRootHash, claimTrieRoot := claimTrieRoot
      earlySaplingRoot := earlySaplingRoot, time := time, bits := bits, nonce := nonce
      lateSaplingRoot := lateSaplingRoot, solution := solution }

/-- The sections at the end. -/
structure HeaderBack where
  progPow : Option ProgPow
  mtpPow : Option MtpPow
  hashStateRoot : Option H256
  hashUtxoRoot : Option H256
  prevoutStake : Option OutPoint
  vchBlockSigDlgt : Option Bytes
  nHeight : Option UInt32
  nNonceU64 : Option UInt64
  mixHash : Option H256
  deriving DecidableEq

def readBack (variant : ChainVariant) (version time : UInt32) : Reader HeaderBack := do
  let progPow ←
    readIf (version = mtpPowVersion ∧ progPowSwitchTime ≤ time) ProgPow.deserialize
  let mtpPow ← readIf (version = mtpPowVersion ∧ time < progPowSwitchTime) MtpPow.deserialize
  let hashStateRoot ← readIf (variant.isQtumStyle version) (Reader.fixed 32)
  let hashUtxoRoot ← readIf (variant.isQtumStyle version) (Reader.fixed 32)
  let prevoutStake ← readIf (variant.isQtumStyle version) OutPoint.deserialize
  let vchBlockSigDlgt ← readIf (variant.isQtumStyle version) (Reader.list Reader.u8)
  let nHeight ← readIf (variant.isKawpow version) Reader.u32
  let nNonceU64 ← readIf (variant.isKawpow version) Reader.uint64
  let mixHash ← readIf (variant.isKawpow version) (Reader.fixed 32)
  pure
    { progPow := progPow, mtpPow := mtpPow, hashStateRoot := hashStateRoot
      hashUtxoRoot := hashUtxoRoot, prevoutStake := prevoutStake
      vchBlockSigDlgt := vchBlockSigDlgt, nHeight := nHeight, nNonceU64 := nNonceU64
      mixHash := mixHash }

/-- A header of the sections that were read. -/
def headerFields (front : HeaderFront) (back : HeaderBack) : BlockHeaderFields where
  version := front.version
  previousHeaderHash := front.previousHeaderHash
  merkleRootHash := front.merkleRootHash
  claimTrieRoot := front.claimTrieRoot
  -- the late root replaces the early one
  hashFinalSaplingRoot :=
    if front.lateSaplingRoot.isSome then front.lateSaplingRoot else front.earlySaplingRoot
  time := front.time
  bits := front.bits
  nonce := front.nonce.getD (.u32 0)
  solution := front.solution
  progPow := back.progPow
  mtpPow := back.mtpPow
  isVerus := front.isVerus
  hashStateRoot := back.hashStateRoot
  hashUtxoRoot := back.hashUtxoRoot
  prevoutStake := back.prevoutStake
  vchBlockSigDlgt := back.vchBlockSigDlgt
  nHeight := back.nHeight
  nNonceU64 := back.nNonceU64
  mixHash := back.mixHash

namespace BlockHeader

/-- Only some coins use the bit of merged mining. -/
def hasAuxPow (variant : ChainVariant) (version : UInt32) : Bool :=
  version &&& auxpowVersionFlag ≠ 0 ∧ variant ≠ .btc

def readAuxPow (parent : Reader BlockHeader) : Reader (AuxPow BlockHeader) := do
  let coinbaseTx ← deserializeTx .standardWithWitness
  let parentBlockHash ← Reader.fixed 32
  let coinbaseBranch ← MerkleBranch.deserialize
  let blockchainBranch ← MerkleBranch.deserialize
  let parentBlockHeader ← parent
  pure
    { coinbaseTx := coinbaseTx, parentBlockHash := parentBlockHash
      coinbaseBranch := coinbaseBranch, blockchainBranch := blockchainBranch
      parentBlockHeader := parentBlockHeader }

/-- A header, given how that of its parent is read. -/
def deserializeWith (variant : ChainVariant) (parent : Reader BlockHeader) :
    Reader BlockHeader := do
  let front ← readFront variant
  let auxPow ← readIf (hasAuxPow variant front.version) (readAuxPow parent)
  let back ← readBack variant front.version front.time
  pure ⟨headerFields front back, auxPow⟩

/-- Each header takes bytes before its parent's, so that no more headers than bytes can be
read. -/
def deserializeFuel (variant : ChainVariant) : ℕ → Reader BlockHeader
  | 0 => throw .unexpectedEnd
  | fuel + 1 => deserializeWith variant (deserializeFuel variant fuel)

/-- `BlockHeader::deserialize`. -/
def deserialize : Reader BlockHeader := do
  let s ← get
  deserializeFuel s.context s.buffer.length

end BlockHeader

/-! ## What the sections are read from -/

variable {variant : ChainVariant} {version time : UInt32}

theorem codec_merkleBranch : Codec MerkleBranch.deserialize MerkleBranch.serialize
    fun branch => branch.branchHashes.length < 2 ^ 64 := by
  refine (Codec.bind MerkleBranch.branchHashes (codec_list (codec_fixed 32))
      (fun _ h => ⟨h, fun _ _ => trivial⟩) fun branchHashes hhashes =>
    Codec.field MerkleBranch.branchSideMask codec_i32 fun branchSideMask =>
    Codec.pure ?_).of_write_eq ?_
  · intro branch
    cases branch
    simp only [MerkleBranch.mk.injEq]
    constructor
    · intro h
      exact ⟨h.1.2, h.2⟩
    · intro h
      obtain ⟨rfl, rfl⟩ := h
      exact ⟨⟨hhashes.1, rfl⟩, rfl⟩
  · simp [MerkleBranch.serialize]

theorem codec_progPow : Codec ProgPow.deserialize ProgPow.serialize fun _ => True := by
  refine (Codec.field ProgPow.nHeight codec_u32 fun nHeight =>
    Codec.field ProgPow.nNonce64 codec_uint64 fun nNonce64 =>
    Codec.field ProgPow.mixHash (codec_fixed 32) fun mixHash => Codec.pure ?_).of_write_eq ?_
  · intro pow
    cases pow
    simp [and_assoc]
  · simp [ProgPow.serialize]

theorem codec_mtpPow : Codec MtpPow.deserialize MtpPow.serialize fun _ => True := by
  refine (Codec.field MtpPow.nVersionMtp codec_i32 fun nVersionMtp =>
    Codec.field MtpPow.mtpHashValue (codec_fixed 32) fun mtpHashValue =>
    Codec.field MtpPow.reserved0 (codec_fixed 32) fun reserved0 =>
    Codec.field MtpPow.reserved1 (codec_fixed 32) fun reserved1 => Codec.pure ?_).of_write_eq ?_
  · intro pow
    cases pow
    simp [and_assoc]
  · simp [MtpPow.serialize]

/-- The bytes of a list of bytes. -/
theorem codec_byteList : Codec (Reader.list Reader.u8) Stream.bytes
    fun data => data.length < 2 ^ 64 := by
  apply (codec_list codec_u8).congr
  · intro data
    simp
  · intro data _
    simp [Stream.bytes, Stream.list, List.flatMap_singleton']

def BlockHeaderBits.isU32 : BlockHeaderBits → Bool
  | compact _ => false
  | u32 _ => true

def BlockHeaderNonce.isH256 : BlockHeaderNonce → Bool
  | u32 _ => false
  | h256 _ => true

theorem codec_bits (isZcashStyle : Bool) :
    Codec (BlockHeaderBits.deserialize isZcashStyle) BlockHeaderBits.serialize
      fun bits => bits.isU32 = isZcashStyle := by
  cases isZcashStyle with
  | true =>
    apply codec_u32.map BlockHeaderBits.u32 BlockHeaderBits.toU32
    · intro n _
      exact ⟨rfl, rfl, rfl⟩
    · intro bits hbits
      cases bits with
      | compact c => cases hbits
      | u32 n => exact ⟨trivial, rfl⟩
  | false =>
    apply codec_u32.map BlockHeaderBits.compact BlockHeaderBits.toU32
    · intro n _
      exact ⟨rfl, rfl, rfl⟩
    · intro bits hbits
      cases bits with
      | compact c => exact ⟨trivial, rfl⟩
      | u32 n => cases hbits

theorem codec_nonce (isZcashStyle : Bool) :
    Codec (BlockHeaderNonce.deserialize isZcashStyle) BlockHeaderNonce.serialize
      fun nonce => nonce.isH256 = isZcashStyle := by
  cases isZcashStyle with
  | true =>
    apply (codec_fixed 32).map BlockHeaderNonce.h256 fun nonce =>
      match nonce with
      | .h256 h => h
      | .u32 _ => H256.default
    · intro h _
      exact ⟨rfl, rfl, rfl⟩
    · intro nonce hnonce
      cases nonce with
      | u32 n => cases hnonce
      | h256 h => exact ⟨trivial, rfl⟩
  | false =>
    apply codec_u32.map BlockHeaderNonce.u32 fun nonce =>
      match nonce with
      | .u32 n => n
      | .h256 _ => 0
    · intro n _
      exact ⟨rfl, rfl, rfl⟩
    · intro nonce hnonce
      cases nonce with
      | u32 n => exact ⟨trivial, rfl⟩
      | h256 h => cases hnonce

namespace HeaderFront

structure Fits (variant : ChainVariant) (front : HeaderFront) : Prop where
  claimTrieRoot : front.claimTrieRoot.isSome =
    decide (front.version = bip9NoSoftForkBlockHeaderVersion ∧ variant = .lbc)
  earlySaplingRoot : front.earlySaplingRoot.isSome = variant.isZcashStyle front.version
  bits : front.bits.isU32 = variant.isZcashStyle front.version
  nonce : front.nonce.isSome = hasNonce variant front.version front.time ∧
    ∀ nonce, front.nonce = some nonce → nonce.isH256 = variant.isZcashStyle front.version
  lateSaplingRoot : front.lateSaplingRoot.isSome = decide (variant = .pivx)
  solution : front.solution.isSome = variant.isZcashStyle front.version ∧
    ∀ solution, front.solution = some solution → solution.length < 2 ^ 64

def wire (front : HeaderFront) : Bytes :=
  Stream.u32 front.rawVersion ++
  (front.previousHeaderHash.val ++
  (front.merkleRootHash.val ++
  (optional Subtype.val front.claimTrieRoot ++
  (optional Subtype.val front.earlySaplingRoot ++
  (Stream.u32 front.time ++
  (front.bits.serialize ++
  (optional BlockHeaderNonce.serialize front.nonce ++
  (optional Subtype.val front.lateSaplingRoot ++
  optional Stream.bytes front.solution))))))))

end HeaderFront

theorem codec_readFront : Codec (readFront variant) HeaderFront.wire
    (HeaderFront.Fits variant) := by
  refine (Codec.field HeaderFront.rawVersion codec_u32 fun rawVersion =>
    Codec.field HeaderFront.previousHeaderHash (codec_fixed 32) fun previousHeaderHash =>
    Codec.field HeaderFront.merkleRootHash (codec_fixed 32) fun merkleRootHash =>
    Codec.bind HeaderFront.claimTrieRoot (codec_readIf _ (codec_fixed 32)) ?_
      fun claimTrieRoot hclaim =>
    Codec.bind HeaderFront.earlySaplingRoot (codec_readIf _ (codec_fixed 32)) ?_
      fun earlySaplingRoot hearly =>
    Codec.field HeaderFront.time codec_u32 fun time =>
    Codec.bind HeaderFront.bits (codec_bits _) ?_ fun bits hbits =>
    Codec.bind HeaderFront.nonce (codec_readIf _ (codec_nonce _)) ?_ fun nonce hnonce =>
    Codec.bind HeaderFront.lateSaplingRoot (codec_readIf _ (codec_fixed 32)) ?_
      fun lateSaplingRoot hlate =>
    Codec.bind HeaderFront.solution (codec_readIf _ codec_byteList) ?_ fun solution hsolution =>
    Codec.pure ?_).of_write_eq ?_
  · intro front h
    obtain ⟨⟨⟨hfits, rfl⟩, rfl⟩, rfl⟩ := h
    exact ⟨hfits.claimTrieRoot, fun _ _ => trivial⟩
  · intro front h
    obtain ⟨⟨⟨⟨hfits, rfl⟩, rfl⟩, rfl⟩, rfl⟩ := h
    exact ⟨hfits.earlySaplingRoot, fun _ _ => trivial⟩
  · intro front h
    obtain ⟨⟨⟨⟨⟨⟨hfits, rfl⟩, rfl⟩, rfl⟩, rfl⟩, rfl⟩, rfl⟩ := h
    exact hfits.bits
  · intro front h
    obtain ⟨⟨⟨⟨⟨⟨⟨hfits, rfl⟩, rfl⟩, rfl⟩, rfl⟩, rfl⟩, rfl⟩, rfl⟩ := h
    exact hfits.nonce
  · intro front h
    obtain ⟨⟨⟨⟨⟨⟨⟨⟨hfits, rfl⟩, rfl⟩, rfl⟩, rfl⟩, rfl⟩, rfl⟩, rfl⟩, rfl⟩ := h
    exact ⟨hfits.lateSaplingRoot, fun _ _ => trivial⟩
  · intro front h
    obtain ⟨⟨⟨⟨⟨⟨⟨⟨⟨hfits, rfl⟩, rfl⟩, rfl⟩, rfl⟩, rfl⟩, rfl⟩, rfl⟩, rfl⟩, rfl⟩ := h
    exact hfits.solution
  · intro front
    cases front
    simp only [and_assoc, HeaderFront.mk.injEq]
    constructor
    · intro h
      exact h.2
    · intro h
      refine ⟨?_, h⟩
      obtain ⟨rfl, rfl, rfl, rfl, rfl, rfl, rfl, rfl, rfl, rfl⟩ := h
      exact ⟨hclaim.1, hearly.1, hbits, hnonce, hlate.1, hsolution⟩
  · intro front
    simp [HeaderFront.wire]

namespace HeaderBack

structure Fits (variant : ChainVariant) (version time : UInt32) (back : HeaderBack) : Prop where
  progPow : back.progPow.isSome =
    decide (version = mtpPowVersion ∧ progPowSwitchTime ≤ time)
  mtpPow : back.mtpPow.isSome = decide (version = mtpPowVersion ∧ time < progPowSwitchTime)
  hashStateRoot : back.hashStateRoot.isSome = variant.isQtumStyle version
  hashUtxoRoot : back.hashUtxoRoot.isSome = variant.isQtumStyle version
  prevoutStake : back.prevoutStake.isSome = variant.isQtumStyle version
  vchBlockSigDlgt : back.vchBlockSigDlgt.isSome = variant.isQtumStyle version ∧
    ∀ sig, back.vchBlockSigDlgt = some sig → sig.length < 2 ^ 64
  nHeight : back.nHeight.isSome = variant.isKawpow version
  nNonceU64 : back.nNonceU64.isSome = variant.isKawpow version
  mixHash : back.mixHash.isSome = variant.isKawpow version

def wire (back : HeaderBack) : Bytes :=
  optional ProgPow.serialize back.progPow ++
  (optional MtpPow.serialize back.mtpPow ++
  (optional Subtype.val back.hashStateRoot ++
  (optional Subtype.val back.hashUtxoRoot ++
  (optional OutPoint.serialize back.prevoutStake ++
  (optional Stream.bytes back.vchBlockSigDlgt ++
  (optional Stream.u32 back.nHeight ++
  (optional (fun n : UInt64 => leBytes 8 n.toNat) back.nNonceU64 ++
  optional Subtype.val back.mixHash)))))))

end HeaderBack

theorem codec_readBack : Codec (readBack variant version time) HeaderBack.wire
    (HeaderBack.Fits variant version time) := by
  refine (Codec.bind HeaderBack.progPow (codec_readIf _ codec_progPow)
      (fun _ h => ⟨h.progPow, fun _ _ => trivial⟩) fun progPow hprog =>
    Codec.bind HeaderBack.mtpPow (codec_readIf _ codec_mtpPow)
      (fun _ h => ⟨h.1.mtpPow, fun _ _ => trivial⟩) fun mtpPow hmtp =>
    Codec.bind HeaderBack.hashStateRoot (codec_readIf _ (codec_fixed 32))
      (fun _ h => ⟨h.1.1.hashStateRoot, fun _ _ => trivial⟩) fun hashStateRoot hstate =>
    Codec.bind HeaderBack.hashUtxoRoot (codec_readIf _ (codec_fixed 32))
      (fun _ h => ⟨h.1.1.1.hashUtxoRoot, fun _ _ => trivial⟩) fun hashUtxoRoot hutxo =>
    Codec.bind HeaderBack.prevoutStake (codec_readIf _ codec_outPoint)
      (fun _ h => ⟨h.1.1.1.1.prevoutStake, fun _ _ => trivial⟩) fun prevoutStake hstake =>
    Codec.bind HeaderBack.vchBlockSigDlgt (codec_readIf _ codec_byteList)
      (fun _ h => h.1.1.1.1.1.vchBlockSigDlgt) fun vchBlockSigDlgt hsig =>
    Codec.bind HeaderBack.nHeight (codec_readIf _ codec_u32)
      (fun _ h => ⟨h.1.1.1.1.1.1.nHeight, fun _ _ => trivial⟩) fun nHeight hheight =>
    Codec.bind HeaderBack.nNonceU64 (codec_readIf _ codec_uint64)
      (fun _ h => ⟨h.1.1.1.1.1.1.1.nNonceU64, fun _ _ => trivial⟩) fun nNonceU64 hnonce =>
    Codec.bind HeaderBack.mixHash (codec_readIf _ (codec_fixed 32))
      (fun _ h => ⟨h.1.1.1.1.1.1.1.1.mixHash, fun _ _ => trivial⟩) fun mixHash hmix =>
    Codec.pure ?_).of_write_eq ?_
  · intro back
    cases back
    simp only [and_assoc, HeaderBack.mk.injEq]
    constructor
    · intro h
      exact h.2
    · intro h
      refine ⟨?_, h⟩
      obtain ⟨rfl, rfl, rfl, rfl, rfl, rfl, rfl, rfl, rfl⟩ := h
      exact ⟨hprog.1, hmtp.1, hstate.1, hutxo.1, hstake.1, hsig, hheight.1, hnonce.1, hmix.1⟩
  · intro back
    simp [HeaderBack.wire]

end DeXFG.Utxo
