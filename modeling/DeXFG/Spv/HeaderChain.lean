import DeXFG.Spv.Work

/-!
# Chains of headers

The headers that a server sends are checked one after the other against the header before them:
they name its hash, and their bits are those that the rule for the difficulty gives.
-/
namespace DeXFG.Spv
open Utxo

inductive DifficultyAlgorithm where
  | bitcoinMainnet
  | bitcoinTestnet
  deriving DecidableEq

structure BlockHeaderValidationParams where
  difficultyCheck : Bool
  constantDifficulty : Bool
  difficultyAlgorithm : Option DifficultyAlgorithm
  deriving DecidableEq

structure SPVConf where
  /-- Where to start block headers sync from. -/
  startingBlockHeader : SPVBlockHeader
  /-- When reached, excessive headers will be deleted. -/
  maxStoredBlockHeaders : Option {n : UInt64 // n ≠ 0}
  /-- If none, headers will be saved without validation. -/
  validationParams : Option BlockHeaderValidationParams

/-! ## The configuration -/

def validateBtcMaxStoredHeadersValue (maxStoredBlockHeaders : UInt64) : Except SPVError Unit :=
  -- the value is cut to 32 bits
  if maxStoredBlockHeaders.toUInt32 < retargetingInterval then
    .error (.initialValidationError ("max_stored_block_headers " ++
      toString maxStoredBlockHeaders ++ " must be greater than retargeting interval " ++
      toString retargetingInterval))
  else .ok ()

def validateBtcSpvHeaderHeight (coin : String) (height : ℕ) : Except SPVError Unit :=
  let isRetarget := height % retargetingInterval.toNat
  if isRetarget ≠ 0 then .error (.wrongRetargetHeight coin (height - isRetarget)) else .ok ()

/-- The hash in hex. -/
def hashText (hash : H256) : String :=
  String.ofList (hash.val.flatMap fun byte =>
    [Nat.digitChar (byte.toNat / 16), Nat.digitChar (byte.toNat % 16)])

namespace SPVConf

variable (conf : SPVConf) (crypto : Bitcrypto)

def validate (coin : String) : Except SPVError Unit :=
  match conf.validationParams.bind BlockHeaderValidationParams.difficultyAlgorithm with
  | none => .ok ()
  | some .bitcoinMainnet => do
    validateBtcSpvHeaderHeight coin conf.startingBlockHeader.height
    match conf.maxStoredBlockHeaders with
    | none => pure ()
    | some max => validateBtcMaxStoredHeadersValue max.val
  | some .bitcoinTestnet => .error (.internal "Bitcoin Testnet is not supported yet.")

/-- The header that the first server sends is that of the configuration. -/
def validateRpcStartingHeader (height : ℕ) (rpcHeader : BlockHeader) : Except SPVError Unit :=
  let rpcHeader := SPVBlockHeader.fromBlockHeaderAndHeight crypto rpcHeader height
  let spvHeader := conf.startingBlockHeader
  let mismatch (what expected found : String) : Except SPVError Unit :=
    .error (.initialValidationError ("Starting block header " ++ what ++
      " not acceptable - expected: " ++ expected ++ " - found: " ++ found))
  if rpcHeader.bits.toU32 ≠ spvHeader.bits.toU32 then
    mismatch "bits" (toString spvHeader.bits.toU32) (toString rpcHeader.bits.toU32)
  else if rpcHeader.hash ≠ spvHeader.hash then
    mismatch "hash" (hashText spvHeader.hash) (hashText rpcHeader.hash)
  else if rpcHeader.time ≠ spvHeader.time then
    mismatch "time" (toString spvHeader.time) (toString rpcHeader.time)
  else .ok ()

end SPVConf

/-! ## The check -/

/-- What the check reads of the storage. -/
structure BlockHeaderStorageOps where
  getBlockHeader : ℕ → Except BlockHeaderStorageError (Option BlockHeader)
  getLastBlockHeaderWithNonMaxBits : UInt32 → Except BlockHeaderStorageError (Option BlockHeader)

section Check

variable (crypto : Bitcrypto) (coin : String) (storage : BlockHeaderStorageOps)

/-- None if the arithmetic panics. -/
def btcTestnetNextBlockBits (currentBlockTimestamp : UInt32) (lastBlockHeader : SPVBlockHeader) :
    Option (Except NextBlockBitsError BlockHeaderBits) :=
  let maxBits := BlockHeaderBits.compact maxBitsBtc.bits
  if lastBlockHeader.height = 0 then some (.ok maxBits)
  else if isRetargetHeight (lastBlockHeader.height + 1) then
    btcRetargetBits crypto coin lastBlockHeader storage.getBlockHeader
  else if lastBlockHeader.time + 2 * targetSpacingSeconds < currentBlockTimestamp then
    some (.ok maxBits)
  else if lastBlockHeader.bits ≠ maxBits then some (.ok lastBlockHeader.bits)
  else
    match storage.getLastBlockHeaderWithNonMaxBits maxBitsBtc.bits with
    | .error e => some (.error (.storageError e))
    | .ok header => some (.ok ((header.map fun header => header.bits).getD maxBits))

def nextBlockBits (currentBlockTimestamp : UInt32) (lastBlockHeader : SPVBlockHeader) :
    DifficultyAlgorithm → Option (Except NextBlockBitsError BlockHeaderBits)
  | .bitcoinMainnet => btcMainnetNextBlockBits crypto coin lastBlockHeader storage.getBlockHeader
  | .bitcoinTestnet =>
    btcTestnetNextBlockBits crypto coin storage currentBlockTimestamp lastBlockHeader

/-- The check of the bits of one header. -/
def validateBits (params : BlockHeaderValidationParams) (lastValidatedHeader : SPVBlockHeader)
    (header : BlockHeader) : Option (Except SPVError Unit) :=
  if params.constantDifficulty ∧ params.difficultyCheck ∧
      header.bits ≠ lastValidatedHeader.bits then
    some (.error .unexpectedDifficultyChange)
  else
    match params.difficultyAlgorithm with
    | none => some (.ok ())
    | some algorithm =>
      match nextBlockBits crypto coin storage header.time lastValidatedHeader algorithm with
      | none => none
      | some (.error e) => some (.error (.difficultyCalculationError e))
      | some (.ok nextBlockBits) =>
        if !params.constantDifficulty ∧ params.difficultyCheck ∧ header.bits ≠ nextBlockBits then
          some (.error .insufficientWork)
        else some (.ok ())

/-- The loop of `validate_headers`, from the last header that was validated on. -/
def validateFrom (conf : SPVConf) :
    SPVBlockHeader → List BlockHeader → Option (Except SPVError Unit)
  | _, [] => some (.ok ())
  | last, header :: headers =>
    if header.previousHeaderHash ≠ last.hash then
      some (.error (.parentHashMismatch coin (last.height + 1)))
    else
      match (conf.validationParams.map fun params =>
          validateBits crypto coin storage params last header).getD (some (.ok ())) with
      | none => none
      | some (.error e) => some (.error e)
      | some (.ok ()) =>
        validateFrom conf
          (SPVBlockHeader.fromBlockHeaderAndHeight crypto header (last.height + 1)) headers

/-- The last validated header is that of the configuration, or a stored one. -/
def lastValidatedHeader (conf : SPVConf) (lastValidatedHeight : ℕ) :
    Except SPVError SPVBlockHeader :=
  if lastValidatedHeight = conf.startingBlockHeader.height then .ok conf.startingBlockHeader
  else
    match storage.getBlockHeader lastValidatedHeight with
    | .error e => .error (.headerStorageError e)
    | .ok none => .error (.headerStorageError (.getFromStorageError coin
        ("Header with height " ++ toString lastValidatedHeight ++ " is not found in storage")))
    | .ok (some header) =>
      .ok (SPVBlockHeader.fromBlockHeaderAndHeight crypto header lastValidatedHeight)

/-- `validate_headers`, none if it panics. -/
def validateHeaders (lastValidatedHeight : ℕ) (headersToValidate : List BlockHeader)
    (conf : SPVConf) : Option (Except SPVError Unit) :=
  match lastValidatedHeader crypto coin storage conf lastValidatedHeight with
  | .error e => some (.error e)
  | .ok last => validateFrom crypto coin storage conf last headersToValidate

end Check

/-! ## What is accepted -/

section Follows

variable (crypto : Bitcrypto)

/-- The header after another, as the check keeps it. -/
abbrev SPVBlockHeader.after (last : SPVBlockHeader) (header : BlockHeader) : SPVBlockHeader :=
  SPVBlockHeader.fromBlockHeaderAndHeight crypto header (last.height + 1)

/-- Headers that follow each other, with the bits that something says for them. -/
def Follows (expected : SPVBlockHeader → BlockHeader → Prop) :
    SPVBlockHeader → List BlockHeader → Prop
  | _, [] => True
  | last, header :: headers =>
    header.previousHeaderHash = last.hash ∧ expected last header ∧
      Follows expected (last.after crypto header) headers

/-- The headers that some headers follow, each with the one that follows it. -/
def steps : SPVBlockHeader → List BlockHeader → List (SPVBlockHeader × BlockHeader)
  | _, [] => []
  | last, header :: headers => (last, header) :: steps (last.after crypto header) headers

variable {crypto} {expected expected' : SPVBlockHeader → BlockHeader → Prop}
  {last : SPVBlockHeader} {headers : List BlockHeader}

@[simp] theorem follows_nil : Follows crypto expected last [] := trivial

@[simp] theorem follows_cons {header : BlockHeader} :
    Follows crypto expected last (header :: headers) ↔
      header.previousHeaderHash = last.hash ∧ expected last header ∧
        Follows crypto expected (last.after crypto header) headers :=
  Iff.rfl

theorem Follows.of_imp (h : Follows crypto expected last headers)
    (himp : ∀ s ∈ steps crypto last headers, expected s.1 s.2 → expected' s.1 s.2) :
    Follows crypto expected' last headers := by
  induction headers generalizing last with
  | nil => simp
  | cons header headers ih =>
    simp only [steps, List.forall_mem_cons] at himp
    simp only [follows_cons] at h ⊢
    exact ⟨h.1, himp.1 h.2.1, ih h.2.2 himp.2⟩

theorem Follows.of_mem_steps (h : Follows crypto expected last headers) :
    ∀ s ∈ steps crypto last headers, expected s.1 s.2 := by
  induction headers generalizing last with
  | nil => simp [steps]
  | cons header headers ih =>
    simp only [follows_cons] at h
    simp only [steps, List.forall_mem_cons]
    exact ⟨h.2.1, ih h.2.2⟩

/-- Headers with two things expected of them follow each other with the one, and the other holds
at each. -/
theorem follows_and_iff (expected expected' : SPVBlockHeader → BlockHeader → Prop) :
    Follows crypto (fun last header => expected last header ∧ expected' last header) last headers ↔
      Follows crypto expected last headers ∧
        ∀ s ∈ steps crypto last headers, expected' s.1 s.2 := by
  constructor
  · intro h
    exact ⟨h.of_imp fun _ _ hboth => hboth.1, fun s hs => (h.of_mem_steps s hs).2⟩
  · intro h
    exact h.1.of_imp fun s hs hexpected => ⟨hexpected, h.2 s hs⟩

/-- The heights of the headers that others follow. -/
theorem height_of_mem_steps {s : SPVBlockHeader × BlockHeader}
    (hs : s ∈ steps crypto last headers) :
    last.height ≤ s.1.height ∧ s.1.height < last.height + headers.length := by
  induction headers generalizing last with
  | nil => simp [steps] at hs
  | cons header headers ih =>
    simp only [steps, List.mem_cons] at hs
    cases hs with
    | inl hfirst =>
      subst hfirst
      simp
    | inr hlater =>
      have hheight := ih hlater
      simp only [SPVBlockHeader.fromBlockHeaderAndHeight, List.length_cons] at hheight ⊢
      omega

/-- There is a header at each of these heights. -/
theorem exists_mem_steps {i : ℕ} (hi : i < headers.length) :
    ∃ s ∈ steps crypto last headers, s.1.height = last.height + i := by
  induction headers generalizing last i with
  | nil => simp at hi
  | cons header headers ih =>
    cases i with
    | zero => exact ⟨(last, header), by simp [steps], rfl⟩
    | succ i =>
      obtain ⟨s, hs, hheight⟩ := @ih (last.after crypto header) i (Nat.lt_of_succ_lt_succ hi)
      refine ⟨s, List.mem_cons_of_mem _ hs, ?_⟩
      rw [hheight]
      simp only [SPVBlockHeader.fromBlockHeaderAndHeight]
      omega

end Follows

section Accepts

variable {crypto : Bitcrypto} {coin : String} {storage : BlockHeaderStorageOps} {conf : SPVConf}
  {last : SPVBlockHeader} {headers : List BlockHeader}

/-- The check of the bits passes. -/
def BitsAccepted (crypto : Bitcrypto) (coin : String) (storage : BlockHeaderStorageOps)
    (conf : SPVConf) (last : SPVBlockHeader) (header : BlockHeader) : Prop :=
  ∀ params, conf.validationParams = some params →
    validateBits crypto coin storage params last header = some (.ok ())

theorem validateFrom_eq_ok :
    validateFrom crypto coin storage conf last headers = some (.ok ()) ↔
      Follows crypto (BitsAccepted crypto coin storage conf) last headers := by
  induction headers generalizing last with
  | nil => simp [validateFrom]
  | cons header headers ih =>
    rw [validateFrom, follows_cons, ← ih]
    by_cases hhash : header.previousHeaderHash = last.hash
    · simp only [hhash, ne_eq, not_true_eq_false, if_false, true_and, BitsAccepted]
      cases hparams : conf.validationParams with
      | none => simp
      | some params =>
        simp only [Option.map_some, Option.getD_some, Option.some.injEq, forall_eq']
        cases hbits : validateBits crypto coin storage params last header with
        | none => simp
        | some result =>
          cases result with
          | error e => simp
          | ok _ => simp
    · simp [hhash]

/-- A mainnet check without a constant difficulty compares the bits with those of the rule. -/
theorem validateBits_mainnet {params : BlockHeaderValidationParams}
    (hcheck : params.difficultyCheck = true) (hconstant : params.constantDifficulty = false)
    (halgorithm : params.difficultyAlgorithm = some .bitcoinMainnet) {header : BlockHeader} :
    validateBits crypto coin storage params last header = some (.ok ()) ↔
      btcMainnetNextBlockBits crypto coin last storage.getBlockHeader =
        some (.ok header.bits) := by
  simp only [validateBits, hcheck, hconstant, halgorithm, nextBlockBits]
  cases btcMainnetNextBlockBits crypto coin last storage.getBlockHeader with
  | none => simp
  | some result =>
    cases result with
    | error e => simp
    | ok bits =>
      by_cases h : header.bits = bits
      · simp [h]
      · simp [h, Ne.symm h]

end Accepts

end DeXFG.Spv
