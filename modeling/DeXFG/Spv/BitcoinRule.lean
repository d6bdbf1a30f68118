import DeXFG.Spv.HeaderChain

/-!
# Bitcoin's rule for the bits

On a retarget height the target of the block before is multiplied by the time between the first and
the last block of the period, kept between a quarter of two weeks and eight, and divided by two
weeks; no target is above the maximum. Elsewhere the bits are those of the block before.
-/
namespace DeXFG.Spv
open Utxo

/-! ## The rule -/

def ruleTimespan (first last : UInt32) : ℕ :=
  (min (max ((last.toNat : ℤ) - first.toNat) 302400) 4838400).toNat

theorem min_maxTarget_lt (n : ℕ) : min maxTarget n < 2 ^ 256 :=
  (min_le_left _ _).trans_lt (maxTarget_lt.trans (by decide))

def ruleTarget (bits : BlockHeaderBits) (first last : UInt32) : U256 :=
  ⟨min maxTarget (targetOf bits * ruleTimespan first last / targetTimespanSeconds.toNat),
    min_maxTarget_lt _⟩

/-- The bits after the last header of a chain, none if the first block of the period is not on
the chain. -/
def ruleBits (timeAt : ℕ → Option UInt32) (last : SPVBlockHeader) : Option BlockHeaderBits :=
  if isRetargetHeight (last.height + 1) then do
    let first ← timeAt (last.height + 1 - retargetingInterval.toNat)
    let c ← Compact.fromU256 (ruleTarget last.bits first last.time)
    pure (.compact c.bits)
  else some last.bits

section Chains

variable (storage : BlockHeaderStorageOps) (lastValidatedHeight : ℕ) (headers : List BlockHeader)

def storedTime (height : ℕ) : Option UInt32 :=
  match storage.getBlockHeader height with
  | .ok (some header) => some header.time
  | _ => none

/-- The times of the stored headers followed by those of a list. -/
def chainTimeAt (height : ℕ) : Option UInt32 :=
  if height ≤ lastValidatedHeight then storedTime storage height
  else (headers[height - lastValidatedHeight - 1]?).map fun header => header.time

/-- The headers link, and their bits are those of the rule. -/
def FollowsRule (crypto : Bitcrypto) (last : SPVBlockHeader) : Prop :=
  Follows crypto
    (fun last header =>
      ruleBits (chainTimeAt storage lastValidatedHeight headers) last = some header.bits)
    last headers

end Chains

/-- A storage that holds a chain from some height on, and no other header. -/
structure StoredChain (storage : BlockHeaderStorageOps) (conf : SPVConf)
    (lastValidatedHeight : ℕ) where
  first : ℕ
  chain : ℕ → BlockHeader
  start_le : conf.startingBlockHeader.height ≤ first
  first_le : first ≤ lastValidatedHeight
  getBlockHeader : ∀ height, storage.getBlockHeader height =
    .ok (if first ≤ height ∧ height ≤ lastValidatedHeight then some (chain height) else none)

/-- The last header of a stored chain, as the check begins with it. -/
def StoredChain.last {storage : BlockHeaderStorageOps} {conf : SPVConf} {lastValidatedHeight : ℕ}
    (stored : StoredChain storage conf lastValidatedHeight) (crypto : Bitcrypto) :
    SPVBlockHeader :=
  if lastValidatedHeight = conf.startingBlockHeader.height then conf.startingBlockHeader
  else SPVBlockHeader.fromBlockHeaderAndHeight crypto (stored.chain lastValidatedHeight)
    lastValidatedHeight

/-- What a header is expected of a check of the difficulty on the mainnet. -/
structure ChecksDifficulty (conf : SPVConf) (coin : String)
    (params : BlockHeaderValidationParams) : Prop where
  valid : conf.validate coin = .ok ()
  validationParams : conf.validationParams = some params
  check : params.difficultyCheck = true
  constant : params.constantDifficulty = false
  algorithm : params.difficultyAlgorithm = some .bitcoinMainnet

section Code

variable {crypto : Bitcrypto} {coin : String} {storage : BlockHeaderStorageOps}
  {last : SPVBlockHeader} {time : UInt32}

/-! ## The bits that the code expects -/

/-- None if it panics, or ends with an error. -/
def expectedBits (crypto : Bitcrypto) (coin : String) (storage : BlockHeaderStorageOps)
    (last : SPVBlockHeader) : Option BlockHeaderBits :=
  match btcMainnetNextBlockBits crypto coin last storage.getBlockHeader with
  | some (.ok bits) => some bits
  | _ => none

theorem expectedBits_eq_some {bits : BlockHeaderBits} :
    expectedBits crypto coin storage last = some bits ↔
      btcMainnetNextBlockBits crypto coin last storage.getBlockHeader = some (.ok bits) := by
  rw [expectedBits]
  cases btcMainnetNextBlockBits crypto coin last storage.getBlockHeader with
  | none => simp
  | some result => cases result <;> simp

theorem ruleTimespan_eq (first last : UInt32) :
    ruleTimespan first last = (retargetTimespan first last).toNat := by
  rw [ruleTimespan, ← toNat_retargetTimespan, Int.toNat_natCast]

theorem fromU256_maxTarget : Compact.fromU256 maxBitsBtc.intoU256 = some maxBitsBtc := by
  decide

theorem limitedBits_eq_fromU256 (target : U256) :
    limitedBits target =
      Compact.fromU256 ⟨min maxTarget target.val, min_maxTarget_lt target.val⟩ := by
  change (if maxTarget < target.val then _ else _) = _
  by_cases h : maxTarget < target.val
  · have hmin : (⟨min maxTarget target.val, min_maxTarget_lt target.val⟩ : U256) =
        maxBitsBtc.intoU256 := Subtype.ext (min_eq_left h.le)
    rw [if_pos h, hmin, fromU256_maxTarget]
  · have hmin : (⟨min maxTarget target.val, min_maxTarget_lt target.val⟩ : U256) = target :=
      Subtype.ext (min_eq_right (not_lt.mp h))
    rw [if_neg h, hmin]

/-- What a retarget computes, if its product takes 256 bits at most. -/
theorem retarget_limitedBits (bits : BlockHeaderBits) (first last : UInt32) :
    (retarget bits (retargetTimespan first last) >>= limitedBits) =
      if targetOf bits * ruleTimespan first last < 2 ^ 256 then
        Compact.fromU256 (ruleTarget bits first last)
      else none := by
  rw [ruleTimespan_eq]
  by_cases h : targetOf bits * (retargetTimespan first last).toNat < 2 ^ 256
  · rw [if_pos h, retarget, U256.mul]
    change ((if h : targetOf bits * (retargetTimespan first last).toNat < 2 ^ 256 then _ else _)
      >>= _) >>= _ = _
    rw [dif_pos h]
    simp only [Option.bind_eq_bind, Option.bind_some, Option.pure_def]
    rw [limitedBits_eq_fromU256]
    congr 1
    ext
    simp only [ruleTarget, ruleTimespan_eq]
    rfl
  · rw [if_neg h, retarget, U256.mul]
    change ((if h : targetOf bits * (retargetTimespan first last).toNat < 2 ^ 256 then _ else _)
      >>= _) >>= _ = _
    rw [dif_neg h]
    rfl

/-- The first block of the period of a retarget. -/
theorem retargetRef_eq (hretarget : isRetargetHeight (last.height + 1) = true)
    (hfits : last.height + 1 < 2 ^ 64) :
    retargetRef last.height = last.height + 1 - retargetingInterval.toNat ∧
      retargetingInterval.toNat ≤ last.height + 1 := by
  have hinterval : retargetingInterval.toNat = 2016 := by decide
  rw [isRetargetHeight, decide_eq_true_eq, hinterval] at hretarget
  rw [retargetRef, hinterval]
  omega

theorem expectedBits_genesis (h : last.height = 0) :
    expectedBits crypto coin storage last = some (.compact maxBitsBtc.bits) := by
  simp [expectedBits, btcMainnetNextBlockBits, h]

theorem expectedBits_plain (h : last.height ≠ 0)
    (hretarget : isRetargetHeight (last.height + 1) = false) :
    expectedBits crypto coin storage last = some last.bits := by
  simp [expectedBits, btcMainnetNextBlockBits, h, hretarget]

theorem expectedBits_first_period (h : last.height + 1 = retargetingInterval.toNat) :
    expectedBits crypto coin storage last = some (.compact maxBitsBtc.bits) := by
  have hinterval : retargetingInterval.toNat = 2016 := by decide
  have hheight : last.height = 2015 := by omega
  have href : retargetRef 2015 = 0 := by decide
  have hretarget : isRetargetHeight 2016 = true := by decide
  simp [expectedBits, btcMainnetNextBlockBits, btcRetargetBits, hheight, href, hretarget]

/-- A retarget reads the first block of its period, and computes. -/
theorem expectedBits_retarget (hretarget : isRetargetHeight (last.height + 1) = true)
    (hfits : last.height + 1 < 2 ^ 64) (hlater : last.height + 1 ≠ retargetingInterval.toNat) :
    expectedBits crypto coin storage last =
      (storedTime storage (last.height + 1 - retargetingInterval.toNat)).bind fun first =>
        (if targetOf last.bits * ruleTimespan first last.time < 2 ^ 256 then
          Compact.fromU256 (ruleTarget last.bits first last.time)
        else none).map fun c => .compact c.bits := by
  obtain ⟨href, hle⟩ := retargetRef_eq hretarget hfits
  have hinterval : retargetingInterval.toNat = 2016 := by decide
  have hzero : last.height ≠ 0 := by omega
  have hrefzero : last.height + 1 - retargetingInterval.toNat ≠ 0 := by omega
  rw [expectedBits, btcMainnetNextBlockBits, if_neg hzero, if_pos hretarget, btcRetargetBits, href,
    if_neg hrefzero, storedTime]
  cases storage.getBlockHeader (last.height + 1 - retargetingInterval.toNat) with
  | error e => rfl
  | ok found =>
    cases found with
    | none => rfl
    | some header =>
      rw [Option.bind_some, ← retarget_limitedBits]
      simp only [SPVBlockHeader.fromBlockHeaderAndHeight, Option.bind_eq_bind, Option.pure_def]
      cases retarget last.bits (retargetTimespan header.time last.time) with
      | none => rfl
      | some target =>
        simp only [Option.bind_some]
        cases limitedBits target <;> rfl

end Code

/-! ## Where the two differ -/

section Differences

variable (storage : BlockHeaderStorageOps) (lastValidatedHeight : ℕ) (headers : List BlockHeader)
  (last : SPVBlockHeader)

/-- A retarget of a later period than the first comes after the header. -/
def Retargets : Prop :=
  isRetargetHeight (last.height + 1) = true ∧ last.height + 1 ≠ retargetingInterval.toNat

/-- The first block of the period of the retarget is among the headers to be validated. -/
def Spans : Prop :=
  Retargets last ∧ lastValidatedHeight < last.height + 1 - retargetingInterval.toNat

/-- The product of the retarget takes more than 256 bits. -/
def Overflows : Prop :=
  Retargets last ∧
    ∃ first, storedTime storage (last.height + 1 - retargetingInterval.toNat) = some first ∧
      2 ^ 256 ≤ targetOf last.bits * ruleTimespan first last.time

/-- After the genesis block, and on the first retarget height of all. -/
def AtMaximum : Prop :=
  last.height = 0 ∨ last.height + 1 = retargetingInterval.toNat

/-- The bits are the maximum there, where the rule says something else. -/
def Floored : Prop :=
  AtMaximum last ∧
    ruleBits (chainTimeAt storage lastValidatedHeight headers) last ≠
      some (.compact maxBitsBtc.bits)

instance : Decidable (AtMaximum last) := inferInstanceAs (Decidable (_ ∨ _))

/-- The rule but for the two heights. -/
def flooredBits : Option BlockHeaderBits :=
  if AtMaximum last then some (.compact maxBitsBtc.bits)
  else ruleBits (chainTimeAt storage lastValidatedHeight headers) last

end Differences

section Judged

variable {crypto : Bitcrypto} {coin : String} {storage : BlockHeaderStorageOps} {conf : SPVConf}
  {lastValidatedHeight : ℕ} {headers : List BlockHeader} {last : SPVBlockHeader}

theorem StoredChain.storedTime_of_lt (stored : StoredChain storage conf lastValidatedHeight)
    {height : ℕ} (h : lastValidatedHeight < height) : storedTime storage height = none := by
  rw [storedTime, stored.getBlockHeader, if_neg (by omega)]

theorem ruleBits_of_retarget {timeAt : ℕ → Option UInt32}
    (hretarget : isRetargetHeight (last.height + 1) = true) :
    ruleBits timeAt last =
      (timeAt (last.height + 1 - retargetingInterval.toNat)).bind fun first =>
        (Compact.fromU256 (ruleTarget last.bits first last.time)).map
          fun c => .compact c.bits := by
  rw [ruleBits, if_pos hretarget]
  cases timeAt (last.height + 1 - retargetingInterval.toNat) with
  | none => rfl
  | some first =>
    simp only [Option.bind_eq_bind, Option.bind_some, Option.pure_def]
    cases Compact.fromU256 (ruleTarget last.bits first last.time) <;> rfl

theorem not_retargets_of_atMaximum (h : AtMaximum last) : ¬ Retargets last := by
  intro hretargets
  cases h with
  | inl hzero =>
    have hheight := hretargets.1
    simp [hzero, isRetargetHeight, show retargetingInterval.toNat = 2016 by decide] at hheight
  | inr hfirst => exact hretargets.2 hfirst

/-- Of a header that a retarget comes after, the code computes what the rule says if it finds the
first block of the period and the product is not too large. -/
theorem expectedBits_of_retargets (headers : List BlockHeader)
    (stored : StoredChain storage conf lastValidatedHeight)
    (hretargets : Retargets last) (hfits : last.height + 1 < 2 ^ 64) :
    expectedBits crypto coin storage last =
      open Classical in
      if Spans lastValidatedHeight last ∨ Overflows storage last then none
      else ruleBits (chainTimeAt storage lastValidatedHeight headers) last := by
  rw [expectedBits_retarget hretargets.1 hfits hretargets.2, ruleBits_of_retarget hretargets.1]
  by_cases hspans : lastValidatedHeight < last.height + 1 - retargetingInterval.toNat
  · rw [stored.storedTime_of_lt hspans, if_pos (.inl ⟨hretargets, hspans⟩), Option.bind_none]
  · have hnot : ¬ Spans lastValidatedHeight last := fun h => hspans h.2
    rw [chainTimeAt, if_pos (not_lt.mp hspans)]
    cases hfirst : storedTime storage (last.height + 1 - retargetingInterval.toNat) with
    | none =>
      have hproduct : ¬ Overflows storage last := by
        simp [Overflows, hfirst]
      rw [if_neg (not_or.mpr ⟨hnot, hproduct⟩)]
      rfl
    | some first =>
      have hproduct : Overflows storage last ↔
          ¬ targetOf last.bits * ruleTimespan first last.time < 2 ^ 256 := by
        simp [Overflows, hfirst, hretargets]
      by_cases hlt : targetOf last.bits * ruleTimespan first last.time < 2 ^ 256
      · rw [Option.bind_some, if_pos hlt,
          if_neg (not_or.mpr ⟨hnot, fun h => hproduct.mp h hlt⟩)]
        rfl
      · rw [Option.bind_some, if_neg hlt, if_pos (.inr (hproduct.mpr hlt)), Option.map_none]

/-- The code expects the bits of the rule but for the two heights, where it expects the maximum,
and nothing where it cannot compute. -/
theorem expectedBits_eq (headers : List BlockHeader)
    (stored : StoredChain storage conf lastValidatedHeight)
    (hfits : last.height + 1 < 2 ^ 64) :
    expectedBits crypto coin storage last =
      open Classical in
      if Spans lastValidatedHeight last ∨ Overflows storage last then none
      else flooredBits storage lastValidatedHeight headers last := by
  have hfails : ¬ Retargets last → ¬ (Spans lastValidatedHeight last ∨ Overflows storage last) :=
    fun hnot h => hnot (h.elim And.left And.left)
  rw [flooredBits]
  by_cases hmax : AtMaximum last
  · rw [if_neg (hfails (not_retargets_of_atMaximum hmax)), if_pos hmax]
    cases hmax with
    | inl hzero => exact expectedBits_genesis hzero
    | inr hfirst => exact expectedBits_first_period hfirst
  · rw [if_neg hmax]
    have hzero : last.height ≠ 0 := fun h => hmax (.inl h)
    cases hretarget : isRetargetHeight (last.height + 1) with
    | true =>
      have hlater : last.height + 1 ≠ retargetingInterval.toNat := fun h => hmax (.inr h)
      exact expectedBits_of_retargets headers stored ⟨hretarget, hlater⟩ hfits
    | false =>
      have hnot : ¬ Retargets last := by
        simp [Retargets, hretarget]
      rw [if_neg (hfails hnot), expectedBits_plain hzero hretarget, ruleBits, hretarget]
      rfl

end Judged

/-! ## Wrong verdicts -/

section Verdicts

variable (crypto : Bitcrypto) (coin : String) (storage : BlockHeaderStorageOps) (conf : SPVConf)
  (lastValidatedHeight : ℕ) (headers : List BlockHeader) (last : SPVBlockHeader)

/-- Headers by the rule of which the code cannot compute all bits, or expects other ones. -/
def WronglyRejected : Prop :=
  FollowsRule storage lastValidatedHeight headers crypto last ∧
    ∃ s ∈ steps crypto last headers,
      (Spans lastValidatedHeight s.1 ∨ Overflows storage s.1) ∨
        Floored storage lastValidatedHeight headers s.1

/-- Headers by the rule but for the two heights, where they have the maximum bits instead. -/
def WronglyAccepted : Prop :=
  Follows crypto
      (fun last header => flooredBits storage lastValidatedHeight headers last = some header.bits)
      last headers ∧
    (∀ s ∈ steps crypto last headers,
      ¬ (Spans lastValidatedHeight s.1 ∨ Overflows storage s.1)) ∧
    ∃ s ∈ steps crypto last headers, Floored storage lastValidatedHeight headers s.1

/-- Exactly the headers by the rule are accepted, and no height is below the interval that is
subtracted from it. -/
def JudgedByRule : Prop :=
  (validateHeaders crypto coin storage lastValidatedHeight headers conf = some (.ok ()) ↔
      FollowsRule storage lastValidatedHeight headers crypto last) ∧
    ∀ s ∈ steps crypto last headers, s.1.height ≠ 0 →
      isRetargetHeight (s.1.height + 1) = true →
        retargetingInterval.toNat ≤ s.1.height + 1

end Verdicts

section Judged

variable {crypto : Bitcrypto} {coin : String} {storage : BlockHeaderStorageOps} {conf : SPVConf}
  {params : BlockHeaderValidationParams} {lastValidatedHeight : ℕ} {headers : List BlockHeader}
  {last : SPVBlockHeader}

theorem StoredChain.lastValidatedHeader (stored : StoredChain storage conf lastValidatedHeight)
    (crypto : Bitcrypto) (coin : String) :
    lastValidatedHeader crypto coin storage conf lastValidatedHeight =
      .ok (stored.last crypto) := by
  rw [Spv.lastValidatedHeader, StoredChain.last]
  by_cases h : lastValidatedHeight = conf.startingBlockHeader.height
  · rw [if_pos h, if_pos h]
  · rw [if_neg h, if_neg h, stored.getBlockHeader, if_pos ⟨stored.first_le, le_rfl⟩]

theorem StoredChain.last_height (stored : StoredChain storage conf lastValidatedHeight)
    (crypto : Bitcrypto) : (stored.last crypto).height = lastValidatedHeight := by
  rw [StoredChain.last]
  split
  · rename_i h
    exact h.symm
  · rfl

theorem validateHeaders_eq_ok (checks : ChecksDifficulty conf coin params)
    (stored : StoredChain storage conf lastValidatedHeight) :
    validateHeaders crypto coin storage lastValidatedHeight headers conf = some (.ok ()) ↔
      Follows crypto (fun last header => expectedBits crypto coin storage last = some header.bits)
        (stored.last crypto) headers := by
  rw [validateHeaders, stored.lastValidatedHeader crypto coin]
  simp only
  rw [validateFrom_eq_ok]
  have hbits : ∀ last header, BitsAccepted crypto coin storage conf last header ↔
      expectedBits crypto coin storage last = some header.bits := by
    intro last header
    simp only [BitsAccepted, checks.validationParams, Option.some.injEq, forall_eq']
    rw [validateBits_mainnet checks.check checks.constant checks.algorithm, expectedBits_eq_some]
  constructor
  · exact fun h => h.of_imp fun s _ => (hbits s.1 s.2).mp
  · exact fun h => h.of_imp fun s _ => (hbits s.1 s.2).mpr

/-- What is accepted is by the rule but for the two heights, and computes. -/
theorem accepted_iff (checks : ChecksDifficulty conf coin params)
    (stored : StoredChain storage conf lastValidatedHeight)
    (hfits : lastValidatedHeight + headers.length < 2 ^ 64) :
    validateHeaders crypto coin storage lastValidatedHeight headers conf = some (.ok ()) ↔
      Follows crypto
          (fun last header =>
            flooredBits storage lastValidatedHeight headers last = some header.bits)
          (stored.last crypto) headers ∧
        ∀ s ∈ steps crypto (stored.last crypto) headers,
          ¬ (Spans lastValidatedHeight s.1 ∨ Overflows storage s.1) := by
  rw [validateHeaders_eq_ok checks stored, ← follows_and_iff
    (fun last header => flooredBits storage lastValidatedHeight headers last = some header.bits)
    (fun last _ => ¬ (Spans lastValidatedHeight last ∨ Overflows storage last))]
  have hexpected : ∀ s ∈ steps crypto (stored.last crypto) headers,
      expectedBits crypto coin storage s.1 = some s.2.bits ↔
        flooredBits storage lastValidatedHeight headers s.1 = some s.2.bits ∧
          ¬ (Spans lastValidatedHeight s.1 ∨ Overflows storage s.1) := by
    intro s hs
    have hheight := (height_of_mem_steps hs).2
    rw [stored.last_height] at hheight
    rw [expectedBits_eq headers stored (by omega)]
    by_cases h : Spans lastValidatedHeight s.1 ∨ Overflows storage s.1
    · simp [h]
    · simp [h]
  constructor
  · exact fun h => h.of_imp fun s hs => (hexpected s hs).mp
  · exact fun h => h.of_imp fun s hs => (hexpected s hs).mpr

/-- Without the two heights nothing but the rule is asked for. -/
theorem followsRule_iff_of_not_floored
    (h : ∀ s ∈ steps crypto last headers, ¬ Floored storage lastValidatedHeight headers s.1) :
    Follows crypto
        (fun last header =>
          flooredBits storage lastValidatedHeight headers last = some header.bits)
        last headers ↔
      FollowsRule storage lastValidatedHeight headers crypto last := by
  have hbits : ∀ s ∈ steps crypto last headers,
      flooredBits storage lastValidatedHeight headers s.1 =
        ruleBits (chainTimeAt storage lastValidatedHeight headers) s.1 := by
    intro s hs
    rw [flooredBits]
    split
    · rename_i hmax
      by_contra hne
      exact h s hs ⟨hmax, Ne.symm hne⟩
    · rfl
  constructor
  · exact fun h => h.of_imp fun s hs hfloored => (hbits s hs).symm.trans hfloored
  · exact fun h => h.of_imp fun s hs hrule => (hbits s hs).trans hrule

/-- At one of the two heights headers cannot have both the bits of the rule and the maximum. -/
theorem not_floored_of_both
    (hfloored : Follows crypto
      (fun last header =>
        flooredBits storage lastValidatedHeight headers last = some header.bits) last headers)
    (hrule : FollowsRule storage lastValidatedHeight headers crypto last) :
    ∀ s ∈ steps crypto last headers, ¬ Floored storage lastValidatedHeight headers s.1 := by
  intro s hs h
  have hmax := hfloored.of_mem_steps s hs
  rw [flooredBits, if_pos h.1] at hmax
  exact h.2 ((hrule.of_mem_steps s hs).trans hmax.symm)

end Judged

/-! ## Two retargets at once -/

namespace TwoRetargets

/-- All hashes are the same. -/
def crypto : Bitcrypto := ⟨fun _ => H256.default, fun _ => ⟨List.replicate 20 0, length_zeros20⟩⟩

def header (time : UInt32) : BlockHeader where
  version := 1
  previousHeaderHash := H256.default
  merkleRootHash := H256.default
  claimTrieRoot := none
  hashFinalSaplingRoot := none
  time := time
  bits := .compact maxBitsBtc.bits
  nonce := .u32 0
  solution := none
  progPow := none
  mtpPow := none
  isVerus := false
  hashStateRoot := none
  hashUtxoRoot := none
  prevoutStake := none
  vchBlockSigDlgt := none
  nHeight := none
  nNonceU64 := none
  mixHash := none
  auxPow := none

def params : BlockHeaderValidationParams where
  difficultyCheck := true
  constantDifficulty := false
  difficultyAlgorithm := some .bitcoinMainnet

def conf : SPVConf where
  startingBlockHeader := SPVBlockHeader.fromBlockHeaderAndHeight crypto (header 0) 2016
  maxStoredBlockHeaders := none
  validationParams := some params

/-- Every period takes two weeks. -/
def stored (height : ℕ) : BlockHeader := header (if height = 4031 then 1209600 else 0)

def storage : BlockHeaderStorageOps where
  getBlockHeader height :=
    .ok (if 2016 ≤ height ∧ height ≤ 4031 then some (stored height) else none)
  getLastBlockHeaderWithNonMaxBits _ := .ok none

def storedChain : StoredChain storage conf 4031 where
  first := 2016
  chain := stored
  start_le := le_rfl
  first_le := by decide
  getBlockHeader _ := rfl

/-- From the retarget height 4032 to the retarget height 6048. -/
def headers : List BlockHeader := header 1209600 :: List.replicate 2016 (header 2419200)

theorem checksDifficulty : ChecksDifficulty conf "BTC" params where
  valid := by decide
  validationParams := rfl
  check := rfl
  constant := rfl
  algorithm := rfl

/-- Two weeks leave the maximum target as it is. -/
theorem fromU256_ruleTarget {first last : UInt32} (h : ruleTimespan first last = 1209600) :
    Compact.fromU256 (ruleTarget (.compact maxBitsBtc.bits) first last) = some maxBitsBtc := by
  have htarget : ruleTarget (.compact maxBitsBtc.bits) first last = maxBitsBtc.intoU256 := by
    apply Subtype.ext
    have hseconds : targetTimespanSeconds.toNat = 1209600 := by decide
    have hdiv : targetOf (.compact maxBitsBtc.bits) * 1209600 / 1209600 = maxTarget :=
      Nat.mul_div_cancel _ (by decide)
    simp only [ruleTarget, h, hseconds, hdiv, min_self]
    rfl
  rw [htarget, fromU256_maxTarget]

/-- The last of the headers stay at the maximum up to the second retarget height. -/
theorem follows_replicate (n : ℕ) (last : SPVBlockHeader) (hle : 4032 ≤ last.height)
    (hsum : last.height + n ≤ 6048) (hhash : last.hash = H256.default)
    (hbits : last.bits = .compact maxBitsBtc.bits)
    (htime : last.height = 6047 → last.time = 2419200) :
    Follows crypto
      (fun last header => ruleBits (chainTimeAt storage 4031 headers) last = some header.bits)
      last (List.replicate n (header 2419200)) := by
  induction n generalizing last with
  | zero => simp
  | succ n ih =>
    rw [List.replicate_succ, follows_cons]
    constructor
    · rw [hhash]
      rfl
    constructor
    · by_cases hheight : last.height = 6047
      · have hretarget : isRetargetHeight (last.height + 1) = true := by
          rw [hheight]
          decide
        have hinterval : last.height + 1 - retargetingInterval.toNat = 4032 := by
          rw [hheight]
          decide
        have hfirst : chainTimeAt storage 4031 headers 4032 = some 1209600 := by decide
        rw [ruleBits_of_retarget hretarget, hinterval, hfirst, htime hheight, hbits,
          Option.bind_some, fromU256_ruleTarget (by decide)]
        rfl
      · have hretarget : isRetargetHeight (last.height + 1) = false := by
          have hinterval : retargetingInterval.toNat = 2016 := by decide
          rw [isRetargetHeight, hinterval, decide_eq_false_iff_not]
          omega
        simp [ruleBits, hretarget, hbits, header]
    · apply ih
      · simp only [SPVBlockHeader.fromBlockHeaderAndHeight]
        omega
      · simp only [SPVBlockHeader.fromBlockHeaderAndHeight]
        omega
      · rfl
      · rfl
      · exact fun _ => rfl

theorem followsRule :
    FollowsRule storage 4031 headers crypto (storedChain.last crypto) := by
  have hlast : storedChain.last crypto =
      SPVBlockHeader.fromBlockHeaderAndHeight crypto (stored 4031) 4031 := by
    rw [StoredChain.last, if_neg (by decide)]
    rfl
  have hfirst : chainTimeAt storage 4031 headers 2016 = some 0 := by decide
  rw [FollowsRule, hlast, headers, follows_cons]
  constructor
  · rfl
  constructor
  · rw [ruleBits_of_retarget (by decide)]
    change (chainTimeAt storage 4031 headers 2016).bind _ = _
    rw [hfirst, Option.bind_some]
    change (Compact.fromU256 (ruleTarget (.compact maxBitsBtc.bits) 0 1209600)).map _ = _
    rw [fromU256_ruleTarget (by decide)]
    rfl
  · apply follows_replicate
    · exact le_rfl
    · exact le_rfl
    · rfl
    · rfl
    · intro hheight
      cases hheight

theorem not_judgedByRule_twoRetargets :
    ¬ JudgedByRule crypto "BTC" storage conf 4031 headers (storedChain.last crypto) := by
  intro h
  have hlength : headers.length = 2017 := by
    rw [headers, List.length_cons, List.length_replicate]
  have haccepted := (accepted_iff checksDifficulty storedChain (by rw [hlength]; decide)).mp
    (h.1.mpr followsRule)
  obtain ⟨s, hs, hheight⟩ := exists_mem_steps (i := 2016)
    (show 2016 < headers.length by rw [hlength]; decide)
  rw [storedChain.last_height] at hheight
  apply haccepted.2 s hs
  left
  rw [Spans, Retargets, hheight]
  decide

end TwoRetargets

end DeXFG.Spv
