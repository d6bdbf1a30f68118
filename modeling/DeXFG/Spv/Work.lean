import DeXFG.Spv.Compact
import DeXFG.Spv.Types

/-!
# The difficulty of the next block

Every two weeks of blocks the target is multiplied by the time they took and divided
by the time they should have taken.
-/
namespace DeXFG.Spv
open Utxo Library.Truncation

def retargetingFactor : UInt32 := 4

def targetSpacingSeconds : UInt32 := 10 * 60

def targetTimespanSeconds : UInt32 := 2 * 7 * 24 * 60 * 60

/-- The Target number of blocks equals to 2 weeks or 2016 blocks. -/
def retargetingInterval : UInt32 := targetTimespanSeconds / targetSpacingSeconds

/-- The upper and lower bounds for retargeting timespan. -/
def minTimespan : UInt32 := targetTimespanSeconds / retargetingFactor

def maxTimespan : UInt32 := targetTimespanSeconds * retargetingFactor

/-- The maximum value for bits corresponding to lowest difficulty of 1. -/
def maxBitsBtc : Compact := ⟨486604799⟩

def isRetargetHeight (height : ℕ) : Bool := height % retargetingInterval.toNat = 0

structure SPVBlockHeader where
  height : ℕ
  hash : H256
  time : UInt32
  bits : BlockHeaderBits
  deriving DecidableEq

def SPVBlockHeader.fromBlockHeaderAndHeight (crypto : Bitcrypto) (header : BlockHeader)
    (height : ℕ) : SPVBlockHeader where
  height := height
  hash := header.hash crypto
  time := header.time
  bits := header.bits

/-- `From<BlockHeaderBits>`. -/
def Compact.ofBits (bits : BlockHeaderBits) : Compact := ⟨bits.toU32⟩

def rangeConstrain (value min max : ℤ) : ℤ := Min.min (Max.max value min) max

/-- Returns constrained number of seconds since last retarget. -/
def retargetTimespan (retargetTimestamp lastTimestamp : UInt32) : UInt32 :=
  let timespan : ℤ := lastTimestamp.toNat - retargetTimestamp.toNat
  .ofNat (rangeConstrain timespan minTimespan.toNat maxTimespan.toNat).toNat

/-- The next target before it is limited, none if the product overflows. -/
def retarget (lastBits : BlockHeaderBits) (timespan : UInt32) : Option U256 := do
  let product ← (Compact.ofBits lastBits).intoU256.mul (U256.ofU32 timespan)
  pure (product.div (U256.ofU32 targetTimespanSeconds))

/-- No target is above that of the maximum bits. -/
def limitedBits (retarget : U256) : Option Compact :=
  if maxBitsBtc.intoU256.val < retarget.val then some maxBitsBtc else Compact.fromU256 retarget

/-- The number of the block that the last retarget was in. -/
def retargetRef (lastHeight : ℕ) : ℕ :=
  (lastHeight + 1 + (2 ^ 64 - retargetingInterval.toNat)) % 2 ^ 64

/-- None if the arithmetic panics. -/
def btcRetargetBits (crypto : Bitcrypto) (coin : String) (lastBlockHeader : SPVBlockHeader)
    (getBlockHeader : ℕ → Except BlockHeaderStorageError (Option BlockHeader)) :
    Option (Except NextBlockBitsError BlockHeaderBits) :=
  if retargetRef lastBlockHeader.height = 0 then some (.ok (.compact maxBitsBtc.bits))
  else
    match getBlockHeader (retargetRef lastBlockHeader.height) with
    | .error e => some (.error (.storageError e))
    | .ok none => some (.error (.noSuchBlockHeader coin (retargetRef lastBlockHeader.height)))
    | .ok (some header) => do
      let retargetHeader := SPVBlockHeader.fromBlockHeaderAndHeight crypto header
        (retargetRef lastBlockHeader.height)
      let target ← retarget lastBlockHeader.bits
        (retargetTimespan retargetHeader.time lastBlockHeader.time)
      let bits ← limitedBits target
      pure (.ok (.compact bits.bits))

/-- `btc_mainnet_next_block_bits`. -/
def btcMainnetNextBlockBits (crypto : Bitcrypto) (coin : String) (lastBlockHeader : SPVBlockHeader)
    (getBlockHeader : ℕ → Except BlockHeaderStorageError (Option BlockHeader)) :
    Option (Except NextBlockBitsError BlockHeaderBits) :=
  if lastBlockHeader.height = 0 then some (.ok (.compact maxBitsBtc.bits))
  else if isRetargetHeight (lastBlockHeader.height + 1) then
    btcRetargetBits crypto coin lastBlockHeader getBlockHeader
  else some (.ok lastBlockHeader.bits)

/-- The target that bits denote. -/
def targetOf (bits : BlockHeaderBits) : ℕ := (Compact.ofBits bits).intoU256.val

/-- The target of the maximum bits. -/
def maxTarget : ℕ := maxBitsBtc.intoU256.val

variable {last last' : SPVBlockHeader} {timespan timespan' : UInt32}
  {bits bits' : BlockHeaderBits}

/-! ## The arithmetic -/

example : maxTarget = 0xffff * 2 ^ 208 := by decide

theorem maxTarget_lt : maxTarget < 2 ^ 224 := by
  decide

/-- The constrained timespan fits its type. -/
theorem toNat_retargetTimespan (retargetTimestamp lastTimestamp : UInt32) :
    ((retargetTimespan retargetTimestamp lastTimestamp).toNat : ℤ) =
      min (max ((lastTimestamp.toNat : ℤ) - retargetTimestamp.toNat) 302400) 4838400 := by
  have hmin : minTimespan.toNat = 302400 := by decide
  have hmax : maxTimespan.toNat = 4838400 := by decide
  have hlt : (rangeConstrain ((lastTimestamp.toNat : ℤ) - retargetTimestamp.toNat)
      minTimespan.toNat maxTimespan.toNat).toNat < UInt32.size := by
    rw [rangeConstrain, hmax, UInt32.size]
    omega
  rw [retargetTimespan, UInt32.toNat_ofNat_of_lt' hlt, rangeConstrain, hmin, hmax]
  omega

theorem retargetTimespan_lt (retargetTimestamp lastTimestamp : UInt32) :
    (retargetTimespan retargetTimestamp lastTimestamp).toNat < 2 ^ 23 := by
  have h := toNat_retargetTimespan retargetTimestamp lastTimestamp
  omega

/-- A later last header or an earlier retarget makes the timespan longer. -/
theorem retargetTimespan_mono {first first' end_ end' : UInt32}
    (h : (end_.toNat : ℤ) - first.toNat ≤ end'.toNat - first'.toNat) :
    (retargetTimespan first end_).toNat ≤ (retargetTimespan first' end').toNat := by
  have hspan := toNat_retargetTimespan first end_
  have hspan' := toNat_retargetTimespan first' end'
  omega

/-- The product takes 256 bits at most. -/
theorem retarget_eq (hbits : targetOf bits ≤ maxTarget) (htimespan : timespan.toNat < 2 ^ 23) :
    ∃ target, retarget bits timespan = some target ∧
      target.val = targetOf bits * timespan.toNat / targetTimespanSeconds.toNat := by
  have hproduct : targetOf bits * timespan.toNat < 2 ^ 256 := by
    calc targetOf bits * timespan.toNat
        ≤ 2 ^ 224 * 2 ^ 23 :=
          Nat.mul_le_mul (hbits.trans maxTarget_lt.le) htimespan.le
      _ < 2 ^ 256 := by norm_num
  refine ⟨⟨targetOf bits * timespan.toNat / targetTimespanSeconds.toNat,
    (Nat.div_le_self _ _).trans_lt hproduct⟩, ?_, rfl⟩
  rw [retarget, U256.mul]
  change (if h : targetOf bits * timespan.toNat < 2 ^ 256 then _ else _) >>= _ = _
  rw [dif_pos hproduct]
  rfl

/-- The limited target has a compact form, and is cut down as little as possible. -/
theorem limitedBits_eq (target : U256) :
    ∃ c, limitedBits target = some c ∧
      ((maxTarget < target.val ∧ c.intoU256.val = maxTarget) ∨
        (target.val ≤ maxTarget ∧ Compact.fromU256 target = some c ∧
          c.toU256 = .ok c.intoU256 ∧ c.intoU256.val ≤ target.val)) := by
  rw [limitedBits]
  by_cases h : maxTarget < target.val
  · exact ⟨maxBitsBtc, if_pos h, .inl ⟨h, rfl⟩⟩
  · obtain ⟨c, u, hc, hu, hgreatest⟩ := Compact.fromU256_spec target
    have hinto : c.intoU256 = u := by
      rw [Compact.intoU256, hu]
    refine ⟨c, (if_neg h).trans hc, .inr ⟨not_lt.mp h, hc, ?_, ?_⟩⟩
    · rw [hinto]
      exact hu
    · rw [hinto]
      exact hgreatest.1.2

theorem limitedBits_mono {target target' : U256} {c c' : Compact} (hle : target.val ≤ target'.val)
    (hc : limitedBits target = some c) (hc' : limitedBits target' = some c') :
    c.intoU256.val ≤ c'.intoU256.val := by
  obtain ⟨d, hd, hcases⟩ := limitedBits_eq target
  obtain ⟨d', hd', hcases'⟩ := limitedBits_eq target'
  cases hc.symm.trans hd
  cases hc'.symm.trans hd'
  cases hcases with
  | inl h =>
    cases hcases' with
    | inl h' => rw [h.2, h'.2]
    | inr h' => omega
  | inr h =>
    cases hcases' with
    | inl h' =>
      rw [h'.2]
      exact h.2.2.2.trans h.1
    | inr h' => exact Compact.target_mono hle h.2.1 h'.2.1 h.2.2.1 h'.2.2.1

/-! ## The whole computation -/

/-- The header that the last retarget was in is on record. -/
def RetargetsFrom (last : SPVBlockHeader)
    (getBlockHeader : ℕ → Except BlockHeaderStorageError (Option BlockHeader))
    (header : BlockHeader) : Prop :=
  retargetRef last.height ≠ 0 ∧ getBlockHeader (retargetRef last.height) = .ok (some header)

variable {crypto : Bitcrypto} {coin : String} {header header' : BlockHeader}
  {getBlockHeader getBlockHeader' : ℕ → Except BlockHeaderStorageError (Option BlockHeader)}

theorem btcRetargetBits_eq (crypto : Bitcrypto) (coin : String)
    (hlast : targetOf last.bits ≤ maxTarget)
    (h : RetargetsFrom last getBlockHeader header) :
    ∃ target c, btcRetargetBits crypto coin last getBlockHeader = some (.ok (.compact c.bits)) ∧
      limitedBits target = some c ∧
      target.val = targetOf last.bits * (retargetTimespan header.time last.time).toNat /
        targetTimespanSeconds.toNat := by
  obtain ⟨target, htarget, hval⟩ := retarget_eq hlast (retargetTimespan_lt header.time last.time)
  obtain ⟨c, hc, _⟩ := limitedBits_eq target
  refine ⟨target, c, ?_, hc, hval⟩
  rw [btcRetargetBits, if_neg h.1, h.2]
  change (retarget last.bits (retargetTimespan header.time last.time) >>= _) = _
  rw [htarget]
  change (limitedBits target >>= _) = _
  rw [hc]
  rfl

theorem btcRetargetBits_ne_none (hlast : targetOf last.bits ≤ maxTarget) :
    btcRetargetBits crypto coin last getBlockHeader ≠ none := by
  by_cases hzero : retargetRef last.height = 0
  · rw [btcRetargetBits, if_pos hzero]
    simp
  · cases hget : getBlockHeader (retargetRef last.height) with
    | error e =>
      rw [btcRetargetBits, if_neg hzero, hget]
      simp
    | ok header? =>
      cases header? with
      | none =>
        rw [btcRetargetBits, if_neg hzero, hget]
        simp
      | some header =>
        obtain ⟨_, _, hrun, _⟩ := btcRetargetBits_eq crypto coin hlast ⟨hzero, hget⟩
        rw [hrun]
        simp

theorem btcRetargetBits_mono (hlast : targetOf last.bits ≤ maxTarget)
    (hlast' : targetOf last'.bits ≤ maxTarget) (h : RetargetsFrom last getBlockHeader header)
    (h' : RetargetsFrom last' getBlockHeader' header')
    (htarget : targetOf last.bits ≤ targetOf last'.bits)
    (htimespan : (last.time.toNat : ℤ) - header.time.toNat ≤ last'.time.toNat - header'.time.toNat)
    (hrun : btcRetargetBits crypto coin last getBlockHeader = some (.ok bits))
    (hrun' : btcRetargetBits crypto coin last' getBlockHeader' = some (.ok bits')) :
    targetOf bits ≤ targetOf bits' := by
  obtain ⟨target, c, hok, hc, hval⟩ := btcRetargetBits_eq crypto coin hlast h
  obtain ⟨target', c', hok', hc', hval'⟩ := btcRetargetBits_eq crypto coin hlast' h'
  have hbits : bits = .compact c.bits := by simpa using hrun.symm.trans hok
  have hbits' : bits' = .compact c'.bits := by simpa using hrun'.symm.trans hok'
  rw [hbits, hbits']
  apply limitedBits_mono _ hc hc'
  rw [hval, hval']
  apply Nat.div_le_div_right
  exact Nat.mul_le_mul htarget (retargetTimespan_mono htimespan)

/-- Compact forms and targets are converted without surprises, and the arithmetic of a
retarget neither overflows nor turns around. -/
theorem difficulty_arithmetic :
    (∀ c target, Compact.toU256 c = .ok target →
      ∃ c', Compact.fromU256 target = some c' ∧ c'.toU256 = .ok target) ∧
    (∀ val, ∃ c target, Compact.fromU256 val = some c ∧ c.toU256 = .ok target ∧
      IsGreatest {u : U256 | (∃ c', Compact.toU256 c' = .ok u) ∧ u ≤ val} target) ∧
    (∀ (crypto : Bitcrypto) (coin : String) (last : SPVBlockHeader)
      (getBlockHeader : ℕ → Except BlockHeaderStorageError (Option BlockHeader)),
      targetOf last.bits ≤ maxTarget →
      btcRetargetBits crypto coin last getBlockHeader ≠ none ∧
      ∀ (header : BlockHeader) (bits : BlockHeaderBits), RetargetsFrom last getBlockHeader header →
        btcRetargetBits crypto coin last getBlockHeader = some (.ok bits) →
        ∀ (last' : SPVBlockHeader)
          (getBlockHeader' : ℕ → Except BlockHeaderStorageError (Option BlockHeader))
          (header' : BlockHeader) (bits' : BlockHeaderBits),
          targetOf last'.bits ≤ maxTarget → RetargetsFrom last' getBlockHeader' header' →
          btcRetargetBits crypto coin last' getBlockHeader' = some (.ok bits') →
          targetOf last.bits ≤ targetOf last'.bits →
          (last.time.toNat : ℤ) - header.time.toNat ≤ last'.time.toNat - header'.time.toNat →
          targetOf bits ≤ targetOf bits') := by
  constructor
  · intro c target h
    exact Compact.fromU256_of_toU256 h
  · constructor
    · intro val
      obtain ⟨c, target, hc, htarget, hgreatest⟩ := Compact.fromU256_spec val
      refine ⟨c, target, hc, htarget, ⟨⟨c, htarget⟩, hgreatest.1.2⟩, ?_⟩
      intro u hu
      obtain ⟨⟨c', hc'⟩, hle⟩ := hu
      exact hgreatest.2 ⟨Compact.scaled_of_toU256 hc', hle⟩
    · intro crypto coin last getBlockHeader hlast
      constructor
      · exact btcRetargetBits_ne_none hlast
      · intro header bits h hrun last' getBlockHeader' header' bits' hlast' h' hrun' htarget htime
        exact btcRetargetBits_mono hlast hlast' h h' htarget htime hrun hrun'

theorem difficulty_arithmetic_sample :
    (∃ c', Compact.fromU256 (Compact.result ⟨0x05009234⟩) = some c' ∧
      c'.toU256 = .ok (Compact.result ⟨0x05009234⟩)) ∧
    btcRetargetBits ⟨fun _ => H256.default, fun _ => ⟨List.replicate 20 0, rfl⟩⟩ "BTC"
      ⟨4031, H256.default, 1231006505, .compact 0x1d00ffff⟩ (fun _ => .ok none) ≠ none := by
  constructor
  · exact difficulty_arithmetic.1 ⟨0x05009234⟩ _ (by decide)
  · exact (difficulty_arithmetic.2.2 _ _ _ _ (by decide)).1

end DeXFG.Spv
