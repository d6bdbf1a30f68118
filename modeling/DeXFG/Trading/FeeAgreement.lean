import DeXFG.Library.SignificantDigits
import DeXFG.LegacySwap.Recoverability
import DeXFG.SwapV2.MakerStates
import DeXFG.SwapV2.TakerStates
import DeXFG.Trading.DexFee

/-!
# The dex fee of the two sides

The fee that the maker validates against the one that the taker pays. The maker of a legacy swap
computes it from the volume in decimal, the taker from the exact one.
-/
namespace DeXFG.Trading
open Library (RoundsHalfUp roundsUpFrom roundHalfUp roundHalfUp_roundsHalfUp)
open LegacySwap (MakerSwap TakerSwap SwapEnv)
open Ordermatch (MmNumber)
open SwapV2 (Bytes DexFee DexFeeBurnDestination External)
open SwapV2.MakerSwap (MakerSwapStateMachine)
open SwapV2.TakerSwap (TakerSwapStateMachine)

/-! ## Satoshis -/

/-- `10u64.pow(decimals)`, which wraps. -/
def satsPerCoin (decimals : ℕ) : ℕ := 10 ^ decimals % 2 ^ 64

/-- The result is not an error when the satoshis are an unsigned number of 64 bits. -/
def satFromBigDecimal (amount : ℚ) (decimals : ℕ) : Option ℕ :=
  let sat := amount * satsPerCoin decimals
  if 0 ≤ sat ∧ ⌊sat⌋ < 2 ^ 64 then some ⌊sat⌋.toNat else none

section

variable (toDecimal : MmNumber → ℚ) (fee : DexFee) (decimals : ℕ)

def feeAmountAsU64 : Option ℕ := satFromBigDecimal (toDecimal fee.feeAmount) decimals

/-- No burn amount is no error. -/
def burnAmountAsU64 : Option (Option ℕ) :=
  match fee.burnAmount with
  | some burnAmount => (satFromBigDecimal (toDecimal burnAmount) decimals).map some
  | none => some none

end

def SameVariant : DexFee → DexFee → Prop
  | .noFee, .noFee => True
  | .standard _, .standard _ => True
  | .withBurn _ _ destination, .withBurn _ _ destination' => destination = destination'
  | _, _ => False

/-- The same variant with the same satoshis. -/
def SameFee (toDecimal : MmNumber → ℚ) (decimals : ℕ) (fee fee' : DexFee) : Prop :=
  SameVariant fee fee' ∧
    feeAmountAsU64 toDecimal fee decimals = feeAmountAsU64 toDecimal fee' decimals ∧
    burnAmountAsU64 toDecimal fee decimals = burnAmountAsU64 toDecimal fee' decimals

theorem SameFee.refl (toDecimal : MmNumber → ℚ) (decimals : ℕ) (fee : DexFee) :
    SameFee toDecimal decimals fee fee := by
  constructor
  · cases fee <;> simp [SameVariant]
  · exact ⟨rfl, rfl⟩

/-- The satoshis of two amounts are the same when both reach the same numbers of them. -/
theorem satFromBigDecimal_eq_iff {a b : ℚ} {decimals : ℕ}
    (hsign : 0 ≤ a * satsPerCoin decimals ↔ 0 ≤ b * satsPerCoin decimals) :
    satFromBigDecimal a decimals = satFromBigDecimal b decimals ↔
      ∀ m : ℕ, 1 ≤ m → m ≤ 2 ^ 64 →
        (m ≤ a * satsPerCoin decimals ↔ m ≤ b * satsPerCoin decimals) := by
  unfold satFromBigDecimal
  dsimp only
  generalize a * (satsPerCoin decimals : ℚ) = x at *
  generalize b * (satsPerCoin decimals : ℚ) = y at *
  have hreach (m : ℕ) (z : ℚ) : (m : ℚ) ≤ z ↔ (m : ℤ) ≤ ⌊z⌋ := by
    rw [Int.le_floor]
    norm_cast
  simp only [hreach]
  have hfloor (z : ℚ) : 0 ≤ z ↔ 0 ≤ ⌊z⌋ := Int.floor_nonneg.symm
  simp only [hfloor] at hsign ⊢
  generalize ⌊x⌋ = i at *
  generalize ⌊y⌋ = j at *
  constructor
  · intro h m hm hm'
    split_ifs at h with hi hj hj <;> simp only [Option.some.injEq] at h <;> omega
  · intro h
    rcases lt_or_ge i 0 with hi | hi
    · rw [if_neg (by omega), if_neg (by omega)]
    have hj := hsign.mp hi
    rcases lt_or_ge i (2 ^ 64) with hi' | hi'
    · have hle : j ≤ i := by
        by_contra hlt
        have := (h (i + 1).toNat (by omega) (by omega)).mpr (by omega)
        omega
      have hge : i ≤ j := by
        rcases hi.eq_or_lt with rfl | hpos
        · exact hj
        have := (h i.toNat (by omega) (by omega)).mp (by omega)
        omega
      rw [le_antisymm hle hge]
    · have := (h (2 ^ 64) (by norm_num) le_rfl).mp (by exact_mod_cast hi')
      rw [if_neg (by omega), if_neg (by push_cast at this; omega)]

/-! ## A volume and its decimal -/

/-- The taker coin of a swap. No coin of the program burns a part of the fee. -/
structure SwapFeeCoin extends FeeCoin where
  decimals : ℕ
  burnsDirectly : shouldBurnDirectly = false
  burnsDexFee : shouldBurnDexFee = false

/-- The taker is the burn account, which pays no fee. -/
def SwapFeeCoin.Waived (coin : SwapFeeCoin) (takerPubkey : Bytes) : Prop :=
  coin.isPrivacy = false ∧ coin.burnPubkey = takerPubkey

/-- The digits that a division of decimals keeps. -/
def decimalDigits : ℕ := 100

/-- For some number of satoshis above the least amount, the volume is on one side of where its own
fee rounds to them and its decimal on the other side of where the decimal's fee does. -/
def RoundsApart (coin : SwapFeeCoin) (makerTicker : String) (volume : MmNumber) : Prop :=
  0 < satsPerCoin coin.decimals ∧
    ∃ m : ℕ, 1 ≤ m ∧ m ≤ 2 ^ 64 ∧
      let fee := roundsUpFrom decimalDigits (m / satsPerCoin coin.decimals)
      let rate := dexFeeRate coin.ticker makerTicker
      coin.minTxAmount < fee ∧
        ¬(fee / rate ≤ volume ↔ roundsUpFrom decimalDigits (fee / rate) ≤ volume)

section

variable {coin : SwapFeeCoin} {makerTicker : String} {toDecimal : MmNumber → ℚ}

theorem newFromTakerCoin_eq (coin : SwapFeeCoin) (makerTicker : String) (volume : MmNumber) :
    newFromTakerCoin coin.toFeeCoin makerTicker volume =
      .standard (max coin.minTxAmount (volume * dexFeeRate coin.ticker makerTicker)) := by
  unfold newFromTakerCoin
  rw [coin.burnsDirectly, coin.burnsDexFee]
  dsimp only
  rw [if_neg (by decide), if_neg (by decide)]
  split
  next h => rw [max_eq_left h]
  next h => rw [max_eq_right (not_le.mp h).le]

theorem nonneg_iff (h : RoundsHalfUp decimalDigits toDecimal) (x : ℚ) :
    0 ≤ toDecimal x ↔ 0 ≤ x := by
  rcases lt_trichotomy x 0 with hx | rfl | hx
  · have hneg := h.neg x
    have hpos := h.pos (by norm_num [decimalDigits]) (neg_pos.mpr hx)
    constructor <;> intro hle <;> linarith
  · rw [h.zero]
  · have hpos := h.pos (by norm_num [decimalDigits]) hx
    exact ⟨fun _ => hx.le, fun _ => hpos.le⟩

/-- The satoshis of the fees of a volume and of its decimal. -/
theorem sat_eq_iff (h : RoundsHalfUp decimalDigits toDecimal) (volume : MmNumber) :
    satFromBigDecimal (toDecimal (max coin.minTxAmount
        (toDecimal volume * dexFeeRate coin.ticker makerTicker))) coin.decimals =
      satFromBigDecimal (toDecimal (max coin.minTxAmount
        (volume * dexFeeRate coin.ticker makerTicker))) coin.decimals ↔
      ¬RoundsApart coin makerTicker volume := by
  have hrate := dexFeeRate_pos coin.ticker makerTicker
  have hrate_low : (1 : ℚ) / 100 ≤ dexFeeRate coin.ticker makerTicker := by
    unfold dexFeeRate
    split <;> norm_num
  unfold RoundsApart
  dsimp only
  generalize dexFeeRate coin.ticker makerTicker = rate at *
  have hdigits : 0 < decimalDigits := by norm_num [decimalDigits]
  rw [satFromBigDecimal_eq_iff]
  · rcases (satsPerCoin coin.decimals).eq_zero_or_pos with hunit | hunit
    · simp [hunit]
    have hcast : (0 : ℚ) < satsPerCoin coin.decimals := by exact_mod_cast hunit
    have hunit_low : (1 : ℚ) ≤ satsPerCoin coin.decimals := by exact_mod_cast hunit
    simp only [hunit, true_and, not_exists, not_and]
    -- the fees reach `m` satoshis from `fee` on, and the decimal of the volume its share from
    -- `roundsUpFrom (fee / rate)` on
    have hreach (m : ℕ) (hm : 1 ≤ m) (hm' : m ≤ 2 ^ 64) :
        let fee := roundsUpFrom decimalDigits ((m : ℚ) / satsPerCoin coin.decimals)
        (((m : ℚ) ≤ toDecimal (max coin.minTxAmount (toDecimal volume * rate)) *
            satsPerCoin coin.decimals ↔
          (m : ℚ) ≤ toDecimal (max coin.minTxAmount (volume * rate)) * satsPerCoin coin.decimals) ↔
        (coin.minTxAmount < fee →
          (fee / rate ≤ volume ↔ roundsUpFrom decimalDigits (fee / rate) ≤ volume))) := by
      intro fee
      have hz : 0 < (m : ℚ) / satsPerCoin coin.decimals := div_pos (by exact_mod_cast hm) hcast
      have hz_high : (m : ℚ) / satsPerCoin coin.decimals ≤ 2 ^ 64 := by
        calc (m : ℚ) / satsPerCoin coin.decimals ≤ m := div_le_self (Nat.cast_nonneg m) hunit_low
          _ ≤ 2 ^ 64 := by exact_mod_cast hm'
      have hfee : 0 < fee := Library.roundsUpFrom_pos hz
      have hfee_high : fee < 2 * 2 ^ 64 :=
        (Library.roundsUpFrom_lt hdigits hz).trans_le (by linarith)
      have hshare_high : fee / rate ≤ 10 ^ decimalDigits := by
        rw [div_le_iff₀ hrate]
        calc fee ≤ 2 * 2 ^ 64 := hfee_high.le
          _ ≤ 10 ^ decimalDigits * (1 / 100) := by norm_num [decimalDigits]
          _ ≤ 10 ^ decimalDigits * rate := mul_le_mul_of_nonneg_left hrate_low (by positivity)
      have hsat (x : ℚ) : (m : ℚ) ≤ toDecimal x * satsPerCoin coin.decimals ↔ fee ≤ x := by
        rw [← div_le_iff₀ hcast]
        apply h.le_round_iff_roundsUpFrom hdigits hz
        exact hz_high.trans (by norm_num [decimalDigits])
      have hmaker : fee ≤ toDecimal volume * rate ↔
          roundsUpFrom decimalDigits (fee / rate) ≤ volume := by
        rw [← div_le_iff₀ hrate]
        exact h.le_round_iff_roundsUpFrom hdigits (div_pos hfee hrate) hshare_high
      rw [hsat, hsat, le_max_iff, le_max_iff, hmaker, ← div_le_iff₀ hrate, ← not_le]
      tauto
    constructor
    · intro hagree m hm hm' hmin
      have hiff := (hreach m hm hm').mp (hagree m hm hm') hmin
      exact not_not_intro hiff
    · intro hnot m hm hm'
      apply (hreach m hm hm').mpr
      intro hmin
      exact not_not.mp (hnot m hm hm' hmin)
  · -- both fees have the sign of the larger of the least amount and the volume
    have hsign (x : ℚ) : 0 ≤ max coin.minTxAmount (x * rate) ↔ 0 ≤ coin.minTxAmount ∨ 0 ≤ x := by
      rw [le_max_iff]
      apply or_congr_right
      exact ⟨fun hx => nonneg_of_mul_nonneg_left hx hrate, fun hx => mul_nonneg hx hrate.le⟩
    rcases (satsPerCoin coin.decimals).eq_zero_or_pos with hunit | hunit
    · simp [hunit]
    have hcast : (0 : ℚ) < satsPerCoin coin.decimals := by exact_mod_cast hunit
    rw [mul_nonneg_iff_of_pos_right hcast, mul_nonneg_iff_of_pos_right hcast, nonneg_iff h,
      nonneg_iff h, hsign, hsign, nonneg_iff h]

end

/-! ## The two protocols -/

/-- A coin of the V2 protocol asks the fees of its data, and its key does not depend on the swap. -/
structure IsV2Coin (coin : SwapFeeCoin) (swapCoin : SwapV2.SwapCoin) : Prop where
  newFromTakerCoin : ∀ makerTicker volume, swapCoin.newFromTakerCoin makerTicker volume =
    newFromTakerCoin coin.toFeeCoin makerTicker volume
  newWithTakerPubkey : ∀ makerTicker volume takerPubkey,
    swapCoin.newWithTakerPubkey makerTicker volume takerPubkey =
      newWithTakerPubkey coin.toFeeCoin makerTicker volume takerPubkey
  deriveHtlcPubkeyV2 : ∀ swapUniqueData,
    swapCoin.deriveHtlcPubkeyV2 swapUniqueData = swapCoin.deriveHtlcPubkeyV2 []
  deriveHtlcPubkeyV2Bytes : ∀ swapUniqueData, swapCoin.deriveHtlcPubkeyV2Bytes swapUniqueData =
    swapCoin.pubkeyToBytes (swapCoin.deriveHtlcPubkeyV2 swapUniqueData)
  takerPubkeyBytes : swapCoin.takerPubkeyBytes =
    some (swapCoin.pubkeyToBytes (swapCoin.deriveHtlcPubkeyV2 []))
  parsePubkey : ∀ {bytes key}, swapCoin.parsePubkey bytes = .ok key →
    swapCoin.pubkeyToBytes key = bytes

/-- The machines of a V2 swap on the two nodes, once the maker has the taker's key. -/
structure V2Trade where
  coin : SwapFeeCoin
  makerNode : External
  takerNode : External
  maker : MakerSwapStateMachine
  taker : TakerSwapStateMachine
  makerNodeCoin : IsV2Coin coin makerNode.takerCoin
  takerNodeCoin : IsV2Coin coin takerNode.takerCoin
  makerTicker : makerNode.makerCoin.ticker = takerNode.makerCoin.ticker
  volume : maker.takerVolume = taker.takerVolume
  takerCoinHtlcPubFromTaker : makerNode.takerCoin.Pubkey
  received : makerNode.takerCoin.parsePubkey
    (takerNode.takerCoin.deriveHtlcPubkeyV2Bytes taker.uniqueData) = .ok takerCoinHtlcPubFromTaker

namespace V2Trade

def makerFee (t : V2Trade) : DexFee :=
  t.maker.dexFeeUpdated t.makerNode
    (t.makerNode.takerCoin.pubkeyToBytes t.takerCoinHtlcPubFromTaker)

def takerFee (t : V2Trade) : DexFee := t.taker.dexFee t.takerNode

theorem makerFee_eq (t : V2Trade) : t.makerFee = t.takerFee := by
  have hkey : t.makerNode.takerCoin.pubkeyToBytes t.takerCoinHtlcPubFromTaker =
      t.takerNode.takerCoin.pubkeyToBytes (t.takerNode.takerCoin.deriveHtlcPubkeyV2 []) := by
    rw [t.makerNodeCoin.parsePubkey t.received, t.takerNodeCoin.deriveHtlcPubkeyV2Bytes,
      t.takerNodeCoin.deriveHtlcPubkeyV2]
  rw [makerFee, takerFee, MakerSwapStateMachine.dexFeeUpdated, TakerSwapStateMachine.dexFee,
    t.takerNodeCoin.takerPubkeyBytes, hkey, t.makerTicker, t.volume]
  dsimp only
  rw [t.makerNodeCoin.newWithTakerPubkey, t.takerNodeCoin.newWithTakerPubkey]

end V2Trade

/-- The legacy swap on the two nodes, when the maker waits for the fee that the taker sends. The
volume of the taker's order is exact, and the maker's is its decimal. -/
structure LegacyTrade where
  coin : SwapFeeCoin
  makerNode : SwapEnv
  takerNode : SwapEnv
  maker : MakerSwap
  taker : TakerSwap
  makerNodeFee : ∀ makerTicker volume takerPubkey,
    makerNode.takerCoin.newWithTakerPubkey makerTicker volume takerPubkey =
      newWithTakerPubkey coin.toFeeCoin makerTicker volume takerPubkey
  takerNodeFee : ∀ makerTicker volume takerPubkey,
    takerNode.takerCoin.newWithTakerPubkey makerTicker volume takerPubkey =
      newWithTakerPubkey coin.toFeeCoin makerTicker volume takerPubkey
  toDecimal : RoundsHalfUp decimalDigits makerNode.toDecimal
  makerCoin : maker.mutable.data.makerCoin = taker.mutable.data.makerCoin
  volume : maker.takerAmount = makerNode.toDecimal taker.takerAmount
  myPersistentPub : taker.mutable.data.myPersistentPub = taker.myPersistentPub
  makerCoinContract : Bytes
  takerCoinContract : Bytes
  negotiated : maker.mutable.otherTakerCoinHtlcPub =
    (LegacySwap.TakerSwap.getMyNegotiationData taker taker.mutable.secretHash makerCoinContract
      takerCoinContract).takerCoinHtlcPub

namespace LegacyTrade

/-- What `MakerSwap::wait_taker_fee` validates. -/
def makerFee (t : LegacyTrade) : DexFee :=
  t.makerNode.takerCoin.newWithTakerPubkey t.maker.mutable.data.makerCoin t.maker.takerAmount
    t.maker.mutable.otherTakerCoinHtlcPub

/-- What `TakerSwap::send_taker_fee` pays. -/
def takerFee (t : LegacyTrade) : DexFee :=
  t.takerNode.takerCoin.newWithTakerPubkey t.taker.mutable.data.makerCoin t.taker.takerAmount
    t.taker.myTakerCoinHtlcPub

/-- The maker has the taker's key from whichever message it was sent with. -/
theorem otherTakerCoinHtlcPub_eq (t : LegacyTrade) :
    t.maker.mutable.otherTakerCoinHtlcPub = t.taker.myTakerCoinHtlcPub := by
  rw [t.negotiated, LegacySwap.TakerSwap.getMyNegotiationData]
  split
  next h =>
    rw [LegacySwap.NegotiationDataMsg.takerCoinHtlcPub, TakerSwap.myTakerCoinHtlcPub, ← h.1, h.2,
      Option.getD_some, t.myPersistentPub]
  · rfl

theorem sameFee_iff (t : LegacyTrade) :
    SameFee t.makerNode.toDecimal t.coin.decimals t.makerFee t.takerFee ↔
      t.coin.Waived t.taker.myTakerCoinHtlcPub ∨
        ¬RoundsApart t.coin t.taker.mutable.data.makerCoin t.taker.takerAmount := by
  rw [makerFee, takerFee, t.makerNodeFee, t.takerNodeFee, t.otherTakerCoinHtlcPub_eq, t.makerCoin,
    t.volume]
  unfold newWithTakerPubkey SwapFeeCoin.Waived
  by_cases hwaived : t.coin.isPrivacy = false ∧ t.coin.burnPubkey = t.taker.myTakerCoinHtlcPub
  · rw [if_pos hwaived, if_pos hwaived]
    exact iff_of_true (SameFee.refl _ _ _) (Or.inl hwaived)
  · rw [if_neg hwaived, if_neg hwaived, newFromTakerCoin_eq, newFromTakerCoin_eq,
      ← sat_eq_iff t.toDecimal]
    simp only [SameFee, SameVariant, feeAmountAsU64, burnAmountAsU64, DexFee.feeAmount,
      DexFee.burnAmount, hwaived, true_and, and_true, false_or]

end LegacyTrade

def sampleFeeCoin : SwapFeeCoin where
  ticker := "RICK"
  minTxAmount := 1 / 10 ^ 5
  isPrivacy := false
  burnPubkey := [2]
  shouldBurnDirectly := false
  shouldBurnDexFee := false
  decimals := 8
  burnsDirectly := rfl
  burnsDexFee := rfl

/-- A node of the legacy swap, whose keys do not depend on the swap. -/
def sampleNode : SwapEnv where
  makerCoin := LegacySwap.sampleCoin "MORTY" false
  takerCoin :=
    { LegacySwap.sampleCoin "RICK" false with
      newWithTakerPubkey := newWithTakerPubkey sampleFeeCoin.toFeeCoin }
  hashSecret secret := secret
  sha256 secret := secret
  toDecimal := roundHalfUp decimalDigits
  mm2InternalPub := [1]
  disableWatchersGlobally := false

/-- The order asks for half a unit of the last digit less than four coins. -/
def sampleVolume : MmNumber := 4 - 5 / 10 ^ 100

def sampleTaker : TakerSwap where
  makerAmount := 1
  takerAmount := sampleVolume
  myPersistentPub := [3]
  makerPubkey := [1]
  uuid := 0
  confSettings :=
    { makerCoinConfs := 1, makerCoinNota := false, takerCoinConfs := 1, takerCoinNota := false }
  paymentLocktime := 7800
  mutable := { data := { makerCoin := "MORTY", takerCoin := "RICK", myPersistentPub := [3] } }

def sampleTrade : LegacyTrade where
  coin := sampleFeeCoin
  makerNode := sampleNode
  takerNode := sampleNode
  maker :=
    { LegacySwap.sampleMaker with
      takerAmount := roundHalfUp decimalDigits sampleVolume
      mutable :=
        { data := { makerCoin := "MORTY", takerCoin := "RICK" }, otherTakerCoinHtlcPub := [3] } }
  taker := sampleTaker
  makerNodeFee _ _ _ := rfl
  takerNodeFee _ _ _ := rfl
  toDecimal := roundHalfUp_roundsHalfUp decimalDigits
  makerCoin := rfl
  volume := rfl
  myPersistentPub := rfl
  makerCoinContract := []
  takerCoinContract := []
  negotiated := rfl

def sampleV2Node : External :=
  { External.raw with
    takerCoin :=
      { SwapV2.rawCoin "RICK" with
        deriveHtlcPubkeyV2 := fun _ => [3]
        deriveHtlcPubkeyV2Bytes := fun _ => [3]
        takerPubkeyBytes := some [3]
        newFromTakerCoin := newFromTakerCoin sampleFeeCoin.toFeeCoin
        newWithTakerPubkey := newWithTakerPubkey sampleFeeCoin.toFeeCoin } }

def sampleV2Trade : V2Trade where
  coin := sampleFeeCoin
  makerNode := sampleV2Node
  takerNode := sampleV2Node
  maker := { SwapV2.MakerSwap.sampleMaker 0 with takerVolume := sampleVolume }
  taker := { SwapV2.TakerSwap.sampleTaker false with takerVolume := sampleVolume }
  makerNodeCoin :=
    { newFromTakerCoin := fun _ _ => rfl
      newWithTakerPubkey := fun _ _ _ => rfl
      deriveHtlcPubkeyV2 := fun _ => rfl
      deriveHtlcPubkeyV2Bytes := fun _ => rfl
      takerPubkeyBytes := rfl
      parsePubkey := fun h => (Except.ok.inj h).symm }
  takerNodeCoin :=
    { newFromTakerCoin := fun _ _ => rfl
      newWithTakerPubkey := fun _ _ _ => rfl
      deriveHtlcPubkeyV2 := fun _ => rfl
      deriveHtlcPubkeyV2Bytes := fun _ => rfl
      takerPubkeyBytes := rfl
      parsePubkey := fun h => (Except.ok.inj h).symm }
  makerTicker := rfl
  volume := rfl
  takerCoinHtlcPubFromTaker := ([3] : Bytes)
  received := rfl

theorem sampleVolume_rounds : roundHalfUp decimalDigits sampleVolume = 4 := by
  rw [(roundHalfUp_roundsHalfUp decimalDigits).rounded sampleVolume 0]
  all_goals norm_num [sampleVolume, decimalDigits]

/-- The fee of the exact volume needs a hundred digits. -/
theorem sampleFee_rounds :
    roundHalfUp decimalDigits (sampleVolume * (2 / 100)) = sampleVolume * (2 / 100) := by
  rw [(roundHalfUp_roundsHalfUp decimalDigits).rounded _ (-2)]
  all_goals norm_num [sampleVolume, decimalDigits]

theorem sampleRate : dexFeeRate "RICK" "MORTY" = 2 / 100 := by
  rw [dexFeeRate, if_neg (by simp)]

theorem sampleTrade_makerFee : sampleTrade.makerFee = .standard (4 * (2 / 100)) := by
  change newWithTakerPubkey sampleFeeCoin.toFeeCoin "MORTY"
    (roundHalfUp decimalDigits sampleVolume) [3] = _
  rw [sampleVolume_rounds, newWithTakerPubkey, if_neg (by simp [sampleFeeCoin]),
    newFromTakerCoin_eq, show sampleFeeCoin.ticker = "RICK" from rfl, sampleRate, max_eq_right]
  norm_num [sampleFeeCoin]

theorem sampleTrade_takerFee : sampleTrade.takerFee = .standard (sampleVolume * (2 / 100)) := by
  change newWithTakerPubkey sampleFeeCoin.toFeeCoin "MORTY" sampleVolume [3] = _
  rw [newWithTakerPubkey, if_neg (by simp [sampleFeeCoin]), newFromTakerCoin_eq,
    show sampleFeeCoin.ticker = "RICK" from rfl, sampleRate, max_eq_right]
  norm_num [sampleFeeCoin, sampleVolume]

end DeXFG.Trading
