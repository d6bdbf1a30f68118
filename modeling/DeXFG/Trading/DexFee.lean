import DeXFG.SwapV2.Types

/-!
# The dex fee

The fee of a taker's volume, with a part of it to burn, and the largest volume whose fee still
fits an available amount.
-/
namespace DeXFG.Trading
open Ordermatch (MmNumber)
open SwapV2 (Bytes DexFee DexFeeBurnDestination)

/-- What the dex fee asks of the taker coin. -/
structure FeeCoin where
  ticker : String
  minTxAmount : MmNumber
  isPrivacy : Bool
  burnPubkey : Bytes
  shouldBurnDirectly : Bool
  shouldBurnDexFee : Bool

/-- `DexFee::DEX_FEE_SHARE`. -/
def dexFeeShare : MmNumber := 3 / 4

/-- GLEEC trades get a 50% discount. -/
def dexFeeRate (base rel : String) : MmNumber :=
  if base ∈ ["GLEEC"] ∨ rel ∈ ["GLEEC"] then 1 / 100 else 2 / 100

/-- Drops the dex fee by 25%. The cut is decreased if the fee is less than the minimum transaction
amount. -/
def calcDexFeeForOpReturn (dexFee minTxAmount : MmNumber) : DexFee :=
  if dexFee ≤ minTxAmount then .standard minTxAmount
  else
    let newFee := dexFee * dexFeeShare
    if minTxAmount ≤ newFee then .withBurn newFee (dexFee - newFee) .kmdOpReturn
    else .withBurn minTxAmount (dexFee - minTxAmount) .kmdOpReturn

/-- Drops the dex fee by 25%. There is no cut if either part is less than the minimum transaction
amount. -/
def calcDexFeeForBurnAccount (dexFee minTxAmount : MmNumber) : DexFee :=
  if dexFee ≤ minTxAmount then .standard minTxAmount
  else
    let newFee := dexFee * dexFeeShare
    let burnAmount := dexFee - newFee
    if minTxAmount ≤ newFee ∧ minTxAmount ≤ burnAmount then
      .withBurn newFee burnAmount .preBurnAccount
    else
      let burnAmount := dexFee - minTxAmount
      if newFee < minTxAmount ∧ minTxAmount ≤ burnAmount then
        .withBurn minTxAmount burnAmount .preBurnAccount
      else .standard dexFee

/-- The dex fee with a threshold based on min tx amount of the taker coin. -/
def newFromTakerCoin (takerCoin : FeeCoin) (makerTicker : String) (tradeAmount : MmNumber) :
    DexFee :=
  let rate := dexFeeRate takerCoin.ticker makerTicker
  let dexFee := tradeAmount * rate
  let minTxAmount := takerCoin.minTxAmount
  if takerCoin.shouldBurnDirectly then calcDexFeeForOpReturn dexFee minTxAmount
  else if takerCoin.shouldBurnDexFee then calcDexFeeForBurnAccount dexFee minTxAmount
  else if dexFee ≤ minTxAmount then .standard minTxAmount
  else .standard dexFee

/-- The dex fee with known taker key. -/
def newWithTakerPubkey (takerCoin : FeeCoin) (makerTicker : String) (tradeAmount : MmNumber)
    (takerPubkey : Bytes) : DexFee :=
  -- no dex fee if the taker is the burn pubkey
  if takerCoin.isPrivacy = false ∧ takerCoin.burnPubkey = takerPubkey then .noFee
  else newFromTakerCoin takerCoin makerTicker tradeAmount

structure MaxTakerVolumeLessThanDust where
  maxVol : MmNumber
  minTxAmount : MmNumber
  deriving DecidableEq

def maxTakerVolFromAvailable (available : MmNumber) (base rel : String) (minTxAmount : MmNumber) :
    Except MaxTakerVolumeLessThanDust MmNumber :=
  let dexFeeRate := dexFeeRate base rel
  let thresholdCoef := (1 + dexFeeRate) / dexFeeRate
  let maxVol :=
    if minTxAmount * thresholdCoef < available then available / (1 + dexFeeRate)
    else available - minTxAmount
  if maxVol ≤ minTxAmount then .error { maxVol, minTxAmount } else .ok maxVol

/-! ## The total of a fee -/

theorem dexFeeRate_pos (base rel : String) : 0 < dexFeeRate base rel := by
  unfold dexFeeRate
  split <;> norm_num

theorem dexFeeRate_le_one (base rel : String) : dexFeeRate base rel ≤ 1 := by
  unfold dexFeeRate
  split <;> norm_num

theorem totalSpend_opReturn (dexFee minTxAmount : MmNumber) :
    (calcDexFeeForOpReturn dexFee minTxAmount).totalSpendAmount = max minTxAmount dexFee := by
  unfold calcDexFeeForOpReturn
  split
  next h => rw [DexFee.totalSpendAmount, max_eq_left h]
  next h =>
    rw [max_eq_right (not_le.mp h).le]
    dsimp only
    split <;> simp [DexFee.totalSpendAmount]

theorem totalSpend_burnAccount (dexFee minTxAmount : MmNumber) :
    (calcDexFeeForBurnAccount dexFee minTxAmount).totalSpendAmount = max minTxAmount dexFee := by
  unfold calcDexFeeForBurnAccount
  split
  next h => rw [DexFee.totalSpendAmount, max_eq_left h]
  next h =>
    rw [max_eq_right (not_le.mp h).le]
    dsimp only
    split_ifs <;> simp [DexFee.totalSpendAmount]

/-- Whichever part is burned, the fee is the volume's share or the least amount. -/
theorem totalSpend_newFromTakerCoin (coin : FeeCoin) (makerTicker : String) (volume : MmNumber) :
    (newFromTakerCoin coin makerTicker volume).totalSpendAmount =
      max coin.minTxAmount (volume * dexFeeRate coin.ticker makerTicker) := by
  unfold newFromTakerCoin
  dsimp only
  split_ifs with hdirect haccount hle
  · exact totalSpend_opReturn _ _
  · exact totalSpend_burnAccount _ _
  · rw [DexFee.totalSpendAmount, max_eq_left hle]
  · rw [DexFee.totalSpendAmount, max_eq_right (not_le.mp hle).le]

theorem totalSpend_mono (coin : FeeCoin) (makerTicker : String) {v w : MmNumber} (h : v ≤ w) :
    (newFromTakerCoin coin makerTicker v).totalSpendAmount ≤
      (newFromTakerCoin coin makerTicker w).totalSpendAmount := by
  rw [totalSpend_newFromTakerCoin, totalSpend_newFromTakerCoin]
  exact max_le_max_left _ (mul_le_mul_of_nonneg_right h (dexFeeRate_pos _ _).le)

/-- What a volume takes of the balance, with its fee. -/
def spendOf (coin : FeeCoin) (makerTicker : String) (volume : MmNumber) : MmNumber :=
  volume + (newFromTakerCoin coin makerTicker volume).totalSpendAmount

theorem spendOf_strictMono (coin : FeeCoin) (makerTicker : String) :
    StrictMono (spendOf coin makerTicker) := fun _ _ h =>
  add_lt_add_of_lt_of_le h (totalSpend_mono coin makerTicker h.le)

/-! ## The largest volume -/

variable {coin : FeeCoin} {rel : String} {available v : MmNumber}

theorem spendOf_above {rate : MmNumber} (hrate : dexFeeRate coin.ticker rel = rate)
    (h : coin.minTxAmount * ((1 + rate) / rate) < available) :
    spendOf coin rel (available / (1 + rate)) = available := by
  have hpos : 0 < rate := hrate ▸ dexFeeRate_pos _ _
  have hshare : coin.minTxAmount ≤ available / (1 + rate) * rate := by
    rw [mul_div_assoc', div_lt_iff₀ hpos] at h
    rw [div_mul_eq_mul_div, le_div_iff₀ (by linarith)]
    exact h.le
  rw [spendOf, totalSpend_newFromTakerCoin, hrate, max_eq_right hshare]
  field_simp

theorem spendOf_below {rate : MmNumber} (hrate : dexFeeRate coin.ticker rel = rate)
    (h : available ≤ coin.minTxAmount * ((1 + rate) / rate)) :
    spendOf coin rel (available - coin.minTxAmount) = available := by
  have hpos : 0 < rate := hrate ▸ dexFeeRate_pos _ _
  have hshare : (available - coin.minTxAmount) * rate ≤ coin.minTxAmount := by
    rw [mul_div_assoc', le_div_iff₀ hpos] at h
    linarith
  rw [spendOf, totalSpend_newFromTakerCoin, hrate, max_eq_left hshare]
  exact sub_add_cancel _ _

theorem maxTakerVol_eq_ok
    (h : maxTakerVolFromAvailable available coin.ticker rel coin.minTxAmount = .ok v) :
    coin.minTxAmount < v ∧ spendOf coin rel v = available := by
  unfold maxTakerVolFromAvailable at h
  dsimp only at h
  split at h
  next hcoef =>
    split at h
    · cases h
    next hlt =>
      cases h
      exact ⟨not_le.mp hlt, spendOf_above rfl hcoef⟩
  next hcoef =>
    split at h
    · cases h
    next hlt =>
      cases h
      exact ⟨not_le.mp hlt, spendOf_below rfl (not_lt.mp hcoef)⟩

theorem maxTakerVol_eq_error {e : MaxTakerVolumeLessThanDust}
    (h : maxTakerVolFromAvailable available coin.ticker rel coin.minTxAmount = .error e)
    {w : MmNumber} (hw : coin.minTxAmount < w) : available < spendOf coin rel w := by
  unfold maxTakerVolFromAvailable at h
  dsimp only at h
  split at h
  next hcoef =>
    split at h
    next hle =>
      -- the volume that fits is at most the least amount, which `w` exceeds
      rw [← spendOf_above rfl hcoef]
      exact spendOf_strictMono coin rel (hle.trans_lt hw)
    · cases h
  next hcoef =>
    split at h
    next hle =>
      rw [← spendOf_below rfl (not_lt.mp hcoef)]
      exact spendOf_strictMono coin rel (hle.trans_lt hw)
    · cases h

/-- The largest volume is the one whose fee leaves nothing of the available amount, and where
there is none, no volume above the least amount fits. -/
theorem max_taker_vol_exact (coin : FeeCoin) (rel : String) (available : MmNumber) :
    match maxTakerVolFromAvailable available coin.ticker rel coin.minTxAmount with
    | .ok v =>
      coin.minTxAmount < v ∧
        v + (newFromTakerCoin coin rel v).totalSpendAmount = available ∧
        ∀ w, v < w → available < w + (newFromTakerCoin coin rel w).totalSpendAmount
    | .error _ =>
      ∀ w, coin.minTxAmount < w →
        available < w + (newFromTakerCoin coin rel w).totalSpendAmount := by
  split
  next v h =>
    obtain ⟨hlt, hspend⟩ := maxTakerVol_eq_ok h
    refine ⟨hlt, hspend, fun w hw => ?_⟩
    calc available = spendOf coin rel v := hspend.symm
      _ < spendOf coin rel w := spendOf_strictMono coin rel hw
  next e h =>
    intro w hw
    exact maxTakerVol_eq_error h hw

end DeXFG.Trading
