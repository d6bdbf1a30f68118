import DeXFG.SwapV2.LockedAmounts
import DeXFG.Trading.DexFee

/-!
# The largest volume and the balance check

The volumes that a taker and a maker are offered as their largest, and the check of the balance
when such a volume is traded.
-/
namespace DeXFG.Trading
open Ordermatch (MmNumber Uuid)
open SwapV2 (DexFee LockedAmount LockedAmounts LockedAmountInfo TradeFee)

inductive TradePreimageValue where
  | exact (value : ℚ)
  | upperBound (value : ℚ)

inductive FeeApproxStage where
  | withoutApprox
  | startSwap
  | watcherPreimage
  | orderIssue
  | orderIssueMax
  | tradePreimage
  | tradePreimageMax
  deriving DecidableEq, Repr

inductive TradePreimageError where
  | notSufficientBalance (coin : String) (available required : ℚ)
  | amountIsTooSmall (amount threshold : ℚ)
  | transport (e : String)
  | internalError (e : String)
  | protocolNotSupported (e : String)
  | noSuchCoin (coin : String)
  deriving DecidableEq

inductive CheckBalanceError where
  | notSufficientBalance (coin : String) (available required : ℚ) (lockedBySwaps : Option ℚ)
  | notSufficientBaseCoinBalance (coin : String) (available required : ℚ)
      (lockedBySwaps : Option ℚ)
  | volumeTooLow (coin : String) (volume threshold : ℚ)
  | transport (e : String)
  | internalError (e : String)
  deriving DecidableEq

namespace CheckBalanceError

/-- The ticker tells whether the balance or the one of the base coin is not sufficient. -/
def fromTradePreimageError (ticker : String) : TradePreimageError → CheckBalanceError
  | .notSufficientBalance coin available required =>
    if coin = ticker then .notSufficientBalance coin available required none
    else .notSufficientBaseCoinBalance coin available required none
  | .amountIsTooSmall amount threshold => .volumeTooLow ticker amount threshold
  | .transport e => .transport e
  | .internalError e => .internalError e
  | .protocolNotSupported e => .internalError e
  | .noSuchCoin coin => .internalError s!"No such coin {coin}"

def fromMaxTakerVolError (toDecimal : MmNumber → ℚ) (coin : String) (lockedBySwaps : ℚ)
    (e : MaxTakerVolumeLessThanDust) : CheckBalanceError :=
  .notSufficientBalance coin (toDecimal e.maxVol) (toDecimal e.minTxAmount) (some lockedBySwaps)

end CheckBalanceError

/-! ## Locked amounts -/

def LockedAmount.Nonneg (locked : LockedAmount) : Prop :=
  0 ≤ locked.amount ∧ ∀ fee ∈ locked.tradeFee, 0 ≤ fee.amount

structure RunningSwap where
  uuid : Uuid
  lockedAmount : List LockedAmount

/-- What the running swaps and the V2 machines lock. -/
structure SwapsContext where
  runningSwaps : List RunningSwap
  lockedAmounts : LockedAmounts
  running_nonneg : ∀ swap ∈ runningSwaps, ∀ locked ∈ swap.lockedAmount, LockedAmount.Nonneg locked
  locked_nonneg : ∀ ticker, ∀ info ∈ lockedAmounts ticker, LockedAmount.Nonneg info.lockedAmount

/-- The fee that a locked amount adds to what is locked of a coin. -/
def lockedFee (coin : String) (locked : LockedAmount) : MmNumber :=
  match locked.tradeFee with
  | some tradeFee =>
    if tradeFee.coin = coin ∧ tradeFee.paidFromTradingVol = false then tradeFee.amount else 0
  | none => 0

/-- What a running swap locks of a coin. -/
def lockedOfSwap (coin : String) (swap : RunningSwap) : MmNumber :=
  (swap.lockedAmount.map fun locked =>
    (if locked.coin = coin then locked.amount else 0) + lockedFee coin locked).sum

def getLockedAmount (ctx : SwapsContext) (coin : String) : MmNumber :=
  (ctx.runningSwaps.map (lockedOfSwap coin)).sum +
    ((ctx.lockedAmounts coin).map fun info =>
      info.lockedAmount.amount + lockedFee coin info.lockedAmount).sum

def getLockedAmountByOtherSwaps (ctx : SwapsContext) (exceptUuid : Uuid) (coin : String) :
    MmNumber :=
  ((ctx.runningSwaps.filter fun swap => swap.uuid ≠ exceptUuid).map (lockedOfSwap coin)).sum

/-- What a check takes as locked: the swap itself may run already. -/
def lockedFor (ctx : SwapsContext) (swapUuid : Option Uuid) (coin : String) : MmNumber :=
  match swapUuid with
  | some uuid => getLockedAmountByOtherSwaps ctx uuid coin
  | none => getLockedAmount ctx coin

theorem lockedFee_nonneg {locked : LockedAmount} (h : LockedAmount.Nonneg locked) (coin : String) :
    0 ≤ lockedFee coin locked := by
  unfold lockedFee
  split
  next fee hfee =>
    split
    · exact h.2 fee hfee
    · exact le_rfl
  · exact le_rfl

theorem lockedOfSwap_nonneg {ctx : SwapsContext} {swap : RunningSwap}
    (h : swap ∈ ctx.runningSwaps) (coin : String) : 0 ≤ lockedOfSwap coin swap := by
  apply List.sum_nonneg
  intro x hx
  obtain ⟨locked, hlocked, rfl⟩ := List.mem_map.mp hx
  have hnonneg := ctx.running_nonneg swap h locked hlocked
  apply add_nonneg _ (lockedFee_nonneg hnonneg coin)
  split
  · exact hnonneg.1
  · exact le_rfl

theorem lockedFor_le (ctx : SwapsContext) (swapUuid : Option Uuid) (coin : String) :
    lockedFor ctx swapUuid coin ≤ getLockedAmount ctx coin := by
  cases swapUuid with
  | none => exact le_rfl
  | some uuid =>
    have hothers : getLockedAmountByOtherSwaps ctx uuid coin ≤
        (ctx.runningSwaps.map (lockedOfSwap coin)).sum := by
      apply List.Sublist.sum_le_sum (List.filter_sublist.map _)
      intro x hx
      obtain ⟨swap, hswap, rfl⟩ := List.mem_map.mp hx
      exact lockedOfSwap_nonneg hswap coin
    have hlocked : 0 ≤ ((ctx.lockedAmounts coin).map fun info =>
        info.lockedAmount.amount + lockedFee coin info.lockedAmount).sum := by
      apply List.sum_nonneg
      intro x hx
      obtain ⟨info, hinfo, rfl⟩ := List.mem_map.mp hx
      have hnonneg := ctx.locked_nonneg coin info hinfo
      exact add_nonneg hnonneg.1 (lockedFee_nonneg hnonneg coin)
    exact hothers.trans (le_add_of_nonneg_right hlocked)

/-! ## The volumes and the check -/

/-- What the volumes and the checks ask of a coin. -/
structure TradeCoin extends FeeCoin where
  minTxAmount_nonneg : 0 ≤ minTxAmount
  mySpendableBalance : ℚ
  platformCoinBalance : ℚ
  getSenderTradeFee : TradePreimageValue → FeeApproxStage → Except TradePreimageError TradeFee
  getFeeToSendTakerFee : DexFee → FeeApproxStage → Except TradePreimageError TradeFee
  getReceiverTradeFee : FeeApproxStage → Except TradePreimageError TradeFee

structure TakerFeeAdditionalInfo where
  dexFee : MmNumber
  feeToSendDexFee : TradeFee

structure TakerSwapPreparedParams where
  dexFee : MmNumber
  feeToSendDexFee : TradeFee
  takerPaymentTradeFee : TradeFee
  makerPaymentSpendTradeFee : TradeFee

structure CoinVolumeInfo where
  volume : MmNumber
  balance : MmNumber
  lockedBySwaps : MmNumber

section

variable (toDecimal : MmNumber → ℚ) (ctx : SwapsContext) (coin : TradeCoin)

def checkPlatformCoinBalanceForSwap (balance : MmNumber) (tradeFee : TradeFee)
    (swapUuid : Option Uuid) : Except CheckBalanceError Unit :=
  let required := tradeFee.amount
  let locked := lockedFor ctx swapUuid tradeFee.coin
  let available := balance - locked
  if available < required then
    .error (.notSufficientBaseCoinBalance tradeFee.coin (toDecimal available) (toDecimal required)
      (some (toDecimal locked)))
  else .ok ()

/-- The fee to send the dex fee adds to the fee of the payment. -/
def withFeeToSendDexFee (tradeFee : TradeFee) :
    Option TakerFeeAdditionalInfo → Except CheckBalanceError (TradeFee × MmNumber)
  | some { dexFee, feeToSendDexFee } =>
    if feeToSendDexFee.coin ≠ tradeFee.coin then
      .error (.internalError (s!"trade_fee {tradeFee.coin.quote} and fee_to_send_dex_fee " ++
        s!"{feeToSendDexFee.coin.quote} coins are expected to be the same"))
    else .ok ({ tradeFee with amount := tradeFee.amount + feeToSendDexFee.amount }, dexFee)
  | none => .ok (tradeFee, 0)

def checkMyCoinBalanceForSwap (swapUuid : Option Uuid) (volume : MmNumber) (tradeFee : TradeFee)
    (takerFee : Option TakerFeeAdditionalInfo) : Except CheckBalanceError ℚ := do
  let balance := coin.mySpendableBalance
  let locked := lockedFor ctx swapUuid coin.ticker
  let (tradeFee, dexFee) ← withFeeToSendDexFee tradeFee takerFee
  let totalTradeFee ←
    if coin.ticker = tradeFee.coin then pure tradeFee.amount
    else do
      checkPlatformCoinBalanceForSwap toDecimal ctx coin.platformCoinBalance tradeFee swapUuid
      pure 0
  let required := volume + totalTradeFee + dexFee
  let available := balance - locked
  if available < required then
    throw (.notSufficientBalance coin.ticker (toDecimal available) (toDecimal required)
      (some (toDecimal locked)))
  return balance

def calcMaxTakerVol (otherCoin : String) (stage : FeeApproxStage) :
    Except CheckBalanceError MmNumber := do
  let myCoin := coin.ticker
  let locked := getLockedAmount ctx myCoin
  let maxPossible := coin.mySpendableBalance - locked
  let maxTradeFee ← (coin.getSenderTradeFee (.upperBound (toDecimal maxPossible)) stage).mapError
    (.fromTradePreimageError myCoin)
  if myCoin = maxTradeFee.coin then
    -- second case
    let maxPossible2 := maxPossible - maxTradeFee.amount
    let maxDexFee := newFromTakerCoin coin.toFeeCoin otherCoin maxPossible2
    let maxFeeToSendTakerFee ← (coin.getFeeToSendTakerFee maxDexFee stage).mapError
      (.fromTradePreimageError myCoin)
    let minMaxPossible := maxPossible2 - maxFeeToSendTakerFee.amount
    (maxTakerVolFromAvailable minMaxPossible myCoin otherCoin coin.minTxAmount).mapError
      (.fromMaxTakerVolError toDecimal myCoin (toDecimal locked))
  else
    -- first case
    (maxTakerVolFromAvailable maxPossible myCoin otherCoin coin.minTxAmount).mapError
      (.fromMaxTakerVolError toDecimal myCoin (toDecimal locked))

/-- The dex fee and the trade fees of a volume. -/
def createTakerSwapDefaultParams (myCoin otherCoin : TradeCoin) (volume : MmNumber)
    (stage : FeeApproxStage) : Except CheckBalanceError TakerSwapPreparedParams := do
  let dexFee := newFromTakerCoin myCoin.toFeeCoin otherCoin.ticker volume
  let feeToSendDexFee ← (myCoin.getFeeToSendTakerFee dexFee stage).mapError
    (.fromTradePreimageError myCoin.ticker)
  let takerPaymentTradeFee ← (myCoin.getSenderTradeFee (.exact (toDecimal volume)) stage).mapError
    (.fromTradePreimageError myCoin.ticker)
  let makerPaymentSpendTradeFee ← (otherCoin.getReceiverTradeFee stage).mapError
    (.fromTradePreimageError otherCoin.ticker)
  return {
    dexFee := dexFee.totalSpendAmount
    feeToSendDexFee
    takerPaymentTradeFee
    makerPaymentSpendTradeFee }

/-- The balance of the base coin is checked if it pays the trade fee. -/
def calcMaxMakerVol (balance : ℚ) (stage : FeeApproxStage) :
    Except CheckBalanceError CoinVolumeInfo := do
  let ticker := coin.ticker
  let lockedBySwaps := getLockedAmount ctx ticker
  let available := balance - lockedBySwaps
  let tradeFee ← (coin.getSenderTradeFee (.upperBound (toDecimal available)) stage).mapError
    (.fromTradePreimageError ticker)
  let (volume, requiredToPayFee) ←
    if tradeFee.coin = ticker then pure (available - tradeFee.amount, tradeFee.amount)
    else do
      checkPlatformCoinBalanceForSwap toDecimal ctx coin.platformCoinBalance tradeFee none
      pure (available, 0)
  if volume < coin.minTxAmount then
    throw (.notSufficientBalance ticker (toDecimal available)
      (toDecimal (coin.minTxAmount + requiredToPayFee)) (some (toDecimal lockedBySwaps)))
  return { volume, balance, lockedBySwaps }

end

/-! ## What the fees are taken to be -/

/-- The fees of a coin are paid in one coin. Those that bound a volume from above are at least
those of a smaller volume. -/
structure MonotoneFees (coin : TradeCoin) (otherCoin feeCoin : String)
    (maxStage stage : FeeApproxStage) : Prop where
  senderCoin : ∀ {value stage fee}, coin.getSenderTradeFee value stage = .ok fee →
    fee.coin = feeCoin ∧ 0 ≤ fee.amount
  toSendCoin : ∀ {dexFee stage fee}, coin.getFeeToSendTakerFee dexFee stage = .ok fee →
    fee.coin = feeCoin ∧ 0 ≤ fee.amount
  sender : ∀ {x y fee fee'}, y ≤ x → coin.getSenderTradeFee (.upperBound x) maxStage = .ok fee →
    coin.getSenderTradeFee (.exact y) stage = .ok fee' → fee'.amount ≤ fee.amount
  toSend : ∀ {v w fee fee'}, v ≤ w →
    coin.getFeeToSendTakerFee (newFromTakerCoin coin.toFeeCoin otherCoin w) maxStage = .ok fee →
    coin.getFeeToSendTakerFee (newFromTakerCoin coin.toFeeCoin otherCoin v) stage = .ok fee' →
    fee'.amount ≤ fee.amount

section

variable {toDecimal : MmNumber → ℚ} {ctx : SwapsContext} {coin otherCoin : TradeCoin}
  {feeCoin : String} {maxStage stage : FeeApproxStage} {swapUuid : Option Uuid}
  {fee : TradeFee} {v : MmNumber}

theorem checkPlatformCoinBalance_eq_ok {balance : MmNumber} :
    checkPlatformCoinBalanceForSwap toDecimal ctx balance fee swapUuid = .ok () ↔
      fee.amount ≤ balance - lockedFor ctx swapUuid fee.coin := by
  unfold checkPlatformCoinBalanceForSwap
  dsimp only
  split
  next h => exact iff_of_false (by simp) (not_le.mpr h)
  next h => exact iff_of_true rfl (not_lt.mp h)

/-- The check after the fee to send the dex fee has been added. -/
theorem checkMyCoinBalance_eq {takerFee : Option TakerFeeAdditionalInfo} {dexFee : MmNumber}
    {total : TradeFee} (h : withFeeToSendDexFee fee takerFee = .ok (total, dexFee)) :
    checkMyCoinBalanceForSwap toDecimal ctx coin swapUuid v fee takerFee =
        .ok coin.mySpendableBalance ↔
      if coin.ticker = total.coin then
        v + total.amount + dexFee ≤ coin.mySpendableBalance - lockedFor ctx swapUuid coin.ticker
      else
        total.amount ≤ coin.platformCoinBalance - lockedFor ctx swapUuid total.coin ∧
          v + dexFee ≤ coin.mySpendableBalance - lockedFor ctx swapUuid coin.ticker := by
  unfold checkMyCoinBalanceForSwap
  by_cases hcoin : coin.ticker = total.coin
  · simp only [h, hcoin, if_true, bind, Except.bind, pure, Except.pure, throw, throwThe,
      MonadExceptOf.throw]
    split
    next hlt => exact iff_of_false (by simp) (not_le.mpr hlt)
    next hle => exact iff_of_true rfl (not_lt.mp hle)
  · rw [if_neg hcoin, ← @checkPlatformCoinBalance_eq_ok toDecimal]
    simp only [h, if_neg hcoin, bind, Except.bind, pure, Except.pure, throw, throwThe,
      MonadExceptOf.throw, add_zero]
    cases checkPlatformCoinBalanceForSwap toDecimal ctx coin.platformCoinBalance total swapUuid with
    | error e => simp
    | ok paid =>
      simp only [true_and]
      split
      next hlt => exact iff_of_false (by simp) (not_le.mpr hlt)
      next hle => exact iff_of_true rfl (not_lt.mp hle)

/-- What a prepared swap has asked. -/
theorem createTakerSwapDefaultParams_eq_ok {params : TakerSwapPreparedParams}
    (h : createTakerSwapDefaultParams toDecimal coin otherCoin v stage = .ok params) :
    params.dexFee = (newFromTakerCoin coin.toFeeCoin otherCoin.ticker v).totalSpendAmount ∧
      coin.getFeeToSendTakerFee (newFromTakerCoin coin.toFeeCoin otherCoin.ticker v) stage =
        .ok params.feeToSendDexFee ∧
      coin.getSenderTradeFee (.exact (toDecimal v)) stage = .ok params.takerPaymentTradeFee := by
  simp only [createTakerSwapDefaultParams, SwapV2.except_bind_eq_ok,
    SwapV2.except_mapError_eq_ok] at h
  obtain ⟨feeToSend, hsend, paymentFee, hpayment, spendFee, -, hparams⟩ := h
  cases hparams
  exact ⟨rfl, hsend, hpayment⟩

/-- The two ways to the largest volume of a taker. -/
theorem calcMaxTakerVol_eq_ok
    (h : calcMaxTakerVol toDecimal ctx coin otherCoin.ticker maxStage = .ok v) :
    let available := coin.mySpendableBalance - getLockedAmount ctx coin.ticker
    ∃ maxTradeFee,
      coin.getSenderTradeFee (.upperBound (toDecimal available)) maxStage = .ok maxTradeFee ∧
      if coin.ticker = maxTradeFee.coin then
        ∃ maxFeeToSend, coin.getFeeToSendTakerFee (newFromTakerCoin coin.toFeeCoin otherCoin.ticker
            (available - maxTradeFee.amount)) maxStage = .ok maxFeeToSend ∧
          maxTakerVolFromAvailable (available - maxTradeFee.amount - maxFeeToSend.amount)
            coin.ticker otherCoin.ticker coin.minTxAmount = .ok v
      else
        maxTakerVolFromAvailable available coin.ticker otherCoin.ticker coin.minTxAmount =
          .ok v := by
  intro available
  simp only [calcMaxTakerVol, SwapV2.except_bind_eq_ok, SwapV2.except_mapError_eq_ok] at h
  obtain ⟨maxTradeFee, hfee, h⟩ := h
  refine ⟨maxTradeFee, hfee, ?_⟩
  split at h
  next hcoin =>
    rw [if_pos hcoin]
    simpa only [SwapV2.except_bind_eq_ok, SwapV2.except_mapError_eq_ok] using h
  next hcoin =>
    rw [if_neg hcoin]
    simpa only [SwapV2.except_mapError_eq_ok] using h

theorem calcMaxMakerVol_eq_ok {info : CoinVolumeInfo}
    (h : calcMaxMakerVol toDecimal ctx coin coin.mySpendableBalance maxStage = .ok info) :
    let available := coin.mySpendableBalance - getLockedAmount ctx coin.ticker
    ∃ tradeFee, coin.getSenderTradeFee (.upperBound (toDecimal available)) maxStage = .ok tradeFee ∧
      if tradeFee.coin = coin.ticker then info.volume = available - tradeFee.amount
      else
        info.volume = available ∧
          tradeFee.amount ≤ coin.platformCoinBalance - getLockedAmount ctx tradeFee.coin := by
  intro available
  have hlast {volume requiredToPayFee : MmNumber}
      (h : (if volume < coin.minTxAmount then
        throw (.notSufficientBalance coin.ticker (toDecimal available)
          (toDecimal (coin.minTxAmount + requiredToPayFee))
          (some (toDecimal (getLockedAmount ctx coin.ticker))))
        else return { volume, balance := coin.mySpendableBalance,
                      lockedBySwaps := getLockedAmount ctx coin.ticker } :
          Except CheckBalanceError CoinVolumeInfo) = .ok info) : info.volume = volume := by
    split at h
    · cases h
    · cases h
      rfl
  unfold calcMaxMakerVol at h
  rw [SwapV2.except_bind_eq_ok] at h
  obtain ⟨tradeFee, hfee, h⟩ := h
  rw [SwapV2.except_mapError_eq_ok] at hfee
  refine ⟨tradeFee, hfee, ?_⟩
  by_cases hcoin : tradeFee.coin = coin.ticker
  · rw [if_pos hcoin]
    simp only [if_pos hcoin] at h
    exact hlast h
  · rw [if_neg hcoin]
    simp only [if_neg hcoin, SwapV2.except_bind_eq_ok] at h
    obtain ⟨paid, hplatform, ⟨volume, requiredToPayFee⟩, hpair, h⟩ := h
    cases hpair
    exact ⟨hlast h, checkPlatformCoinBalance_eq_ok.mp hplatform⟩

end

/-! ## Trading the largest volume -/

section

variable (toDecimal : MmNumber → ℚ) (ctx : SwapsContext) (coin otherCoin : TradeCoin)
  (maxStage stage : FeeApproxStage) (swapUuid : Option Uuid)

/-- The balance suffices for the largest volume of a taker with its own fees. -/
def TakerVolTradable : Prop :=
  ∀ v params, calcMaxTakerVol toDecimal ctx coin otherCoin.ticker maxStage = .ok v →
    createTakerSwapDefaultParams toDecimal coin otherCoin v stage = .ok params →
    checkMyCoinBalanceForSwap toDecimal ctx coin swapUuid v params.takerPaymentTradeFee
      (some { dexFee := params.dexFee, feeToSendDexFee := params.feeToSendDexFee }) =
        .ok coin.mySpendableBalance

/-- The balance suffices for the largest volume of a maker with its own fee. -/
def MakerVolTradable : Prop :=
  ∀ info fee, calcMaxMakerVol toDecimal ctx coin coin.mySpendableBalance maxStage = .ok info →
    coin.getSenderTradeFee (.exact (toDecimal info.volume)) stage = .ok fee →
    checkMyCoinBalanceForSwap toDecimal ctx coin swapUuid info.volume fee none =
      .ok coin.mySpendableBalance

/-- The platform coin pays the fees of the volume that leaves nothing of the available balance. -/
def PlatformPays (feeCoin : String) : Prop :=
  let available := coin.mySpendableBalance - getLockedAmount ctx coin.ticker
  ∀ w maxTradeFee params,
    coin.getSenderTradeFee (.upperBound (toDecimal available)) maxStage = .ok maxTradeFee →
    coin.minTxAmount < w → spendOf coin.toFeeCoin otherCoin.ticker w = available →
    createTakerSwapDefaultParams toDecimal coin otherCoin w stage = .ok params →
    params.takerPaymentTradeFee.amount + params.feeToSendDexFee.amount ≤
      coin.platformCoinBalance - lockedFor ctx swapUuid feeCoin

end

section

variable {toDecimal : MmNumber → ℚ} {ctx : SwapsContext} {coin otherCoin : TradeCoin}
  {feeCoin : String} {maxStage stage : FeeApproxStage} {swapUuid : Option Uuid}

theorem totalSpend_nonneg (coin : TradeCoin) (other : String) (v : MmNumber) :
    0 ≤ (newFromTakerCoin coin.toFeeCoin other v).totalSpendAmount := by
  rw [totalSpend_newFromTakerCoin]
  exact coin.minTxAmount_nonneg.trans (le_max_left _ _)

/-- The check of a prepared taker swap. -/
theorem checkTaker_eq {v : MmNumber} {params : TakerSwapPreparedParams}
    (fees : MonotoneFees coin otherCoin.ticker feeCoin maxStage stage)
    (hparams : createTakerSwapDefaultParams toDecimal coin otherCoin v stage = .ok params) :
    checkMyCoinBalanceForSwap toDecimal ctx coin swapUuid v params.takerPaymentTradeFee
        (some { dexFee := params.dexFee, feeToSendDexFee := params.feeToSendDexFee }) =
          .ok coin.mySpendableBalance ↔
      let fee := params.takerPaymentTradeFee.amount + params.feeToSendDexFee.amount
      if coin.ticker = feeCoin then
        v + fee + params.dexFee ≤ coin.mySpendableBalance - lockedFor ctx swapUuid coin.ticker
      else
        fee ≤ coin.platformCoinBalance - lockedFor ctx swapUuid feeCoin ∧
          v + params.dexFee ≤
            coin.mySpendableBalance - lockedFor ctx swapUuid coin.ticker := by
  obtain ⟨-, hsend, hpayment⟩ := createTakerSwapDefaultParams_eq_ok hparams
  have hsendCoin := (fees.toSendCoin hsend).1
  have hpaymentCoin := (fees.senderCoin hpayment).1
  have htotal : withFeeToSendDexFee params.takerPaymentTradeFee
      (some { dexFee := params.dexFee, feeToSendDexFee := params.feeToSendDexFee }) =
        .ok ({ params.takerPaymentTradeFee with
          amount := params.takerPaymentTradeFee.amount + params.feeToSendDexFee.amount },
          params.dexFee) := by
    rw [withFeeToSendDexFee, if_neg]
    rw [hsendCoin, hpaymentCoin]
    exact not_not_intro rfl
  rw [checkMyCoinBalance_eq htotal, hpaymentCoin]

/-- A fee in the coin itself is taken off before the volume is found. -/
theorem takerVolTradable_sameCoin (hdecimal : Monotone toDecimal)
    (fees : MonotoneFees coin otherCoin.ticker feeCoin maxStage stage)
    (hcoin : coin.ticker = feeCoin) :
    TakerVolTradable toDecimal ctx coin otherCoin maxStage stage swapUuid := by
  intro v params hv hparams
  rw [checkTaker_eq fees hparams, if_pos hcoin]
  obtain ⟨maxTradeFee, hmaxFee, hv⟩ := calcMaxTakerVol_eq_ok hv
  obtain ⟨hmaxCoin, hmaxFee_nonneg⟩ := fees.senderCoin hmaxFee
  rw [if_pos (hcoin.trans hmaxCoin.symm)] at hv
  obtain ⟨maxFeeToSend, hmaxSend, hv⟩ := hv
  have hmaxSend_nonneg := (fees.toSendCoin hmaxSend).2
  obtain ⟨-, hspend⟩ := maxTakerVol_eq_ok hv
  obtain ⟨hdexFee, hsend, hpayment⟩ := createTakerSwapDefaultParams_eq_ok hparams
  have hdexFee_nonneg := totalSpend_nonneg coin otherCoin.ticker v
  rw [spendOf] at hspend
  -- the volume is below every bound that its fees were taken for
  have hsendLe := fees.toSend (by linarith) hmaxSend hsend
  have hpaymentLe := fees.sender (hdecimal (by linarith)) hmaxFee hpayment
  have hlocked := lockedFor_le ctx swapUuid coin.ticker
  rw [hdexFee]
  linarith

theorem takerVolTradable_platform_iff
    (fees : MonotoneFees coin otherCoin.ticker feeCoin maxStage stage)
    (hcoin : coin.ticker ≠ feeCoin) :
    TakerVolTradable toDecimal ctx coin otherCoin maxStage stage swapUuid ↔
      PlatformPays toDecimal ctx coin otherCoin maxStage stage swapUuid feeCoin := by
  constructor
  · intro htradable w maxTradeFee params hmaxFee hw hspend hparams
    have hmaxCoin := (fees.senderCoin hmaxFee).1
    -- the volume that leaves nothing is the largest
    have hmax : maxTakerVolFromAvailable
        (coin.mySpendableBalance - getLockedAmount ctx coin.ticker) coin.ticker otherCoin.ticker
        coin.minTxAmount = .ok w := by
      cases hv : maxTakerVolFromAvailable
          (coin.mySpendableBalance - getLockedAmount ctx coin.ticker) coin.ticker otherCoin.ticker
          coin.minTxAmount with
      | error e => exact absurd hspend (maxTakerVol_eq_error hv hw).ne'
      | ok v =>
        have hspend' := (maxTakerVol_eq_ok hv).2
        rw [(spendOf_strictMono _ _).injective (hspend'.trans hspend.symm)]
    have hcalc : calcMaxTakerVol toDecimal ctx coin otherCoin.ticker maxStage = .ok w := by
      simp only [calcMaxTakerVol, SwapV2.except_bind_eq_ok, SwapV2.except_mapError_eq_ok]
      refine ⟨maxTradeFee, hmaxFee, ?_⟩
      rw [if_neg (hmaxCoin.symm ▸ hcoin), SwapV2.except_mapError_eq_ok]
      exact hmax
    have hcheck := htradable w params hcalc hparams
    rw [checkTaker_eq fees hparams, if_neg hcoin] at hcheck
    exact hcheck.1
  · intro hpays v params hv hparams
    rw [checkTaker_eq fees hparams, if_neg hcoin]
    obtain ⟨maxTradeFee, hmaxFee, hv⟩ := calcMaxTakerVol_eq_ok hv
    rw [if_neg ((fees.senderCoin hmaxFee).1.symm ▸ hcoin)] at hv
    obtain ⟨hlt, hspend⟩ := maxTakerVol_eq_ok hv
    constructor
    · exact hpays v maxTradeFee params hmaxFee hlt hspend hparams
    · rw [(createTakerSwapDefaultParams_eq_ok hparams).1]
      have hlocked := lockedFor_le ctx swapUuid coin.ticker
      rw [spendOf] at hspend
      linarith

theorem makerVolTradable (hdecimal : Monotone toDecimal)
    (fees : MonotoneFees coin otherCoin.ticker feeCoin maxStage stage) :
    MakerVolTradable toDecimal ctx coin maxStage stage swapUuid := by
  intro info fee hinfo hfee
  have htotal : withFeeToSendDexFee fee none = .ok (fee, 0) := rfl
  rw [checkMyCoinBalance_eq htotal]
  obtain ⟨maxFee, hmaxFee, hvolume⟩ := calcMaxMakerVol_eq_ok hinfo
  obtain ⟨hmaxCoin, hmaxFee_nonneg⟩ := fees.senderCoin hmaxFee
  have hfeeCoin := (fees.senderCoin hfee).1
  have hlocked := lockedFor_le ctx swapUuid coin.ticker
  by_cases hcoin : coin.ticker = feeCoin
  · rw [if_pos (hmaxCoin.trans hcoin.symm)] at hvolume
    rw [if_pos (hcoin.trans hfeeCoin.symm)]
    have hle := fees.sender (hdecimal (by linarith)) hmaxFee hfee
    linarith
  · rw [if_neg (fun h => hcoin (h.symm.trans hmaxCoin))] at hvolume
    rw [if_neg (fun h => hcoin (h.trans hfeeCoin))]
    obtain ⟨hvolume, hplatform⟩ := hvolume
    have hle := fees.sender (hdecimal hvolume.le) hmaxFee hfee
    have hlockedPlatform := lockedFor_le ctx swapUuid fee.coin
    rw [hmaxCoin, ← hfeeCoin] at hplatform
    constructor
    · linarith
    · linarith

/-- The largest volumes of a maker are tradable, and so are those of a taker unless the fees are
paid in a platform coin whose balance does not pay them. -/
theorem max_vol_tradable_iff (toDecimal : MmNumber → ℚ) (ctx : SwapsContext)
    (coin otherCoin : TradeCoin) (feeCoin : String) (maxStage stage : FeeApproxStage)
    (swapUuid : Option Uuid) (hdecimal : Monotone toDecimal)
    (fees : MonotoneFees coin otherCoin.ticker feeCoin maxStage stage) :
    (TakerVolTradable toDecimal ctx coin otherCoin maxStage stage swapUuid ∧
        MakerVolTradable toDecimal ctx coin maxStage stage swapUuid) ↔
      coin.ticker = feeCoin ∨
        PlatformPays toDecimal ctx coin otherCoin maxStage stage swapUuid feeCoin := by
  rw [and_iff_left (makerVolTradable hdecimal fees)]
  by_cases hcoin : coin.ticker = feeCoin
  · exact iff_of_true (takerVolTradable_sameCoin hdecimal fees hcoin) (Or.inl hcoin)
  · rw [takerVolTradable_platform_iff fees hcoin, or_iff_right hcoin]

end

def emptyContext : SwapsContext where
  runningSwaps := []
  lockedAmounts := LockedAmounts.empty
  running_nonneg := by simp
  locked_nonneg := by simp [LockedAmounts.empty]

/-- A hundred coins with fees of a hundredth of `feeCoin`, of which there are none. -/
def sampleTradeCoin (ticker feeCoin : String) : TradeCoin where
  ticker := ticker
  minTxAmount := 1 / 1000
  isPrivacy := false
  burnPubkey := [2]
  shouldBurnDirectly := false
  shouldBurnDexFee := false
  minTxAmount_nonneg := by norm_num
  mySpendableBalance := 100
  platformCoinBalance := 0
  getSenderTradeFee _ _ := .ok { coin := feeCoin, amount := 1 / 100, paidFromTradingVol := false }
  getFeeToSendTakerFee _ _ :=
    .ok { coin := feeCoin, amount := 1 / 100, paidFromTradingVol := false }
  getReceiverTradeFee _ := .ok { coin := feeCoin, amount := 1 / 100, paidFromTradingVol := true }

theorem sampleTradeCoin_fees (ticker feeCoin other : String) (maxStage stage : FeeApproxStage) :
    MonotoneFees (sampleTradeCoin ticker feeCoin) other feeCoin maxStage stage where
  senderCoin h := by
    cases h
    norm_num
  toSendCoin h := by
    cases h
    norm_num
  sender _ h h' := by
    cases h
    cases h'
    exact le_rfl
  toSend _ h h' := by
    cases h
    cases h'
    exact le_rfl

theorem max_vol_tradable_sample :
    TakerVolTradable id emptyContext (sampleTradeCoin "RICK" "RICK")
        (sampleTradeCoin "MORTY" "MORTY") .tradePreimageMax .tradePreimage none ∧
      MakerVolTradable id emptyContext (sampleTradeCoin "RICK" "RICK") .tradePreimageMax
        .tradePreimage none :=
  (max_vol_tradable_iff id emptyContext _ _ "RICK" _ _ none monotone_id
    (sampleTradeCoin_fees "RICK" "RICK" "MORTY" _ _)).mpr (Or.inl rfl)

/-- The largest volume of a token whose owner has none of the platform coin. -/
theorem max_vol_without_platform_coin :
    ¬TakerVolTradable id emptyContext (sampleTradeCoin "USDT" "ETH")
      (sampleTradeCoin "MORTY" "MORTY") .tradePreimageMax .tradePreimage none := by
  have hlocked (coin : String) : getLockedAmount emptyContext coin = 0 := by
    simp [getLockedAmount, emptyContext, LockedAmounts.empty]
  have hticker : "USDT" ≠ "ETH" := by decide
  have hrate : dexFeeRate "USDT" "MORTY" = 2 / 100 := by
    rw [dexFeeRate, if_neg (by simp)]
  have hmax : calcMaxTakerVol id emptyContext (sampleTradeCoin "USDT" "ETH") "MORTY"
      .tradePreimageMax = .ok (5000 / 51) := by
    simp only [calcMaxTakerVol, sampleTradeCoin, hlocked, Except.mapError, bind, Except.bind,
      maxTakerVolFromAvailable, hrate, if_neg hticker]
    norm_num
  intro htradable
  have hcheck := htradable _ _ hmax rfl
  simp only [checkMyCoinBalanceForSwap, withFeeToSendDexFee, sampleTradeCoin, lockedFor, hlocked,
    checkPlatformCoinBalanceForSwap, bind, Except.bind] at hcheck
  norm_num [hticker] at hcheck
  cases hcheck

end DeXFG.Trading
