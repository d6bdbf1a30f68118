import DeXFG.SwapV2.TakerSwap

/-!
# The code of the taker's states

Each `onChanged` is the `on_changed` of its state, call by call.
-/
namespace DeXFG.SwapV2.TakerSwap
open Ordermatch (MmNumber)
open Library.Process Library.DurableMachine

variable {X : External}

abbrev TakerProc (X : External) :=
  SwapProc X TakerSwapEvent TakerSwapDbRepr (SwapResult TakerSwapStateMachine (TakerState X))

/-- `Self::change_state(next, state_machine)`. -/
def changeTo (m : TakerSwapStateMachine) (next : TakerState X) : TakerProc X :=
  changeState TakerState.getEvent m next

def abort (m : TakerSwapStateMachine) (reason : AbortReason) : TakerProc X :=
  changeTo m (.aborted reason)

/-- The balance check knows these fees; `fee_to_send_dex_fee` only has to name the right coin. -/
def preparedParams (X : External) (m : TakerSwapStateMachine)
    (takerPaymentFee makerPaymentSpendFee : TradeFee) : TakerSwapPreparedParams where
  dexFee := (m.dexFee X).totalSpendAmount
  feeToSendDexFee :=
    { coin := X.takerCoin.platformTicker, amount := 0, paidFromTradingVol := false }
  takerPaymentTradeFee := takerPaymentFee
  makerPaymentSpendTradeFee := makerPaymentSpendFee

/-- `Initialize::on_changed`. -/
def onInitialize (m : TakerSwapStateMachine) : TakerProc X := do
  match ← ask (.currentBlock .maker) with
  | .error e => abort m (.failedToGetMakerCoinBlock e)
  | .ok makerCoinStartBlock =>
  match ← ask (.currentBlock .taker) with
  | .error e => abort m (.failedToGetTakerCoinBlock e)
  | .ok takerCoinStartBlock =>
  let paymentValueWithPremium := m.takerVolume + m.takerPremium
  let totalValueWithPremium := paymentValueWithPremium + (m.dexFee X).totalSpendAmount
  match ← ask (.getSenderTradeFee .taker totalValueWithPremium) with
  | .error e => abort m (.failedToGetTakerPaymentFee e)
  | .ok takerPaymentFee =>
  match ← ask (.getReceiverTradeFee .maker) with
  | .error e => abort m (.failedToGetMakerPaymentSpendFee e)
  | .ok makerPaymentSpendFee =>
  match ← ask (.checkBalanceForTakerSwap paymentValueWithPremium
      (preparedParams X m takerPaymentFee makerPaymentSpendFee)) with
  | .error e => abort m (.balanceCheckFailure e)
  | .ok _ =>
  changeTo m (.initialized
    { makerCoinStartBlock, takerCoinStartBlock, takerPaymentFee, makerPaymentSpendFee })

namespace Initialized

/-- The maker's negotiation data that the taker agrees to, or the reason to abort. -/
def negotiate (m : TakerSwapStateMachine) (makerNegotiation : MakerNegotiation) :
    Except AbortReason (NegotiationData X) := do
  let startedAtDiff := absDiff m.startedAt makerNegotiation.startedAt
  if startedAtDiff > maxStartedAtDiff then
    throw (.tooLargeStartedAtDiff startedAtDiff)
  if ¬ (makerNegotiation.secretHash.length = 20 ∨ makerNegotiation.secretHash.length = 32) then
    throw (.secretHashUnexpectedLen makerNegotiation.secretHash.length)
  let expectedMakerPaymentLocktime := makerNegotiation.startedAt + 2 * m.lockDuration
  if makerNegotiation.paymentLocktime ≠ expectedMakerPaymentLocktime then
    throw (.makerProvidedInvalidLocktime makerNegotiation.paymentLocktime)
  let makerCoinHtlcPubFromMaker ←
    (X.makerCoin.parsePubkey makerNegotiation.makerCoinHtlcPub).mapError .failedToParsePubkey
  let takerCoinHtlcPubFromMaker ←
    (X.takerCoin.parsePubkey makerNegotiation.takerCoinHtlcPub).mapError .failedToParsePubkey
  let takerCoinMakerAddress ←
    (X.takerCoin.parseAddress makerNegotiation.takerCoinAddress).mapError .failedToParseAddress
  return {
    makerSecretHash := makerNegotiation.secretHash
    makerPaymentLocktime := expectedMakerPaymentLocktime
    makerCoinHtlcPubFromMaker
    takerCoinHtlcPubFromMaker
    makerCoinSwapContract := makerNegotiation.makerCoinSwapContract
    takerCoinSwapContract := makerNegotiation.takerCoinSwapContract
    takerCoinMakerAddress }

def takerNegotiation (X : External) (m : TakerSwapStateMachine) : TakerNegotiation where
  action := some (.continue
    { startedAt := m.startedAt
      fundingLocktime := m.takerFundingLocktime
      paymentLocktime := m.takerPaymentLocktime
      takerSecretHash := m.takerSecretHash X
      makerCoinHtlcPub := X.makerCoin.deriveHtlcPubkeyV2Bytes m.uniqueData
      takerCoinHtlcPub := X.takerCoin.deriveHtlcPubkeyV2Bytes m.uniqueData
      makerCoinSwapContract := X.makerCoin.swapContractAddress
      takerCoinSwapContract := X.takerCoin.swapContractAddress })

def onChanged (m : TakerSwapStateMachine) (self : Initialized) : TakerProc X := do
  match ← recvSwapV2Msg .makerNegotiation negotiationTimeoutSec with
  | .error e => abort m (.didNotReceiveMakerNegotiation e)
  | .ok makerNegotiation =>
  match negotiate m makerNegotiation with
  | .error reason => abort m reason
  | .ok negotiationData =>
  let _ ← ask (.broadcastSwapV2MsgEvery (.takerNegotiation (takerNegotiation X m))
    negotiateSendInterval)
  match ← recvSwapV2Msg .makerNegotiated negotiationTimeoutSec with
  | .error e => abort m (.didNotReceiveMakerNegotiated e)
  | .ok makerNegotiated =>
  if makerNegotiated.negotiated then
    changeTo m (.negotiated
      { makerCoinStartBlock := self.makerCoinStartBlock
        takerCoinStartBlock := self.takerCoinStartBlock
        negotiationData
        takerPaymentFee := self.takerPaymentFee
        makerPaymentSpendFee := self.makerPaymentSpendFee })
  else abort m (.makerDidNotNegotiate (makerNegotiated.reason.getD ""))

end Initialized

namespace Negotiated

def sendTakerFundingArgs (m : TakerSwapStateMachine) (self : Negotiated X) :
    SendTakerFundingArgs where
  fundingTimeLock := m.takerFundingLocktime
  paymentTimeLock := m.takerPaymentLocktime
  takerSecretHash := m.takerSecretHash X
  makerSecretHash := self.negotiationData.makerSecretHash
  makerPub := X.takerCoin.pubkeyToBytes self.negotiationData.takerCoinHtlcPubFromMaker
  dexFee := m.dexFee X
  premiumAmount := m.takerPremium
  tradingAmount := m.takerVolume
  swapUniqueData := m.uniqueData

def onChanged (m : TakerSwapStateMachine) (self : Negotiated X) : TakerProc X := do
  match ← ask (.sendTakerFunding (self.sendTakerFundingArgs m)) with
  | .error e => abort m (.failedToSendTakerFunding e)
  | .ok takerFunding =>
  changeTo m (.takerFundingSent
    { makerCoinStartBlock := self.makerCoinStartBlock
      takerCoinStartBlock := self.takerCoinStartBlock
      takerFunding
      negotiationData := self.negotiationData })

end Negotiated

namespace TakerFundingSent

def refundRequired (self : TakerFundingSent X) (reason : TakerFundingRefundReason) :
    TakerState X :=
  .takerFundingRefundRequired
    { makerCoinStartBlock := self.makerCoinStartBlock
      takerCoinStartBlock := self.takerCoinStartBlock
      takerFunding := self.takerFunding
      negotiationData := self.negotiationData
      reason }

/-- The maker payment and the preimage of the message, or the reason to refund. -/
def parseMakerPaymentInfo (self : TakerFundingSent X) (info : MakerPaymentInfo) :
    Except TakerFundingRefundReason (MakerPaymentAndFundingSpendPreimgReceived X) := do
  let makerPayment ← (X.makerCoin.parseTx info.txBytes).mapError .failedToParseMakerPayment
  let preimage ←
    (X.takerCoin.parsePreimage info.fundingPreimageTx).mapError .failedToParseFundingSpendPreimg
  let signature ←
    (X.takerCoin.parseSignature info.fundingPreimageSig).mapError .failedToParseFundingSpendSig
  return {
    makerCoinStartBlock := self.makerCoinStartBlock
    takerCoinStartBlock := self.takerCoinStartBlock
    negotiationData := self.negotiationData
    takerFunding := self.takerFunding
    fundingSpendPreimage := { preimage, signature }
    makerPayment }

def onChanged (m : TakerSwapStateMachine) (self : TakerFundingSent X) : TakerProc X := do
  let _ ← ask (.broadcastSwapV2MsgEvery (.takerFundingInfo
    { txBytes := X.takerCoin.txHex self.takerFunding, nextStepInstructions := none }) 600)
  match ← recvSwapV2Msg .makerPayment negotiationTimeoutSec with
  | .error e => changeTo m (self.refundRequired (.didNotReceiveMakerPayment e))
  | .ok makerPaymentInfo =>
  match self.parseMakerPaymentInfo makerPaymentInfo with
  | .error reason => changeTo m (self.refundRequired reason)
  | .ok nextState => changeTo m (.makerPaymentAndFundingSpendPreimgReceived nextState)

end TakerFundingSent

/-- The arguments of the funding spend, the same in both states that make it. -/
def genTakerFundingSpendArgs (m : TakerSwapStateMachine) (takerFunding : X.takerCoin.Tx)
    (negotiationData : NegotiationData X) : GenTakerFundingSpendArgs X.takerCoin where
  fundingTx := takerFunding
  makerPub := negotiationData.takerCoinHtlcPubFromMaker
  takerPub := X.takerCoin.deriveHtlcPubkeyV2 m.uniqueData
  fundingTimeLock := m.takerFundingLocktime
  takerSecretHash := m.takerSecretHash X
  takerPaymentTimeLock := m.takerPaymentLocktime
  makerSecretHash := negotiationData.makerSecretHash

/-- The input of the wait for the maker payment, the same in the three states that make it. -/
def makerPaymentConfInput (m : TakerSwapStateMachine) (makerPayment : X.makerCoin.Tx) :
    ConfirmPaymentInput where
  paymentTx := X.makerCoin.txHex makerPayment
  confirmations := m.confSettings.makerCoinConfs
  requiresNota := m.confSettings.makerCoinNota
  waitUntil := m.makerPaymentConfTimeout
  checkEvery := 10

/-- The state after the taker payment was sent. -/
def paymentSent (makerCoinStartBlock takerCoinStartBlock : ℕ) (makerPayment : X.makerCoin.Tx)
    (negotiationData : NegotiationData X) (takerPayment : X.takerCoin.Tx) : TakerState X :=
  if X.takerCoin.skipTakerPaymentSpendPreimage then
    .takerPaymentSentAndPreimageSendingSkipped
      { makerCoinStartBlock, takerCoinStartBlock, takerPayment, makerPayment, negotiationData }
  else
    .takerPaymentSent
      { makerCoinStartBlock, takerCoinStartBlock, takerPayment, makerPayment, negotiationData }

namespace MakerPaymentAndFundingSpendPreimgReceived

def validationArgs (m : TakerSwapStateMachine)
    (self : MakerPaymentAndFundingSpendPreimgReceived X) :
    ValidateMakerPaymentArgs X.makerCoin where
  makerPaymentTx := self.makerPayment
  timeLock := self.negotiationData.makerPaymentLocktime
  takerSecretHash := m.takerSecretHash X
  amount := m.makerVolume
  makerPub := self.negotiationData.makerCoinHtlcPubFromMaker
  makerSecretHash := self.negotiationData.makerSecretHash
  swapUniqueData := m.uniqueData

def refundRequired (self : MakerPaymentAndFundingSpendPreimgReceived X)
    (reason : TakerFundingRefundReason) : TakerState X :=
  .takerFundingRefundRequired
    { makerCoinStartBlock := self.makerCoinStartBlock
      takerCoinStartBlock := self.takerCoinStartBlock
      takerFunding := self.takerFunding
      negotiationData := self.negotiationData
      reason }

/-- The wait for the maker payment's confirmations; the funding is spent in the next state. -/
def confirmPath (m : TakerSwapStateMachine)
    (self : MakerPaymentAndFundingSpendPreimgReceived X) : TakerProc X := do
  match ← ask (.waitForConfirmations .maker (makerPaymentConfInput m self.makerPayment)) with
  | .error e => changeTo m (self.refundRequired (.makerPaymentNotConfirmedInTime e))
  | .ok _ =>
  changeTo m (.makerPaymentConfirmed
    { makerCoinStartBlock := self.makerCoinStartBlock
      takerCoinStartBlock := self.takerCoinStartBlock
      makerPayment := self.makerPayment
      takerFunding := self.takerFunding
      fundingSpendPreimage := self.fundingSpendPreimage
      negotiationData := self.negotiationData })

/-- The funding is spent as soon as the maker payment is visible. -/
def immediatePath (m : TakerSwapStateMachine)
    (self : MakerPaymentAndFundingSpendPreimgReceived X) : TakerProc X := do
  match ← ask (.signAndSendTakerFundingSpend self.fundingSpendPreimage
      (genTakerFundingSpendArgs m self.takerFunding self.negotiationData) m.uniqueData) with
  | .error e => changeTo m (self.refundRequired (.failedToSendTakerPayment e))
  | .ok takerPayment =>
  changeTo m (paymentSent self.makerCoinStartBlock self.takerCoinStartBlock self.makerPayment
    self.negotiationData takerPayment)

def onChanged (m : TakerSwapStateMachine)
    (self : MakerPaymentAndFundingSpendPreimgReceived X) : TakerProc X := do
  match ← ask (.validateMakerPaymentV2 (self.validationArgs m)) with
  | .error e => changeTo m (self.refundRequired (.makerPaymentValidationFailed e))
  | .ok _ =>
  match ← ask (.validateTakerFundingSpendPreimage
      (genTakerFundingSpendArgs m self.takerFunding self.negotiationData)
      self.fundingSpendPreimage) with
  | .error e => changeTo m (self.refundRequired (.fundingSpendPreimageValidationFailed e))
  | .ok _ =>
  match ← ask (.ensureTxIsBroadcasted .maker (X.makerCoin.txHashAsBytes self.makerPayment)
      (X.makerCoin.txHex self.makerPayment) swapTxVisibilityGraceSecs
      swapTxVisibilityPollSecs) with
  | false => changeTo m (self.refundRequired (.didNotReceiveMakerPayment
      "Maker payment transaction is not visible on network even after fallback rebroadcast"))
  | true =>
  if m.requireMakerPaymentConfirmBeforeFundingSpend then self.confirmPath m
  else self.immediatePath m

end MakerPaymentAndFundingSpendPreimgReceived

namespace MakerPaymentConfirmed

def refundRequired (self : MakerPaymentConfirmed X) (reason : TakerFundingRefundReason) :
    TakerState X :=
  .takerFundingRefundRequired
    { makerCoinStartBlock := self.makerCoinStartBlock
      takerCoinStartBlock := self.takerCoinStartBlock
      takerFunding := self.takerFunding
      negotiationData := self.negotiationData
      reason }

def onChanged (m : TakerSwapStateMachine) (self : MakerPaymentConfirmed X) : TakerProc X := do
  match ← ask (.signAndSendTakerFundingSpend self.fundingSpendPreimage
      (genTakerFundingSpendArgs m self.takerFunding self.negotiationData) m.uniqueData) with
  | .error e => changeTo m (self.refundRequired (.failedToSendTakerPayment e))
  | .ok takerPayment =>
  changeTo m (paymentSent self.makerCoinStartBlock self.takerCoinStartBlock self.makerPayment
    self.negotiationData takerPayment)

end MakerPaymentConfirmed

namespace TakerPaymentSent

def refundRequired (self : TakerPaymentSent X) (reason : TakerPaymentRefundReason) :
    TakerState X :=
  .takerPaymentRefundRequired
    { takerPayment := self.takerPayment, negotiationData := self.negotiationData, reason }

def genTakerPaymentSpendArgs (m : TakerSwapStateMachine) (self : TakerPaymentSent X) :
    GenTakerPaymentSpendArgs X.takerCoin where
  takerTx := self.takerPayment
  timeLock := m.takerPaymentLocktime
  makerSecretHash := self.negotiationData.makerSecretHash
  makerPub := self.negotiationData.takerCoinHtlcPubFromMaker
  makerAddress := self.negotiationData.takerCoinMakerAddress
  takerPub := X.takerCoin.deriveHtlcPubkeyV2 m.uniqueData
  dexFee := m.dexFee X
  premiumAmount := 0
  tradingAmount := m.takerVolume

/-- From the preimage for the maker to the maker's spend of the taker payment. -/
def awaitSpend (m : TakerSwapStateMachine) (self : TakerPaymentSent X) : TakerProc X := do
  match ← ask (.genTakerPaymentSpendPreimage (self.genTakerPaymentSpendArgs m)
      m.uniqueData) with
  | .error e => changeTo m (self.refundRequired (.failedToGenerateSpendPreimage e))
  | .ok preimage =>
  let _ ← ask (.broadcastSwapV2MsgEvery (.takerPaymentSpendPreimage
    { signature := X.takerCoin.sigToBytes preimage.signature
      txPreimage := X.takerCoin.preimageToBytes preimage.preimage }) 600)
  match ← ask (.findTakerPaymentSpendTx self.takerPayment self.takerCoinStartBlock
      m.takerPaymentLocktime) with
  | .error e => changeTo m (self.refundRequired (.makerDidNotSpendInTime e))
  | .ok takerPaymentSpend =>
  changeTo m (.takerPaymentSpent
    { makerCoinStartBlock := self.makerCoinStartBlock
      takerCoinStartBlock := self.takerCoinStartBlock
      makerPayment := self.makerPayment
      takerPayment := self.takerPayment
      takerPaymentSpend
      negotiationData := self.negotiationData })

def onChanged (m : TakerSwapStateMachine) (self : TakerPaymentSent X) : TakerProc X := do
  if m.requireMakerPaymentConfirmBeforeFundingSpend then self.awaitSpend m
  else
  match ← ask (.waitForConfirmations .maker (makerPaymentConfInput m self.makerPayment)) with
  | .error e => changeTo m (self.refundRequired (.makerPaymentNotConfirmedInTime e))
  | .ok _ => self.awaitSpend m

end TakerPaymentSent

namespace TakerPaymentSentAndPreimageSendingSkipped

def refundRequired (self : TakerPaymentSentAndPreimageSendingSkipped X)
    (reason : TakerPaymentRefundReason) : TakerState X :=
  .takerPaymentRefundRequired
    { takerPayment := self.takerPayment, negotiationData := self.negotiationData, reason }

def awaitSpend (m : TakerSwapStateMachine) (self : TakerPaymentSentAndPreimageSendingSkipped X) :
    TakerProc X := do
  match ← ask (.findTakerPaymentSpendTx self.takerPayment self.takerCoinStartBlock
      m.takerPaymentLocktime) with
  | .error e => changeTo m (self.refundRequired (.makerDidNotSpendInTime e))
  | .ok takerPaymentSpend =>
  changeTo m (.takerPaymentSpent
    { makerCoinStartBlock := self.makerCoinStartBlock
      takerCoinStartBlock := self.takerCoinStartBlock
      makerPayment := self.makerPayment
      takerPayment := self.takerPayment
      takerPaymentSpend
      negotiationData := self.negotiationData })

def onChanged (m : TakerSwapStateMachine) (self : TakerPaymentSentAndPreimageSendingSkipped X) :
    TakerProc X := do
  if m.requireMakerPaymentConfirmBeforeFundingSpend then self.awaitSpend m
  else
  match ← ask (.waitForConfirmations .maker (makerPaymentConfInput m self.makerPayment)) with
  | .error e => changeTo m (self.refundRequired (.makerPaymentNotConfirmedInTime e))
  | .ok _ => self.awaitSpend m

end TakerPaymentSentAndPreimageSendingSkipped

namespace TakerFundingRefundRequired

def refundArgs (m : TakerSwapStateMachine) (self : TakerFundingRefundRequired X) :
    RefundFundingSecretArgs X.takerCoin where
  fundingTx := self.takerFunding
  fundingTimeLock := m.takerFundingLocktime
  paymentTimeLock := m.takerPaymentLocktime
  makerPubkey := self.negotiationData.takerCoinHtlcPubFromMaker
  takerSecret := m.takerSecret
  takerSecretHash := m.takerSecretHash X
  makerSecretHash := self.negotiationData.makerSecretHash
  dexFee := m.dexFee X
  premiumAmount := m.takerPremium
  tradingAmount := m.takerVolume
  swapUniqueData := m.uniqueData
  watcherReward := false

def onChanged (m : TakerSwapStateMachine) (self : TakerFundingRefundRequired X) :
    TakerProc X := do
  match ← ask (.refundTakerFundingSecret (self.refundArgs m)) with
  | .error e => abort m (.takerFundingRefundFailed e)
  | .ok fundingRefundTx =>
  changeTo m (.takerFundingRefunded
    { fundingTx := self.takerFunding, fundingRefundTx, reason := self.reason })

end TakerFundingRefundRequired

namespace TakerPaymentRefundRequired

def refundArgs (m : TakerSwapStateMachine) (self : TakerPaymentRefundRequired X) :
    RefundTakerPaymentArgs where
  paymentTx := X.takerCoin.txHex self.takerPayment
  timeLock := m.takerPaymentLocktime
  makerPub := X.takerCoin.pubkeyToBytes self.negotiationData.takerCoinHtlcPubFromMaker
  txTypeWithSecretHash :=
    .takerPaymentV2 self.negotiationData.makerSecretHash (m.takerSecretHash X)
  swapUniqueData := m.uniqueData
  watcherReward := false
  dexFee := m.dexFee X
  premiumAmount := m.takerPremium
  tradingAmount := m.takerVolume

/-- The next pass of the loop on `can_refund_htlc`: nothing is stored. -/
def nextPass (m : TakerSwapStateMachine) (self : TakerPaymentRefundRequired X) : TakerProc X :=
  return .changeState (m, .entered (.takerPaymentRefundRequired self))

def onChanged (m : TakerSwapStateMachine) (self : TakerPaymentRefundRequired X) :
    TakerProc X := do
  match ← ask (.canRefundHtlc .taker m.takerPaymentLocktime) with
  | .ok (.haveToWait toSleep) =>
    let _ ← ask (.sleep toSleep)
    nextPass m self
  | .error _ =>
    let _ ← ask (.sleep 30)
    nextPass m self
  | .ok .canRefundNow =>
  match ← ask (.refundCombinedTakerPayment (self.refundArgs m)) with
  | .error e => abort m (.takerPaymentRefundFailed e)
  | .ok takerPaymentRefund =>
  changeTo m (.takerPaymentRefunded
    { takerPayment := self.takerPayment
      takerPaymentRefund := X.takerCoin.identifier takerPaymentRefund
      reason := self.reason })

end TakerPaymentRefundRequired

namespace TakerPaymentSpent

def spendArgs (m : TakerSwapStateMachine) (self : TakerPaymentSpent X) (secret : Bytes) :
    SpendMakerPaymentArgs X.makerCoin where
  makerPaymentTx := self.makerPayment
  timeLock := self.negotiationData.makerPaymentLocktime
  takerSecretHash := m.takerSecretHash X
  makerSecretHash := self.negotiationData.makerSecretHash
  makerSecret := secret
  makerPub := self.negotiationData.makerCoinHtlcPubFromMaker
  swapUniqueData := m.uniqueData
  amount := m.makerVolume

def onChanged (m : TakerSwapStateMachine) (self : TakerPaymentSpent X) : TakerProc X := do
  match ← ask (.extractSecretV2 self.negotiationData.makerSecretHash
      self.takerPaymentSpend) with
  | .error e => abort m (.couldNotExtractSecret e)
  | .ok secret =>
  match ← ask (.spendMakerPaymentV2 (self.spendArgs m secret)) with
  | .error e => abort m (.failedToSpendMakerPayment e)
  | .ok makerPaymentSpend =>
  changeTo m (.makerPaymentSpent
    { makerCoinStartBlock := self.makerCoinStartBlock
      takerCoinStartBlock := self.takerCoinStartBlock
      makerPayment := self.makerPayment
      takerPayment := self.takerPayment
      takerPaymentSpend := self.takerPaymentSpend
      makerPaymentSpend
      negotiationData := self.negotiationData })

end TakerPaymentSpent

def MakerPaymentSpent.onChanged (m : TakerSwapStateMachine) (self : MakerPaymentSpent X) :
    TakerProc X := do
  if m.requireMakerPaymentSpendConfirm then
    match ← ask (.waitForConfirmations .maker
      { paymentTx := X.makerCoin.txHex self.makerPaymentSpend
        confirmations := m.confSettings.makerCoinConfs
        requiresNota := m.confSettings.makerCoinNota
        waitUntil := m.takerPaymentLocktime
        checkEvery := 10 }) with
    | .error e => changeTo m (.takerPaymentRefundRequired
        { takerPayment := self.takerPayment
          negotiationData := self.negotiationData
          reason := .makerPaymentSpendNotConfirmedInTime e })
    | .ok _ => changeTo m .completed
  else changeTo m .completed

/-- The last states return at once. -/
def TakerState.onChanged (m : TakerSwapStateMachine) : TakerState X → TakerProc X
  | .initialized s => s.onChanged m
  | .negotiated s => s.onChanged m
  | .takerFundingSent s => s.onChanged m
  | .makerPaymentAndFundingSpendPreimgReceived s => s.onChanged m
  | .takerPaymentSent s => s.onChanged m
  | .takerPaymentSentAndPreimageSendingSkipped s => s.onChanged m
  | .takerFundingRefundRequired s => s.onChanged m
  | .takerPaymentRefundRequired s => s.onChanged m
  | .makerPaymentConfirmed s => s.onChanged m
  | .takerPaymentSpent s => s.onChanged m
  | .makerPaymentSpent s => s.onChanged m
  | .aborted _ => return .finish
  | .completed => return .finish
  | .takerFundingRefunded _ => return .finish
  | .takerPaymentRefunded _ => return .finish

def takerSwap (X : External) :
    SwapMachine X TakerSwapStateMachine (TakerState X) TakerSwapEvent TakerSwapDbRepr where
  toDbRepr := TakerSwapStateMachine.toDbRepr X
  onInitialize := onInitialize
  onChanged := TakerState.onChanged
  recreateMachine := recreateMachine X

/-! ## A sample taker -/

abbrev RawCall := Call .raw TakerSwapEvent TakerSwapDbRepr

/-- A taker with an hour and a half of lock. -/
def sampleTaker (requireConfirm : Bool) : TakerSwapStateMachine where
  startedAt := 1700000000
  lockDuration := 5400
  makerVolume := 1
  takerVolume := 1
  takerPremium := 0
  secretHashAlgo := .sha256
  confSettings :=
    { makerCoinConfs := 1, makerCoinNota := false, takerCoinConfs := 1, takerCoinNota := false }
  uuid := 0
  p2pKeypair := none
  takerSecret := [8]
  makerP2pPubkey := []
  requireMakerPaymentConfirmBeforeFundingSpend := requireConfirm
  requireMakerPaymentSpendConfirm := true
  swapVersion := 2

/-- The run of the sample taker in which these events happen. -/
def sampleRun (requireConfirm : Bool) (es : List (Event RawCall Call.Answer)) :
    Config RawCall Call.Answer (World .raw TakerSwapEvent TakerSwapDbRepr)
      (TakerSwapStateMachine × Stage (TakerState .raw)) :=
  (takerSwap .raw).machine.run ((takerSwap .raw).start (sampleTaker requireConfirm) 1700000000) es

def smoothEvents (recorded : Bool) (n : ℕ) : List (Event RawCall Call.Answer) :=
  List.replicate n (.reply (smooth 1700000000 5400 recorded))

end DeXFG.SwapV2.TakerSwap
