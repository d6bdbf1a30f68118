import DeXFG.SwapV2.MakerSwap

/-!
# The code of the maker's states

Each `onChanged` is the `on_changed` of its state, call by call. The loops that
end at a deadline carry a number of passes that suffices to reach it; the loop
on `can_refund_htlc` has no deadline and re-enters its state for the next pass.
-/
namespace DeXFG.SwapV2.MakerSwap
open Ordermatch (MmNumber)
open Library.Process Library.DurableMachine

variable {X : External}

abbrev MakerProc (X : External) :=
  SwapProc X MakerSwapEvent MakerSwapDbRepr (SwapResult MakerSwapStateMachine (MakerState X))

/-- `Self::change_state(next, state_machine)`. -/
def changeTo (m : MakerSwapStateMachine) (next : MakerState X) : MakerProc X :=
  changeState MakerState.getEvent m next

def abort (m : MakerSwapStateMachine) (reason : AbortReason) : MakerProc X :=
  changeTo m (.aborted reason)

/-- `Initialize::on_changed`. -/
def onInitialize (m : MakerSwapStateMachine) : MakerProc X := do
  match ← ask (.currentBlock .maker) with
  | .error e => abort m (.failedToGetMakerCoinBlock e)
  | .ok makerCoinStartBlock =>
  match ← ask (.currentBlock .taker) with
  | .error e => abort m (.failedToGetTakerCoinBlock e)
  | .ok takerCoinStartBlock =>
  match ← ask (.getSenderTradeFee .maker m.makerVolume) with
  | .error e => abort m (.failedToGetMakerPaymentFee e)
  | .ok makerPaymentTradeFee =>
  match ← ask (.getReceiverTradeFee .taker) with
  | .error e => abort m (.failedToGetTakerPaymentSpendFee e)
  | .ok takerPaymentSpendTradeFee =>
  match ← ask (.checkBalanceForMakerSwap m.makerVolume
      { makerPaymentTradeFee, takerPaymentSpendTradeFee }) with
  | .error e => abort m (.balanceCheckFailure e)
  | .ok _ =>
  changeTo m (.initialized
    { makerCoinStartBlock, takerCoinStartBlock, makerPaymentTradeFee, takerPaymentSpendTradeFee })

namespace Initialized

def makerNegotiationMsg (m : MakerSwapStateMachine) (takerCoinAddress : X.takerCoin.Address) :
    MakerNegotiation where
  startedAt := m.startedAt
  paymentLocktime := m.makerPaymentLocktime
  secretHash := m.secretHash X
  makerCoinHtlcPub := X.makerCoin.deriveHtlcPubkeyV2Bytes (m.uniqueData X)
  takerCoinHtlcPub := X.takerCoin.deriveHtlcPubkeyV2Bytes (m.uniqueData X)
  makerCoinSwapContract := X.makerCoin.swapContractAddress
  takerCoinSwapContract := X.takerCoin.swapContractAddress
  takerCoinAddress := X.takerCoin.addrToString takerCoinAddress

/-- The taker's negotiation data that the maker agrees to, or the reason to abort. -/
def negotiate (m : MakerSwapStateMachine) (takerData : TakerNegotiationData) :
    Except AbortReason (NegotiationData X) := do
  let startedAtDiff := absDiff m.startedAt takerData.startedAt
  if startedAtDiff > maxStartedAtDiff then
    throw (.tooLargeStartedAtDiff startedAtDiff)
  let expectedTakerFundingLocktime := takerData.startedAt + 3 * m.lockDuration
  if takerData.fundingLocktime ≠ expectedTakerFundingLocktime then
    throw (.takerProvidedInvalidFundingLocktime takerData.fundingLocktime)
  let expectedTakerPaymentLocktime := takerData.startedAt + m.lockDuration
  if takerData.paymentLocktime ≠ expectedTakerPaymentLocktime then
    throw (.takerProvidedInvalidPaymentLocktime takerData.paymentLocktime)
  let takerCoinHtlcPubFromTaker ←
    (X.takerCoin.parsePubkey takerData.takerCoinHtlcPub).mapError .failedToParsePubkey
  let makerCoinHtlcPubFromTaker ←
    (X.makerCoin.parsePubkey takerData.makerCoinHtlcPub).mapError .failedToParsePubkey
  return {
    takerPaymentLocktime := expectedTakerPaymentLocktime
    takerFundingLocktime := expectedTakerFundingLocktime
    makerCoinHtlcPubFromTaker
    takerCoinHtlcPubFromTaker
    makerCoinSwapContract := takerData.makerCoinSwapContract
    takerCoinSwapContract := takerData.takerCoinSwapContract
    takerSecretHash := takerData.takerSecretHash }

def onChanged (m : MakerSwapStateMachine) (self : Initialized) : MakerProc X := do
  let takerCoinAddress ← ask .myAddr
  let _ ← ask (.broadcastSwapV2MsgEvery (.makerNegotiation (makerNegotiationMsg m takerCoinAddress))
    negotiateSendInterval)
  match ← recvSwapV2Msg .takerNegotiation negotiationTimeoutSec with
  | .error e => abort m (.didNotReceiveTakerNegotiation e)
  | .ok takerNegotiation =>
  match takerNegotiation.action with
  | none => abort m .receivedInvalidTakerNegotiation
  | some (.abort reason) => abort m (.takerAbortedNegotiation reason)
  | some (.continue takerData) =>
  match negotiate m takerData with
  | .error reason => abort m reason
  | .ok negotiationData =>
  changeTo m (.waitingForTakerFunding
    { makerCoinStartBlock := self.makerCoinStartBlock
      takerCoinStartBlock := self.takerCoinStartBlock
      negotiationData
      makerPaymentTradeFee := self.makerPaymentTradeFee })

end Initialized

def WaitingForTakerFunding.onChanged (m : MakerSwapStateMachine)
    (self : WaitingForTakerFunding X) : MakerProc X := do
  let _ ← ask (.broadcastSwapV2MsgEvery (.makerNegotiated { negotiated := true, reason := none })
    negotiateSendInterval)
  match ← recvSwapV2Msg .takerFunding negotiationTimeoutSec with
  | .error e => abort m (.didNotReceiveTakerFundingInfo e)
  | .ok takerFundingInfo =>
  match X.takerCoin.parseTx takerFundingInfo.txBytes with
  | .error e => abort m (.failedToParseTakerFunding e)
  | .ok takerFunding =>
  changeTo m (.takerFundingReceived
    { makerCoinStartBlock := self.makerCoinStartBlock
      takerCoinStartBlock := self.takerCoinStartBlock
      negotiationData := self.negotiationData
      takerFunding
      makerPaymentTradeFee := self.makerPaymentTradeFee })

namespace TakerFundingReceived

def validationArgs (m : MakerSwapStateMachine) (self : TakerFundingReceived X) :
    ValidateTakerFundingArgs X.takerCoin where
  fundingTx := self.takerFunding
  paymentTimeLock := self.negotiationData.takerPaymentLocktime
  fundingTimeLock := self.negotiationData.takerFundingLocktime
  takerSecretHash := self.negotiationData.takerSecretHash
  makerSecretHash := m.secretHash X
  takerPub := self.negotiationData.takerCoinHtlcPubFromTaker
  dexFee := m.dexFeeUpdated X
    (X.takerCoin.pubkeyToBytes self.negotiationData.takerCoinHtlcPubFromTaker)
  premiumAmount := m.takerPremium
  tradingAmount := m.takerVolume
  swapUniqueData := m.uniqueData X

def genTakerFundingSpendArgs (m : MakerSwapStateMachine) (self : TakerFundingReceived X) :
    GenTakerFundingSpendArgs X.takerCoin where
  fundingTx := self.takerFunding
  makerPub := X.takerCoin.deriveHtlcPubkeyV2 (m.uniqueData X)
  takerPub := self.negotiationData.takerCoinHtlcPubFromTaker
  fundingTimeLock := self.negotiationData.takerFundingLocktime
  takerSecretHash := self.negotiationData.takerSecretHash
  takerPaymentTimeLock := self.negotiationData.takerPaymentLocktime
  makerSecretHash := m.secretHash X

def sendMakerPaymentArgs (m : MakerSwapStateMachine) (self : TakerFundingReceived X) :
    SendMakerPaymentArgs X.makerCoin where
  timeLock := m.makerPaymentLocktime
  makerSecretHash := m.secretHash X
  takerSecretHash := self.negotiationData.takerSecretHash
  takerPub := self.negotiationData.makerCoinHtlcPubFromTaker
  amount := m.makerVolume
  swapUniqueData := m.uniqueData X

/-- The gate on the taker funding: confirmed, or at least visible; otherwise the error. -/
def fundingGate (m : MakerSwapStateMachine) (self : TakerFundingReceived X) :
    SwapProc X MakerSwapEvent MakerSwapDbRepr (Except String Unit) := do
  let visible ← ask (.ensureTxIsBroadcasted .taker (X.takerCoin.txHashAsBytes self.takerFunding)
    (X.takerCoin.txHex self.takerFunding) swapTxVisibilityGraceSecs swapTxVisibilityPollSecs)
  let confirmations := m.takerFundingRequiredConfirmations
  if confirmations > 0 then
    match ← ask (.waitForConfirmations .taker
      { paymentTx := X.takerCoin.txHex self.takerFunding
        confirmations
        requiresNota := m.confSettings.takerCoinNota
        waitUntil := m.makerPaymentLocktime
        checkEvery := 10 }) with
    | .error e => return .error ("Taker funding wasn't confirmed in time: " ++ e)
    | .ok _ => return .ok ()
  else if visible then
    return .ok ()
  else
    return .error
      "Taker funding transaction is not visible on network even after fallback rebroadcast"

def onChanged (m : MakerSwapStateMachine) (self : TakerFundingReceived X) : MakerProc X := do
  match ← ask (.validateTakerFunding (self.validationArgs m)) with
  | .error e => abort m (.takerFundingValidationFailed e)
  | .ok _ =>
  match ← self.fundingGate m with
  | .error e => abort m (.takerFundingValidationFailed e)
  | .ok _ =>
  match ← ask (.genTakerFundingSpendPreimage (self.genTakerFundingSpendArgs m)
      (m.uniqueData X)) with
  | .error e => abort m (.failedToGenerateFundingSpend e)
  | .ok fundingSpendPreimage =>
  match ← ask (.sendMakerPaymentV2 (self.sendMakerPaymentArgs m)) with
  | .error e => abort m (.failedToSendMakerPayment e)
  | .ok makerPayment =>
  changeTo m (.makerPaymentSentFundingSpendGenerated
    { makerCoinStartBlock := self.makerCoinStartBlock
      takerCoinStartBlock := self.takerCoinStartBlock
      negotiationData := self.negotiationData
      takerFunding := self.takerFunding
      fundingSpendPreimage
      makerPayment })

end TakerFundingReceived

namespace MakerPaymentSentFundingSpendGenerated

def makerPaymentInfo (self : MakerPaymentSentFundingSpendGenerated X) : MakerPaymentInfo where
  txBytes := X.makerCoin.txHex self.makerPayment
  nextStepInstructions := none
  fundingPreimageSig := X.takerCoin.sigToBytes self.fundingSpendPreimage.signature
  fundingPreimageTx := X.takerCoin.preimageToBytes self.fundingSpendPreimage.preimage

def refundRequired (self : MakerPaymentSentFundingSpendGenerated X)
    (reason : MakerPaymentRefundReason) : MakerState X :=
  .makerPaymentRefundRequired
    { makerCoinStartBlock := self.makerCoinStartBlock
      takerCoinStartBlock := self.takerCoinStartBlock
      negotiationData := self.negotiationData
      makerPayment := self.makerPayment
      reason }

/-- The state after the taker payment was found. -/
def received (self : MakerPaymentSentFundingSpendGenerated X) (takerPayment : X.takerCoin.Tx) :
    MakerState X :=
  if X.takerCoin.skipTakerPaymentSpendPreimage then
    .takerPaymentReceivedAndPreimageValidationSkipped
      { makerCoinStartBlock := self.makerCoinStartBlock
        takerCoinStartBlock := self.takerCoinStartBlock
        makerPayment := self.makerPayment
        takerPayment
        negotiationData := self.negotiationData }
  else
    .takerPaymentReceived
      { makerCoinStartBlock := self.makerCoinStartBlock
        takerCoinStartBlock := self.takerCoinStartBlock
        makerPayment := self.makerPayment
        takerPayment
        negotiationData := self.negotiationData }

/-- The search for the spend of the taker funding. -/
def searchLoop (m : MakerSwapStateMachine) (self : MakerPaymentSentFundingSpendGenerated X)
    (waitUntil : ℕ) : ℕ → MakerProc X
  | 0 => changeTo m (self.refundRequired .takerFundingNotSpentInTime)
  | passes + 1 => do
    let now ← nowSec
    if now > waitUntil then
      changeTo m (self.refundRequired .takerFundingNotSpentInTime)
    else
    match ← ask (.searchForTakerFundingSpend self.takerFunding self.takerCoinStartBlock
        self.negotiationData.takerSecretHash) with
    | .ok (some (.transferredToTakerPayment takerPayment)) =>
      changeTo m (self.received takerPayment)
    | .ok (some (.refundedTimelock _)) =>
      changeTo m (self.refundRequired .takerFundingReclaimedTimelock)
    | .ok (some (.refundedSecret _ secret)) =>
      changeTo m (self.refundRequired (.takerFundingReclaimedSecret secret))
    | .ok none =>
      let _ ← ask (.sleep 30)
      searchLoop m self waitUntil passes
    | .error (.rpc _) =>
      let _ ← ask (.sleep 30)
      searchLoop m self waitUntil passes
    | .error e => changeTo m (self.refundRequired (.errorOnTakerFundingSpendSearch e.debug))

def onChanged (m : MakerSwapStateMachine) (self : MakerPaymentSentFundingSpendGenerated X) :
    MakerProc X := do
  let _ ← ask (.broadcastSwapV2MsgEvery (.makerPaymentInfo self.makerPaymentInfo) 600)
  let waitUntil := m.startedAt + m.lockDuration * 2 / 3
  -- a pass sleeps for half a minute: this many bring the clock beyond the deadline
  searchLoop m self waitUntil (waitUntil + 1)

end MakerPaymentSentFundingSpendGenerated

namespace MakerPaymentRefundRequired

def secretArgs (m : MakerSwapStateMachine) (self : MakerPaymentRefundRequired X)
    (secret : Bytes) : RefundMakerPaymentSecretArgs X.makerCoin where
  makerPaymentTx := self.makerPayment
  timeLock := m.makerPaymentLocktime
  takerSecretHash := self.negotiationData.takerSecretHash
  makerSecretHash := m.secretHash X
  takerSecret := secret
  takerPub := self.negotiationData.makerCoinHtlcPubFromTaker
  swapUniqueData := m.uniqueData X
  amount := m.makerVolume

def timelockArgs (m : MakerSwapStateMachine) (self : MakerPaymentRefundRequired X) :
    RefundMakerPaymentTimelockArgs where
  paymentTx := X.makerCoin.txHex self.makerPayment
  timeLock := m.makerPaymentLocktime
  takerPub := X.makerCoin.pubkeyToBytes self.negotiationData.makerCoinHtlcPubFromTaker
  txTypeWithSecretHash := .makerPaymentV2 (m.secretHash X) self.negotiationData.takerSecretHash
  swapUniqueData := m.uniqueData X
  watcherReward := false
  amount := m.makerVolume

def refunded (self : MakerPaymentRefundRequired X) (makerPaymentRefund : X.makerCoin.Tx) :
    MakerState X :=
  .makerPaymentRefunded
    { makerPayment := self.makerPayment, makerPaymentRefund, reason := self.reason }

/-- The next pass of the loop: nothing is stored, and the test on the reason comes out the same. -/
def nextPass (m : MakerSwapStateMachine) (self : MakerPaymentRefundRequired X) : MakerProc X :=
  return .changeState (m, .entered (.makerPaymentRefundRequired self))

def onChanged (m : MakerSwapStateMachine) (self : MakerPaymentRefundRequired X) :
    MakerProc X := do
  match self.reason with
  | .takerFundingReclaimedSecret secret =>
    match ← ask (.refundMakerPaymentV2Secret (self.secretArgs m secret)) with
    | .error e => abort m (.makerPaymentRefundFailed e)
    | .ok makerPaymentRefund => changeTo m (self.refunded makerPaymentRefund)
  | _ =>
    match ← ask (.canRefundHtlc .maker m.makerPaymentLocktime) with
    | .ok (.haveToWait toSleep) =>
      let _ ← ask (.sleep toSleep)
      nextPass m self
    | .error _ =>
      let _ ← ask (.sleep 30)
      nextPass m self
    | .ok .canRefundNow =>
      match ← ask (.refundMakerPaymentV2Timelock (self.timelockArgs m)) with
      | .error e => abort m (.makerPaymentRefundFailed e)
      | .ok makerPaymentRefund => changeTo m (self.refunded makerPaymentRefund)

end MakerPaymentRefundRequired

/-- The input of the wait for the taker payment, the same in both states that make it. -/
def takerPaymentConfInput (m : MakerSwapStateMachine) (takerPayment : X.takerCoin.Tx) :
    ConfirmPaymentInput where
  paymentTx := X.takerCoin.txHex takerPayment
  confirmations := m.confSettings.takerCoinConfs
  requiresNota := m.confSettings.takerCoinNota
  waitUntil := m.takerPaymentConfTimeout
  checkEvery := 10

/-- `gen_args`, the same in both states that spend the taker payment. -/
def genTakerPaymentSpendArgs (m : MakerSwapStateMachine) (takerPayment : X.takerCoin.Tx)
    (negotiationData : NegotiationData X) (makerAddress : X.takerCoin.Address) :
    GenTakerPaymentSpendArgs X.takerCoin where
  takerTx := takerPayment
  timeLock := negotiationData.takerPaymentLocktime
  makerSecretHash := m.secretHash X
  makerPub := X.takerCoin.deriveHtlcPubkeyV2 (m.uniqueData X)
  makerAddress := makerAddress
  takerPub := negotiationData.takerCoinHtlcPubFromTaker
  dexFee := m.dexFeeUpdated X (X.takerCoin.pubkeyToBytes negotiationData.takerCoinHtlcPubFromTaker)
  premiumAmount := 0
  tradingAmount := m.takerVolume

namespace TakerPaymentReceived

def refundRequired (self : TakerPaymentReceived X) (reason : MakerPaymentRefundReason) :
    MakerState X :=
  .makerPaymentRefundRequired
    { makerCoinStartBlock := self.makerCoinStartBlock
      takerCoinStartBlock := self.takerCoinStartBlock
      negotiationData := self.negotiationData
      makerPayment := self.makerPayment
      reason }

def spent (self : TakerPaymentReceived X) (takerPaymentSpend : X.takerCoin.Tx) : MakerState X :=
  .takerPaymentSpent
    { makerCoinStartBlock := self.makerCoinStartBlock
      takerCoinStartBlock := self.takerCoinStartBlock
      makerPayment := self.makerPayment
      takerPayment := self.takerPayment
      takerPaymentSpend
      negotiationData := self.negotiationData }

def onChanged (m : MakerSwapStateMachine) (self : TakerPaymentReceived X) : MakerProc X := do
  match ← ask (.waitForConfirmations .taker (takerPaymentConfInput m self.takerPayment)) with
  | .error e => changeTo m (self.refundRequired (.takerPaymentNotConfirmedInTime e))
  | .ok _ =>
  -- the timeout is a point in time here, in all other states it is a duration
  match ← recvSwapV2Msg .takerPaymentSpendPreimage m.takerPaymentConfTimeout with
  | .error e => changeTo m (self.refundRequired (.didNotGetTakerPaymentSpendPreimage e))
  | .ok preimageData =>
  let makerAddress ← ask .myAddr
  let genArgs := genTakerPaymentSpendArgs m self.takerPayment self.negotiationData makerAddress
  match X.takerCoin.parsePreimage preimageData.txPreimage with
  | .error e => changeTo m (self.refundRequired (.failedToParseTakerPreimage e))
  | .ok preimage =>
  match X.takerCoin.parseSignature preimageData.signature with
  | .error e => changeTo m (self.refundRequired (.failedToParseTakerSignature e))
  | .ok signature =>
  match ← ask (.validateTakerPaymentSpendPreimage genArgs ⟨preimage, signature⟩) with
  | .error e => changeTo m (self.refundRequired (.takerPaymentSpendPreimageIsNotValid e))
  | .ok _ =>
  match ← ask (.signAndBroadcastTakerPaymentSpend (some ⟨preimage, signature⟩) genArgs m.secret
      (m.uniqueData X)) with
  | .error e => changeTo m (self.refundRequired (.takerPaymentSpendBroadcastFailed e))
  | .ok takerPaymentSpend => changeTo m (self.spent takerPaymentSpend)

end TakerPaymentReceived

namespace TakerPaymentReceivedAndPreimageValidationSkipped

def refundRequired (self : TakerPaymentReceivedAndPreimageValidationSkipped X)
    (reason : MakerPaymentRefundReason) : MakerState X :=
  .makerPaymentRefundRequired
    { makerCoinStartBlock := self.makerCoinStartBlock
      takerCoinStartBlock := self.takerCoinStartBlock
      negotiationData := self.negotiationData
      makerPayment := self.makerPayment
      reason }

def spent (self : TakerPaymentReceivedAndPreimageValidationSkipped X)
    (takerPaymentSpend : X.takerCoin.Tx) : MakerState X :=
  .takerPaymentSpent
    { makerCoinStartBlock := self.makerCoinStartBlock
      takerCoinStartBlock := self.takerCoinStartBlock
      makerPayment := self.makerPayment
      takerPayment := self.takerPayment
      takerPaymentSpend
      negotiationData := self.negotiationData }

def onChanged (m : MakerSwapStateMachine)
    (self : TakerPaymentReceivedAndPreimageValidationSkipped X) : MakerProc X := do
  match ← ask (.waitForConfirmations .taker (takerPaymentConfInput m self.takerPayment)) with
  | .error e => changeTo m (self.refundRequired (.takerPaymentNotConfirmedInTime e))
  | .ok _ =>
  let makerAddress ← ask .myAddr
  let genArgs := genTakerPaymentSpendArgs m self.takerPayment self.negotiationData makerAddress
  match ← ask (.signAndBroadcastTakerPaymentSpend none genArgs m.secret []) with
  | .error e => changeTo m (self.refundRequired (.takerPaymentSpendBroadcastFailed e))
  | .ok takerPaymentSpend => changeTo m (self.spent takerPaymentSpend)

end TakerPaymentReceivedAndPreimageValidationSkipped

def TakerPaymentSpent.onChanged (m : MakerSwapStateMachine) (self : TakerPaymentSpent X) :
    MakerProc X := do
  if m.requireTakerPaymentSpendConfirm then
    match ← ask (.waitForConfirmations .taker
      { paymentTx := X.takerCoin.txHex self.takerPaymentSpend
        confirmations := m.confSettings.takerCoinConfs
        requiresNota := m.confSettings.takerCoinNota
        waitUntil := m.makerPaymentLocktime
        checkEvery := 10 }) with
    | .error e => changeTo m (.makerPaymentRefundRequired
        { makerCoinStartBlock := self.makerCoinStartBlock
          takerCoinStartBlock := self.takerCoinStartBlock
          negotiationData := self.negotiationData
          makerPayment := self.makerPayment
          reason := .takerPaymentSpendNotConfirmedInTime e })
    | .ok _ => changeTo m .completed
  else changeTo m .completed

/-- The last states return at once. -/
def MakerState.onChanged (m : MakerSwapStateMachine) : MakerState X → MakerProc X
  | .initialized s => s.onChanged m
  | .waitingForTakerFunding s => s.onChanged m
  | .takerFundingReceived s => s.onChanged m
  | .makerPaymentSentFundingSpendGenerated s => s.onChanged m
  | .makerPaymentRefundRequired s => s.onChanged m
  | .takerPaymentReceived s => s.onChanged m
  | .takerPaymentReceivedAndPreimageValidationSkipped s => s.onChanged m
  | .takerPaymentSpent s => s.onChanged m
  | .aborted _ => return .finish
  | .completed => return .finish
  | .makerPaymentRefunded _ => return .finish

def makerSwap (X : External) :
    SwapMachine X MakerSwapStateMachine (MakerState X) MakerSwapEvent MakerSwapDbRepr where
  toDbRepr := MakerSwapStateMachine.toDbRepr X
  onInitialize := onInitialize
  onChanged := MakerState.onChanged
  recreateMachine := recreateMachine X

/-! ## A sample maker -/

abbrev RawCall := Call .raw MakerSwapEvent MakerSwapDbRepr

/-- A maker with an hour and a half of lock. -/
def sampleMaker (startedAt : ℕ) : MakerSwapStateMachine where
  makerVolume := 1
  secret := [9]
  secretHashAlgo := .sha256
  startedAt := startedAt
  lockDuration := 5400
  takerVolume := 1
  takerPremium := 0
  confSettings :=
    { makerCoinConfs := 1, makerCoinNota := false, takerCoinConfs := 1, takerCoinNota := false }
  uuid := 0
  p2pKeypair := none
  takerP2pPubkey := []
  requireTakerFundingConfirmBeforeMakerPayment := false
  requireTakerPaymentSpendConfirm := true
  swapVersion := 2

/-- The run of the sample maker in which these events happen. -/
def sampleRun (startedAt : ℕ) (es : List (Event RawCall Call.Answer)) :
    Config RawCall Call.Answer (World .raw MakerSwapEvent MakerSwapDbRepr)
      (MakerSwapStateMachine × Stage (MakerState .raw)) :=
  (makerSwap .raw).machine.run ((makerSwap .raw).start (sampleMaker startedAt) startedAt) es

def smoothEvents (startedAt : ℕ) (recorded : Bool) (n : ℕ) :
    List (Event RawCall Call.Answer) :=
  List.replicate n (.reply (smooth startedAt 5400 recorded))

end DeXFG.SwapV2.MakerSwap
