import DeXFG.LegacySwap.TakerRestart

/-!
# The legacy maker swap

The commands of the maker, the restart from saved events and the recovery of the
maker's funds.
-/
namespace DeXFG.LegacySwap
open Ordermatch (MmNumber Uuid)
open SwapV2 (DexFee Side TransactionIdentifier CanRefundHtlc SwapConfirmationsSettings absDiff
  maxStartedAtDiff)
open Library.Process Library.EventSourced

structure TakerNegotiationData where
  takerPaymentLocktime : ℕ
  takerPubkey : Bytes
  makerCoinSwapContractAddr : Option Bytes
  takerCoinSwapContractAddr : Option Bytes
  makerCoinHtlcPubkey : Option Bytes
  takerCoinHtlcPubkey : Option Bytes
  deriving DecidableEq

namespace TakerNegotiationData

def otherMakerCoinHtlcPub (d : TakerNegotiationData) : Bytes :=
  d.makerCoinHtlcPubkey.getD d.takerPubkey

def otherTakerCoinHtlcPub (d : TakerNegotiationData) : Bytes :=
  d.takerCoinHtlcPubkey.getD d.takerPubkey

end TakerNegotiationData

structure MakerSwapData where
  takerCoin : String := ""
  makerCoin : String := ""
  takerPubkey : Bytes := h256Default
  secret : Bytes := h256Default
  secretHash : Option Bytes := none
  myPersistentPub : Bytes := h264Default
  lockDuration : ℕ := 0
  makerAmount : ℚ := 0
  takerAmount : ℚ := 0
  makerPaymentConfirmations : ℕ := 0
  makerPaymentRequiresNota : Option Bool := none
  takerPaymentConfirmations : ℕ := 0
  takerPaymentRequiresNota : Option Bool := none
  makerPaymentLock : ℕ := 0
  uuid : Uuid := 0
  startedAt : ℕ := 0
  makerCoinStartBlock : ℕ := 0
  takerCoinStartBlock : ℕ := 0
  makerCoinSwapContractAddress : Option Bytes := none
  takerCoinSwapContractAddress : Option Bytes := none
  makerCoinHtlcPubkey : Option Bytes := none
  takerCoinHtlcPubkey : Option Bytes := none
  deriving DecidableEq

inductive MakerSwapEvent where
  | started (data : MakerSwapData)
  | startFailed (err : SwapError)
  | negotiated (data : TakerNegotiationData)
  | negotiateFailed (err : SwapError)
  | makerPaymentInstructionsReceived (instructions : Option PaymentInstructions)
  | takerFeeValidated (tx : TransactionIdentifier)
  | takerFeeValidateFailed (err : SwapError)
  | makerPaymentSent (tx : TransactionIdentifier)
  | makerPaymentTransactionFailed (err : SwapError)
  | makerPaymentDataSendFailed (err : SwapError)
  | makerPaymentWaitConfirmFailed (err : SwapError)
  | takerPaymentReceived (tx : TransactionIdentifier)
  | takerPaymentWaitConfirmStarted
  | takerPaymentValidatedAndConfirmed
  | takerPaymentValidateFailed (err : SwapError)
  | takerPaymentWaitConfirmFailed (err : SwapError)
  | takerPaymentSpent (tx : TransactionIdentifier)
  | takerPaymentSpendFailed (err : SwapError)
  | takerPaymentSpendConfirmStarted
  | takerPaymentSpendConfirmed
  | takerPaymentSpendConfirmFailed (err : SwapError)
  | makerPaymentWaitRefundStarted (waitUntil : ℕ)
  | makerPaymentRefundStarted
  | makerPaymentRefunded (tx : Option TransactionIdentifier)
  | makerPaymentRefundFailed (err : SwapError)
  | makerPaymentRefundFinished
  | finished
  deriving DecidableEq

inductive MakerSwapCommand where
  | start
  | negotiate
  | waitForTakerFee
  | sendPayment
  | waitForTakerPayment
  | validateTakerPayment
  | spendTakerPayment
  | confirmTakerPaymentSpend
  | prepareForMakerPaymentRefund
  | refundMakerPayment
  | finalizeMakerPaymentRefund
  | finish
  deriving DecidableEq, Repr

/-- `MakerSavedEvent::get_command`. -/
def MakerSwapEvent.getCommand : MakerSwapEvent → Option MakerSwapCommand
  | .started _ => some .negotiate
  | .startFailed _ => some .finish
  | .negotiated _ => some .waitForTakerFee
  | .makerPaymentInstructionsReceived _ => some .waitForTakerFee
  | .negotiateFailed _ => some .finish
  | .takerFeeValidated _ => some .sendPayment
  | .takerFeeValidateFailed _ => some .finish
  | .makerPaymentSent _ => some .waitForTakerPayment
  | .makerPaymentTransactionFailed _ => some .finish
  | .makerPaymentDataSendFailed _ => some .prepareForMakerPaymentRefund
  | .makerPaymentWaitConfirmFailed _ => some .prepareForMakerPaymentRefund
  | .takerPaymentReceived _ => some .validateTakerPayment
  | .takerPaymentWaitConfirmStarted => some .validateTakerPayment
  | .takerPaymentValidatedAndConfirmed => some .spendTakerPayment
  | .takerPaymentValidateFailed _ => some .prepareForMakerPaymentRefund
  | .takerPaymentWaitConfirmFailed _ => some .prepareForMakerPaymentRefund
  | .takerPaymentSpent _ => some .confirmTakerPaymentSpend
  | .takerPaymentSpendFailed _ => some .prepareForMakerPaymentRefund
  | .takerPaymentSpendConfirmStarted => some .confirmTakerPaymentSpend
  | .takerPaymentSpendConfirmed => some .finish
  | .takerPaymentSpendConfirmFailed _ => some .prepareForMakerPaymentRefund
  | .makerPaymentWaitRefundStarted _ => some .prepareForMakerPaymentRefund
  | .makerPaymentRefundStarted => some .refundMakerPayment
  | .makerPaymentRefunded _ => some .finalizeMakerPaymentRefund
  | .makerPaymentRefundFailed _ => some .finish
  | .makerPaymentRefundFinished => some .finish
  | .finished => none

/-- The events of a `MakerSavedSwap`. -/
abbrev MakerSavedSwap := List MakerSwapEvent

namespace MakerSavedSwap

def isFinished (saved : MakerSavedSwap) : Bool := saved.getLast? == some .finished

/-- The events after which nothing is left to recover. -/
def settles : MakerSwapEvent → Bool
  | .startFailed _ => true
  | .negotiateFailed _ => true
  | .takerFeeValidateFailed _ => true
  | .takerPaymentSpendConfirmed => true
  | .makerPaymentRefunded _ => true
  | _ => false

def isRecoverable (saved : MakerSavedSwap) : Bool := saved.isFinished && !saved.any settles

end MakerSavedSwap

/-! ## The swap in memory -/

structure MakerSwapMut where
  data : MakerSwapData := {}
  otherMakerCoinHtlcPub : Bytes := h264Default
  otherTakerCoinHtlcPub : Bytes := h264Default
  takerFee : Option TransactionIdentifier := none
  makerPayment : Option TransactionIdentifier := none
  takerPayment : Option TransactionIdentifier := none
  takerPaymentSpend : Option TransactionIdentifier := none
  takerPaymentSpendConfirmed : Bool := false
  makerPaymentRefund : Option TransactionIdentifier := none
  paymentInstructions : Option PaymentInstructions := none
  watcherReward : Bool := false
  deriving DecidableEq

structure MakerSwap where
  makerAmount : MmNumber
  takerAmount : MmNumber
  myPersistentPub : Bytes
  takerPubkey : Bytes
  uuid : Uuid
  takerPaymentLock : ℕ := 0
  takerPaymentConfirmed : Bool := false
  errors : List SwapError := []
  finishedAt : ℕ := 0
  mutable : MakerSwapMut := {}
  confSettings : SwapConfirmationsSettings
  paymentLocktime : ℕ
  secret : Bytes
  deriving DecidableEq

namespace MakerSwap

section

variable (X : SwapEnv) (s : MakerSwap)

def secretHash : Bytes := s.mutable.data.secretHash.getD (X.hashSecret s.secret)

def myMakerCoinHtlcPub : Bytes := s.mutable.data.makerCoinHtlcPubkey.getD s.myPersistentPub

def myTakerCoinHtlcPub : Bytes := s.mutable.data.takerCoinHtlcPubkey.getD s.myPersistentPub

def waitRefundUntil : ℕ := s.mutable.data.makerPaymentLock + 3700

def uniqueSwapData : Bytes := secretHash X s

def watcherRewardAmount : Option ℚ :=
  match s.mutable.paymentInstructions with
  | some (.watcherReward reward) => some reward
  | _ => none

end

/-- A field of the lock that a write replaces. -/
def w (s : MakerSwap) (f : MakerSwapMut → MakerSwapMut) : MakerSwap :=
  { s with mutable := f s.mutable }

def pushError (s : MakerSwap) (err : SwapError) : MakerSwap := { s with errors := s.errors ++ [err] }

/-- What the negotiated contract addresses make of the data. -/
def withNegotiatedAddrs (d : MakerSwapData) (maker taker : Option Bytes) : MakerSwapData :=
  { d with
    makerCoinSwapContractAddress := maker.or d.makerCoinSwapContractAddress
    takerCoinSwapContractAddress := taker.or d.takerCoinSwapContractAddress }

def applyEvent (now : ℕ) (s : MakerSwap) : MakerSwapEvent → MakerSwap
  | .started data => s.w ({ · with data })
  | .startFailed err => s.pushError err
  | .negotiated data =>
    { s with takerPaymentLock := data.takerPaymentLocktime }.w fun m =>
      { m with
        otherMakerCoinHtlcPub := data.otherMakerCoinHtlcPub
        otherTakerCoinHtlcPub := data.otherTakerCoinHtlcPub
        data := withNegotiatedAddrs m.data data.makerCoinSwapContractAddr
          data.takerCoinSwapContractAddr }
  | .negotiateFailed err => s.pushError err
  | .makerPaymentInstructionsReceived instructions =>
    s.w ({ · with paymentInstructions := instructions })
  | .takerFeeValidated tx => s.w ({ · with takerFee := some tx })
  | .takerFeeValidateFailed err => s.pushError err
  | .makerPaymentSent tx => s.w ({ · with makerPayment := some tx })
  | .makerPaymentTransactionFailed err => s.pushError err
  | .makerPaymentDataSendFailed err => s.pushError err
  | .makerPaymentWaitConfirmFailed err => s.pushError err
  | .takerPaymentReceived tx => s.w ({ · with takerPayment := some tx })
  | .takerPaymentWaitConfirmStarted => s
  | .takerPaymentValidatedAndConfirmed => { s with takerPaymentConfirmed := true }
  | .takerPaymentValidateFailed err => s.pushError err
  | .takerPaymentWaitConfirmFailed err => s.pushError err
  | .takerPaymentSpent tx => s.w ({ · with takerPaymentSpend := some tx })
  | .takerPaymentSpendFailed err => s.pushError err
  | .takerPaymentSpendConfirmStarted => s
  | .takerPaymentSpendConfirmed => s.w ({ · with takerPaymentSpendConfirmed := true })
  | .takerPaymentSpendConfirmFailed err => s.pushError err
  | .makerPaymentWaitRefundStarted _ => s
  | .makerPaymentRefundStarted => s
  | .makerPaymentRefunded tx => s.w ({ · with makerPaymentRefund := tx })
  | .makerPaymentRefundFailed err => s.pushError err
  | .makerPaymentRefundFinished => s
  | .finished => { s with finishedAt := now }

end MakerSwap

/-! ## Commands -/

abbrev MakerProc := SwapProc (HandleResult MakerSwap MakerSwapEvent MakerSwapCommand)

namespace MakerSwap
open SwapCall (ask)
open TakerSwap (broadcastErrTx)

variable (X : SwapEnv) (s : MakerSwap)

def goOn (next : MakerSwapCommand) (events : List MakerSwapEvent) : MakerProc :=
  return .ok (s, some next, events)

/-- A failure that ends the swap. -/
def finishWith (event : MakerSwapEvent) : MakerProc := goOn s .finish [event]

/-- A failure that ends in the refund of the maker payment. -/
def refundAfter (event : MakerSwapEvent) : MakerProc :=
  goOn s .prepareForMakerPaymentRefund
    [event, .makerPaymentWaitRefundStarted s.waitRefundUntil]

def getMyNegotiationData : NegotiationDataMsg :=
  let data := s.mutable.data
  let makerCoinSwapContract := X.makerCoin.swapContractAddress.getD []
  let takerCoinSwapContract := X.takerCoin.swapContractAddress.getD []
  if data.makerCoinHtlcPubkey = data.takerCoinHtlcPubkey ∧
      data.makerCoinHtlcPubkey = some data.myPersistentPub then
    .v2 data.startedAt data.makerPaymentLock (secretHash X s) data.myPersistentPub
      makerCoinSwapContract takerCoinSwapContract
  else
    .v3 data.startedAt data.makerPaymentLock (secretHash X s) makerCoinSwapContract
      takerCoinSwapContract s.myMakerCoinHtlcPub s.myTakerCoinHtlcPub

/-- `get_my_payment_data`, from the maker payment. -/
def getMyPaymentData (makerPayment : TransactionIdentifier) :
    SwapProc (Except String SwapTxDataMsg) := do
  match ← ask (.takerPaymentInstructions
      { secretHash := X.sha256 s.secret
        amount := X.toDecimal s.takerAmount
        expiresIn := takerPaymentSpendDuration s.mutable.data.lockDuration }) with
  | .error e => return .error e
  | .ok instructions => return .ok (.new makerPayment.txHex instructions)

def start : MakerProc := do
  match ← ask (.getSenderTradeFee .maker (X.toDecimal s.makerAmount)) with
  | .error e => finishWith s (.startFailed s!"!maker_coin.get_sender_trade_fee {e}")
  | .ok _ =>
  match ← ask (.getReceiverTradeFee .taker) with
  | .error e => finishWith s (.startFailed s!"!taker_coin.get_receiver_trade_fee {e}")
  | .ok _ =>
  match ← ask (.checkBalanceForMakerSwap s.makerAmount) with
  | .error e => finishWith s (.startFailed s!"!check_balance_for_maker_swap {e}")
  | .ok _ =>
  let startedAt ← nowSec
  match ← ask (.currentBlock .maker) with
  | .error e => finishWith s (.startFailed s!"!maker_coin.current_block {e}")
  | .ok makerCoinStartBlock =>
  match ← ask (.currentBlock .taker) with
  | .error e => finishWith s (.startFailed s!"!taker_coin.current_block {e}")
  | .ok takerCoinStartBlock =>
  let data : MakerSwapData :=
    { takerCoin := X.takerCoin.ticker
      makerCoin := X.makerCoin.ticker
      takerPubkey := s.takerPubkey
      secret := s.secret
      secretHash := some (secretHash X s)
      startedAt
      lockDuration := s.paymentLocktime
      makerAmount := X.toDecimal s.makerAmount
      takerAmount := X.toDecimal s.takerAmount
      makerPaymentConfirmations := s.confSettings.makerCoinConfs
      makerPaymentRequiresNota := some s.confSettings.makerCoinNota
      takerPaymentConfirmations := s.confSettings.takerCoinConfs
      takerPaymentRequiresNota := some s.confSettings.takerCoinNota
      makerPaymentLock := startedAt + X.makerLockDuration s.paymentLocktime
      myPersistentPub := s.myPersistentPub
      uuid := s.uuid
      makerCoinStartBlock
      takerCoinStartBlock
      makerCoinSwapContractAddress := X.makerCoin.swapContractAddress
      takerCoinSwapContractAddress := X.takerCoin.swapContractAddress
      makerCoinHtlcPubkey := some (X.makerCoin.deriveHtlcPubkey (uniqueSwapData X s))
      takerCoinHtlcPubkey := some (X.takerCoin.deriveHtlcPubkey (uniqueSwapData X s)) }
  let watcherReward ← ask .useWatcherReward
  goOn (s.w ({ · with watcherReward })) .negotiate [.started data]

/-- The checks of the taker's negotiation data, and the negotiated contract addresses. -/
def checkTakerData (takerData : NegotiationDataMsg) :
    Except SwapError (Option Bytes × Option Bytes) := do
  let data := s.mutable.data
  let timeDif := absDiff data.startedAt takerData.startedAt
  if timeDif > maxStartedAtDiff then
    throw ("The time difference between you and the taker cannot be longer than 60 seconds. " ++
      s!"Current difference: {timeDif}. Please make sure that your system clock is synced to the " ++
      "correct time before starting another swap!")
  let expectedLockTime := checkedAdd takerData.startedAt data.lockDuration
  if some takerData.paymentLocktime ≠ expectedLockTime then
    throw (s!"taker_data.payment_locktime {takerData.paymentLocktime} not equal to expected " ++
      s!"{debugOption expectedLockTime}")
  let makerCoinSwapContractAddr ←
    (X.makerCoin.negotiateSwapContractAddr takerData.makerCoinSwapContract).mapError
      fun e => s!"!maker_coin.negotiate_swap_contract_addr {e}"
  let takerCoinSwapContractAddr ←
    (X.takerCoin.negotiateSwapContractAddr takerData.takerCoinSwapContract).mapError
      fun e => s!"!taker_coin.negotiate_swap_contract_addr {e}"
  (X.makerCoin.validateOtherPubkey takerData.makerCoinHtlcPub).mapError
    fun err => s!"!taker_data.maker_coin_htlc_pub {err}"
  (X.takerCoin.validateOtherPubkey takerData.takerCoinHtlcPub).mapError
    fun err => s!"!taker_data.taker_coin_htlc_pub {err}"
  return (makerCoinSwapContractAddr, takerCoinSwapContractAddr)

/-- `NEGOTIATION_TIMEOUT_SEC`. -/
def negotiationTimeoutSec : ℕ := 90

def negotiationFailed (e : SwapError) : MakerProc := do
  let _ ← ask .broadcastNegotiatedFalse
  finishWith s (.negotiateFailed e)

def negotiate : MakerProc := do
  match ← ask (.recvNegotiationReply (getMyNegotiationData X s) negotiationTimeoutSec) with
  | .error e => negotiationFailed s e.quote
  | .ok takerData =>
  match checkTakerData X s takerData with
  | .error e => negotiationFailed s e
  | .ok (makerCoinSwapContractAddr, takerCoinSwapContractAddr) =>
  goOn s .waitForTakerFee [.negotiated
    { takerPaymentLocktime := takerData.paymentLocktime
      takerPubkey := h264Default
      makerCoinSwapContractAddr
      takerCoinSwapContractAddr
      makerCoinHtlcPubkey := some takerData.makerCoinHtlcPub
      takerCoinHtlcPubkey := some takerData.takerCoinHtlcPub }]

/-- `TAKER_FEE_RECV_TIMEOUT_SEC`. -/
def takerFeeRecvTimeoutSec : ℕ := 600

/-- The instructions that come with the taker fee, when there are some. -/
def validateInstructions (payload : SwapTxDataMsg) : Except String (Option PaymentInstructions) :=
  match payload.instructions with
  | none => .ok none
  | some instructions =>
    (X.makerCoin.validateMakerPaymentInstructions instructions
      { secretHash := secretHash X s
        amount := X.toDecimal s.makerAmount
        makerLockDuration := X.makerLockDuration s.mutable.data.lockDuration }).map some

/-- The fee is validated again after every error but the last. -/
def validateFee (args : ValidateFeeArgs) : ℕ → SwapProc (Except String Unit)
  | 0 => ask (.validateFee args)
  | attempts + 1 => do
    match ← ask (.validateFee args) with
    | .ok _ => return .ok ()
    | .error _ =>
    let _ ← ask (.sleep takerFeeValidationRetryDelaySecs)
    validateFee args attempts

def waitTakerFee : MakerProc := do
  match ← ask (.recvTakerFee takerFeeRecvTimeoutSec) with
  | .error e => finishWith s (.takerFeeValidateFailed e)
  | .ok payload =>
  match validateInstructions X s payload with
  | .error e => finishWith s (.takerFeeValidateFailed e)
  | .ok instructions =>
  match X.takerCoin.newWithTakerPubkey s.mutable.data.makerCoin s.takerAmount
      s.mutable.otherTakerCoinHtlcPub with
  | .noFee =>
    goOn s .sendPayment
      [.makerPaymentInstructionsReceived instructions,
        .takerFeeValidated { txHex := [], txHash := [] }]
  | dexFee =>
  match X.takerCoin.txEnumFromBytes payload.data with
  | .error e => finishWith s (.takerFeeValidateFailed e)
  | .ok takerFee =>
  match ← validateFee
      { feeTx := takerFee
        expectedSender := s.mutable.otherTakerCoinHtlcPub
        dexFee
        minBlockNumber := s.mutable.data.takerCoinStartBlock
        uuid := s.uuid } takerFeeValidationAttempts with
  | .error err => finishWith s (.takerFeeValidateFailed err)
  | .ok _ =>
  goOn s .sendPayment
    [.makerPaymentInstructionsReceived instructions,
      .takerFeeValidated (X.takerCoin.ident takerFee)]

/-- `setup_watcher_reward`. -/
def setupWatcherReward (waitMakerPaymentUntil : ℕ) :
    SwapProc (Except String (Option Evm.WatcherReward)) :=
  if s.mutable.watcherReward then
    ask (.getMakerWatcherReward s.watcherRewardAmount waitMakerPaymentUntil)
  else return .ok none

/-- The events of a maker payment that is on its way. -/
def makerPaymentSent (transaction : Bytes) : MakerProc :=
  goOn s .waitForTakerPayment [.makerPaymentSent (X.makerCoin.ident transaction)]

def makerPayment : MakerProc := do
  let data := s.mutable.data
  let waitMakerPaymentUntil := waitForMakerPaymentConfUntil data.startedAt data.lockDuration
  match ← ask (.checkIfMyPaymentSent .maker
      { timeLock := data.makerPaymentLock
        otherPub := s.mutable.otherMakerCoinHtlcPub
        secretHash := secretHash X s
        searchFromBlock := data.makerCoinStartBlock
        swapContractAddress := data.makerCoinSwapContractAddress
        swapUniqueData := uniqueSwapData X s
        amount := X.toDecimal s.makerAmount
        paymentInstructions := s.mutable.paymentInstructions }) with
  | .error e => finishWith s (.makerPaymentTransactionFailed e)
  | .ok (some tx) =>
    match ← setupWatcherReward s waitMakerPaymentUntil with
    | .error err => finishWith s (.makerPaymentTransactionFailed err)
    | .ok _ => makerPaymentSent X s tx
  | .ok none =>
  let timeout := data.startedAt + data.lockDuration / 3
  let now ← nowSec
  if now > timeout then
    finishWith s (.makerPaymentTransactionFailed s!"Timeout {now} > {timeout}")
  else
  match ← setupWatcherReward s waitMakerPaymentUntil with
  | .error err => finishWith s (.makerPaymentTransactionFailed err)
  | .ok watcherReward =>
  match ← ask (.sendMakerPayment
      { timeLockDuration := data.lockDuration
        timeLock := data.makerPaymentLock
        otherPubkey := s.mutable.otherMakerCoinHtlcPub
        secretHash := secretHash X s
        amount := X.toDecimal s.makerAmount
        swapContractAddress := data.makerCoinSwapContractAddress
        swapUniqueData := uniqueSwapData X s
        paymentInstructions := s.mutable.paymentInstructions
        watcherReward
        waitForConfirmationUntil := waitMakerPaymentUntil }) with
  | .error err => finishWith s (.makerPaymentTransactionFailed err.text)
  | .ok transaction => makerPaymentSent X s transaction

def waitForTakerPayment : MakerProc :=
  match s.mutable.makerPayment with
  | none => return .error "called Option::unwrap() on a None value"
  | some makerPayment => do
  let data := s.mutable.data
  match ← getMyPaymentData X s makerPayment with
  | .error e => refundAfter s (.makerPaymentDataSendFailed e)
  | .ok msg =>
  match ← ask (.waitForConfirmations .maker
      { paymentTx := makerPayment.txHex
        confirmations := data.makerPaymentConfirmations
        requiresNota := data.makerPaymentRequiresNota.getD false
        waitUntil := waitForMakerPaymentConfUntil data.startedAt data.lockDuration
        checkEvery := waitConfirmIntervalSec }) with
  | .error err =>
    refundAfter s (.makerPaymentWaitConfirmFailed
      s!"!wait for maker payment confirmations: {err}")
  | .ok _ =>
  match ← ask (.recvTakerPayment msg (data.lockDuration * 3 / 5)) with
  | .error e => refundAfter s (.takerPaymentValidateFailed e)
  | .ok payload =>
  match X.takerCoin.txEnumFromBytes payload with
  | .error err =>
    refundAfter s (.takerPaymentValidateFailed s!"!taker_coin.tx_enum_from_bytes: {err}")
  | .ok takerPayment =>
  goOn s .validateTakerPayment
    [.takerPaymentReceived (X.takerCoin.ident takerPayment), .takerPaymentWaitConfirmStarted]

/-- The reward that the taker promises the watchers, when rewards are used. -/
def takerWatcherReward (waitTakerPayment : ℕ) :
    SwapProc (Except String (Option Evm.WatcherReward)) := do
  if s.mutable.watcherReward then
    match ← ask (.getTakerWatcherReward (X.toDecimal s.takerAmount) (X.toDecimal s.makerAmount)
        s.watcherRewardAmount waitTakerPayment) with
    | .ok reward => return .ok (some reward)
    | .error err => return .error err
  else return .ok none

def validateTakerPayment : MakerProc :=
  match s.mutable.takerPayment with
  | none => return .error "called Option::unwrap() on a None value"
  | some takerPayment => do
  let data := s.mutable.data
  let waitTakerPayment := takerPaymentSpendDeadline data.startedAt data.lockDuration
  match ← ask (.waitForConfirmations .taker
      { paymentTx := takerPayment.txHex
        confirmations := data.takerPaymentConfirmations
        requiresNota := data.takerPaymentRequiresNota.getD false
        waitUntil := waitTakerPayment
        checkEvery := waitConfirmIntervalSec }) with
  | .error err =>
    refundAfter s (.takerPaymentWaitConfirmFailed s!"!taker_coin.wait_for_confirmations: {err}")
  | .ok _ =>
  match ← takerWatcherReward X s waitTakerPayment with
  | .error err => finishWith s (.makerPaymentTransactionFailed err)
  | .ok watcherReward =>
  match ← ask (.validateTakerPayment
      { paymentTx := takerPayment.txHex
        timeLock := s.takerPaymentLock
        timeLockDuration := data.lockDuration
        otherPub := s.mutable.otherTakerCoinHtlcPub
        uniqueSwapData := uniqueSwapData X s
        secretHash := secretHash X s
        amount := X.toDecimal s.takerAmount
        swapContractAddress := data.takerCoinSwapContractAddress
        trySpvProofUntil := waitTakerPayment
        confirmations := data.takerPaymentConfirmations
        watcherReward }) with
  | .error e =>
    refundAfter s (.takerPaymentValidateFailed s!"!taker_coin.validate_taker_payment: {e}")
  | .ok _ => goOn s .spendTakerPayment [.takerPaymentValidatedAndConfirmed]

/-- How the maker spends this taker payment. -/
def spendArgs (takerPayment : Bytes) : SpendPaymentArgs where
  otherPaymentTx := takerPayment
  timeLock := s.takerPaymentLock
  otherPubkey := s.mutable.otherTakerCoinHtlcPub
  secret := s.mutable.data.secret
  secretHash := secretHash X s
  swapContractAddress := s.mutable.data.takerCoinSwapContractAddress
  swapUniqueData := uniqueSwapData X s
  watcherReward := s.mutable.watcherReward

def spendTakerPayment : MakerProc := do
  let data := s.mutable.data
  let timeout := takerPaymentSpendDeadline data.startedAt data.lockDuration
  let now ← nowSec
  if now > timeout then refundAfter s (.takerPaymentSpendFailed s!"Timeout {now} > {timeout}")
  else
  match s.mutable.takerPayment with
  | none => return .error "called Option::unwrap() on a None value"
  | some takerPayment =>
  match ← ask (.sendMakerSpendsTakerPayment (spendArgs X s takerPayment.txHex)) with
  | .error err =>
    let _ ← broadcastErrTx .taker err
    refundAfter s (.takerPaymentSpendFailed
      s!"!taker_coin.send_maker_spends_taker_payment: {err.text}")
  | .ok transaction =>
  let _ ← ask (.broadcastP2pTxMsg .taker transaction)
  goOn s .confirmTakerPaymentSpend
    [.takerPaymentSpent (X.takerCoin.ident transaction), .takerPaymentSpendConfirmStarted]

def confirmTakerPaymentSpend : MakerProc :=
  match s.mutable.takerPaymentSpend with
  | none => return .error "called Option::unwrap() on a None value"
  | some takerPaymentSpend => do
  match ← ask (.waitForConfirmations .taker
      { paymentTx := takerPaymentSpend.txHex
        confirmations := s.mutable.data.takerPaymentConfirmations
        requiresNota := false
        waitUntil := s.waitRefundUntil
        checkEvery := waitConfirmIntervalSec }) with
  | .error err =>
    refundAfter s (.takerPaymentSpendConfirmFailed
      s!"!wait for taker payment spend confirmations: {err}")
  | .ok _ => finishWith s .takerPaymentSpendConfirmed

def prepareForMakerPaymentRefund : MakerProc := do
  match s.mutable.takerPayment with
  | none => goOn s .refundMakerPayment [.makerPaymentRefundStarted]
  | some payment =>
    let _ ← ask (.onRefundStart .taker payment.txHex)
    goOn s .refundMakerPayment [.makerPaymentRefundStarted]

/-- The refund of this maker payment. -/
def refundArgs (makerPayment : Bytes) : RefundPaymentArgs where
  paymentTx := makerPayment
  timeLock := s.mutable.data.makerPaymentLock
  otherPubkey := s.mutable.otherMakerCoinHtlcPub
  makerSecretHash := secretHash X s
  swapContractAddress := s.mutable.data.makerCoinSwapContractAddress
  swapUniqueData := uniqueSwapData X s
  watcherReward := s.mutable.watcherReward

/-- One pass of the loop on `can_refund_htlc`, and the refund: the command is taken up again as
long as it has to wait. -/
def refundMakerPayment : MakerProc :=
  match s.mutable.makerPayment with
  | none => return .error "called Option::unwrap() on a None value"
  | some makerPayment => do
  let locktime := s.mutable.data.makerPaymentLock
  if X.makerCoin.isAutoRefundable then
    match ← ask (.waitForHtlcRefund .maker makerPayment.txHex locktime) with
    | .ok _ => goOn s .finalizeMakerPaymentRefund [.makerPaymentRefunded none]
    | .error err =>
      finishWith s (.makerPaymentRefundFailed s!"!maker_coin.wait_for_htlc_refund: {err}")
  else
  match ← ask (.canRefundHtlc .maker locktime) with
  | .ok (.haveToWait toSleep) =>
    let _ ← ask (.sleep toSleep)
    goOn s .refundMakerPayment []
  | .error _ =>
    let _ ← ask (.sleep 30)
    goOn s .refundMakerPayment []
  | .ok .canRefundNow =>
  match ← ask (.sendRefundsPayment .maker (refundArgs X s makerPayment.txHex)) with
  | .error err =>
    let _ ← broadcastErrTx .maker err
    finishWith s (.makerPaymentRefundFailed
      s!"!maker_coin.send_maker_refunds_payment: {err.text}")
  | .ok transaction =>
  let _ ← ask (.broadcastP2pTxMsg .maker transaction)
  goOn s .finalizeMakerPaymentRefund
    [.makerPaymentRefunded (some (X.makerCoin.ident transaction))]

def finalizeMakerPaymentRefund : MakerProc := do
  match s.mutable.takerPayment with
  | none => finishWith s .makerPaymentRefundFinished
  | some payment =>
    let _ ← ask (.onRefundSuccess .taker payment.txHex)
    finishWith s .makerPaymentRefundFinished

def handleCommand (c : MakerSwapCommand) (s : MakerSwap) : MakerProc :=
  match c with
  | .start => start X s
  | .negotiate => negotiate X s
  | .waitForTakerFee => waitTakerFee X s
  | .sendPayment => makerPayment X s
  | .waitForTakerPayment => waitForTakerPayment X s
  | .validateTakerPayment => validateTakerPayment X s
  | .spendTakerPayment => spendTakerPayment X s
  | .confirmTakerPaymentSpend => confirmTakerPaymentSpend s
  | .prepareForMakerPaymentRefund => prepareForMakerPaymentRefund s
  | .refundMakerPayment => refundMakerPayment X s
  | .finalizeMakerPaymentRefund => finalizeMakerPaymentRefund s
  | .finish => return .ok (s, none, [.finished])

/-! ## Restart -/

section Restart

variable (uuid : Uuid)

/-- Contract addresses that are missing in an out-dated file are those of the coins. -/
def refresh (data : MakerSwapData) : MakerSwapData :=
  { data with
    makerCoinSwapContractAddress :=
      data.makerCoinSwapContractAddress.or X.makerCoin.swapContractAddress
    takerCoinSwapContractAddress :=
      data.takerCoinSwapContractAddress.or X.takerCoin.swapContractAddress }

/-- The new swap to which the saved events are applied. -/
def ofData (data : MakerSwapData) : MakerSwap where
  makerAmount := data.makerAmount
  takerAmount := data.takerAmount
  myPersistentPub := X.mm2InternalPub
  takerPubkey := data.takerPubkey
  uuid := uuid
  confSettings :=
    { makerCoinConfs := data.makerPaymentConfirmations
      makerCoinNota := data.makerPaymentRequiresNota.getD X.makerCoin.requiresNotarization
      takerCoinConfs := data.takerPaymentConfirmations
      takerCoinNota := data.takerPaymentRequiresNota.getD X.takerCoin.requiresNotarization }
  paymentLocktime := data.lockDuration
  secret := data.secret

/-- The swap after the saved events. -/
def replay (now : ℕ) (data : MakerSwapData) (events : MakerSavedSwap) : MakerSwap :=
  events.foldl (applyEvent now)
    (applyEvent now (ofData X uuid (refresh X data)) (.started (refresh X data)))

def loadFromSaved : MakerSavedSwap →
    Proc (StoreCall SwapCall MakerSwapEvent) (StoreCall.Answer SwapCall.Answer)
      (Except String (MakerSwap × Option MakerSwapCommand))
  | [] => return .error "Can't restore swap from empty events set"
  | .started data :: events => do
    let now ← nowSec
    return .ok (replay X uuid now data events, (events.getLastD (.started data)).getCommand)
  | _ :: _ => return .error "First swap event must be Started"

/-- `run_maker_swap`. -/
def system : System SwapCall SwapCall.Answer MakerSwap MakerSwapEvent MakerSwapCommand where
  apply := applyEvent
  handle := handleCommand X
  load := loadFromSaved X uuid

end Restart

/-! ## Recovery -/

/-- The checks of `recover_funds` on the state. -/
def recoverGuards : Except String Unit :=
  if s.finishedAt = 0 then .error "Swap must be finished before recover funds attempt"
  else if s.mutable.makerPaymentRefund.isSome then
    .error "Maker payment is refunded, swap is not recoverable"
  else if s.mutable.takerPaymentSpend.isSome ∧ s.mutable.takerPaymentSpendConfirmed then
    .error "Taker payment spend transaction has been sent and confirmed"
  else .ok ()

/-- `try_spend_taker_payment`. -/
def trySpendTakerPayment : SwapProc (Except String Bytes) :=
  match s.mutable.takerPayment with
  | none => return .error "No info about taker payment, swap is not recoverable"
  | some takerPayment => do
  match ← ask (.searchForSwapTxSpendOther .taker
      { timeLock := s.takerPaymentLock
        otherPub := s.mutable.otherTakerCoinHtlcPub
        secretHash := secretHash X s
        tx := takerPayment.txHex
        searchFromBlock := s.mutable.data.takerCoinStartBlock
        swapContractAddress := s.mutable.data.takerCoinSwapContractAddress
        swapUniqueData := uniqueSwapData X s }) with
  | .ok (some (.spent tx)) =>
    return .error (s!"Taker payment was already spent by {X.takerCoin.ticker} tx " ++
      s!"{hexText (X.takerCoin.txHashAsBytes tx)}")
  | .ok (some (.refunded tx)) =>
    return .error (s!"Taker payment was already refunded by {X.takerCoin.ticker} tx " ++
      s!"{hexText (X.takerCoin.txHashAsBytes tx)}")
  | .error e => return .error s!"Error {e} when trying to find taker payment spend"
  | .ok none =>
  match ← ask (.sendMakerSpendsTakerPayment (spendArgs X s takerPayment.txHex)) with
  | .error e => return .error e.text
  | .ok tx => return .ok tx

/-- The maker payment, from the state or from the chain. -/
def findMakerPayment : SwapProc (Except String Bytes) :=
  match s.mutable.makerPayment with
  | some tx => return .ok tx.txHex
  | none => do
    match ← ask (.checkIfMyPaymentSent .maker
        { timeLock := s.mutable.data.makerPaymentLock
          otherPub := s.mutable.otherMakerCoinHtlcPub
          secretHash := secretHash X s
          searchFromBlock := s.mutable.data.makerCoinStartBlock
          swapContractAddress := s.mutable.data.makerCoinSwapContractAddress
          swapUniqueData := uniqueSwapData X s
          amount := X.toDecimal s.makerAmount
          paymentInstructions := s.mutable.paymentInstructions }) with
    | .error e => return .error e
    | .ok none => return .error "Maker payment transaction was not found"
    | .ok (some tx) => return .ok tx

/-- The refund of a maker payment that is not spent. -/
def recoverRefund (makerPayment : Bytes) : SwapProc (Except String RecoveredSwap) := do
  if X.makerCoin.isAutoRefundable then
    return .error "Maker payment will be refunded automatically!"
  else
  match ← ask (.canRefundHtlc .maker s.mutable.data.makerPaymentLock) with
  | .error e => return .error e
  | .ok (.haveToWait secondsToWait) =>
    let now ← nowSec
    return .error s!"Too early to refund, wait until {now + secondsToWait}"
  | .ok .canRefundNow =>
  match ← ask (.sendRefundsPayment .maker (refundArgs X s makerPayment)) with
  | .error err =>
    let _ ← broadcastErrTx .maker err
    return .error err.text
  | .ok transaction =>
    return .ok { action := .refundedMyPayment, coin := X.makerCoin.ticker, transaction }

def recoverFunds : SwapProc (Except String RecoveredSwap) :=
  match recoverGuards s with
  | .error e => return .error e
  | .ok _ => do
  match ← findMakerPayment X s with
  | .error e => return .error e
  | .ok makerPayment =>
  match ← ask (.searchForSwapTxSpendMy .maker
      { timeLock := s.mutable.data.makerPaymentLock
        otherPub := s.mutable.otherMakerCoinHtlcPub
        secretHash := secretHash X s
        tx := makerPayment
        searchFromBlock := s.mutable.data.makerCoinStartBlock
        swapContractAddress := s.mutable.data.makerCoinSwapContractAddress
        swapUniqueData := uniqueSwapData X s }) with
  | .ok (some (.spent _)) =>
    match ← trySpendTakerPayment X s with
    | .error e => return .error e
    | .ok transaction =>
      return .ok { action := .spentOtherPayment, coin := X.takerCoin.ticker, transaction }
  | .ok (some (.refunded tx)) =>
    return .error (s!"Maker payment was already refunded by {X.makerCoin.ticker} tx " ++
      s!"{hexText (X.makerCoin.txHashAsBytes tx)}")
  | .error e => return .error s!"Error {e} when trying to find maker payment spend"
  | .ok none => recoverRefund X s makerPayment

end MakerSwap

end DeXFG.LegacySwap
