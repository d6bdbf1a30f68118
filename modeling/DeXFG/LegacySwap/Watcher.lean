import DeXFG.LegacySwap.Types
import DeXFG.Library.DurableMachine

/-!
# The taker swap watcher

A watcher follows the swap of another taker: it checks the taker's fee and
payment, waits for the maker's spend, and then spends the maker payment for the
taker, or refunds the taker payment when it was not spent. Every await point is
a `WatcherCall`.
-/
namespace DeXFG.LegacySwap
open Ordermatch (Uuid)
open SwapV2 (CanRefundHtlc ConfirmPaymentInput)
open Library.Process Library.DurableMachine

structure TakerSwapWatcherData where
  uuid : Uuid
  secretHash : Bytes
  makerPaymentSpendPreimage : Bytes
  takerPaymentRefundPreimage : Bytes
  swapStartedAt : ℕ
  lockDuration : ℕ
  takerCoin : String
  takerFeeHash : Bytes
  takerPaymentHash : Bytes
  takerCoinStartBlock : ℕ
  takerPaymentConfirmations : ℕ
  takerPaymentRequiresNota : Option Bool
  makerCoin : String
  makerPub : Bytes
  makerPaymentHash : Bytes
  makerCoinStartBlock : ℕ
  deriving DecidableEq, Repr

/-- The settings under `watcher_conf`; factors of the lock duration and seconds. -/
structure WatcherConf where
  waitTakerPayment : ℚ := 60
  waitMakerPaymentSpendFactor : ℚ := 1
  refundStartFactor : ℚ := 3 / 2
  searchInterval : ℚ := 300
  deriving DecidableEq, Repr

/-- What a watcher asks of an enabled coin. -/
structure WatcherCoin where
  ticker : String
  isSupportedByWatchers : Bool
  isEth : Bool
  deriving DecidableEq, Repr

structure WatcherStateMachine where
  takerCoin : WatcherCoin
  makerCoin : WatcherCoin
  verifiedPub : Bytes
  data : TakerSwapWatcherData
  conf : WatcherConf
  watcherReward : Bool
  deriving DecidableEq, Repr

namespace WatcherStateMachine

variable (m : WatcherStateMachine)

def takerLocktime : ℕ := m.data.swapStartedAt + m.data.lockDuration

def waitForMakerPaymentSpendDeadline : ℕ :=
  m.data.swapStartedAt + (m.conf.waitMakerPaymentSpendFactor * m.data.lockDuration).floor.toNat

def refundStartTime : ℕ :=
  m.data.swapStartedAt + (m.conf.refundStartFactor * m.data.lockDuration).floor.toNat

end WatcherStateMachine

/-- `TAKER_SWAP_CONFIRMATIONS`. -/
def takerSwapConfirmations : ℕ := 1

structure WatcherValidateTakerFeeInput where
  takerFeeHash : Bytes
  senderPubkey : Bytes
  minBlockNumber : ℕ
  lockDuration : ℕ

structure WatcherValidatePaymentInput where
  paymentTx : Bytes
  takerPaymentRefundPreimage : Bytes
  timeLock : ℕ
  takerPub : Bytes
  makerPub : Bytes
  secretHash : Bytes
  waitUntil : ℕ
  confirmations : ℕ
  makerCoin : WatcherCoin

structure WatcherSearchForSwapTxSpendInput where
  timeLock : ℕ
  takerPub : Bytes
  makerPub : Bytes
  secretHash : Bytes
  tx : Bytes
  searchFromBlock : ℕ
  watcherReward : Bool

/-- The arguments without the contract addresses, which a watcher does not know. -/
structure WaitForHTLCTxSpendArgs where
  txBytes : Bytes
  secretHash : Bytes
  waitUntil : ℕ
  fromBlock : ℕ
  checkEvery : ℚ
  watcherReward : Bool

structure SendMakerPaymentSpendPreimageInput where
  preimage : Bytes
  secretHash : Bytes
  secret : Bytes
  takerPub : Bytes
  watcherReward : Bool

structure WatcherRefundPaymentArgs where
  paymentTx : Bytes
  makerSecretHash : Bytes
  otherPubkey : Bytes
  timeLock : ℕ
  watcherReward : Bool

inductive WatcherCall where
  | lpCoinfind (ticker : String)
  | sleep (secs : ℚ)
  | watcherValidateTakerFee (input : WatcherValidateTakerFeeInput)
  | getTxHexByHash (coin : WatcherCoin) (hash : Bytes)
  | waitForConfirmations (input : ConfirmPaymentInput)
  | watcherValidateTakerPayment (input : WatcherValidatePaymentInput)
  | watcherSearchForSwapTxSpend (input : WatcherSearchForSwapTxSpendInput)
  | waitForHtlcTxSpend (args : WaitForHTLCTxSpendArgs)
  | extractSecret (secretHash spendTx : Bytes)
  | sendMakerPaymentSpendPreimage (input : SendMakerPaymentSpendPreimageInput)
  | canRefundHtlc (locktime : ℕ)
  | sendTakerPaymentRefundPreimage (args : WatcherRefundPaymentArgs)
  | broadcastP2pTxMsg (coin : WatcherCoin) (tx : Bytes)

@[reducible] def WatcherCall.Answer : WatcherCall → Type
  | .lpCoinfind _ => Except String (Option WatcherCoin)
  | .sleep _ => Unit
  | .watcherValidateTakerFee _ => Except String Unit
  | .getTxHexByHash _ _ => Except String Bytes
  | .waitForConfirmations _ => Except String Unit
  | .watcherValidateTakerPayment _ => Except String Unit
  | .watcherSearchForSwapTxSpend _ => Except String (Option FoundSwapTxSpend)
  | .waitForHtlcTxSpend _ => Except String Bytes
  | .extractSecret _ _ => Except String Bytes
  | .sendMakerPaymentSpendPreimage _ => Except TransactionErr Bytes
  | .canRefundHtlc _ => Except String CanRefundHtlc
  | .sendTakerPaymentRefundPreimage _ => Except TransactionErr Bytes
  | .broadcastP2pTxMsg _ _ => Unit

inductive WatcherSuccess where
  | makerPaymentSpent
  | takerPaymentRefunded
  | makerPaymentSpentByTaker
  | takerPaymentRefundedByTaker
  deriving DecidableEq, Repr

inductive WatcherError where
  | invalidTakerFee (e : String)
  | takerPaymentNotConfirmed (e : String)
  | invalidTakerPayment (e : String)
  | unableToExtractSecret (e : String)
  | makerPaymentSpendFailed (e : String)
  | makerPaymentCouldNotBeFound (e : String)
  | takerPaymentRefundFailed (e : String)
  deriving DecidableEq, Repr

inductive StopReason where
  | finished (success : WatcherSuccess)
  | error (error : WatcherError)
  deriving DecidableEq, Repr

inductive WatcherState where
  | validateTakerFee
  | validateTakerPayment
  | waitForTakerPaymentSpend (takerPaymentHex : Bytes)
  | refundTakerPayment
  | spendMakerPayment (secret : Bytes)
  | stopped (stopReason : StopReason)
  deriving DecidableEq, Repr

abbrev WatcherProc :=
  Proc WatcherCall WatcherCall.Answer (StateResult (WatcherStateMachine × WatcherState))

abbrev WatcherCall.ask (c : WatcherCall) : Proc WatcherCall WatcherCall.Answer c.Answer := call c

namespace WatcherState
open WatcherCall (ask)

variable (m : WatcherStateMachine)

def changeState (next : WatcherState) : WatcherProc := return .changeState (m, next)

def stop (reason : StopReason) : WatcherProc := changeState m (.stopped reason)

/-- The fee is validated again after every error but the last. -/
def validateFee : ℕ → WatcherProc
  | 0 => stop m (.error (.invalidTakerFee ""))
  | attempts + 1 => do
    match ← ask (.watcherValidateTakerFee
      { takerFeeHash := m.data.takerFeeHash
        senderPubkey := m.verifiedPub
        minBlockNumber := m.data.takerCoinStartBlock
        lockDuration := m.data.lockDuration }) with
    | .ok _ => changeState m .validateTakerPayment
    | .error e =>
    if attempts = 0 then stop m (.error (.invalidTakerFee e))
    else
      let _ ← ask (.sleep takerFeeValidationRetryDelaySecs)
      validateFee attempts

def onValidateTakerPayment : WatcherProc := do
  let deadline := takerPaymentSpendDeadline m.data.swapStartedAt m.data.lockDuration
  let _ ← ask (.sleep m.conf.waitTakerPayment)
  match ← ask (.getTxHexByHash m.takerCoin m.data.takerPaymentHash) with
  | .error e => stop m (.error (.invalidTakerPayment e))
  | .ok takerPaymentHex =>
  let confirmations := min m.data.takerPaymentConfirmations takerSwapConfirmations
  match ← ask (.waitForConfirmations
      { paymentTx := takerPaymentHex
        confirmations
        requiresNota := m.data.takerPaymentRequiresNota.getD false
        waitUntil := deadline
        checkEvery := waitConfirmIntervalSec }) with
  | .error e => stop m (.error (.takerPaymentNotConfirmed e))
  | .ok _ =>
  match ← ask (.watcherValidateTakerPayment
      { paymentTx := takerPaymentHex
        takerPaymentRefundPreimage := m.data.takerPaymentRefundPreimage
        timeLock := m.takerLocktime
        takerPub := m.verifiedPub
        makerPub := m.data.makerPub
        secretHash := m.data.secretHash
        waitUntil := deadline
        confirmations
        makerCoin := m.makerCoin }) with
  | .error e => stop m (.error (.invalidTakerPayment e))
  | .ok _ => changeState m (.waitForTakerPaymentSpend takerPaymentHex)

/-- From the spend of the taker payment to its secret. -/
def secretOfSpend (tx : Bytes) : WatcherProc := do
  match ← ask (.extractSecret m.data.secretHash tx) with
  | .error e => stop m (.error (.unableToExtractSecret e))
  | .ok secret => changeState m (.spendMakerPayment secret)

/-- The taker payment was spent: the taker gets the chance to spend the maker payment itself. -/
def takerPaymentSpent (tx : Bytes) : WatcherProc := do
  let now ← nowSec
  if now < m.takerLocktime then
    match ← ask (.getTxHexByHash m.makerCoin m.data.makerPaymentHash) with
    | .error e => stop m (.error (.makerPaymentCouldNotBeFound e))
    | .ok makerPaymentHex =>
    match ← ask (.waitForHtlcTxSpend
        { txBytes := makerPaymentHex
          secretHash := m.data.secretHash
          waitUntil := m.waitForMakerPaymentSpendDeadline
          fromBlock := m.data.makerCoinStartBlock
          checkEvery := m.conf.searchInterval
          watcherReward := m.watcherReward }) with
    | .ok _ => stop m (.finished .makerPaymentSpentByTaker)
    | .error _ => secretOfSpend m tx
  else secretOfSpend m tx

/-- One pass of the loop that looks for the spend. -/
def onWaitForTakerPaymentSpend (takerPaymentHex : Bytes) : WatcherProc := do
  let now ← nowSec
  if now > m.refundStartTime then changeState m .refundTakerPayment
  else
  match ← ask (.watcherSearchForSwapTxSpend
      { timeLock := m.takerLocktime
        takerPub := m.verifiedPub
        makerPub := m.data.makerPub
        secretHash := m.data.secretHash
        tx := takerPaymentHex
        searchFromBlock := m.data.takerCoinStartBlock
        watcherReward := m.watcherReward }) with
  | .ok (some (.spent tx)) => takerPaymentSpent m tx
  | .ok (some (.refunded _)) => stop m (.finished .takerPaymentRefundedByTaker)
  | .ok none =>
    let _ ← ask (.sleep m.conf.searchInterval)
    changeState m (.waitForTakerPaymentSpend takerPaymentHex)
  | .error _ =>
    let _ ← ask (.sleep m.conf.searchInterval)
    changeState m (.waitForTakerPaymentSpend takerPaymentHex)

/-- A failed transaction is passed on when others could send it. -/
def stopWithTx (coin : WatcherCoin) (e : TransactionErr) (error : String → WatcherError) :
    WatcherProc := do
  match e.tx with
  | some tx =>
    let _ ← ask (.broadcastP2pTxMsg coin tx)
    stop m (.error (error e.text))
  | none => stop m (.error (error e.text))

def onSpendMakerPayment (secret : Bytes) : WatcherProc := do
  match ← ask (.sendMakerPaymentSpendPreimage
      { preimage := m.data.makerPaymentSpendPreimage
        secret
        secretHash := m.data.secretHash
        takerPub := m.verifiedPub
        watcherReward := m.watcherReward }) with
  | .error e => stopWithTx m m.makerCoin e .makerPaymentSpendFailed
  | .ok tx =>
  let _ ← ask (.broadcastP2pTxMsg m.makerCoin tx)
  stop m (.finished .makerPaymentSpent)

/-- One pass of the loop on `can_refund_htlc`, and the refund. -/
def onRefundTakerPayment : WatcherProc := do
  match ← ask (.canRefundHtlc m.takerLocktime) with
  | .ok (.haveToWait toSleep) =>
    let _ ← ask (.sleep toSleep)
    changeState m .refundTakerPayment
  | .error _ =>
    let _ ← ask (.sleep 30)
    changeState m .refundTakerPayment
  | .ok .canRefundNow =>
  match ← ask (.sendTakerPaymentRefundPreimage
      { paymentTx := m.data.takerPaymentRefundPreimage
        makerSecretHash := m.data.secretHash
        otherPubkey := m.verifiedPub
        timeLock := m.takerLocktime
        watcherReward := m.watcherReward }) with
  | .error e => stopWithTx m m.takerCoin e .takerPaymentRefundFailed
  | .ok tx =>
  let _ ← ask (.broadcastP2pTxMsg m.takerCoin tx)
  stop m (.finished .takerPaymentRefunded)

def onChanged : WatcherState → WatcherProc
  | .validateTakerFee => validateFee m takerFeeValidationAttempts
  | .validateTakerPayment => onValidateTakerPayment m
  | .waitForTakerPaymentSpend takerPaymentHex => onWaitForTakerPaymentSpend m takerPaymentHex
  | .refundTakerPayment => onRefundTakerPayment m
  | .spendMakerPayment secret => onSpendMakerPayment m secret
  | .stopped _ => return .finish

end WatcherState

open WatcherCall (ask) in
/-- The future that `spawn_taker_swap_watcher` spawns, up to the state machine. -/
def takerSwapWatcher (conf : WatcherConf) (data : TakerSwapWatcherData) (verifiedPub : Bytes) :
    WatcherProc := do
  match ← ask (.lpCoinfind data.takerCoin) with
  | .error _ => return .error
  | .ok none => return .error
  | .ok (some takerCoin) =>
  match ← ask (.lpCoinfind data.makerCoin) with
  | .error _ => return .error
  | .ok none => return .error
  | .ok (some makerCoin) =>
  if !takerCoin.isSupportedByWatchers || !makerCoin.isSupportedByWatchers then return .error
  else
    WatcherState.changeState
      { takerCoin, makerCoin, verifiedPub, data, conf, watcherReward := makerCoin.isEth }
      .validateTakerFee

end DeXFG.LegacySwap
