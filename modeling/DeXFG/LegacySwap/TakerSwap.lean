import DeXFG.LegacySwap.Calls
import DeXFG.Library.EventSourced

/-!
# The legacy taker swap

The swap goes from command to command. A command asks the coins and the maker,
and ends with the next command and the events that it leads to.
-/
namespace DeXFG.LegacySwap
open Ordermatch (MmNumber Uuid)
open SwapV2 (DexFee Side TransactionIdentifier CanRefundHtlc SwapConfirmationsSettings absDiff
  maxStartedAtDiff)
open Library.Process

/-- `H264::default`. -/
def h264Default : Bytes := List.replicate 33 0

/-- `H256::default`. -/
def h256Default : Bytes := List.replicate 32 0

structure TakerSwapData where
  takerCoin : String := ""
  makerCoin : String := ""
  makerPubkey : Bytes := h256Default
  myPersistentPub : Bytes := h264Default
  lockDuration : ℕ := 0
  makerAmount : ℚ := 0
  takerAmount : ℚ := 0
  makerPaymentConfirmations : ℕ := 0
  makerPaymentRequiresNota : Option Bool := none
  takerPaymentConfirmations : ℕ := 0
  takerPaymentRequiresNota : Option Bool := none
  takerPaymentLock : ℕ := 0
  uuid : Uuid := 0
  startedAt : ℕ := 0
  makerPaymentWait : ℕ := 0
  makerCoinStartBlock : ℕ := 0
  takerCoinStartBlock : ℕ := 0
  makerCoinSwapContractAddress : Option Bytes := none
  takerCoinSwapContractAddress : Option Bytes := none
  makerCoinHtlcPubkey : Option Bytes := none
  takerCoinHtlcPubkey : Option Bytes := none
  deriving DecidableEq

structure MakerNegotiationData where
  makerPaymentLocktime : ℕ
  makerPubkey : Bytes
  secretHash : Bytes
  makerCoinSwapContractAddr : Option Bytes
  takerCoinSwapContractAddr : Option Bytes
  makerCoinHtlcPubkey : Option Bytes
  takerCoinHtlcPubkey : Option Bytes
  deriving DecidableEq

namespace MakerNegotiationData

def otherMakerCoinHtlcPub (d : MakerNegotiationData) : Bytes :=
  d.makerCoinHtlcPubkey.getD d.makerPubkey

def otherTakerCoinHtlcPub (d : MakerNegotiationData) : Bytes :=
  d.takerCoinHtlcPubkey.getD d.makerPubkey

end MakerNegotiationData

structure TakerPaymentSpentData where
  transaction : TransactionIdentifier
  secret : Bytes
  deriving DecidableEq

inductive TakerSwapEvent where
  | started (data : TakerSwapData)
  | startFailed (err : SwapError)
  | negotiated (data : MakerNegotiationData)
  | negotiateFailed (err : SwapError)
  | takerFeeSent (tx : TransactionIdentifier)
  | takerFeeSendFailed (err : SwapError)
  | takerPaymentInstructionsReceived (instructions : Option PaymentInstructions)
  | makerPaymentReceived (tx : TransactionIdentifier)
  | makerPaymentWaitConfirmStarted
  | makerPaymentValidatedAndConfirmed
  | makerPaymentValidateFailed (err : SwapError)
  | makerPaymentWaitConfirmFailed (err : SwapError)
  | takerPaymentSent (tx : TransactionIdentifier)
  | watcherMessageSent (makerPaymentSpendPreimage takerPaymentRefundPreimage : Option Bytes)
  | takerPaymentTransactionFailed (err : SwapError)
  | takerPaymentDataSendFailed (err : SwapError)
  | takerPaymentWaitConfirmFailed (err : SwapError)
  | takerPaymentSpent (data : TakerPaymentSpentData)
  | takerPaymentWaitForSpendFailed (err : SwapError)
  | makerPaymentSpent (tx : TransactionIdentifier)
  | makerPaymentSpendConfirmed
  | makerPaymentSpendConfirmFailed (err : SwapError)
  | makerPaymentSpentByWatcher (tx : TransactionIdentifier)
  | makerPaymentSpendFailed (err : SwapError)
  | takerPaymentWaitRefundStarted (waitUntil : ℕ)
  | takerPaymentRefundStarted
  | takerPaymentRefunded (tx : Option TransactionIdentifier)
  | takerPaymentRefundFailed (err : SwapError)
  | takerPaymentRefundFinished
  | takerPaymentRefundedByWatcher (tx : Option TransactionIdentifier)
  | finished
  deriving DecidableEq

inductive TakerSwapCommand where
  | start
  | negotiate
  | sendTakerFee
  | waitForMakerPayment
  | validateMakerPayment
  | sendTakerPayment
  | waitForTakerPaymentSpend
  | spendMakerPayment
  | confirmMakerPaymentSpend
  | prepareForTakerPaymentRefund
  | refundTakerPayment
  | finalizeTakerPaymentRefund
  | finish
  deriving DecidableEq, Repr

/-- `TakerSavedEvent::get_command`. -/
def TakerSwapEvent.getCommand : TakerSwapEvent → Option TakerSwapCommand
  | .started _ => some .negotiate
  | .startFailed _ => some .finish
  | .negotiated _ => some .sendTakerFee
  | .negotiateFailed _ => some .finish
  | .takerFeeSent _ => some .waitForMakerPayment
  | .takerFeeSendFailed _ => some .finish
  | .takerPaymentInstructionsReceived _ => some .validateMakerPayment
  | .makerPaymentReceived _ => some .validateMakerPayment
  | .makerPaymentWaitConfirmStarted => some .validateMakerPayment
  | .makerPaymentValidatedAndConfirmed => some .sendTakerPayment
  | .makerPaymentValidateFailed _ => some .finish
  | .makerPaymentWaitConfirmFailed _ => some .finish
  | .takerPaymentSent _ => some .waitForTakerPaymentSpend
  | .watcherMessageSent _ _ => some .waitForTakerPaymentSpend
  | .takerPaymentTransactionFailed _ => some .finish
  | .takerPaymentDataSendFailed _ => some .prepareForTakerPaymentRefund
  | .takerPaymentSpent _ => some .spendMakerPayment
  | .takerPaymentWaitForSpendFailed _ => some .prepareForTakerPaymentRefund
  | .takerPaymentWaitConfirmFailed _ => some .prepareForTakerPaymentRefund
  | .makerPaymentSpent _ => some .confirmMakerPaymentSpend
  | .makerPaymentSpendConfirmed => some .finish
  | .makerPaymentSpendConfirmFailed _ => some .prepareForTakerPaymentRefund
  | .makerPaymentSpentByWatcher _ => some .confirmMakerPaymentSpend
  | .makerPaymentSpendFailed _ => some .prepareForTakerPaymentRefund
  | .takerPaymentWaitRefundStarted _ => some .prepareForTakerPaymentRefund
  | .takerPaymentRefundStarted => some .refundTakerPayment
  | .takerPaymentRefunded _ => some .finalizeTakerPaymentRefund
  | .takerPaymentRefundFailed _ => some .finish
  | .takerPaymentRefundFinished => some .finish
  | .takerPaymentRefundedByWatcher _ => some .finish
  | .finished => none

/-! ## The saved swap -/

/-- The events of a `TakerSavedSwap`. -/
abbrev TakerSavedSwap := List TakerSwapEvent

namespace TakerSavedSwap

def isFinished (saved : TakerSavedSwap) : Bool := saved.getLast? == some .finished

def watcherMessageSent (saved : TakerSavedSwap) : Bool :=
  saved.any fun
    | .watcherMessageSent _ _ => true
    | _ => false

/-- The events after which nothing is left to recover. -/
def settles : TakerSwapEvent → Bool
  | .startFailed _ => true
  | .negotiateFailed _ => true
  | .takerFeeSendFailed _ => true
  | .makerPaymentValidateFailed _ => true
  | .takerPaymentRefunded _ => true
  | .takerPaymentRefundedByWatcher _ => true
  | .makerPaymentSpendConfirmed => true
  | .makerPaymentWaitConfirmFailed _ => true
  | _ => false

def makerPaymentSpent (saved : TakerSavedSwap) : Bool :=
  saved.any fun
    | .makerPaymentSpent _ => true
    | .makerPaymentSpentByWatcher _ => true
    | _ => false

def makerPaymentSpendConfirmFailed (saved : TakerSavedSwap) : Bool :=
  saved.any fun
    | .makerPaymentSpendConfirmFailed _ => true
    | _ => false

def isRecoverable (saved : TakerSavedSwap) : Bool :=
  saved.isFinished && !saved.any settles &&
    (saved.makerPaymentSpendConfirmFailed || !saved.makerPaymentSpent)

end TakerSavedSwap

/-! ## The swap in memory -/

structure TakerSwapMut where
  data : TakerSwapData := {}
  otherMakerCoinHtlcPub : Bytes := h264Default
  otherTakerCoinHtlcPub : Bytes := h264Default
  takerFee : Option TransactionIdentifier := none
  makerPayment : Option TransactionIdentifier := none
  takerPayment : Option TransactionIdentifier := none
  makerPaymentSpend : Option TransactionIdentifier := none
  makerPaymentSpendConfirmed : Bool := false
  takerPaymentSpend : Option TransactionIdentifier := none
  makerPaymentSpendPreimage : Option Bytes := none
  takerPaymentRefundPreimage : Option Bytes := none
  takerPaymentRefund : Option TransactionIdentifier := none
  secretHash : Bytes := []
  secret : Bytes := h256Default
  watcherReward : Bool := false
  paymentInstructions : Option PaymentInstructions := none
  deriving DecidableEq

structure TakerSwap where
  makerAmount : MmNumber
  takerAmount : MmNumber
  myPersistentPub : Bytes
  makerPubkey : Bytes
  uuid : Uuid
  confSettings : SwapConfirmationsSettings
  paymentLocktime : ℕ
  makerPaymentLock : ℕ := 0
  makerPaymentConfirmed : Bool := false
  errors : List SwapError := []
  finishedAt : ℕ := 0
  mutable : TakerSwapMut := {}
  deriving DecidableEq

namespace TakerSwap

def myMakerCoinHtlcPub (s : TakerSwap) : Bytes :=
  s.mutable.data.makerCoinHtlcPubkey.getD s.myPersistentPub

def myTakerCoinHtlcPub (s : TakerSwap) : Bytes :=
  s.mutable.data.takerCoinHtlcPubkey.getD s.myPersistentPub

def waitRefundUntil (s : TakerSwap) : ℕ := s.mutable.data.takerPaymentLock + 3700

def uniqueSwapData (s : TakerSwap) : Bytes := uuidAsBytes s.uuid

def watcherRewardAmount (s : TakerSwap) : Option ℚ :=
  match s.mutable.paymentInstructions with
  | some (.watcherReward reward) => some reward
  | _ => none

/-- A field of the lock that a write replaces. -/
def w (s : TakerSwap) (f : TakerSwapMut → TakerSwapMut) : TakerSwap :=
  { s with mutable := f s.mutable }

def pushError (s : TakerSwap) (err : SwapError) : TakerSwap := { s with errors := s.errors ++ [err] }

/-- What the negotiated contract addresses make of the data. -/
def withNegotiatedAddrs (d : TakerSwapData) (maker taker : Option Bytes) : TakerSwapData :=
  { d with
    makerCoinSwapContractAddress := maker.or d.makerCoinSwapContractAddress
    takerCoinSwapContractAddress := taker.or d.takerCoinSwapContractAddress }

def applyEvent (now : ℕ) (s : TakerSwap) : TakerSwapEvent → TakerSwap
  | .started data => s.w ({ · with data })
  | .startFailed err => s.pushError err
  | .negotiated data =>
    { s with makerPaymentLock := data.makerPaymentLocktime }.w fun m =>
      { m with
        otherMakerCoinHtlcPub := data.otherMakerCoinHtlcPub
        otherTakerCoinHtlcPub := data.otherTakerCoinHtlcPub
        secretHash := data.secretHash
        data := withNegotiatedAddrs m.data data.makerCoinSwapContractAddr
          data.takerCoinSwapContractAddr }
  | .negotiateFailed err => s.pushError err
  | .takerFeeSent tx => s.w ({ · with takerFee := some tx })
  | .takerFeeSendFailed err => s.pushError err
  | .takerPaymentInstructionsReceived instructions =>
    s.w ({ · with paymentInstructions := instructions })
  | .makerPaymentReceived tx => s.w ({ · with makerPayment := some tx })
  | .makerPaymentWaitConfirmStarted => s
  | .makerPaymentValidatedAndConfirmed => { s with makerPaymentConfirmed := true }
  | .makerPaymentValidateFailed err => s.pushError err
  | .makerPaymentWaitConfirmFailed err => s.pushError err
  | .takerPaymentSent tx => s.w ({ · with takerPayment := some tx })
  | .watcherMessageSent makerPaymentSpendPreimage takerPaymentRefundPreimage =>
    s.w ({ · with makerPaymentSpendPreimage, takerPaymentRefundPreimage })
  | .takerPaymentTransactionFailed err => s.pushError err
  | .takerPaymentDataSendFailed err => s.pushError err
  | .takerPaymentWaitConfirmFailed err => s.pushError err
  | .takerPaymentSpent data =>
    s.w ({ · with takerPaymentSpend := some data.transaction, secret := data.secret })
  | .takerPaymentWaitForSpendFailed err => s.pushError err
  | .makerPaymentSpent tx => s.w ({ · with makerPaymentSpend := some tx })
  | .makerPaymentSpendConfirmed => s.w ({ · with makerPaymentSpendConfirmed := true })
  | .makerPaymentSpendConfirmFailed err => s.pushError err
  | .makerPaymentSpentByWatcher tx => s.w ({ · with makerPaymentSpend := some tx })
  | .makerPaymentSpendFailed err => s.pushError err
  | .takerPaymentWaitRefundStarted _ => s
  | .takerPaymentRefundStarted => s
  | .takerPaymentRefunded tx => s.w ({ · with takerPaymentRefund := tx })
  | .takerPaymentRefundFailed err => s.pushError err
  | .takerPaymentRefundFinished => s
  | .takerPaymentRefundedByWatcher tx => s.w ({ · with takerPaymentRefund := tx })
  | .finished => { s with finishedAt := now }

end TakerSwap

/-! ## Commands -/

abbrev TakerProc := SwapProc (HandleResult TakerSwap TakerSwapEvent TakerSwapCommand)

namespace TakerSwap
open SwapCall (ask)

variable (X : SwapEnv) (s : TakerSwap)

def goOn (next : TakerSwapCommand) (events : List TakerSwapEvent) : TakerProc :=
  return .ok (s, some next, events)

/-- A failure that ends the swap. -/
def finishWith (event : TakerSwapEvent) : TakerProc := goOn s .finish [event]

/-- A transaction that was not sent is passed on when others could send it. -/
def broadcastErrTx (side : Side) (e : TransactionErr) : SwapProc Unit :=
  match e.tx with
  | some tx => ask (.broadcastP2pTxMsg side tx)
  | none => return ()

def getMyNegotiationData (secretHash makerCoinSwapContract takerCoinSwapContract : Bytes) :
    NegotiationDataMsg :=
  let data := s.mutable.data
  if data.makerCoinHtlcPubkey = data.takerCoinHtlcPubkey ∧
      data.makerCoinHtlcPubkey = some data.myPersistentPub then
    .v2 data.startedAt data.takerPaymentLock secretHash s.myPersistentPub makerCoinSwapContract
      takerCoinSwapContract
  else
    .v3 data.startedAt data.takerPaymentLock secretHash makerCoinSwapContract
      takerCoinSwapContract s.myMakerCoinHtlcPub s.myTakerCoinHtlcPub

/-- `get_taker_fee_data`, from the fee transaction. -/
def getTakerFeeData (takerFee : TransactionIdentifier) : SwapProc (Except String SwapTxDataMsg) := do
  let data := s.mutable.data
  match ← ask (.makerPaymentInstructions
      { secretHash := s.mutable.secretHash
        amount := X.toDecimal s.makerAmount
        makerLockDuration := X.makerLockDuration data.lockDuration
        expiresIn := waitForMakerPaymentConfDuration data.lockDuration
        watcherReward := s.mutable.watcherReward && X.takerCoin.isEth
        waitUntil := waitForMakerPaymentConfUntil data.startedAt data.lockDuration }) with
  | .error e => return .error e
  | .ok instructions => return .ok (.new takerFee.txHex instructions)

/-- The fee of a transaction that sends the dex fee. -/
def feeToSendDexFee : DexFee → SwapProc (Except String Unit)
  | .noFee => return .ok ()
  | fee => ask (.getFeeToSendTakerFee fee)

def start : TakerProc := do
  let dexFee := X.takerCoin.newWithTakerPubkey X.makerCoin.ticker s.takerAmount
    s.myTakerCoinHtlcPub
  match ← feeToSendDexFee dexFee with
  | .error e => finishWith s (.startFailed s!"!taker_coin.get_fee_to_send_taker_fee {e}")
  | .ok _ =>
  match ← ask (.getSenderTradeFee .taker (X.toDecimal s.takerAmount)) with
  | .error e => finishWith s (.startFailed s!"!taker_coin.get_sender_trade_fee {e}")
  | .ok _ =>
  match ← ask (.getReceiverTradeFee .maker) with
  | .error e => finishWith s (.startFailed s!"!maker_coin.get_receiver_trade_fee {e}")
  | .ok _ =>
  match ← ask (.checkBalanceForTakerSwap s.takerAmount dexFee.totalSpendAmount) with
  | .error e => finishWith s (.startFailed s!"!check_balance_for_taker_swap {e}")
  | .ok _ =>
  let startedAt ← nowSec
  match ← ask (.currentBlock .maker) with
  | .error e => finishWith s (.startFailed s!"!maker_coin.current_block {e}")
  | .ok makerCoinStartBlock =>
  match ← ask (.currentBlock .taker) with
  | .error e => finishWith s (.startFailed s!"!taker_coin.current_block {e}")
  | .ok takerCoinStartBlock =>
  let data : TakerSwapData :=
    { takerCoin := X.takerCoin.ticker
      makerCoin := X.makerCoin.ticker
      makerPubkey := s.makerPubkey
      startedAt
      lockDuration := s.paymentLocktime
      makerAmount := X.toDecimal s.makerAmount
      takerAmount := X.toDecimal s.takerAmount
      makerPaymentConfirmations := s.confSettings.makerCoinConfs
      makerPaymentRequiresNota := some s.confSettings.makerCoinNota
      takerPaymentConfirmations := s.confSettings.takerCoinConfs
      takerPaymentRequiresNota := some s.confSettings.takerCoinNota
      takerPaymentLock := startedAt + s.paymentLocktime
      myPersistentPub := s.myPersistentPub
      uuid := s.uuid
      makerPaymentWait := waitForMakerPaymentConfUntil startedAt s.paymentLocktime
      makerCoinStartBlock
      takerCoinStartBlock
      makerCoinSwapContractAddress := X.makerCoin.swapContractAddress
      takerCoinSwapContractAddress := X.takerCoin.swapContractAddress
      makerCoinHtlcPubkey := some (X.makerCoin.deriveHtlcPubkey s.uniqueSwapData)
      takerCoinHtlcPubkey := some (X.takerCoin.deriveHtlcPubkey s.uniqueSwapData) }
  let watcherReward ← ask .useWatcherReward
  goOn (s.w ({ · with watcherReward })) .negotiate [.started data]

/-- The taker negotiates with its fallback contract when the maker's address is not its own. -/
def negotiateSwapContract (coin : SwapCoin) (otherSideAddress : Option Bytes) :
    Except String (Option Bytes) :=
  match coin.negotiateSwapContractAddr otherSideAddress with
  | .ok addr => .ok addr
  | .error e =>
    match coin.fallbackSwapContract with
    | some addr => .ok (some addr)
    | none => .error e

/-- The checks of the maker's negotiation data, and the negotiated contract addresses. -/
def checkMakerData (makerData : NegotiationDataMsg) :
    Except SwapError (Option Bytes × Option Bytes) := do
  let data := s.mutable.data
  let timeDif := absDiff data.startedAt makerData.startedAt
  if timeDif > maxStartedAtDiff then
    throw ("The time difference between you and the maker cannot be longer than 60 seconds. " ++
      s!"Current difference: {timeDif}. Please make sure that your system clock is synced to the " ++
      "correct time before starting another swap!")
  let expectedLockTime :=
    checkedAdd makerData.startedAt (X.makerLockDuration data.lockDuration)
  if some makerData.paymentLocktime ≠ expectedLockTime then
    throw (s!"maker_data.payment_locktime {makerData.paymentLocktime} not equal to expected " ++
      s!"{debugOption expectedLockTime}")
  let makerCoinSwapContractAddr ←
    (negotiateSwapContract X.makerCoin makerData.makerCoinSwapContract).mapError
      fun e => s!"!maker_coin.negotiate_swap_contract_addr {e}"
  let takerCoinSwapContractAddr ←
    (negotiateSwapContract X.takerCoin makerData.takerCoinSwapContract).mapError
      fun e => s!"!taker_coin.negotiate_swap_contract_addr {e}"
  (X.makerCoin.validateOtherPubkey makerData.makerCoinHtlcPub).mapError
    fun err => s!"!maker_data.maker_coin_htlc_pub {err}"
  (X.takerCoin.validateOtherPubkey makerData.takerCoinHtlcPub).mapError
    fun err => s!"!maker_data.taker_coin_htlc_pub {err}"
  if ¬(makerData.secretHash.length = 20 ∨ makerData.secretHash.length = 32) then
    throw "!maker_data.secret_hash: secret_hash validation failed"
  return (makerCoinSwapContractAddr, takerCoinSwapContractAddr)

/-- `NEGOTIATE_TIMEOUT_SEC`. -/
def negotiateTimeoutSec : ℕ := 90

def negotiate : TakerProc := do
  match ← ask (.recvNegotiation negotiateTimeoutSec) with
  | .error e => finishWith s (.negotiateFailed e.quote)
  | .ok makerData =>
  match checkMakerData X s makerData with
  | .error e => finishWith s (.negotiateFailed e)
  | .ok (makerCoinSwapContractAddr, takerCoinSwapContractAddr) =>
  let takerData := getMyNegotiationData s makerData.secretHash
    (makerCoinSwapContractAddr.getD []) (takerCoinSwapContractAddr.getD [])
  match ← ask (.recvNegotiated takerData negotiateTimeoutSec) with
  | .error e => finishWith s (.negotiateFailed e.quote)
  | .ok false => finishWith s (.negotiateFailed "Maker sent negotiated = false")
  | .ok true =>
  goOn s .sendTakerFee [.negotiated
    { makerPaymentLocktime := makerData.paymentLocktime
      makerPubkey := h264Default
      secretHash := makerData.secretHash
      makerCoinSwapContractAddr
      takerCoinSwapContractAddr
      makerCoinHtlcPubkey := some makerData.makerCoinHtlcPub
      takerCoinHtlcPubkey := some makerData.takerCoinHtlcPub }]

def sendTakerFee : TakerProc := do
  let data := s.mutable.data
  let expireAt := data.startedAt + data.lockDuration / 3
  let now ← nowSec
  if now > expireAt then finishWith s (.takerFeeSendFailed s!"Timeout {now} > {expireAt}")
  else
  match X.takerCoin.newWithTakerPubkey data.makerCoin s.takerAmount s.myTakerCoinHtlcPub with
  | .noFee => goOn s .waitForMakerPayment [.takerFeeSent { txHex := [], txHash := [] }]
  | dexFee =>
  match ← ask (.sendTakerFee dexFee s.uuid expireAt) with
  | .error err => finishWith s (.takerFeeSendFailed err.text)
  | .ok transaction =>
  goOn s .waitForMakerPayment [.takerFeeSent (X.takerCoin.ident transaction)]

/-- `MAKER_PAYMENT_WAIT_TIMEOUT_SEC`. -/
def makerPaymentWaitTimeoutSec : ℕ := 600

/-- The instructions that come with the maker payment, when there are some. -/
def validateInstructions (payload : SwapTxDataMsg) : Except String (Option PaymentInstructions) :=
  match payload.instructions with
  | none => .ok none
  | some instructions =>
    (X.takerCoin.validateTakerPaymentInstructions instructions
      { secretHash := s.mutable.secretHash
        amount := X.toDecimal s.takerAmount }).map some

def waitForMakerPayment : TakerProc :=
  match s.mutable.takerFee with
  | none => return .error "TakerSwapMut::taker_fee must be some value to use get_taker_fee_data"
  | some takerFee => do
  match ← getTakerFeeData X s takerFee with
  | .error e => finishWith s (.makerPaymentValidateFailed e)
  | .ok paymentDataMsg =>
  match ← ask (.recvMakerPayment paymentDataMsg makerPaymentWaitTimeoutSec) with
  | .error e =>
    finishWith s (.makerPaymentValidateFailed s!"Error waiting for 'maker-payment' data: {e}")
  | .ok payload =>
  match validateInstructions X s payload with
  | .error e => finishWith s (.makerPaymentValidateFailed e)
  | .ok instructions =>
  match X.makerCoin.txEnumFromBytes payload.data with
  | .error e =>
    finishWith s (.makerPaymentValidateFailed s!"Error parsing the 'maker-payment': {e}")
  | .ok makerPayment =>
  goOn s .validateMakerPayment
    [.takerPaymentInstructionsReceived instructions,
      .makerPaymentReceived (X.makerCoin.ident makerPayment),
      .makerPaymentWaitConfirmStarted]

/-- The reward that the maker promises the watchers, when rewards are used. -/
def makerWatcherReward : SwapProc (Except String (Option Evm.WatcherReward)) :=
  if s.mutable.watcherReward then
    ask (.getMakerWatcherReward s.watcherRewardAmount s.mutable.data.makerPaymentWait)
  else return .ok none

def validateMakerPayment : TakerProc :=
  match s.mutable.makerPayment with
  | none => return .error "called Option::unwrap() on a None value"
  | some makerPayment => do
  let data := s.mutable.data
  match ← ask (.waitForConfirmations .maker
      { paymentTx := makerPayment.txHex
        confirmations := data.makerPaymentConfirmations
        requiresNota := data.makerPaymentRequiresNota.getD false
        waitUntil := data.makerPaymentWait
        checkEvery := waitConfirmIntervalSec }) with
  | .error err =>
    finishWith s (.makerPaymentWaitConfirmFailed
      s!"!wait for maker payment confirmations: {err}")
  | .ok _ =>
  match ← makerWatcherReward s with
  | .error err => finishWith s (.takerPaymentTransactionFailed err)
  | .ok watcherReward =>
  match ← ask (.validateMakerPayment
      { paymentTx := makerPayment.txHex
        timeLockDuration := data.lockDuration
        timeLock := s.makerPaymentLock
        otherPub := s.mutable.otherMakerCoinHtlcPub
        secretHash := s.mutable.secretHash
        amount := X.toDecimal s.makerAmount
        swapContractAddress := data.makerCoinSwapContractAddress
        trySpvProofUntil := data.makerPaymentWait
        confirmations := data.makerPaymentConfirmations
        uniqueSwapData := s.uniqueSwapData
        watcherReward }) with
  | .error e => finishWith s (.makerPaymentValidateFailed s!"!validate maker payment: {e}")
  | .ok _ => goOn s .sendTakerPayment [.makerPaymentValidatedAndConfirmed]

/-- What watchers need; `none` where the source unwraps a transaction that is missing. -/
def createWatcherData (takerPaymentHash makerPaymentSpendPreimage : Bytes)
    (takerPaymentRefundPreimage : Bytes) : Option TakerSwapWatcherData := do
  let takerFee ← s.mutable.takerFee
  let makerPayment ← s.mutable.makerPayment
  let data := s.mutable.data
  return {
    uuid := s.uuid
    secretHash := s.mutable.secretHash
    makerPaymentSpendPreimage
    takerPaymentRefundPreimage
    swapStartedAt := data.startedAt
    lockDuration := data.lockDuration
    takerCoin := data.takerCoin
    takerFeeHash := takerFee.txHash
    takerPaymentHash
    takerCoinStartBlock := data.takerCoinStartBlock
    takerPaymentConfirmations := data.takerPaymentConfirmations
    takerPaymentRequiresNota := data.takerPaymentRequiresNota
    makerCoin := data.makerCoin
    makerPub := s.mutable.otherMakerCoinHtlcPub
    makerPaymentHash := makerPayment.txHash
    makerCoinStartBlock := data.makerCoinStartBlock }

/-- `setup_watcher_reward`. -/
def setupWatcherReward : SwapProc (Except String (Option Evm.WatcherReward)) := do
  if s.mutable.watcherReward then
    match ← ask (.getTakerWatcherReward (X.toDecimal s.takerAmount) (X.toDecimal s.makerAmount)
        s.watcherRewardAmount s.mutable.data.takerPaymentLock) with
    | .ok reward => return .ok (some reward)
    | .error err => return .error s!"Watcher reward error: {err}"
  else return .ok none

/-- The preimages for the watchers and their broadcast; an error where the source panics. -/
def processWatcherLogic (transaction : Bytes) :
    SwapProc (Except String (Option TakerSwapEvent)) :=
  if X.disableWatchersGlobally || !X.supportedByWatchers then return .ok none
  else
  match s.mutable.makerPayment with
  | none => return .error "called Option::unwrap() on a None value"
  | some makerPayment => do
  match ← ask (.createMakerPaymentSpendPreimage
      { paymentTx := makerPayment.txHex
        timeLock := s.makerPaymentLock
        otherPub := s.mutable.otherMakerCoinHtlcPub
        secretHash := s.mutable.secretHash
        swapContractAddress := none
        swapUniqueData := s.uniqueSwapData }) with
  | .error _ => return .ok none
  | .ok makerPaymentSpend =>
  match ← ask (.createTakerPaymentRefundPreimage
      { paymentTx := transaction
        timeLock := s.mutable.data.takerPaymentLock
        otherPub := s.mutable.otherTakerCoinHtlcPub
        secretHash := s.mutable.secretHash
        swapContractAddress := s.mutable.data.takerCoinSwapContractAddress
        swapUniqueData := s.uniqueSwapData }) with
  | .error _ => return .ok none
  | .ok takerPaymentRefund =>
  match createWatcherData s (X.takerCoin.txHashAsBytes transaction) makerPaymentSpend
      takerPaymentRefund with
  | none => return .error "called Option::unwrap() on a None value"
  | some watcherData =>
  let _ ← ask (.broadcastWatcherMsg watcherData)
  return .ok (some (.watcherMessageSent (some makerPaymentSpend) (some takerPaymentRefund)))

/-- The events of a taker payment that is on its way. -/
def takerPaymentSent (transaction : Bytes) : TakerProc := do
  match ← processWatcherLogic X s transaction with
  | .error e => return .error e
  | .ok watcherEvent =>
  goOn s .waitForTakerPaymentSpend
    ([.takerPaymentSent (X.takerCoin.ident transaction)] ++ watcherEvent.toList)

def sendTakerPayment : TakerProc := do
  let data := s.mutable.data
  match ← ask (.checkIfMyPaymentSent .taker
      { timeLock := data.takerPaymentLock
        otherPub := s.mutable.otherTakerCoinHtlcPub
        secretHash := s.mutable.secretHash
        searchFromBlock := data.takerCoinStartBlock
        swapContractAddress := data.takerCoinSwapContractAddress
        swapUniqueData := s.uniqueSwapData
        amount := X.toDecimal s.takerAmount
        paymentInstructions := s.mutable.paymentInstructions }) with
  | .error e => finishWith s (.takerPaymentTransactionFailed e)
  | .ok (some tx) =>
    match ← setupWatcherReward X s with
    | .error err => finishWith s (.takerPaymentTransactionFailed err)
    | .ok _ => takerPaymentSent X s tx
  | .ok none =>
  let timeout := data.makerPaymentWait
  let now ← nowSec
  if now > timeout then
    finishWith s (.takerPaymentTransactionFailed s!"Timeout {now} > {timeout}")
  else
  match ← setupWatcherReward X s with
  | .error err => finishWith s (.takerPaymentTransactionFailed err)
  | .ok watcherReward =>
  match ← ask (.sendTakerPayment
      { timeLockDuration := data.lockDuration
        timeLock := data.takerPaymentLock
        otherPubkey := s.mutable.otherTakerCoinHtlcPub
        secretHash := s.mutable.secretHash
        amount := X.toDecimal s.takerAmount
        swapContractAddress := data.takerCoinSwapContractAddress
        swapUniqueData := s.uniqueSwapData
        paymentInstructions := s.mutable.paymentInstructions
        watcherReward
        waitForConfirmationUntil := data.takerPaymentLock }) with
  | .error err => finishWith s (.takerPaymentTransactionFailed err.text)
  | .ok transaction => takerPaymentSent X s transaction

/-- The message for the watchers that is repeated while the taker waits; an error where the
source panics. -/
def watcherMsg (takerPayment : TransactionIdentifier) :
    Except String (Option TakerSwapWatcherData) :=
  if X.disableWatchersGlobally || !X.supportedByWatchers then .ok none
  else
  match s.mutable.makerPaymentSpendPreimage, s.mutable.takerPaymentRefundPreimage with
  | some makerPaymentSpend, some takerPaymentRefund =>
    match createWatcherData s takerPayment.txHash makerPaymentSpend takerPaymentRefund with
    | some watcherData => .ok (some watcherData)
    | none => .error "called Option::unwrap() on a None value"
  | _, _ => .ok none

/-- `TAKER_PAYMENT_SPEND_SEARCH_INTERVAL`. -/
def takerPaymentSpendSearchInterval : ℚ := 10

def waitForTakerPaymentSpend : TakerProc :=
  match s.mutable.takerPayment with
  | none => return .error "called Option::unwrap() on a None value"
  | some takerPayment =>
  match watcherMsg X s takerPayment with
  | .error e => return .error e
  | .ok watcherData => do
  let data := s.mutable.data
  match ← ask (.waitForHtlcTxSpend
      { txBytes := takerPayment.txHex
        secretHash := s.mutable.secretHash
        waitUntil := data.takerPaymentLock
        fromBlock := data.takerCoinStartBlock
        swapContractAddress := data.takerCoinSwapContractAddress
        checkEvery := takerPaymentSpendSearchInterval
        watcherReward := s.mutable.watcherReward } watcherData) with
  | .error err =>
    goOn s .prepareForTakerPaymentRefund
      [.takerPaymentWaitForSpendFailed err.text,
        .takerPaymentWaitRefundStarted s.waitRefundUntil]
  | .ok tx =>
  match ← ask (.extractSecret .taker s.mutable.secretHash tx) with
  | .error e => finishWith s (.takerPaymentWaitForSpendFailed e)
  | .ok secret =>
  goOn s .spendMakerPayment
    [.takerPaymentSpent { transaction := X.takerCoin.ident tx, secret }]

/-- How the taker spends this maker payment with a secret. -/
def spendArgs (makerPayment : TransactionIdentifier) (secret : Bytes) : SpendPaymentArgs where
  otherPaymentTx := makerPayment.txHex
  timeLock := s.makerPaymentLock
  otherPubkey := s.mutable.otherMakerCoinHtlcPub
  secret := secret
  secretHash := s.mutable.secretHash
  swapContractAddress := s.mutable.data.makerCoinSwapContractAddress
  swapUniqueData := s.uniqueSwapData
  watcherReward := s.mutable.watcherReward

def spendMakerPayment : TakerProc :=
  match s.mutable.makerPayment with
  | none => return .error "called Option::unwrap() on a None value"
  | some makerPayment => do
  match ← ask (.sendTakerSpendsMakerPayment (spendArgs s makerPayment s.mutable.secret)) with
  | .error err =>
    let _ ← broadcastErrTx .maker err
    finishWith s (.makerPaymentSpendFailed err.text)
  | .ok transaction =>
  let _ ← ask (.broadcastP2pTxMsg .maker transaction)
  goOn s .confirmMakerPaymentSpend [.makerPaymentSpent (X.makerCoin.ident transaction)]

def confirmMakerPaymentSpend : TakerProc :=
  match s.mutable.makerPaymentSpend with
  | none => return .error "called Option::unwrap() on a None value"
  | some makerPaymentSpend => do
  match ← ask (.waitForConfirmations .maker
      { paymentTx := makerPaymentSpend.txHex
        confirmations := s.mutable.data.makerPaymentConfirmations
        requiresNota := false
        waitUntil := s.waitRefundUntil
        checkEvery := waitConfirmIntervalSec }) with
  | .error err =>
    goOn s .prepareForTakerPaymentRefund
      [.makerPaymentSpendConfirmFailed s!"!wait for maker payment spend confirmations: {err}",
        .takerPaymentWaitRefundStarted s.waitRefundUntil]
  | .ok _ => finishWith s .makerPaymentSpendConfirmed

def prepareForTakerPaymentRefund : TakerProc :=
  match s.mutable.makerPayment with
  | none => return .error "called Option::unwrap() on a None value"
  | some makerPayment => do
  let _ ← ask (.onRefundStart .maker makerPayment.txHex)
  goOn s .refundTakerPayment [.takerPaymentRefundStarted]

/-- One pass of the loop on `can_refund_htlc`, and the refund: the command is taken up again as
long as it has to wait. -/
def refundTakerPayment : TakerProc :=
  match s.mutable.takerPayment with
  | none => return .error "called Option::unwrap() on a None value"
  | some takerPayment => do
  let locktime := s.mutable.data.takerPaymentLock
  if X.takerCoin.isAutoRefundable then
    match ← ask (.waitForHtlcRefund .taker takerPayment.txHex locktime) with
    | .ok _ => goOn s .finalizeTakerPaymentRefund [.takerPaymentRefunded none]
    | .error err =>
      finishWith s (.takerPaymentRefundFailed s!"!taker_coin.wait_for_htlc_refund: {err}")
  else
  match ← ask (.canRefundHtlc .taker locktime) with
  | .ok (.haveToWait toSleep) =>
    let _ ← ask (.sleep toSleep)
    goOn s .refundTakerPayment []
  | .error _ =>
    let _ ← ask (.sleep 30)
    goOn s .refundTakerPayment []
  | .ok .canRefundNow =>
  match ← ask (.sendRefundsPayment .taker
      { paymentTx := takerPayment.txHex
        timeLock := locktime
        otherPubkey := s.mutable.otherTakerCoinHtlcPub
        makerSecretHash := s.mutable.secretHash
        swapContractAddress := s.mutable.data.takerCoinSwapContractAddress
        swapUniqueData := s.uniqueSwapData
        watcherReward := s.mutable.watcherReward }) with
  | .error err =>
    let _ ← broadcastErrTx .taker err
    finishWith s (.takerPaymentRefundFailed err.text.quote)
  | .ok transaction =>
  let _ ← ask (.broadcastP2pTxMsg .taker transaction)
  goOn s .finalizeTakerPaymentRefund
    [.takerPaymentRefunded (some (X.takerCoin.ident transaction))]

def finalizeTakerPaymentRefund : TakerProc :=
  match s.mutable.makerPayment with
  | none => return .error "called Option::unwrap() on a None value"
  | some makerPayment => do
  let _ ← ask (.onRefundSuccess .maker makerPayment.txHex)
  finishWith s .takerPaymentRefundFinished

def handleCommand (c : TakerSwapCommand) (s : TakerSwap) : TakerProc :=
  match c with
  | .start => start X s
  | .negotiate => negotiate X s
  | .sendTakerFee => sendTakerFee X s
  | .waitForMakerPayment => waitForMakerPayment X s
  | .validateMakerPayment => validateMakerPayment X s
  | .sendTakerPayment => sendTakerPayment X s
  | .waitForTakerPaymentSpend => waitForTakerPaymentSpend X s
  | .spendMakerPayment => spendMakerPayment X s
  | .confirmMakerPaymentSpend => confirmMakerPaymentSpend s
  | .prepareForTakerPaymentRefund => prepareForTakerPaymentRefund s
  | .refundTakerPayment => refundTakerPayment X s
  | .finalizeTakerPaymentRefund => finalizeTakerPaymentRefund s
  | .finish => return .ok (s, none, [.finished])

end TakerSwap

end DeXFG.LegacySwap
