import DeXFG.LegacySwap.TakerSwap

/-!
# The restart of a taker swap and the recovery of its funds

A taker swap is loaded from its saved events. When its payments are watched, the
chains are searched for what happened while it was stopped, and the events that
are found are applied and saved. A finished swap can recover its funds.
-/
namespace DeXFG.LegacySwap
open Ordermatch (MmNumber Uuid)
open SwapV2 (Side TransactionIdentifier CanRefundHtlc SwapConfirmationsSettings)
open Library.Process Library.EventSourced

/-- A transaction hash in the text of an error. -/
def hexText (b : Bytes) : String :=
  String.ofList (b.flatMap fun x =>
    [Nat.digitChar (x.toNat / 16), Nat.digitChar (x.toNat % 16)])

abbrev TakerStoreProc (α : Type) :=
  Proc (StoreCall SwapCall TakerSwapEvent) (StoreCall.Answer SwapCall.Answer) α

/-- A call to a coin, by a process that may also save. -/
abbrev askExt {ε : Type} (c : SwapCall) :
    Proc (StoreCall SwapCall ε) (StoreCall.Answer SwapCall.Answer) c.Answer :=
  .call (.ext c) .done

/-- `save_to_db` of all the events. -/
abbrev saveToDb {ε : Type} (saved : List ε) :
    Proc (StoreCall SwapCall ε) (StoreCall.Answer SwapCall.Answer) (Except String Unit) :=
  .call (.overwrite saved) .done

namespace TakerSwap

variable (X : SwapEnv) (uuid : Uuid)

/-- Contract addresses that are missing in an out-dated file are those of the coins. -/
def refresh (data : TakerSwapData) : TakerSwapData :=
  { data with
    makerCoinSwapContractAddress :=
      data.makerCoinSwapContractAddress.or X.makerCoin.swapContractAddress
    takerCoinSwapContractAddress :=
      data.takerCoinSwapContractAddress.or X.takerCoin.swapContractAddress }

/-- The new swap to which the saved events are applied. -/
def ofData (data : TakerSwapData) : TakerSwap where
  makerAmount := data.makerAmount
  takerAmount := data.takerAmount
  myPersistentPub := X.mm2InternalPub
  makerPubkey := data.makerPubkey
  uuid := uuid
  confSettings :=
    { makerCoinConfs := data.makerPaymentConfirmations
      makerCoinNota := data.makerPaymentRequiresNota.getD X.makerCoin.requiresNotarization
      takerCoinConfs := data.takerPaymentConfirmations
      takerCoinNota := data.takerPaymentRequiresNota.getD X.takerCoin.requiresNotarization }
  paymentLocktime := data.lockDuration

/-- The swap after the saved events. -/
def replay (now : ℕ) (data : TakerSwapData) (events : TakerSavedSwap) : TakerSwap :=
  events.foldl (applyEvent now)
    (applyEvent now (ofData X uuid (refresh X data)) (.started (refresh X data)))

/-! ## What happened while the taker was stopped -/

section Discovery

variable (s : TakerSwap) (saved : TakerSavedSwap)

/-- The search for the spend of the maker payment. -/
def makerPaymentSearch (makerPayment : Bytes) : SearchForSwapTxSpendInput where
  timeLock := s.makerPaymentLock
  otherPub := s.mutable.otherMakerCoinHtlcPub
  secretHash := s.mutable.secretHash
  tx := makerPayment
  searchFromBlock := s.mutable.data.makerCoinStartBlock
  swapContractAddress := s.mutable.data.makerCoinSwapContractAddress
  swapUniqueData := s.uniqueSwapData

/-- The search for the spend of the taker payment. -/
def takerPaymentSearch (takerPayment : Bytes) : SearchForSwapTxSpendInput where
  timeLock := s.mutable.data.takerPaymentLock
  otherPub := s.mutable.otherTakerCoinHtlcPub
  secretHash := s.mutable.secretHash
  tx := takerPayment
  searchFromBlock := s.mutable.data.takerCoinStartBlock
  swapContractAddress := s.mutable.data.takerCoinSwapContractAddress
  swapUniqueData := s.uniqueSwapData

def checkTakerPaymentSpend : TakerStoreProc (Except String (Option FoundSwapTxSpend)) :=
  match s.mutable.takerPayment with
  | none => return .error "No info about taker payment, swap is not recoverable"
  | some takerPayment =>
    askExt (.searchForSwapTxSpendMy .taker (takerPaymentSearch s takerPayment.txHex))

/-- The swap and its events after the taker payment was found spent; nothing is saved yet. -/
def addTakerPaymentSpentEvent (spendTx : Bytes) :
    TakerStoreProc (Except String (TakerSwap × TakerSavedSwap)) := do
  match ← askExt (.extractSecret .taker s.mutable.secretHash spendTx) with
  | .error _ =>
    return .error "Could not extract secret from taker payment spend transaction"
  | .ok secret =>
  let event := .takerPaymentSpent { transaction := X.takerCoin.ident spendTx, secret }
  let now ← nowSec
  return .ok (applyEvent now s event, saved ++ [event])

/-- The event is applied and saved with all the others. -/
def addAndSave (event : TakerSwapEvent) (command : TakerSwapCommand) :
    TakerStoreProc (Except String (TakerSwap × Option TakerSwapCommand)) := do
  let now ← nowSec
  match ← saveToDb (saved ++ [event]) with
  | .error e => return .error e
  | .ok _ => return .ok (applyEvent now s event, some command)

def addTakerPaymentRefundedByWatcherEvent (refundTx : Bytes) :
    TakerStoreProc (Except String (TakerSwap × Option TakerSwapCommand)) := do
  match ← askExt (.takerValidatesPaymentSpendOrRefund .taker
      { paymentTx := refundTx
        makerPub := s.mutable.otherMakerCoinHtlcPub
        swapContractAddress := s.mutable.data.takerCoinSwapContractAddress
        timeLock := s.mutable.data.takerPaymentLock
        secretHash := s.mutable.secretHash
        amount := X.toDecimal s.takerAmount
        watcherReward := none
        spendType := .takerPaymentRefund }) with
  | .error e => return .error e
  | .ok _ =>
  addAndSave s saved (.takerPaymentRefundedByWatcher (some (X.takerCoin.ident refundTx))) .finish

def checkMakerPaymentSpendAndAddEvent :
    TakerStoreProc (Except String (TakerSwap × Option TakerSwapCommand)) :=
  match s.mutable.makerPayment with
  | none => return .error "No info about maker payment, swap is not recoverable"
  | some makerPayment => do
  match ← askExt (.searchForSwapTxSpendOther .maker
      (makerPaymentSearch s makerPayment.txHex)) with
  | .error e => return .error s!"Error {e} when trying to find maker payment spend"
  | .ok (some (.refunded _)) =>
    return .error ("Maker has cheated by both spending the taker payment, and refunding the maker " ++
      "payment")
  | .ok none => return .ok (s, some .spendMakerPayment)
  | .ok (some (.spent spendTx)) =>
  match ← askExt (.takerValidatesPaymentSpendOrRefund .maker
      { paymentTx := spendTx
        makerPub := s.mutable.otherMakerCoinHtlcPub
        swapContractAddress := s.mutable.data.makerCoinSwapContractAddress
        timeLock := s.makerPaymentLock
        secretHash := s.mutable.secretHash
        amount := X.toDecimal s.makerAmount
        watcherReward := none
        spendType := .makerPaymentSpend }) with
  | .error e => return .error e
  | .ok _ =>
  addAndSave s saved (.makerPaymentSpentByWatcher (X.makerCoin.ident spendTx))
    .confirmMakerPaymentSpend

/-- What the search says in the commands that wait for a spend of the taker payment. -/
def onWaitForSpend :
    TakerStoreProc (Except String (TakerSwap × Option TakerSwapCommand)) := do
  match ← checkTakerPaymentSpend s with
  | .error e => return .error s!"Error {e} when trying to find taker payment spend"
  | .ok none => return .ok (s, some .waitForTakerPaymentSpend)
  | .ok (some (.refunded refundTx)) => addTakerPaymentRefundedByWatcherEvent X s saved refundTx
  | .ok (some (.spent spendTx)) =>
  match ← addTakerPaymentSpentEvent X s saved spendTx with
  | .error e => return .error e
  | .ok (s, saved) => checkMakerPaymentSpendAndAddEvent X s saved

/-- What the search says in the commands that refund the taker payment. -/
def onRefund (command : TakerSwapCommand) :
    TakerStoreProc (Except String (TakerSwap × Option TakerSwapCommand)) := do
  let data := s.mutable.data
  let now ← nowSec
  if now < watcherRefundTime data.startedAt data.lockDuration then return .ok (s, some command)
  else
  match ← checkTakerPaymentSpend s with
  | .error e => return .error s!"Error {e} when trying to find taker payment spend"
  | .ok none => return .ok (s, some command)
  | .ok (some (.refunded refundTx)) => addTakerPaymentRefundedByWatcherEvent X s saved refundTx
  | .ok (some (.spent _)) =>
    return .error "Taker payment is not expected to be spent at this point"

def getCommandBasedOnMakerOrWatcherActivity (command : TakerSwapCommand) :
    TakerStoreProc (Except String (TakerSwap × Option TakerSwapCommand)) := do
  let data := s.mutable.data
  let now ← nowSec
  if now < watcherMakerPaymentSpendTime data.startedAt data.lockDuration then
    return .ok (s, some command)
  else
  match command with
  | .waitForTakerPaymentSpend => onWaitForSpend X s saved
  | .spendMakerPayment => checkMakerPaymentSpendAndAddEvent X s saved
  | .prepareForTakerPaymentRefund => onRefund X s saved command
  | .refundTakerPayment => onRefund X s saved command
  | command => return .ok (s, some command)

end Discovery

/-- The command of the last event, and what the search makes of it. -/
def commandAfter (s : TakerSwap) (saved : TakerSavedSwap) (last : TakerSwapEvent) :
    TakerStoreProc (Except String (TakerSwap × Option TakerSwapCommand)) :=
  match last.getCommand with
  | none => return .ok (s, none)
  | some command =>
    if X.supportedByWatchers && saved.watcherMessageSent then
      getCommandBasedOnMakerOrWatcherActivity X s saved command
    else return .ok (s, some command)

def loadFromSaved : TakerSavedSwap →
    TakerStoreProc (Except String (TakerSwap × Option TakerSwapCommand))
  | [] => return .error "Can't restore swap from empty events set"
  | .started data :: events => do
    let now ← nowSec
    commandAfter X (replay X uuid now data events) (.started (refresh X data) :: events)
      (events.getLastD (.started data))
  | _ :: _ => return .error "First swap event must be Started"

/-- `run_taker_swap`. -/
def system : System SwapCall SwapCall.Answer TakerSwap TakerSwapEvent TakerSwapCommand where
  apply := applyEvent
  handle := handleCommand X
  load := loadFromSaved X uuid

end TakerSwap

/-! ## Recovery -/

inductive RecoveredSwapAction where
  | refundedMyPayment
  | spentOtherPayment
  deriving DecidableEq, Repr

structure RecoveredSwap where
  action : RecoveredSwapAction
  coin : String
  transaction : Bytes
  deriving DecidableEq, Repr

namespace TakerSwap
open SwapCall (ask)

variable (X : SwapEnv) (s : TakerSwap)

/-- The checks of `recover_funds` on the state, and the maker payment. -/
def recoverGuards : Except String TransactionIdentifier :=
  if s.finishedAt = 0 then .error "Swap must be finished before recover funds attempt"
  else if s.mutable.takerPaymentRefund.isSome then
    .error "Taker payment is refunded, swap is not recoverable"
  else if s.mutable.makerPaymentSpend.isSome ∧ s.mutable.makerPaymentSpendConfirmed then
    .error "Maker payment is spent and confirmed, swap is not recoverable"
  else
    match s.mutable.makerPayment with
    | none => .error "No info about maker payment, swap is not recoverable"
    | some makerPayment => .ok makerPayment

/-- `check_maker_payment_is_not_spent`. -/
def checkMakerPaymentIsNotSpent (makerPayment : Bytes) : SwapProc (Except String Unit) := do
  match ← ask (.searchForSwapTxSpendOther .maker (makerPaymentSearch s makerPayment)) with
  | .ok (some (.spent tx)) =>
    return .error (s!"Maker payment was already spent by {X.makerCoin.ticker} tx " ++
      s!"{hexText (X.makerCoin.txHashAsBytes tx)}")
  | .ok (some (.refunded tx)) =>
    return .error (s!"Maker payment was already refunded by {X.makerCoin.ticker} tx " ++
      s!"{hexText (X.makerCoin.txHashAsBytes tx)}")
  | .error e => return .error s!"Error {e} when trying to find maker payment spend"
  | .ok none => return .ok ()

/-- The end of a recovery by a transaction, with the text of its error. -/
def recovered (side : Side) (action : RecoveredSwapAction) (text : String → String) :
    Except TransactionErr Bytes → SwapProc (Except String RecoveredSwap)
  | .error err => do
    let _ ← broadcastErrTx side err
    return .error (text err.text)
  | .ok transaction => return .ok { action, coin := (X.coin side).ticker, transaction }

/-- The taker payment, from the state or from the chain. -/
def findTakerPayment : SwapProc (Except String Bytes) :=
  match s.mutable.takerPayment with
  | some tx => return .ok tx.txHex
  | none => do
    match ← ask (.checkIfMyPaymentSent .taker
        { timeLock := s.mutable.data.takerPaymentLock
          otherPub := s.mutable.otherTakerCoinHtlcPub
          secretHash := s.mutable.secretHash
          searchFromBlock := s.mutable.data.takerCoinStartBlock
          swapContractAddress := s.mutable.data.takerCoinSwapContractAddress
          swapUniqueData := s.uniqueSwapData
          amount := X.toDecimal s.takerAmount
          paymentInstructions := s.mutable.paymentInstructions }) with
    | .error e => return .error e
    | .ok none => return .error "Taker payment is not found, swap is not recoverable"
    | .ok (some tx) => return .ok tx

/-- The maker payment is spent with a known secret, when it is not spent yet. -/
def recoverMakerPayment (makerPayment : TransactionIdentifier) :
    SwapProc (Except String RecoveredSwap) := do
  match ← checkMakerPaymentIsNotSpent X s makerPayment.txHex with
  | .error e => return .error e
  | .ok _ =>
  let spend ← ask (.sendTakerSpendsMakerPayment (spendArgs s makerPayment s.mutable.secret))
  recovered X .maker .spentOtherPayment id spend

/-- The maker payment is spent with the secret of a spend that was found. -/
def recoverWithSpend (makerPayment : TransactionIdentifier) (spendTx : Bytes) :
    SwapProc (Except String RecoveredSwap) := do
  match ← checkMakerPaymentIsNotSpent X s makerPayment.txHex with
  | .error e => return .error e
  | .ok _ =>
  match ← ask (.extractSecret .taker s.mutable.secretHash spendTx) with
  | .error e => return .error e
  | .ok secret =>
  let spend ← ask (.sendTakerSpendsMakerPayment (spendArgs s makerPayment secret))
  recovered X .maker .spentOtherPayment id spend

/-- The refund of a taker payment that is not spent. -/
def recoverRefund (takerPayment : Bytes) : SwapProc (Except String RecoveredSwap) := do
  if X.takerCoin.isAutoRefundable then
    return .error "Taker payment will be refunded automatically!"
  else
  let data := s.mutable.data
  match ← ask (.canRefundHtlc .taker data.takerPaymentLock) with
  | .error e => return .error e
  | .ok (.haveToWait secondsToWait) =>
    let now ← nowSec
    return .error s!"Too early to refund, wait until {now + secondsToWait}"
  | .ok .canRefundNow =>
  let refund ← ask (.sendRefundsPayment .taker
    { paymentTx := takerPayment
      timeLock := data.takerPaymentLock
      otherPubkey := s.mutable.otherTakerCoinHtlcPub
      makerSecretHash := s.mutable.secretHash
      swapContractAddress := data.takerCoinSwapContractAddress
      swapUniqueData := s.uniqueSwapData
      watcherReward := s.mutable.watcherReward })
  recovered X .taker .refundedMyPayment String.quote refund

def recoverFunds : SwapProc (Except String RecoveredSwap) :=
  match recoverGuards s with
  | .error e => return .error e
  | .ok makerPayment => do
  match ← findTakerPayment X s with
  | .error e => return .error e
  | .ok takerPayment =>
  if s.mutable.takerPaymentSpend.isSome then recoverMakerPayment X s makerPayment
  else
  match ← ask (.searchForSwapTxSpendMy .taker (takerPaymentSearch s takerPayment)) with
  | .error e => return .error e
  | .ok (some (.spent spendTx)) => recoverWithSpend X s makerPayment spendTx
  | .ok (some (.refunded tx)) =>
    return .error ("Taker payment has been refunded already by transaction " ++
      s!"{hexText (X.takerCoin.txHashAsBytes tx)}")
  | .ok none => recoverRefund X s takerPayment

end TakerSwap

end DeXFG.LegacySwap
