import DeXFG.Library.DurableMachine
import DeXFG.SwapV2.Types

/-!
# The storable state machine under both sides of a V2 swap

Every await point of the maker and of the taker is a `Call`. The world keeps the
clock, the stored representation and events of the swap, and a log of the calls
with their replies. A state change stores the event of the new state before the
state is entered; a restart enters the state of the last stored event.
-/
namespace DeXFG.SwapV2
open Ordermatch (MmNumber Uuid)
open Library.Process Library.DurableMachine

variable {X : External} {Mach State Ev Repr : Type}

inductive Call (X : External) (Ev Repr : Type) where
  -- the storage and the lock of the swap
  | acquireReentrancyLock
  | hasRecordFor
  | storeRepr (repr : Repr)
  | storeEvent (event : Ev)
  | markFinished
  -- timers and messages
  | sleep (secs : ℕ)
  /-- One pass of the loop of `recv_swap_v2_msg`: a second of sleep and a look at the store. -/
  | pollSwapV2Msg (field : MsgField) (waitUntil : ℕ)
  | broadcastSwapV2MsgEvery (msg : SwapMessage) (intervalSec : ℕ)
  -- either coin
  | currentBlock (side : Side)
  | getSenderTradeFee (side : Side) (volume : MmNumber)
  | getReceiverTradeFee (side : Side)
  | checkBalanceForMakerSwap (volume : MmNumber) (params : MakerSwapPreparedParams)
  | checkBalanceForTakerSwap (volume : MmNumber) (params : TakerSwapPreparedParams)
  | waitForConfirmations (side : Side) (input : ConfirmPaymentInput)
  | ensureTxIsBroadcasted (side : Side) (txHash txHex : Bytes) (totalGraceSecs pollSecs : ℕ)
  | canRefundHtlc (side : Side) (locktime : ℕ)
  -- the maker coin
  | sendMakerPaymentV2 (args : SendMakerPaymentArgs X.makerCoin)
  | validateMakerPaymentV2 (args : ValidateMakerPaymentArgs X.makerCoin)
  | refundMakerPaymentV2Timelock (args : RefundMakerPaymentTimelockArgs)
  | refundMakerPaymentV2Secret (args : RefundMakerPaymentSecretArgs X.makerCoin)
  | spendMakerPaymentV2 (args : SpendMakerPaymentArgs X.makerCoin)
  -- the taker coin
  | myAddr
  | sendTakerFunding (args : SendTakerFundingArgs)
  | validateTakerFunding (args : ValidateTakerFundingArgs X.takerCoin)
  | refundTakerFundingSecret (args : RefundFundingSecretArgs X.takerCoin)
  | searchForTakerFundingSpend (tx : X.takerCoin.Tx) (fromBlock : ℕ) (secretHash : Bytes)
  | genTakerFundingSpendPreimage (args : GenTakerFundingSpendArgs X.takerCoin)
      (swapUniqueData : Bytes)
  | validateTakerFundingSpendPreimage (args : GenTakerFundingSpendArgs X.takerCoin)
      (preimage : TxPreimageWithSig X.takerCoin)
  | signAndSendTakerFundingSpend (preimage : TxPreimageWithSig X.takerCoin)
      (args : GenTakerFundingSpendArgs X.takerCoin) (swapUniqueData : Bytes)
  | refundCombinedTakerPayment (args : RefundTakerPaymentArgs)
  | genTakerPaymentSpendPreimage (args : GenTakerPaymentSpendArgs X.takerCoin)
      (swapUniqueData : Bytes)
  | validateTakerPaymentSpendPreimage (args : GenTakerPaymentSpendArgs X.takerCoin)
      (preimage : TxPreimageWithSig X.takerCoin)
  | signAndBroadcastTakerPaymentSpend (preimage : Option (TxPreimageWithSig X.takerCoin))
      (args : GenTakerPaymentSpendArgs X.takerCoin) (secret swapUniqueData : Bytes)
  | findTakerPaymentSpendTx (takerPayment : X.takerCoin.Tx) (fromBlock waitUntil : ℕ)
  | extractSecretV2 (secretHash : Bytes) (spendTx : X.takerCoin.Tx)

@[reducible] def Call.Answer : Call X Ev Repr → Type
  | .acquireReentrancyLock => Except String Unit
  | .hasRecordFor => Except String Bool
  | .storeRepr _ => Except String Unit
  | .storeEvent _ => Except String Unit
  | .markFinished => Except String Unit
  | .sleep _ => Unit
  | .pollSwapV2Msg field _ => Option field.Message
  | .broadcastSwapV2MsgEvery _ _ => Unit
  | .currentBlock _ => Except String ℕ
  | .getSenderTradeFee _ _ => Except String TradeFee
  | .getReceiverTradeFee _ => Except String TradeFee
  | .checkBalanceForMakerSwap _ _ => Except String Unit
  | .checkBalanceForTakerSwap _ _ => Except String Unit
  | .waitForConfirmations _ _ => Except String Unit
  | .ensureTxIsBroadcasted _ _ _ _ _ => Bool
  | .canRefundHtlc _ _ => Except String CanRefundHtlc
  | .sendMakerPaymentV2 _ => Except String X.makerCoin.Tx
  | .validateMakerPaymentV2 _ => Except String Unit
  | .refundMakerPaymentV2Timelock _ => Except String X.makerCoin.Tx
  | .refundMakerPaymentV2Secret _ => Except String X.makerCoin.Tx
  | .spendMakerPaymentV2 _ => Except String X.makerCoin.Tx
  | .myAddr => X.takerCoin.Address
  | .sendTakerFunding _ => Except String X.takerCoin.Tx
  | .validateTakerFunding _ => Except String Unit
  | .refundTakerFundingSecret _ => Except String X.takerCoin.Tx
  | .searchForTakerFundingSpend _ _ _ =>
    Except SearchForFundingSpendErr (Option (FundingTxSpend X.takerCoin))
  | .genTakerFundingSpendPreimage _ _ => Except String (TxPreimageWithSig X.takerCoin)
  | .validateTakerFundingSpendPreimage _ _ => Except String Unit
  | .signAndSendTakerFundingSpend _ _ _ => Except String X.takerCoin.Tx
  | .refundCombinedTakerPayment _ => Except String X.takerCoin.Tx
  | .genTakerPaymentSpendPreimage _ _ => Except String (TxPreimageWithSig X.takerCoin)
  | .validateTakerPaymentSpendPreimage _ _ => Except String Unit
  | .signAndBroadcastTakerPaymentSpend _ _ _ _ => Except String X.takerCoin.Tx
  | .findTakerPaymentSpendTx _ _ _ => Except String X.takerCoin.Tx
  | .extractSecretV2 _ _ => Except String Bytes

abbrev SwapProc (X : External) (Ev Repr : Type) := Proc (Call X Ev Repr) Call.Answer

abbrev ask (c : Call X Ev Repr) : SwapProc X Ev Repr c.Answer := call c

/-- The reply to a call when all goes well, at once. The other party starts its swap at
`startedAt` too and has the same `lockDuration`. -/
def smooth (startedAt lockDuration : ℕ) (recorded : Bool) :
    (c : Call .raw Ev Repr) → Reply c.Answer
  | .acquireReentrancyLock => answered (.ok ())
  | .hasRecordFor => answered (.ok recorded)
  | .storeRepr _ => answered (.ok ())
  | .storeEvent _ => answered (.ok ())
  | .markFinished => answered (.ok ())
  | .sleep _ => answered ()
  | .pollSwapV2Msg .makerNegotiation _ => answered (some
    { startedAt
      paymentLocktime := startedAt + 2 * lockDuration
      secretHash := List.replicate 20 7
      makerCoinHtlcPub := [2]
      takerCoinHtlcPub := [2]
      makerCoinSwapContract := none
      takerCoinSwapContract := none
      takerCoinAddress := "maker" })
  | .pollSwapV2Msg .takerNegotiation _ => answered (some { action := some (.continue
    { startedAt
      fundingLocktime := startedAt + 3 * lockDuration
      paymentLocktime := startedAt + lockDuration
      takerSecretHash := [8]
      makerCoinHtlcPub := [3]
      takerCoinHtlcPub := [3]
      makerCoinSwapContract := none
      takerCoinSwapContract := none }) })
  | .pollSwapV2Msg .makerNegotiated _ => answered (some { negotiated := true, reason := none })
  | .pollSwapV2Msg .takerFunding _ =>
    answered (some { txBytes := [10], nextStepInstructions := none })
  | .pollSwapV2Msg .makerPayment _ => answered (some
    { txBytes := [20], nextStepInstructions := none, fundingPreimageSig := [11],
      fundingPreimageTx := [11] })
  | .pollSwapV2Msg .takerPaymentSpendPreimage _ =>
    answered (some { signature := [12], txPreimage := [12] })
  | .broadcastSwapV2MsgEvery _ _ => answered ()
  | .currentBlock _ => answered (.ok 0)
  | .getSenderTradeFee _ _ => answered (.ok ⟨"RICK", 0, false⟩)
  | .getReceiverTradeFee _ => answered (.ok ⟨"MORTY", 0, false⟩)
  | .checkBalanceForMakerSwap _ _ => answered (.ok ())
  | .checkBalanceForTakerSwap _ _ => answered (.ok ())
  | .waitForConfirmations _ _ => answered (.ok ())
  | .ensureTxIsBroadcasted _ _ _ _ _ => answered true
  | .canRefundHtlc _ _ => answered (.ok .canRefundNow)
  | .sendMakerPaymentV2 _ => answered (.ok [20])
  | .validateMakerPaymentV2 _ => answered (.ok ())
  | .refundMakerPaymentV2Timelock _ => answered (.ok [21])
  | .refundMakerPaymentV2Secret _ => answered (.ok [21])
  | .spendMakerPaymentV2 _ => answered (.ok [22])
  | .myAddr => answered "maker"
  | .sendTakerFunding _ => answered (.ok [10])
  | .validateTakerFunding _ => answered (.ok ())
  | .refundTakerFundingSecret _ => answered (.ok [13])
  | .searchForTakerFundingSpend _ _ _ => answered (.ok (some (.transferredToTakerPayment [14])))
  | .genTakerFundingSpendPreimage _ _ => answered (.ok ⟨[11], [11]⟩)
  | .validateTakerFundingSpendPreimage _ _ => answered (.ok ())
  | .signAndSendTakerFundingSpend _ _ _ => answered (.ok [14])
  | .refundCombinedTakerPayment _ => answered (.ok [15])
  | .genTakerPaymentSpendPreimage _ _ => answered (.ok ⟨[12], [12]⟩)
  | .validateTakerPaymentSpendPreimage _ _ => answered (.ok ())
  | .signAndBroadcastTakerPaymentSpend _ _ _ _ => answered (.ok [16])
  | .findTakerPaymentSpendTx _ _ _ => answered (.ok [16])
  | .extractSecretV2 _ _ => answered (.ok [9])
where
  answered {α : Type} (a : α) : Reply α := { delay := 0, reached := true, answer := some a }

/-- The process is stopped in the call, which did not take effect. -/
def crash (c : Call X Ev Repr) : Reply c.Answer where
  delay := 0
  reached := false
  answer := none

/-! ## The world of a swap -/

/-- A call with the time it was made at and the way it ended. -/
structure Entry (X : External) (Ev Repr : Type) where
  made : ℕ
  call : Call X Ev Repr
  reply : Reply call.Answer

/-- The stored swap (`repr`, `events`, `isFinished`), the clock and the calls, latest first. -/
structure World (X : External) (Ev Repr : Type) where
  now : ℕ
  repr : Option Repr
  events : List Ev
  isFinished : Bool
  log : List (Entry X Ev Repr)

namespace World

/-- What a call does to the stored swap. -/
def store (w : World X Ev Repr) : (c : Call X Ev Repr) → Reply c.Answer → World X Ev Repr
  | .storeRepr repr, r => if r.took then { w with repr := some repr } else w
  | .storeEvent event, r => if r.took then { w with events := w.events ++ [event] } else w
  | .markFinished, r => if r.took then { w with isFinished := true } else w
  | _, _ => w

def react (w : World X Ev Repr) (c : Call X Ev Repr) (r : Reply c.Answer) : World X Ev Repr :=
  { w with now := w.now + r.delay, log := ⟨w.now, c, r⟩ :: w.log }.store c r

def env : Env (Call X Ev Repr) Call.Answer (World X Ev Repr) where
  clock := now
  elapse w delay := { w with now := w.now + delay }
  react := react

def fresh (now : ℕ) : World X Ev Repr where
  now := now
  repr := none
  events := []
  isFinished := false
  log := []

end World

/-! ## State changes, start and finish -/

/-- The initial state stores no event; every other state is storable. -/
inductive Stage (State : Type) where
  | start
  | entered (state : State)

abbrev SwapResult (Mach State : Type) := StateResult (Mach × Stage State)

inductive SwapRecreateError where
  | reprEventsEmpty
  | failedToParseData (e : String)
  | swapAborted
  | swapCompleted
  | swapFinishedWithRefund
  deriving DecidableEq, Repr

/-- `change_state_impl`: the event is stored before the state is entered. -/
def changeState (getEvent : State → Ev) (m : Mach) (next : State) :
    SwapProc X Ev Repr (SwapResult Mach State) := do
  match ← ask (.storeEvent (getEvent next)) with
  | .error _ => return .error
  | .ok _ => return .changeState (m, .entered next)

/-- `on_start`; `false` is the error return. -/
def onStart (repr : Repr) : SwapProc X Ev Repr Bool := do
  match ← ask .acquireReentrancyLock with
  | .error _ => return false
  | .ok _ =>
  match ← ask .hasRecordFor with
  | .error _ => return false
  | .ok true => return true
  | .ok false =>
  match ← ask (.storeRepr repr) with
  | .error _ => return false
  | .ok _ => return true

/-- The way into the loop of `run`. -/
def runFrom (toDbRepr : Mach → Repr) (m : Mach) (stage : Stage State) :
    SwapProc X Ev Repr (SwapResult Mach State) := do
  match ← onStart (toDbRepr m) with
  | true => return .changeState (m, stage)
  | false => return .error

/-- `on_finished`; the run returns whether the swap could be marked or not. -/
def onFinished : SwapProc X Ev Repr Unit := do
  let _ ← ask .markFinished
  return ()

/-- A side of the swap: its states with their code, and what a restart makes of its records. -/
structure SwapMachine (X : External) (Mach State Ev Repr : Type) where
  toDbRepr : Mach → Repr
  onInitialize : Mach → SwapProc X Ev Repr (SwapResult Mach State)
  onChanged : Mach → State → SwapProc X Ev Repr (SwapResult Mach State)
  recreateMachine : Repr → List Ev → Except SwapRecreateError (Mach × State)

namespace SwapMachine

/-- Swaps that are marked as finished are not kickstarted. -/
def restore (M : SwapMachine X Mach State Ev Repr) (w : World X Ev Repr) :
    Option (Mach × Stage State) :=
  if w.isFinished then none
  else
    match w.repr with
    | none => none
    | some repr =>
      match M.recreateMachine repr w.events with
      | .ok (m, state) => some (m, .entered state)
      | .error _ => none

theorem exists_of_restore {M : SwapMachine X Mach State Ev Repr} {w : World X Ev Repr}
    {p : Mach × Stage State} (h : M.restore w = some p) :
    ∃ repr m state, w.repr = some repr ∧ M.recreateMachine repr w.events = .ok (m, state) ∧
      p = (m, .entered state) := by
  unfold restore at h
  split at h
  · cases h
  split at h
  · cases h
  rename_i repr hrepr
  split at h
  · rename_i m state hrecreate
    exact ⟨repr, m, state, hrepr, hrecreate, (Option.some.inj h).symm⟩
  · cases h

def machine (M : SwapMachine X Mach State Ev Repr) :
    Machine (Call X Ev Repr) Call.Answer (World X Ev Repr) (Mach × Stage State) where
  env := World.env
  onChanged
    | (m, .start) => M.onInitialize m
    | (m, .entered state) => M.onChanged m state
  onFinished _ := onFinished
  restore := M.restore
  resume
    | (m, stage) => runFrom M.toDbRepr m stage

/-- A new swap, about to run. -/
def start (M : SwapMachine X Mach State Ev Repr) (m : Mach) (now : ℕ) :
    Config (Call X Ev Repr) Call.Answer (World X Ev Repr) (Mach × Stage State) where
  world := World.fresh now
  status := .running (m, .start) (runFrom M.toDbRepr m .start)

end SwapMachine

/-! ## Messages -/

/-- The loop of `recv_swap_v2_msg`. Every pass takes a second at least, so that the passes run
out only after the deadline (`recvLoop_timeout`). -/
def recvLoop (field : MsgField) (started timeout waitUntil : ℕ) :
    ℕ → SwapProc X Ev Repr (Except String field.Message)
  | 0 => return .error "unreachable"
  | passes + 1 => do
    match ← ask (.pollSwapV2Msg field waitUntil) with
    | some msg => return .ok msg
    | none =>
    let now ← nowSec
    if now > waitUntil then
      return .error ("Timeout (" ++ toString (now - started) ++ " > " ++ toString timeout ++ ")")
    else recvLoop field started timeout waitUntil passes

def recvSwapV2Msg (field : MsgField) (timeout : ℕ) :
    SwapProc X Ev Repr (Except String field.Message) := do
  let started ← nowSec
  let timeout := basicCommTimeout + timeout
  let waitUntil := started + timeout
  recvLoop field started timeout waitUntil (timeout + 1)

/-- The contract of a clock that advances by a second at least with every call. -/
def ticking : Contract (Call X Ev Repr) Call.Answer (World X Ev Repr) where
  allowed _ _ r := 1 ≤ r.delay
  pre _ _ := True
  stopped _ := True

/-- A message is missed only after the deadline. -/
theorem recvLoop_timeout (field : MsgField) (started timeout waitUntil passes : ℕ)
    {w : World X Ev Repr} (h : waitUntil < w.now + passes) :
    (recvLoop field started timeout waitUntil passes).wp World.env ticking
      (fun res w' => ∀ e, res = .error e → waitUntil < w'.now) w := by
  induction passes generalizing w with
  | zero => exact fun _ _ => h
  | succ passes ih =>
    refine (wp_call _ _).mpr ⟨trivial, fun r hr => ⟨fun _ => trivial, fun a _ => ?_⟩⟩
    change 1 ≤ r.delay at hr
    cases a with
    | some msg => exact fun e he => nomatch he
    | none =>
      change Proc.wp _ _ (if w.now + r.delay > waitUntil then _ else _) _ _
      split
      · rename_i hlate
        exact fun _ _ => hlate
      · apply ih
        change waitUntil < w.now + r.delay + passes
        omega

end DeXFG.SwapV2
