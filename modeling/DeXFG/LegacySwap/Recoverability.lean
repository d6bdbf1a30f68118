import DeXFG.LegacySwap.MakerRecovery
import DeXFG.LegacySwap.TakerRecovery

/-!
# Recoverability of finished swaps

The end result for both sides, and a swap whose maker coin gives the refund back
by itself: the refund is recorded without a transaction, and the checks of
`recover_funds` do not see it.
-/
namespace DeXFG.LegacySwap
open Ordermatch (Uuid)
open SwapV2 (Side)
open Library.Process Library.EventSourced Library.DurableMachine

/-- The finished logs that `run_maker_swap` can produce. -/
def MakerSwap.Produces (X : SwapEnv) (uuid : Uuid) (log : MakerSavedSwap) : Prop :=
  ∃ s now es, Fresh s ∧ log.isFinished = true ∧
    ((system X uuid).machine.run (System.begin s .start now) es).world.log = log

/-- The finished logs that `run_taker_swap` can produce. -/
def TakerSwap.Produces (X : SwapEnv) (uuid : Uuid) (log : TakerSavedSwap) : Prop :=
  ∃ s now es, Fresh s ∧ log.isFinished = true ∧
    ((system X uuid).machine.run (System.begin s .start now) es).world.log = log

/-- On every finished log `is_recoverable` and the state checks of `recover_funds` agree with what
the log records, if and only if it records no refund without a transaction. -/
theorem recoverability_agreement (X : SwapEnv) (uuid : Uuid) (t : ℕ) (ht : 0 < t) :
    (∀ log, MakerSwap.Produces X uuid log →
      (MakerSwap.RecoverabilityAgrees X uuid t log ↔ .makerPaymentRefunded none ∉ log)) ∧
    ∀ log, TakerSwap.Produces X uuid log →
      (TakerSwap.RecoverabilityAgrees X uuid t log ↔ .takerPaymentRefunded none ∉ log) := by
  constructor
  · rintro log ⟨s, now, es, hs, hfin, rfl⟩
    exact MakerSwap.recoverabilityAgrees_iff (MakerSwap.legal_run hs now es) hfin ht
  · rintro log ⟨s, now, es, hs, hfin, rfl⟩
    exact TakerSwap.recoverabilityAgrees_iff (TakerSwap.legal_run hs now es) hfin ht

/-! ## A swap of sample coins -/

/-- A coin without a swap contract, whose transactions are their own hashes. -/
def sampleCoin (ticker : String) (isAutoRefundable : Bool) : SwapCoin where
  ticker := ticker
  swapContractAddress := none
  fallbackSwapContract := none
  negotiateSwapContractAddr _ := .ok none
  validateOtherPubkey _ := .ok ()
  deriveHtlcPubkey _ := [2]
  makerLocktimeMultiplier := 2
  isSupportedByWatchers := false
  isEth := false
  isAutoRefundable := isAutoRefundable
  requiresNotarization := false
  txEnumFromBytes tx := .ok tx
  txHashAsBytes tx := tx
  validateMakerPaymentInstructions _ _ := .error "no instructions"
  validateTakerPaymentInstructions _ _ := .error "no instructions"
  newWithTakerPubkey _ _ _ := .noFee

/-- A lightning payment for a payment on a chain. -/
def sampleEnv : SwapEnv where
  makerCoin := sampleCoin "LIGHTNING" true
  takerCoin := sampleCoin "RICK" false
  hashSecret secret := secret
  sha256 secret := secret
  toDecimal volume := volume
  mm2InternalPub := [1]
  disableWatchersGlobally := false

def sampleMaker : MakerSwap where
  makerAmount := 1
  takerAmount := 1
  myPersistentPub := [1]
  takerPubkey := [3]
  uuid := 0
  confSettings :=
    { makerCoinConfs := 1, makerCoinNota := false, takerCoinConfs := 1, takerCoinNota := false }
  paymentLocktime := 7800
  secret := List.replicate 20 7

/-- What coins and taker answer a maker whose payment is not confirmed in time. -/
def sampleAnswer : (c : SwapCall) → c.Answer
  | .getSenderTradeFee _ _ => .ok ()
  | .getReceiverTradeFee _ => .ok ()
  | .getFeeToSendTakerFee _ => .ok ()
  | .checkBalanceForMakerSwap _ => .ok ()
  | .checkBalanceForTakerSwap _ _ => .ok ()
  | .currentBlock _ => .ok 0
  | .useWatcherReward => false
  | .recvNegotiation _ => .error "timeout"
  | .recvNegotiationReply negotiation _ =>
    .ok (.v1 negotiation.startedAt (negotiation.startedAt + 7800) negotiation.secretHash [3])
  | .recvNegotiated _ _ => .error "timeout"
  | .recvTakerFee _ => .ok (.regular [])
  | .recvMakerPayment _ _ => .error "timeout"
  | .recvTakerPayment _ _ => .error "timeout"
  | .broadcastNegotiatedFalse => ()
  | .makerPaymentInstructions _ => .ok none
  | .takerPaymentInstructions _ => .ok none
  | .sendTakerFee _ _ _ => .ok [4]
  | .validateFee _ => .ok ()
  | .sleep _ => ()
  | .waitForConfirmations _ _ => .error "timeout"
  | .getMakerWatcherReward _ _ => .ok none
  | .getTakerWatcherReward _ _ _ _ => .error "no reward"
  | .validateMakerPayment _ => .ok ()
  | .validateTakerPayment _ => .ok ()
  | .checkIfMyPaymentSent _ _ => .ok none
  | .sendMakerPayment _ => .ok [5]
  | .sendTakerPayment _ => .ok [6]
  | .createMakerPaymentSpendPreimage _ => .error { text := "unsupported", tx := none }
  | .createTakerPaymentRefundPreimage _ => .error { text := "unsupported", tx := none }
  | .broadcastWatcherMsg _ => ()
  | .waitForHtlcTxSpend _ _ => .error { text := "timeout", tx := none }
  | .extractSecret _ _ _ => .error "no secret"
  | .sendMakerSpendsTakerPayment _ => .ok [7]
  | .sendTakerSpendsMakerPayment _ => .ok [8]
  | .broadcastP2pTxMsg _ _ => ()
  | .onRefundStart _ _ => .ok ()
  | .onRefundSuccess _ _ => .ok ()
  | .waitForHtlcRefund _ _ _ => .ok ()
  | .canRefundHtlc _ _ => .ok .canRefundNow
  | .sendRefundsPayment _ _ => .ok [9]
  | .searchForSwapTxSpendMy _ _ => .ok none
  | .searchForSwapTxSpendOther _ _ => .ok none
  | .takerValidatesPaymentSpendOrRefund _ _ => .ok ()

/-- Every call is answered at once, and every write succeeds. -/
def answered {ε : Type} (answer : (c : SwapCall) → c.Answer) :
    (c : StoreCall SwapCall ε) → Reply (StoreCall.Answer SwapCall.Answer c)
  | .ext c => { delay := 0, reached := true, answer := some (answer c) }
  | .save _ => { delay := 0, reached := true, answer := some (.ok ()) }
  | .overwrite _ => { delay := 0, reached := true, answer := some (.ok ()) }

/-- The log of the sample maker. -/
def sampleLog : MakerSavedSwap :=
  ((MakerSwap.system sampleEnv 0).machine.run (System.begin sampleMaker .start 1000)
    (List.replicate 70 (.reply (answered sampleAnswer)))).world.log

theorem produces_sampleLog : MakerSwap.Produces sampleEnv 0 sampleLog :=
  ⟨sampleMaker, 1000, _, ⟨rfl, rfl⟩, by decide +kernel, rfl⟩

theorem recoverability_agreement_sample :
    (MakerSwap.RecoverabilityAgrees sampleEnv 0 2000 sampleLog ↔
      .makerPaymentRefunded none ∉ sampleLog) ∧ MakerSwap.Produces sampleEnv 0 sampleLog :=
  ⟨(recoverability_agreement sampleEnv 0 2000 (by decide)).1 sampleLog produces_sampleLog,
    produces_sampleLog⟩

/-- The refund of the sample maker is recorded, and `recover_funds` does not refuse. -/
theorem maker_recoverability_disagrees :
    ¬ ∀ X uuid t log, 0 < t → MakerSwap.Produces X uuid log →
      MakerSwap.RecoverabilityAgrees X uuid t log := by
  intro h
  have hagrees := h sampleEnv 0 2000 sampleLog (by decide) produces_sampleLog
  obtain ⟨s, now, es, hs, hfin, hlog⟩ := produces_sampleLog
  have hlegal : MakerSwap.grammar.Log sampleLog := hlog ▸ MakerSwap.legal_run hs now es
  exact (MakerSwap.recoverabilityAgrees_iff hlegal hfin (by decide)).mp hagrees (by decide +kernel)

end DeXFG.LegacySwap
