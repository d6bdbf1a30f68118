import DeXFG.LegacySwap.TakerOutcome
import DeXFG.Library.EventGrammar

/-!
# The logs of the taker

Which event a taker swap may record after which, and what an event says about
the log before it. The state in memory is that of the log, but for what the log
does not keep.
-/
namespace DeXFG.LegacySwap
open Ordermatch (MmNumber Uuid)
open SwapV2 (Side TransactionIdentifier)
open Library.Process Library.EventSourced Library.EventGrammar

namespace TakerSwap

/-- What a command, or the search at a restart, records first. -/
inductive Emits : TakerSwapCommand → TakerSwapEvent → Prop
  | startFailed (err) : Emits .start (.startFailed err)
  | started (data) : Emits .start (.started data)
  | negotiateFailed (err) : Emits .negotiate (.negotiateFailed err)
  | negotiated (data) : Emits .negotiate (.negotiated data)
  | takerFeeSendFailed (err) : Emits .sendTakerFee (.takerFeeSendFailed err)
  | takerFeeSent (tx) : Emits .sendTakerFee (.takerFeeSent tx)
  | makerPaymentNotReceived (err) : Emits .waitForMakerPayment (.makerPaymentValidateFailed err)
  | instructionsReceived (i) : Emits .waitForMakerPayment (.takerPaymentInstructionsReceived i)
  | makerPaymentNotConfirmed (err) :
      Emits .validateMakerPayment (.makerPaymentWaitConfirmFailed err)
  | makerRewardFailed (err) : Emits .validateMakerPayment (.takerPaymentTransactionFailed err)
  | makerPaymentNotValidated (err) :
      Emits .validateMakerPayment (.makerPaymentValidateFailed err)
  | makerPaymentValidated : Emits .validateMakerPayment .makerPaymentValidatedAndConfirmed
  | takerPaymentNotSent (err) : Emits .sendTakerPayment (.takerPaymentTransactionFailed err)
  | takerPaymentSent (tx) : Emits .sendTakerPayment (.takerPaymentSent tx)
  | takerPaymentNotSpent (err) :
      Emits .waitForTakerPaymentSpend (.takerPaymentWaitForSpendFailed err)
  | takerPaymentSpent (data) : Emits .waitForTakerPaymentSpend (.takerPaymentSpent data)
  | makerPaymentNotSpent (err) : Emits .spendMakerPayment (.makerPaymentSpendFailed err)
  | makerPaymentSpent (tx) : Emits .spendMakerPayment (.makerPaymentSpent tx)
  | spentByWatcher (tx) : Emits .spendMakerPayment (.makerPaymentSpentByWatcher tx)
  | spendNotConfirmed (err) :
      Emits .confirmMakerPaymentSpend (.makerPaymentSpendConfirmFailed err)
  | spendConfirmed : Emits .confirmMakerPaymentSpend .makerPaymentSpendConfirmed
  | refundStarted : Emits .prepareForTakerPaymentRefund .takerPaymentRefundStarted
  | refundFailed (err) : Emits .refundTakerPayment (.takerPaymentRefundFailed err)
  | refunded (tx) : Emits .refundTakerPayment (.takerPaymentRefunded tx)
  | refundFinished : Emits .finalizeTakerPaymentRefund .takerPaymentRefundFinished
  | refundedByWatcher {c} (tx)
      (hc : c = .waitForTakerPaymentSpend ∨ c = .prepareForTakerPaymentRefund ∨
        c = .refundTakerPayment) : Emits c (.takerPaymentRefundedByWatcher (some tx))
  | finished : Emits .finish .finished

/-- What a command records after an event of its own; the last one is only in a log that was
recreated from that of the maker. -/
inductive Continues : TakerSwapEvent → TakerSwapEvent → Prop
  | makerPaymentReceived (i tx) :
      Continues (.takerPaymentInstructionsReceived i) (.makerPaymentReceived tx)
  | waitConfirmStarted (tx) : Continues (.makerPaymentReceived tx) .makerPaymentWaitConfirmStarted
  | watcherMessageSent (tx spend refund) :
      Continues (.takerPaymentSent tx) (.watcherMessageSent spend refund)
  | notSpent (err t) :
      Continues (.takerPaymentWaitForSpendFailed err) (.takerPaymentWaitRefundStarted t)
  | notConfirmed (err t) :
      Continues (.makerPaymentSpendConfirmFailed err) (.takerPaymentWaitRefundStarted t)
  | recreated (tx tx') : Continues (.takerFeeSent tx) (.makerPaymentReceived tx')

/-- The command that goes on after an event. After a failure to learn the secret or to spend the
maker payment the swap finishes, but goes on with the refund when it is loaded; a restart may
find the taker payment spent without recording it. -/
inductive Resumes : TakerSwapEvent → TakerSwapCommand → Prop
  | next {e c} (hc : e.getCommand = some c) (he : ∀ i, e ≠ .takerPaymentInstructionsReceived i) :
      Resumes e c
  | secretNotExtracted (err) : Resumes (.takerPaymentWaitForSpendFailed err) .finish
  | makerPaymentNotSpent (err) : Resumes (.makerPaymentSpendFailed err) .finish
  | discovered {e} (he : e.getCommand = some .waitForTakerPaymentSpend) :
      Resumes e .spendMakerPayment

def grammar : Grammar TakerSwapEvent where
  first e := Emits .start e
  follows d e := Continues d e ∨ ∃ c, Resumes d c ∧ Emits c e

/-- The command goes on after the log. -/
def Pending (log : TakerSavedSwap) (c : TakerSwapCommand) : Prop :=
  match log.getLast? with
  | none => c = .start
  | some d => Resumes d c

theorem pending_nil {c : TakerSwapCommand} : Pending [] c ↔ c = .start := Iff.rfl

theorem pending_snoc {log : TakerSavedSwap} {d : TakerSwapEvent} {c : TakerSwapCommand} :
    Pending (log ++ [d]) c ↔ Resumes d c := by
  simp [Pending]

section Grammar

variable {log es : TakerSavedSwap} {c : TakerSwapCommand} {d e : TakerSwapEvent}

theorem Pending.next (h : Pending log c) (he : Emits c e) : grammar.Next log e := by
  cases log using List.reverseRecOn with
  | nil =>
    obtain rfl := pending_nil.mp h
    exact he
  | append_singleton log d => exact next_snoc.mpr (.inr ⟨c, pending_snoc.mp h, he⟩)

/-! ## What an event says about the log -/

/-- How far the swap has come for certain when an event is recorded: 1 when the taker fee was
sent, 2 when the maker payment was received, 3 when the taker payment was sent, 4 when the maker
payment was spent. -/
def stage : TakerSwapEvent → ℕ
  | .takerFeeSent _ => 1
  | .takerPaymentInstructionsReceived _ => 1
  | .makerPaymentValidateFailed _ => 1
  | .makerPaymentReceived _ => 2
  | .makerPaymentWaitConfirmStarted => 2
  | .makerPaymentValidatedAndConfirmed => 2
  | .makerPaymentWaitConfirmFailed _ => 2
  | .takerPaymentTransactionFailed _ => 2
  | .takerPaymentSent _ => 3
  | .watcherMessageSent _ _ => 3
  | .takerPaymentDataSendFailed _ => 3
  | .takerPaymentWaitConfirmFailed _ => 3
  | .takerPaymentSpent _ => 3
  | .takerPaymentWaitForSpendFailed _ => 3
  | .makerPaymentSpendFailed _ => 3
  | .takerPaymentWaitRefundStarted _ => 3
  | .takerPaymentRefundStarted => 3
  | .takerPaymentRefunded _ => 3
  | .takerPaymentRefundFailed _ => 3
  | .takerPaymentRefundFinished => 3
  | .takerPaymentRefundedByWatcher _ => 3
  | .makerPaymentSpent _ => 4
  | .makerPaymentSpentByWatcher _ => 4
  | .makerPaymentSpendConfirmed => 4
  | .makerPaymentSpendConfirmFailed _ => 4
  | _ => 0

/-- How far the swap must have come for a command. -/
def needs : TakerSwapCommand → ℕ
  | .waitForMakerPayment => 1
  | .validateMakerPayment => 2
  | .sendTakerPayment => 2
  | .waitForTakerPaymentSpend => 3
  | .spendMakerPayment => 3
  | .confirmMakerPaymentSpend => 4
  | .prepareForTakerPaymentRefund => 3
  | .refundTakerPayment => 3
  | .finalizeTakerPaymentRefund => 3
  | _ => 0

/-- The event with which a swap gets so far. -/
def Milestone : ℕ → TakerSwapEvent → Prop
  | 0, _ => True
  | 1, e => ∃ tx, e = .takerFeeSent tx
  | 2, e => ∃ tx, e = .makerPaymentReceived tx
  | 3, e => ∃ tx, e = .takerPaymentSent tx
  | _, e => ∃ tx, e = .makerPaymentSpent tx ∨ e = .makerPaymentSpentByWatcher tx

theorem Resumes.needs_le (h : Resumes d c) : needs c ≤ stage d := by
  cases h with
  | next hc he =>
    cases d with
    | takerPaymentInstructionsReceived i => exact absurd rfl (he i)
    | _ => simp_all [TakerSwapEvent.getCommand] <;> subst hc <;> simp [needs, stage]
  | secretNotExtracted => simp [needs]
  | makerPaymentNotSpent => simp [needs]
  | discovered he =>
    cases d <;> simp [TakerSwapEvent.getCommand] at he <;> simp [needs, stage]

theorem Emits.milestone {k : ℕ} (h : Emits c e) (hk : k ≤ stage e) : Milestone k e ∨ k ≤ needs c := by
  cases h with
  | refundedByWatcher tx hc =>
    right
    obtain rfl | rfl | rfl := hc <;> exact hk
  | _ =>
    simp only [stage] at hk
    interval_cases k <;> simp [Milestone, needs]

theorem Continues.milestone {k : ℕ} (h : Continues d e) (hk : k ≤ stage e) :
    Milestone k e ∨ k ≤ stage d := by
  cases h <;> simp only [stage] at hk <;> interval_cases k <;> simp [Milestone, stage]

/-- A swap that has come so far has recorded it. -/
theorem exists_milestone {k : ℕ} (h : grammar.Log log) (he : e ∈ log) (hk : k ≤ stage e) :
    ∃ d ∈ log, Milestone k d := by
  apply h.exists_of_backward (p := fun e => k ≤ stage e) _ _ he hk
  · intro e hfirst hk
    cases hfirst <;> simp_all [stage, Milestone]
  · rintro d e (hcont | ⟨c, hres, hemit⟩) hk
    · exact hcont.milestone hk
    · exact (hemit.milestone hk).imp_right fun h => h.trans hres.needs_le

theorem Pending.exists_milestone {k : ℕ} (h : grammar.Log log) (hc : Pending log c)
    (hk : k ≤ needs c) (hpos : 0 < k) : ∃ d ∈ log, Milestone k d := by
  cases log using List.reverseRecOn with
  | nil =>
    obtain rfl := pending_nil.mp hc
    simp [needs] at hk
    omega
  | append_singleton log d =>
    exact TakerSwap.exists_milestone h (by simp) (hk.trans (pending_snoc.mp hc).needs_le)

/-- The events of a command may come after the log, and the next command after them. -/
theorem Outcome.grammatical {X : SwapEnv} {R : (c : SwapCall) → c.Answer → Prop} {s s' : TakerSwap}
    {next : Option TakerSwapCommand} (h : Outcome X R s c s' next es) (hlog : grammar.Log log)
    (hc : Pending log c) :
    grammar.Log (log ++ es) ∧ ∀ c', next = some c' → Pending (log ++ es) c' := by
  have hone {e : TakerSwapEvent} {c' : TakerSwapCommand} (he : Emits c e) (hres : Resumes e c') :
      grammar.Log (log ++ [e]) ∧ ∀ c'', some c' = some c'' → Pending (log ++ [e]) c'' := by
    constructor
    · exact hlog.snoc (hc.next he)
    · rintro _ ⟨⟩
      exact pending_snoc.mpr hres
  have htwo {e e' : TakerSwapEvent} {c' : TakerSwapCommand} (he : Emits c e)
      (hcont : Continues e e') (hres : Resumes e' c') :
      grammar.Log (log ++ [e, e']) ∧ ∀ c'', some c' = some c'' → Pending (log ++ [e, e']) c'' := by
    constructor
    · exact hlog.append (hc.next he) (List.isChain_pair.mpr (.inl hcont))
    · rintro _ ⟨⟩
      simpa [Pending] using hres
  cases h with
  | makerPaymentReceived i tx =>
    constructor
    · apply hlog.append (hc.next (.instructionsReceived i))
      simp only [List.isChain_cons_cons, List.IsChain.singleton, and_true]
      exact ⟨.inl (.makerPaymentReceived i tx), .inl (.waitConfirmStarted tx)⟩
    · rintro _ ⟨⟩
      simpa [Pending] using Resumes.next (e := .makerPaymentWaitConfirmStarted) rfl (by simp)
  | refundWaits => simpa [hlog] using hc
  | takerPaymentSentToWatchers tx spend refund =>
    exact htwo (.takerPaymentSent tx) (.watcherMessageSent tx spend refund) (.next rfl (by simp))
  | takerPaymentNotSpent err =>
    exact htwo (.takerPaymentNotSpent err) (.notSpent err _) (.next rfl (by simp))
  | spendNotConfirmed err =>
    exact htwo (.spendNotConfirmed err) (.notConfirmed err _) (.next rfl (by simp))
  | secretNotExtracted err tx hextract =>
    exact hone (.takerPaymentNotSpent err) (.secretNotExtracted err)
  | makerPaymentNotSpent err =>
    exact hone (.makerPaymentNotSpent err) (.makerPaymentNotSpent err)
  | finished =>
    constructor
    · exact hlog.snoc (hc.next .finished)
    · simp
  | startFailed err => exact hone (.startFailed err) (.next rfl (by simp))
  | started data _ _ _ => exact hone (.started data) (.next rfl (by simp))
  | negotiateFailed err => exact hone (.negotiateFailed err) (.next rfl (by simp))
  | negotiated msg addrs _ _ => exact hone (.negotiated _) (.next rfl (by simp))
  | takerFeeSendFailed err => exact hone (.takerFeeSendFailed err) (.next rfl (by simp))
  | takerFeeSent tx => exact hone (.takerFeeSent tx) (.next rfl (by simp))
  | makerPaymentNotReceived err => exact hone (.makerPaymentNotReceived err) (.next rfl (by simp))
  | makerPaymentNotConfirmed err =>
    exact hone (.makerPaymentNotConfirmed err) (.next rfl (by simp))
  | makerRewardFailed err => exact hone (.makerRewardFailed err) (.next rfl (by simp))
  | makerPaymentNotValidated err =>
    exact hone (.makerPaymentNotValidated err) (.next rfl (by simp))
  | makerPaymentValidated => exact hone .makerPaymentValidated (.next rfl (by simp))
  | takerPaymentNotSent err => exact hone (.takerPaymentNotSent err) (.next rfl (by simp))
  | takerPaymentSent tx => exact hone (.takerPaymentSent tx) (.next rfl (by simp))
  | takerPaymentSpent tx secret _ => exact hone (.takerPaymentSpent _) (.next rfl (by simp))
  | makerPaymentSpent tx => exact hone (.makerPaymentSpent tx) (.next rfl (by simp))
  | spendConfirmed tx input _ _ _ => exact hone .spendConfirmed (.next rfl (by simp))
  | refundStarted => exact hone .refundStarted (.next rfl (by simp))
  | refundFailed err => exact hone (.refundFailed err) (.next rfl (by simp))
  | refunded tx _ => exact hone (.refunded tx) (.next rfl (by simp))
  | refundFinished => exact hone .refundFinished (.next rfl (by simp))

end Grammar

end TakerSwap

end DeXFG.LegacySwap
