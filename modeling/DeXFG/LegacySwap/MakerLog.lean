import DeXFG.LegacySwap.MakerOutcome
import DeXFG.Library.EventGrammar

/-!
# The logs of the maker

Which event a maker swap may record after which, and what an event says about
the log before it.
-/
namespace DeXFG.LegacySwap
open Ordermatch (MmNumber Uuid)
open SwapV2 (Side TransactionIdentifier)
open Library.Process Library.EventSourced Library.EventGrammar

namespace MakerSwap

/-- What a command records first. -/
inductive Emits : MakerSwapCommand → MakerSwapEvent → Prop
  | startFailed (err) : Emits .start (.startFailed err)
  | started (data) : Emits .start (.started data)
  | negotiateFailed (err) : Emits .negotiate (.negotiateFailed err)
  | negotiated (data) : Emits .negotiate (.negotiated data)
  | takerFeeNotValidated (err) : Emits .waitForTakerFee (.takerFeeValidateFailed err)
  | instructionsReceived (i) : Emits .waitForTakerFee (.makerPaymentInstructionsReceived i)
  | makerPaymentNotSent (err) : Emits .sendPayment (.makerPaymentTransactionFailed err)
  | makerPaymentSent (tx) : Emits .sendPayment (.makerPaymentSent tx)
  | takerPaymentReceived (tx) : Emits .waitForTakerPayment (.takerPaymentReceived tx)
  | takerRewardFailed (err) : Emits .validateTakerPayment (.makerPaymentTransactionFailed err)
  | takerPaymentValidated : Emits .validateTakerPayment .takerPaymentValidatedAndConfirmed
  | takerPaymentSpent (tx) : Emits .spendTakerPayment (.takerPaymentSpent tx)
  | spendConfirmed : Emits .confirmTakerPaymentSpend .takerPaymentSpendConfirmed
  | failed {c e} (h : Fails c e) : Emits c e
  | refundStarted : Emits .prepareForMakerPaymentRefund .makerPaymentRefundStarted
  | refundFailed (err) : Emits .refundMakerPayment (.makerPaymentRefundFailed err)
  | refunded (tx) : Emits .refundMakerPayment (.makerPaymentRefunded tx)
  | refundFinished : Emits .finalizeMakerPaymentRefund .makerPaymentRefundFinished
  | finished : Emits .finish .finished

/-- What a command records after an event of its own; the last two are only in a log that was
recreated from that of the taker. -/
inductive Continues : MakerSwapEvent → MakerSwapEvent → Prop
  | takerFeeValidated (i tx) :
      Continues (.makerPaymentInstructionsReceived i) (.takerFeeValidated tx)
  | waitConfirmStarted (tx) : Continues (.takerPaymentReceived tx) .takerPaymentWaitConfirmStarted
  | spendConfirmStarted (tx) : Continues (.takerPaymentSpent tx) .takerPaymentSpendConfirmStarted
  | failed {c e} (h : Fails c e) (t) : Continues e (.makerPaymentWaitRefundStarted t)
  | recreatedFee (data tx) : Continues (.negotiated data) (.takerFeeValidated tx)
  | recreatedFailure (err) :
      Continues .takerPaymentWaitConfirmStarted (.takerPaymentSpendFailed err)

def grammar : Grammar MakerSwapEvent where
  first e := Emits .start e
  follows d e := Continues d e ∨ ∃ c, d.getCommand = some c ∧ Emits c e

/-- The command goes on after the log. -/
def Pending (log : MakerSavedSwap) (c : MakerSwapCommand) : Prop :=
  match log.getLast? with
  | none => c = .start
  | some d => d.getCommand = some c

theorem pending_nil {c : MakerSwapCommand} : Pending [] c ↔ c = .start := Iff.rfl

theorem pending_snoc {log : MakerSavedSwap} {d : MakerSwapEvent} {c : MakerSwapCommand} :
    Pending (log ++ [d]) c ↔ d.getCommand = some c := by
  simp [Pending]

variable {log es : MakerSavedSwap} {c : MakerSwapCommand} {d e : MakerSwapEvent}

theorem Pending.next (h : Pending log c) (he : Emits c e) : grammar.Next log e := by
  cases log using List.reverseRecOn with
  | nil =>
    obtain rfl := pending_nil.mp h
    exact he
  | append_singleton log d => exact next_snoc.mpr (.inr ⟨c, pending_snoc.mp h, he⟩)

theorem Pending.start (h : Pending log .start) : log = [] := by
  cases log using List.reverseRecOn with
  | nil => rfl
  | append_singleton log d =>
    have hd := pending_snoc.mp h
    cases d <;> simp [MakerSwapEvent.getCommand] at hd

/-! ## What an event says about the log -/

/-- How far the swap has come for certain when an event is recorded: 1 when the maker payment was
sent, 2 when the taker payment was received, 3 when the taker payment was spent. -/
def stage : MakerSwapEvent → ℕ
  | .makerPaymentSent _ => 1
  | .makerPaymentDataSendFailed _ => 1
  | .makerPaymentWaitConfirmFailed _ => 1
  | .takerPaymentValidateFailed _ => 1
  | .makerPaymentWaitRefundStarted _ => 1
  | .makerPaymentRefundStarted => 1
  | .makerPaymentRefunded _ => 1
  | .makerPaymentRefundFailed _ => 1
  | .makerPaymentRefundFinished => 1
  | .takerPaymentReceived _ => 2
  | .takerPaymentWaitConfirmStarted => 2
  | .takerPaymentValidatedAndConfirmed => 2
  | .takerPaymentWaitConfirmFailed _ => 2
  | .takerPaymentSpendFailed _ => 2
  | .takerPaymentSpent _ => 3
  | .takerPaymentSpendConfirmStarted => 3
  | .takerPaymentSpendConfirmed => 3
  | .takerPaymentSpendConfirmFailed _ => 3
  | _ => 0

/-- How far the swap must have come for a command. -/
def needs : MakerSwapCommand → ℕ
  | .waitForTakerPayment => 1
  | .validateTakerPayment => 2
  | .spendTakerPayment => 2
  | .confirmTakerPaymentSpend => 3
  | .prepareForMakerPaymentRefund => 1
  | .refundMakerPayment => 1
  | .finalizeMakerPaymentRefund => 1
  | _ => 0

/-- The event with which a swap gets so far. -/
def Milestone : ℕ → MakerSwapEvent → Prop
  | 0, _ => True
  | 1, e => ∃ tx, e = .makerPaymentSent tx
  | 2, e => ∃ tx, e = .takerPaymentReceived tx
  | _, e => ∃ tx, e = .takerPaymentSpent tx

theorem needs_le_stage (h : d.getCommand = some c) : needs c ≤ stage d := by
  cases d <;> simp_all [MakerSwapEvent.getCommand] <;> subst h <;> simp [needs, stage]

theorem Fails.stage_le (h : Fails c e) : stage e ≤ needs c ∧ 1 ≤ stage e := by
  cases h <;> simp [stage, needs]

theorem Emits.milestone {k : ℕ} (h : Emits c e) (hk : k ≤ stage e) : Milestone k e ∨ k ≤ needs c := by
  cases h with
  | failed h => exact .inr (hk.trans h.stage_le.1)
  | _ =>
    simp only [stage] at hk
    interval_cases k <;> simp [Milestone, needs]

theorem Continues.milestone {k : ℕ} (h : Continues d e) (hk : k ≤ stage e) :
    Milestone k e ∨ k ≤ stage d := by
  cases h with
  | failed h t => exact .inr (hk.trans h.stage_le.2)
  | _ =>
    simp only [stage] at hk
    interval_cases k <;> simp [Milestone, stage]

/-- A swap that has come so far has recorded it. -/
theorem exists_milestone {k : ℕ} (h : grammar.Log log) (he : e ∈ log) (hk : k ≤ stage e) :
    ∃ d ∈ log, Milestone k d := by
  apply h.exists_of_backward (p := fun e => k ≤ stage e) _ _ he hk
  · intro e hfirst hk
    cases hfirst with
    | failed h => cases h
    | _ => simp_all [stage, Milestone]
  · rintro d e (hcont | ⟨c, hres, hemit⟩) hk
    · exact hcont.milestone hk
    · exact (hemit.milestone hk).imp_right fun h => h.trans (needs_le_stage hres)

theorem Pending.exists_milestone {k : ℕ} (h : grammar.Log log) (hc : Pending log c)
    (hk : k ≤ needs c) (hpos : 0 < k) : ∃ d ∈ log, Milestone k d := by
  cases log using List.reverseRecOn with
  | nil =>
    obtain rfl := pending_nil.mp hc
    simp [needs] at hk
    omega
  | append_singleton log d =>
    exact MakerSwap.exists_milestone h (by simp) (hk.trans (needs_le_stage (pending_snoc.mp hc)))

/-- The events of a command may come after the log, and the next command after them. -/
theorem Outcome.grammatical {X : SwapEnv} {R : (c : SwapCall) → c.Answer → Prop}
    {s s' : MakerSwap} {next : Option MakerSwapCommand} (h : Outcome X R s c s' next es)
    (hlog : grammar.Log log) (hc : Pending log c) :
    grammar.Log (log ++ es) ∧ ∀ c', next = some c' → Pending (log ++ es) c' := by
  have hone {e : MakerSwapEvent} {c' : MakerSwapCommand} (he : Emits c e)
      (hres : e.getCommand = some c') :
      grammar.Log (log ++ [e]) ∧ ∀ c'', some c' = some c'' → Pending (log ++ [e]) c'' := by
    constructor
    · exact hlog.snoc (hc.next he)
    · rintro _ ⟨⟩
      exact pending_snoc.mpr hres
  have htwo {e e' : MakerSwapEvent} {c' : MakerSwapCommand} (he : Emits c e)
      (hcont : Continues e e') (hres : e'.getCommand = some c') :
      grammar.Log (log ++ [e, e']) ∧ ∀ c'', some c' = some c'' → Pending (log ++ [e, e']) c'' := by
    constructor
    · exact hlog.append (hc.next he) (List.isChain_pair.mpr (.inl hcont))
    · rintro _ ⟨⟩
      simpa [Pending] using hres
  cases h with
  | refundWaits => simpa [hlog] using hc
  | finished =>
    constructor
    · exact hlog.snoc (hc.next .finished)
    · simp
  | failed hfails => exact htwo (.failed hfails) (.failed hfails _) rfl
  | takerFeeValidated i tx => exact htwo (.instructionsReceived i) (.takerFeeValidated i tx) rfl
  | takerPaymentReceived tx => exact htwo (.takerPaymentReceived tx) (.waitConfirmStarted tx) rfl
  | takerPaymentSpent tx => exact htwo (.takerPaymentSpent tx) (.spendConfirmStarted tx) rfl
  | startFailed err => exact hone (.startFailed err) rfl
  | started data _ _ _ => exact hone (.started data) rfl
  | negotiateFailed err => exact hone (.negotiateFailed err) rfl
  | negotiated msg addrs _ _ => exact hone (.negotiated _) rfl
  | takerFeeNotValidated err => exact hone (.takerFeeNotValidated err) rfl
  | makerPaymentNotSent err => exact hone (.makerPaymentNotSent err) rfl
  | makerPaymentSent tx => exact hone (.makerPaymentSent tx) rfl
  | takerRewardFailed err => exact hone (.takerRewardFailed err) rfl
  | takerPaymentValidated => exact hone .takerPaymentValidated rfl
  | spendConfirmed tx input _ _ _ => exact hone .spendConfirmed rfl
  | refundStarted => exact hone .refundStarted rfl
  | refundFailed err => exact hone (.refundFailed err) rfl
  | refunded tx _ => exact hone (.refunded tx) rfl
  | refundFinished => exact hone .refundFinished rfl

end MakerSwap

end DeXFG.LegacySwap
