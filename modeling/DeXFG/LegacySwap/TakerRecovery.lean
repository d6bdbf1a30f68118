import DeXFG.LegacySwap.TakerRuns

/-!
# When a taker swap is recoverable

`is_recoverable` looks at the kinds of the recorded events, `recover_funds` at
the swap that they give back. What the two look at is the same in every log that
a swap can record, but for a refund that is recorded without a transaction.
-/
namespace DeXFG.LegacySwap
open Ordermatch (Uuid)
open SwapV2 (Side TransactionIdentifier)
open Library.Process Library.EventSourced Library.EventGrammar Library.DurableMachine

namespace TakerSwap

/-! ## What lasts in a log -/

section Lasting

variable {log : TakerSavedSwap} {d e : TakerSwapEvent}

/-- A property of events that a command hands on to what it records. -/
theorem lasts {p : TakerSwapEvent → Prop} {q : TakerSwapCommand → Prop}
    (hcont : ∀ d e, Continues d e → p d → p e) (hres : ∀ d c, Resumes d c → p d → q c)
    (hemit : ∀ c e, Emits c e → q c → p e) (hfollows : grammar.follows d e) (hd : p d) : p e := by
  obtain hc | ⟨c, hc, he⟩ := hfollows
  · exact hcont d e hc hd
  · exact hemit c e he (hres d c hc hd)

/-- The failures before the taker payment, after which the swap only finishes. -/
def FailsEarly : TakerSwapEvent → Prop
  | .startFailed _ => True
  | .negotiateFailed _ => True
  | .takerFeeSendFailed _ => True
  | .makerPaymentValidateFailed _ => True
  | .makerPaymentWaitConfirmFailed _ => True
  | .finished => True
  | _ => False

theorem failsEarly_lasts (h : grammar.follows d e) (hd : FailsEarly d) : FailsEarly e := by
  apply lasts (q := (· = .finish)) _ _ _ h hd
  · rintro d e ⟨⟩ <;> simp [FailsEarly]
  · rintro d c (⟨hc, -⟩ | _ | _ | ⟨hc⟩) hd <;> cases d <;>
      simp_all [FailsEarly, TakerSwapEvent.getCommand]
  · rintro c e hemit rfl
    cases hemit <;> simp_all [FailsEarly]

/-- The taker payment was sent, or nothing more is recorded. -/
def Paid (e : TakerSwapEvent) : Prop := 3 ≤ stage e ∨ e = .finished

theorem Resumes.paid {c : TakerSwapCommand} (h : Resumes d c) (hd : 3 ≤ stage d) :
    3 ≤ needs c ∨ c = .finish := by
  cases h with
  | next hc _ =>
    cases d <;> simp_all [stage, TakerSwapEvent.getCommand] <;> subst hc <;> simp [needs]
  | secretNotExtracted _ => exact .inr rfl
  | makerPaymentNotSpent _ => exact .inr rfl
  | discovered _ => exact .inl le_rfl

theorem paid_lasts (h : grammar.follows d e) (hd : Paid d) : Paid e := by
  apply lasts (q := fun c => 3 ≤ needs c ∨ c = .finish) _ _ _ h hd
  · rintro d e ⟨⟩ <;> simp [Paid, stage]
  · rintro d c hres (hstage | rfl)
    · exact hres.paid hstage
    · cases hres <;> simp_all [TakerSwapEvent.getCommand]
  · rintro c e hemit hc
    cases hemit <;> simp_all [Paid, stage, needs]

/-- The spend of the maker payment was confirmed, or nothing more is recorded. -/
def Confirmed (e : TakerSwapEvent) : Prop := e = .makerPaymentSpendConfirmed ∨ e = .finished

theorem confirmed_lasts (h : grammar.follows d e) (hd : Confirmed d) : Confirmed e := by
  apply lasts (q := (· = .finish)) _ _ _ h hd
  · rintro d e ⟨⟩ <;> simp [Confirmed]
  · rintro d c hres (rfl | rfl) <;> cases hres <;> simp_all [TakerSwapEvent.getCommand]
  · rintro c e hemit rfl
    cases hemit <;> simp_all [Confirmed]

/-- The taker payment was refunded by this transaction, or nothing more is recorded. -/
def RefundedBy (tx : Option TransactionIdentifier) (e : TakerSwapEvent) : Prop :=
  e = .takerPaymentRefunded tx ∨ e = .takerPaymentRefundFinished ∨ e = .finished

theorem refundedBy_lasts {tx : Option TransactionIdentifier} (h : grammar.follows d e)
    (hd : RefundedBy tx d) : RefundedBy tx e := by
  apply lasts (q := fun c => c = .finalizeTakerPaymentRefund ∨ c = .finish) _ _ _ h hd
  · rintro d e ⟨⟩ <;> simp [RefundedBy]
  · rintro d c hres (rfl | rfl | rfl) <;> cases hres <;> simp_all [TakerSwapEvent.getCommand]
  · rintro c e hemit (rfl | rfl) <;> cases hemit <;> simp_all [RefundedBy]

/-- A watcher refunded the taker payment, or nothing more is recorded. -/
def RefundedByWatcher (e : TakerSwapEvent) : Prop :=
  (∃ tx, e = .takerPaymentRefundedByWatcher tx) ∨ e = .finished

theorem refundedByWatcher_lasts (h : grammar.follows d e) (hd : RefundedByWatcher d) :
    RefundedByWatcher e := by
  apply lasts (q := (· = .finish)) _ _ _ h hd
  · rintro d e ⟨⟩ <;> simp [RefundedByWatcher]
  · rintro d c hres (⟨tx, rfl⟩ | rfl) <;> cases hres <;> simp_all [TakerSwapEvent.getCommand]
  · rintro c e hemit rfl
    cases hemit <;> simp_all [RefundedByWatcher]

/-- A watcher's refund is recorded with its transaction. -/
theorem isSome_of_refundedByWatcher {tx : Option TransactionIdentifier} (h : grammar.Log log)
    (he : .takerPaymentRefundedByWatcher tx ∈ log) : tx.isSome := by
  obtain hfirst | ⟨d, -, hcont | ⟨c, -, hemit⟩⟩ := h.exists_before he
  · cases hfirst
    rfl
  · cases hcont
  · cases hemit
    rfl

/-- A taker that sent its payment has recorded no early failure. -/
theorem not_failsEarly (h : grammar.Log log) (hd : d ∈ log) (hpaid : 3 ≤ stage d) (he : e ∈ log)
    (hne : e ≠ .finished) : ¬ FailsEarly e := by
  intro hfails
  apply h.not_both (fun _ _ => failsEarly_lasts) (fun _ _ => paid_lasts) he hfails hd
    (.inl hpaid)
  · rintro (hstage | rfl)
    · cases e <;> simp_all [FailsEarly, stage]
    · exact hne rfl
  · intro hd
    cases d <;> simp_all [FailsEarly, stage]

/-- A spend that is confirmed was recorded. -/
theorem exists_spent (h : grammar.Log log) (he : .makerPaymentSpendConfirmed ∈ log) :
    ∃ d ∈ log, ∃ tx, d = .makerPaymentSpent tx ∨ d = .makerPaymentSpentByWatcher tx :=
  exists_milestone h he (k := 4) le_rfl

/-- A spend that is followed by another event was confirmed or not. -/
theorem confirmed_or_failed (h : grammar.Log (log ++ [d])) (he : e ∈ log)
    (hspent : ∃ tx, e = .makerPaymentSpent tx ∨ e = .makerPaymentSpentByWatcher tx) :
    .makerPaymentSpendConfirmed ∈ log ++ [d] ∨
      ∃ err, .makerPaymentSpendConfirmFailed err ∈ log ++ [d] := by
  obtain ⟨e', he', hcont | ⟨c, hres, hemit⟩⟩ := h.exists_after he
  · obtain ⟨tx, rfl | rfl⟩ := hspent <;> cases hcont
  · have hc : c = .confirmMakerPaymentSpend := by
      obtain ⟨tx, rfl | rfl⟩ := hspent <;> cases hres <;> simp_all [TakerSwapEvent.getCommand]
    subst hc
    cases hemit with
    | spendNotConfirmed err => exact .inr ⟨err, he'⟩
    | spendConfirmed => exact .inl he'
    | refundedByWatcher tx hc => simp at hc

end Lasting

/-! ## The swap that the log gives back -/

/-- The log records that the taker payment was refunded. -/
def RefundRecorded (log : TakerSavedSwap) : Prop :=
  ∃ tx, .takerPaymentRefunded tx ∈ log ∨ .takerPaymentRefundedByWatcher tx ∈ log

/-- `recover_funds` of the saved swap, up to the end of the checks on its state. -/
def recoverSaved (X : SwapEnv) (uuid : Uuid) (log : TakerSavedSwap) :
    TakerStoreProc (Except String Unit) := do
  match ← loadFromSaved X uuid log with
  | .error e => return .error e
  | .ok (s, _) => return (recoverGuards s).map fun _ => ()

/-- At this time the checks of `recover_funds` on the saved swap end so. -/
def Recovers (X : SwapEnv) (uuid : Uuid) (t : ℕ) (log : TakerSavedSwap) (ok : Bool) : Prop :=
  (recoverSaved X uuid log).wp storeEnv free (fun r _ => r.isOk = ok) ⟨t, log⟩

section Replay

variable {X : SwapEnv} {uuid : Uuid} {t : ℕ} {data : TakerSwapData} {events : TakerSavedSwap}

theorem mem_events {e : TakerSwapEvent} (he : e ∈ TakerSwapEvent.started data :: events)
    (hne : ∀ data, e ≠ .started data) : e ∈ events :=
  (List.mem_cons.mp he).resolve_left (hne data)

theorem replay_finishedAt (h : .finished ∈ events) :
    (replay X uuid t data events).finishedAt = t := by
  unfold replay
  apply foldl_of_mem (f := applyEvent t) (P := fun s : TakerSwap => s.finishedAt = t) _ _ h
  · exact fun s => rfl
  · intro s d _ hs
    cases d <;> simp_all [applyEvent, w, pushError]

/-- The transaction with which the swap gets so far is in memory. -/
def Has (s : TakerSwap) : ℕ → Prop
  | 1 => s.mutable.takerFee.isSome
  | 2 => s.mutable.makerPayment.isSome
  | 3 => s.mutable.takerPayment.isSome
  | 4 => s.mutable.makerPaymentSpend.isSome
  | _ => True

theorem replay_has {k : ℕ} {d : TakerSwapEvent} (hd : d ∈ events) (h : Milestone k d) :
    Has (replay X uuid t data events) k := by
  have hkeep (k : ℕ) (s : TakerSwap) (e : TakerSwapEvent) (hs : Has s k) :
      Has (applyEvent t s e) k := by
    unfold Has at hs ⊢
    split at hs <;> cases e <;> simp_all [applyEvent, w, pushError]
  unfold replay
  apply foldl_of_mem (f := applyEvent t) (P := fun s => Has s k) _ (fun s e _ => hkeep k s e) hd
  intro s
  rcases k with _ | _ | _ | _ | _ | k
  · trivial
  · obtain ⟨tx, rfl⟩ := h
    rfl
  · obtain ⟨tx, rfl⟩ := h
    rfl
  · obtain ⟨tx, rfl⟩ := h
    rfl
  · obtain ⟨tx, rfl | rfl⟩ := h <;> rfl
  · trivial

theorem replay_confirmed_iff :
    (replay X uuid t data events).mutable.makerPaymentSpendConfirmed = true ↔
      .makerPaymentSpendConfirmed ∈ events := by
  unfold replay
  constructor
  · intro h
    have horigin := foldl_origin (f := applyEvent t) (P := fun s : TakerSwap => s.mutable.makerPaymentSpendConfirmed = true)
      (q := (· = TakerSwapEvent.makerPaymentSpendConfirmed)) (by
        intro s e
        cases e <;> simp [applyEvent, w, pushError]) h
    obtain hbase | ⟨e, he, rfl⟩ := horigin
    · simp [applyEvent, w, ofData] at hbase
    · exact he
  · intro h
    apply foldl_of_mem (f := applyEvent t) (P := fun s : TakerSwap => s.mutable.makerPaymentSpendConfirmed = true) _ _ h
    · exact fun s => rfl
    · intro s d _ hs
      cases d <;> simp_all [applyEvent, w, pushError]

theorem exists_refund (h : (replay X uuid t data events).mutable.takerPaymentRefund.isSome) :
    ∃ tx, .takerPaymentRefunded (some tx) ∈ events ∨
      .takerPaymentRefundedByWatcher (some tx) ∈ events := by
  have horigin := foldl_origin (f := applyEvent t) (P := fun s : TakerSwap => s.mutable.takerPaymentRefund.isSome)
    (q := fun e => ∃ tx, e = TakerSwapEvent.takerPaymentRefunded (some tx) ∨
      e = .takerPaymentRefundedByWatcher (some tx)) (by
      intro s e
      cases e with
      | takerPaymentRefunded tx => cases tx <;> simp [applyEvent, w]
      | takerPaymentRefundedByWatcher tx => cases tx <;> simp [applyEvent, w]
      | _ => simp [applyEvent, w, pushError]) h
  obtain hbase | ⟨e, he, tx, rfl | rfl⟩ := horigin
  · simp [applyEvent, w, ofData] at hbase
  · exact ⟨tx, .inl he⟩
  · exact ⟨tx, .inr he⟩

theorem replay_refund (h : RefundRecorded events) (hnone : .takerPaymentRefunded none ∉ events)
    (hwatcher : ∀ tx, .takerPaymentRefundedByWatcher tx ∈ events → tx.isSome) :
    (replay X uuid t data events).mutable.takerPaymentRefund.isSome := by
  have hsome {e : TakerSwapEvent} (he : e ∈ events) (s : TakerSwap)
      (h : s.mutable.takerPaymentRefund.isSome ∨
        ∃ tx, e = .takerPaymentRefunded tx ∨ e = .takerPaymentRefundedByWatcher tx) :
      (applyEvent t s e).mutable.takerPaymentRefund.isSome := by
    cases e with
    | takerPaymentRefunded tx =>
      cases tx with
      | none => exact absurd he hnone
      | some tx => rfl
    | takerPaymentRefundedByWatcher tx => exact hwatcher tx he
    | _ => simpa [applyEvent, w, pushError] using h
  obtain ⟨tx, he | he⟩ := h
  all_goals
    apply foldl_of_mem (f := applyEvent t) (P := fun s : TakerSwap => s.mutable.takerPaymentRefund.isSome) _ _ he
    · exact fun s => hsome he s (.inr ⟨tx, by simp⟩)
    · exact fun s d hd hs => hsome hd s (.inl hs)

theorem has_of_pending {c : TakerSwapCommand} {k : ℕ} (h : grammar.Log (.started data :: events))
    (hc : Pending (.started data :: events) c) (hk : k ≤ needs c) (hpos : 0 < k) :
    Has (replay X uuid t data events) k := by
  obtain ⟨d, hd, hm⟩ := hc.exists_milestone h hk hpos
  apply replay_has (mem_events hd _) hm
  rintro data rfl
  match k, hpos, hm with
  | 1, _, ⟨_, h⟩ => cases h
  | 2, _, ⟨_, h⟩ => cases h
  | 3, _, ⟨_, h⟩ => cases h
  | k + 4, _, ⟨_, h⟩ => simp at h

/-- The swap that a log gives back has what the command after the log unwraps. -/
theorem finds_of_pending {c : TakerSwapCommand} (h : grammar.Log (.started data :: events))
    (hc : Pending (.started data :: events) c) : Finds (replay X uuid t data events) c := by
  have hhas (k : ℕ) (hk : k ≤ needs c) (hpos : 0 < k) : Has (replay X uuid t data events) k :=
    has_of_pending h hc hk hpos
  cases c with
  | waitForMakerPayment => exact hhas 1 le_rfl (by decide)
  | validateMakerPayment => exact hhas 2 le_rfl (by decide)
  | sendTakerPayment => exact ⟨hhas 2 le_rfl (by decide), hhas 1 (by decide) (by decide)⟩
  | waitForTakerPaymentSpend =>
    exact ⟨hhas 3 le_rfl (by decide),
      fun _ => ⟨hhas 2 (by decide) (by decide), hhas 1 (by decide) (by decide)⟩⟩
  | spendMakerPayment => exact hhas 2 (by decide) (by decide)
  | confirmMakerPaymentSpend => exact hhas 4 le_rfl (by decide)
  | prepareForTakerPaymentRefund => exact hhas 2 (by decide) (by decide)
  | refundTakerPayment => exact hhas 3 le_rfl (by decide)
  | finalizeTakerPaymentRefund => exact hhas 2 (by decide) (by decide)
  | _ => trivial

end Replay

/-! ## The agreement -/

/-- `is_recoverable` and the checks of `recover_funds` at this time agree with the log. -/
def RecoverabilityAgrees (X : SwapEnv) (uuid : Uuid) (t : ℕ) (log : TakerSavedSwap) : Prop :=
  ((∃ tx, .takerPaymentSent tx ∈ log) → ¬ RefundRecorded log →
    .makerPaymentSpendConfirmed ∉ log →
      log.isRecoverable = true ∧ Recovers X uuid t log true) ∧
  (RefundRecorded log ∨ .makerPaymentSpendConfirmed ∈ log →
    log.isRecoverable = false ∧ Recovers X uuid t log false)

section Agreement

variable {X : SwapEnv} {uuid : Uuid} {t : ℕ} {log : TakerSavedSwap}

theorem recoverGuards_isOk {s : TakerSwap} : (recoverGuards s).isOk = true ↔
    s.finishedAt ≠ 0 ∧ s.mutable.takerPaymentRefund.isSome = false ∧
      ¬ (s.mutable.makerPaymentSpend.isSome ∧ s.mutable.makerPaymentSpendConfirmed) ∧
      s.mutable.makerPayment.isSome = true := by
  unfold recoverGuards
  split
  · simp_all [Except.isOk, Except.toBool]
  split
  · simp_all [Except.isOk, Except.toBool]
  split
  · simp_all [Except.isOk, Except.toBool]
  cases h : s.mutable.makerPayment <;> simp_all [Except.isOk, Except.toBool]

/-- A saved swap that is finished is loaded without asking anything. -/
theorem recovers_iff {data : TakerSwapData} {events : TakerSavedSwap} {ok : Bool}
    (hlast : events.getLastD (.started data) = .finished) :
    Recovers X uuid t (.started data :: events) ok ↔
      (recoverGuards (replay X uuid t data events)).isOk = ok := by
  have hload : recoverSaved X uuid (.started data :: events) =
      .now fun t => .done ((recoverGuards (replay X uuid t data events)).map fun _ => ()) := by
    unfold recoverSaved
    rw [loadFromSaved]
    simp only [commandAfter, hlast, TakerSwapEvent.getCommand]
    rfl
  unfold Recovers
  rw [hload, wp_now, wp_done]
  change (Except.map _ (recoverGuards (replay X uuid t data events))).isOk = ok ↔ _
  cases recoverGuards (replay X uuid t data events) <;> rfl

theorem isFinished_iff : log.isFinished = true ↔ log.getLast? = some .finished := by
  simp [TakerSavedSwap.isFinished]

/-- A log that has come so far begins with the data of the swap. -/
theorem exists_started {d : TakerSwapEvent} (h : grammar.Log log) (hd : d ∈ log)
    (hstage : 3 ≤ stage d) : ∃ data events, log = .started data :: events := by
  cases log with
  | nil => cases hd
  | cons e events =>
    cases h.head with
    | started data => exact ⟨data, events, rfl⟩
    | startFailed err =>
      exact absurd trivial (not_failsEarly h hd hstage (List.mem_cons_self) (by simp))
    | refundedByWatcher tx hc => simp at hc

/-- A log that follows the grammar and is finished is not recoverable only for what it records. -/
theorem isRecoverable_of_log (h : grammar.Log log) (hfin : log.isFinished = true)
    (hsent : ∃ tx, .takerPaymentSent tx ∈ log) (hrefund : ¬ RefundRecorded log)
    (hconfirmed : .makerPaymentSpendConfirmed ∉ log) : log.isRecoverable = true := by
  obtain ⟨tx, hsent⟩ := hsent
  have hsettles : log.any TakerSavedSwap.settles = false := by
    rw [List.any_eq_false]
    intro e he hsettles
    by_cases hearly : FailsEarly e
    · apply not_failsEarly h hsent le_rfl he _ hearly
      rintro rfl
      simp [TakerSavedSwap.settles] at hsettles
    · cases e with
      | takerPaymentRefunded tx => exact hrefund ⟨tx, .inl he⟩
      | takerPaymentRefundedByWatcher tx => exact hrefund ⟨tx, .inr he⟩
      | makerPaymentSpendConfirmed => exact hconfirmed he
      | _ => simp_all [TakerSavedSwap.settles, FailsEarly]
  have hspent : log.makerPaymentSpent = true → log.makerPaymentSpendConfirmFailed = true := by
    intro hspent
    obtain ⟨e, he, hspent⟩ := List.any_eq_true.mp hspent
    have hcases : ∃ tx, e = .makerPaymentSpent tx ∨ e = .makerPaymentSpentByWatcher tx := by
      cases e <;> simp_all
    obtain ⟨log, rfl⟩ := List.getLast?_eq_some_iff.mp (isFinished_iff.mp hfin)
    have he' : e ∈ log := by
      rw [List.mem_append, List.mem_singleton] at he
      apply he.resolve_right
      rintro rfl
      simp at hcases
    obtain hc | ⟨err, herr⟩ := confirmed_or_failed h he' hcases
    · exact absurd hc hconfirmed
    · exact List.any_eq_true.mpr ⟨_, herr, rfl⟩
  cases hs : log.makerPaymentSpent <;>
    simp_all [TakerSavedSwap.isRecoverable]

/-- A refund without a transaction is the only one that the log records. -/
theorem refund_of_none (h : grammar.Log log) (hnone : .takerPaymentRefunded none ∈ log)
    (tx : TransactionIdentifier) : .takerPaymentRefunded (some tx) ∉ log ∧
      .takerPaymentRefundedByWatcher (some tx) ∉ log ∧ .makerPaymentSpendConfirmed ∉ log := by
  refine ⟨fun he => ?_, fun he => ?_, fun he => ?_⟩
  · apply h.not_both (fun d e => @refundedBy_lasts d e none)
      (fun d e => @refundedBy_lasts d e (some tx)) hnone (.inl rfl) he (.inl rfl) <;>
      simp [RefundedBy]
  · apply h.not_both (fun d e => @refundedBy_lasts d e none)
      (fun _ _ => refundedByWatcher_lasts) hnone (.inl rfl) he (.inl ⟨_, rfl⟩) <;>
      simp [RefundedBy, RefundedByWatcher]
  · apply h.not_both (fun d e => @refundedBy_lasts d e none)
      (fun _ _ => confirmed_lasts) hnone (.inl rfl) he (.inl rfl) <;>
      simp [RefundedBy, Confirmed]

/-- The two agree on every log of a swap that is finished, but for a refund that is recorded
without its transaction. -/
theorem recoverabilityAgrees_iff (h : grammar.Log log) (hfin : log.isFinished = true) (ht : 0 < t) :
    RecoverabilityAgrees X uuid t log ↔ .takerPaymentRefunded none ∉ log := by
  by_cases hlate : ∃ d ∈ log, 3 ≤ stage d
  · obtain ⟨d, hd, hstage⟩ := hlate
    obtain ⟨data, events, rfl⟩ := exists_started h hd hstage
    have hlast : events.getLastD (.started data) = .finished := by
      have := isFinished_iff.mp hfin
      simpa [List.getLast?_cons] using this
    have hfinished : .finished ∈ events :=
      mem_events (List.mem_of_getLast? (isFinished_iff.mp hfin)) (by simp)
    have hpayment : (replay X uuid t data events).mutable.makerPayment.isSome = true := by
      obtain ⟨e, he, tx, rfl⟩ := exists_milestone (k := 2) h hd (by omega)
      exact replay_has (k := 2) (mem_events he (by simp)) ⟨tx, rfl⟩
    have htime : (replay X uuid t data events).finishedAt ≠ 0 := by
      rw [replay_finishedAt hfinished]
      omega
    have hconfirmed : (replay X uuid t data events).mutable.makerPaymentSpendConfirmed = true ↔
        .makerPaymentSpendConfirmed ∈ TakerSwapEvent.started data :: events := by
      rw [replay_confirmed_iff]
      simp
    unfold RecoverabilityAgrees
    simp only [recovers_iff hlast]
    constructor
    · rintro ⟨-, hrefuse⟩ hnone
      have honly := refund_of_none h hnone
      have hrefused := (hrefuse (.inl ⟨none, .inl hnone⟩)).2
      rw [← Bool.not_eq_true, recoverGuards_isOk] at hrefused
      apply hrefused
      refine ⟨htime, ?_, ?_, hpayment⟩
      · rw [← Bool.not_eq_true]
        intro hsome
        obtain ⟨tx, he | he⟩ := exists_refund hsome
        · exact (honly tx).1 (List.mem_cons_of_mem _ he)
        · exact (honly tx).2.1 (List.mem_cons_of_mem _ he)
      · rintro ⟨hspend, hc⟩
        obtain ⟨tx, -⟩ := Option.isSome_iff_exists.mp hspend
        exact (honly tx).2.2 (hconfirmed.mp hc)
    · intro hnone
      constructor
      · intro hsent hrefund hunconfirmed
        refine ⟨isRecoverable_of_log h hfin hsent hrefund hunconfirmed, ?_⟩
        rw [recoverGuards_isOk]
        refine ⟨htime, ?_, fun hspend => hunconfirmed (hconfirmed.mp hspend.2), hpayment⟩
        rw [← Bool.not_eq_true]
        intro hsome
        obtain ⟨tx, he⟩ := exists_refund hsome
        exact hrefund ⟨some tx, he.imp (List.mem_cons_of_mem _) (List.mem_cons_of_mem _)⟩
      · intro hsettled
        have hsettles : (TakerSwapEvent.started data :: events).any TakerSavedSwap.settles = true := by
          rw [List.any_eq_true]
          obtain ⟨tx, he | he⟩ | he := hsettled
          all_goals exact ⟨_, he, rfl⟩
        refine ⟨by simp [TakerSavedSwap.isRecoverable, hsettles], ?_⟩
        rw [← Bool.not_eq_true, recoverGuards_isOk]
        rintro ⟨-, hrefund, hspend, -⟩
        obtain ⟨tx, hsettled⟩ | hc := hsettled
        · have hrecorded : RefundRecorded events := by
            use tx
            apply hsettled.imp <;> exact fun he => mem_events he (by simp)
          have hsome : (replay X uuid t data events).mutable.takerPaymentRefund.isSome :=
            replay_refund hrecorded
            (fun hn => hnone (List.mem_cons_of_mem _ hn))
            (fun tx he => isSome_of_refundedByWatcher h (List.mem_cons_of_mem _ he))
          rw [hrefund] at hsome
          cases hsome
        · apply hspend
          obtain ⟨e, he, hspent⟩ := exists_spent h hc
          constructor
          · apply replay_has (k := 4) _ hspent
            apply mem_events he
            obtain ⟨tx, rfl | rfl⟩ := hspent <;> simp
          · exact hconfirmed.mpr hc
  · push Not at hlate
    have hearly {e : TakerSwapEvent} (he : e ∈ log) (hstage : 3 ≤ stage e) : False :=
      absurd hstage (by simpa using hlate e he)
    constructor
    · exact fun _ hnone => hearly hnone le_rfl
    · intro _
      constructor
      · rintro ⟨tx, hsent⟩
        exact (hearly hsent le_rfl).elim
      · rintro (⟨tx, he | he⟩ | he)
        · exact (hearly he le_rfl).elim
        · exact (hearly he le_rfl).elim
        · exact (hearly he (by simp [stage])).elim

end Agreement

end TakerSwap

end DeXFG.LegacySwap
