import DeXFG.LegacySwap.MakerRuns

/-!
# When a maker swap is recoverable

The same for the maker: what `is_recoverable` reads in the log and what
`recover_funds` checks of the swap that the log gives back.
-/
namespace DeXFG.LegacySwap
open Ordermatch (Uuid)
open SwapV2 (Side TransactionIdentifier)
open Library.Process Library.EventSourced Library.EventGrammar Library.DurableMachine

namespace MakerSwap

/-! ## What lasts in a log -/

section Lasting

variable {log : MakerSavedSwap} {d e : MakerSwapEvent}

/-- A property of events that a command hands on to what it records. -/
theorem lasts {p : MakerSwapEvent → Prop} {q : MakerSwapCommand → Prop}
    (hcont : ∀ d e, Continues d e → p d → p e) (hres : ∀ d c, d.getCommand = some c → p d → q c)
    (hemit : ∀ c e, Emits c e → q c → p e) (hfollows : grammar.follows d e) (hd : p d) : p e := by
  obtain hc | ⟨c, hc, he⟩ := hfollows
  · exact hcont d e hc hd
  · exact hemit c e he (hres d c hc hd)

/-- The failures before the maker payment, after which the swap only finishes. -/
def FailsEarly : MakerSwapEvent → Prop
  | .startFailed _ => True
  | .negotiateFailed _ => True
  | .takerFeeValidateFailed _ => True
  | .finished => True
  | _ => False

theorem failsEarly_lasts (h : grammar.follows d e) (hd : FailsEarly d) : FailsEarly e := by
  apply lasts (q := (· = .finish)) _ _ _ h hd
  · rintro d e (_ | _ | _ | ⟨⟨⟩⟩ | _ | _) <;> simp [FailsEarly]
  · intro d c hc hd
    cases d <;> simp_all [FailsEarly, MakerSwapEvent.getCommand]
  · rintro c e hemit rfl
    cases hemit with
    | failed h => cases h
    | finished => trivial

/-- The maker payment was sent, or nothing more is recorded. -/
def Paid (e : MakerSwapEvent) : Prop :=
  1 ≤ stage e ∨ (∃ err, e = .makerPaymentTransactionFailed err) ∨ e = .finished

theorem paid_lasts (h : grammar.follows d e) (hd : Paid d) : Paid e := by
  apply lasts (q := fun c => 1 ≤ needs c ∨ c = .finish) _ _ _ h hd
  · rintro d e (_ | _ | _ | ⟨⟨⟩⟩ | _ | _) <;> simp [Paid, stage]
  · intro d c hc hd
    cases d <;> simp_all [Paid, stage, MakerSwapEvent.getCommand] <;> subst hc <;> simp [needs]
  · rintro c e hemit hc
    cases hemit with
    | failed h => exact .inl h.stage_le.2
    | _ => simp_all [Paid, stage, needs]

/-- The spend of the taker payment was confirmed, or nothing more is recorded. -/
def Confirmed (e : MakerSwapEvent) : Prop := e = .takerPaymentSpendConfirmed ∨ e = .finished

theorem confirmed_lasts (h : grammar.follows d e) (hd : Confirmed d) : Confirmed e := by
  apply lasts (q := (· = .finish)) _ _ _ h hd
  · rintro d e (_ | _ | _ | ⟨⟨⟩⟩ | _ | _) <;> simp [Confirmed]
  · rintro d c hc (rfl | rfl) <;> simp_all [MakerSwapEvent.getCommand]
  · rintro c e hemit rfl
    cases hemit with
    | failed h => cases h
    | finished => exact .inr rfl

/-- The maker payment was refunded by this transaction, or nothing more is recorded. -/
def RefundedBy (tx : Option TransactionIdentifier) (e : MakerSwapEvent) : Prop :=
  e = .makerPaymentRefunded tx ∨ e = .makerPaymentRefundFinished ∨ e = .finished

theorem refundedBy_lasts {tx : Option TransactionIdentifier} (h : grammar.follows d e)
    (hd : RefundedBy tx d) : RefundedBy tx e := by
  apply lasts (q := fun c => c = .finalizeMakerPaymentRefund ∨ c = .finish) _ _ _ h hd
  · rintro d e (_ | _ | _ | ⟨⟨⟩⟩ | _ | _) <;> simp [RefundedBy]
  · rintro d c hc (rfl | rfl | rfl) <;> simp_all [MakerSwapEvent.getCommand]
  · rintro c e hemit (rfl | rfl)
    · cases hemit with
      | failed h => cases h
      | refundFinished => exact .inr (.inl rfl)
    · cases hemit with
      | failed h => cases h
      | finished => exact .inr (.inr rfl)

/-- A maker that sent its payment has recorded no early failure. -/
theorem not_failsEarly (h : grammar.Log log) (hd : d ∈ log) (hpaid : 1 ≤ stage d) (he : e ∈ log)
    (hne : e ≠ .finished) : ¬ FailsEarly e := by
  intro hfails
  apply h.not_both (fun _ _ => failsEarly_lasts) (fun _ _ => paid_lasts) he hfails hd
    (.inl hpaid)
  · rintro (hstage | ⟨err, rfl⟩ | rfl)
    · cases e <;> simp_all [FailsEarly, stage]
    · exact hfails
    · exact hne rfl
  · intro hd
    cases d <;> simp_all [FailsEarly, stage]

end Lasting

/-! ## The swap that the log gives back -/

/-- The log records that the maker payment was refunded. -/
def RefundRecorded (log : MakerSavedSwap) : Prop := ∃ tx, .makerPaymentRefunded tx ∈ log

/-- `recover_funds` of the saved swap, up to the end of the checks on its state. -/
def recoverSaved (X : SwapEnv) (uuid : Uuid) (log : MakerSavedSwap) :
    Proc (StoreCall SwapCall MakerSwapEvent) (StoreCall.Answer SwapCall.Answer)
      (Except String Unit) := do
  match ← loadFromSaved X uuid log with
  | .error e => return .error e
  | .ok (s, _) => return recoverGuards s

/-- At this time the checks of `recover_funds` on the saved swap end so. -/
def Recovers (X : SwapEnv) (uuid : Uuid) (t : ℕ) (log : MakerSavedSwap) (ok : Bool) : Prop :=
  (recoverSaved X uuid log).wp storeEnv free (fun r _ => r.isOk = ok) ⟨t, log⟩

section Replay

variable {X : SwapEnv} {uuid : Uuid} {t : ℕ} {data : MakerSwapData} {events : MakerSavedSwap}

theorem mem_events {e : MakerSwapEvent} (he : e ∈ MakerSwapEvent.started data :: events)
    (hne : ∀ data, e ≠ .started data) : e ∈ events :=
  (List.mem_cons.mp he).resolve_left (hne data)

theorem replay_finishedAt (h : .finished ∈ events) :
    (replay X uuid t data events).finishedAt = t := by
  unfold replay
  apply foldl_of_mem (f := applyEvent t) (P := fun s : MakerSwap => s.finishedAt = t) _ _ h
  · exact fun s => rfl
  · intro s d _ hs
    cases d <;> simp_all [applyEvent, w, pushError]

/-- The transaction with which the swap gets so far is in memory. -/
def Has (s : MakerSwap) : ℕ → Prop
  | 1 => s.mutable.makerPayment.isSome
  | 2 => s.mutable.takerPayment.isSome
  | 3 => s.mutable.takerPaymentSpend.isSome
  | _ => True

theorem replay_has {k : ℕ} {d : MakerSwapEvent} (hd : d ∈ events) (h : Milestone k d) :
    Has (replay X uuid t data events) k := by
  have hkeep (k : ℕ) (s : MakerSwap) (e : MakerSwapEvent) (hs : Has s k) :
      Has (applyEvent t s e) k := by
    unfold Has at hs ⊢
    split at hs <;> cases e <;> simp_all [applyEvent, w, pushError]
  unfold replay
  apply foldl_of_mem (f := applyEvent t) (P := fun s => Has s k) _ (fun s e _ => hkeep k s e) hd
  intro s
  rcases k with _ | _ | _ | _ | k
  · trivial
  · obtain ⟨tx, rfl⟩ := h
    rfl
  · obtain ⟨tx, rfl⟩ := h
    rfl
  · obtain ⟨tx, rfl⟩ := h
    rfl
  · trivial

theorem replay_confirmed_iff :
    (replay X uuid t data events).mutable.takerPaymentSpendConfirmed = true ↔
      .takerPaymentSpendConfirmed ∈ events := by
  unfold replay
  constructor
  · intro h
    have horigin := foldl_origin (f := applyEvent t)
      (P := fun s : MakerSwap => s.mutable.takerPaymentSpendConfirmed = true)
      (q := (· = MakerSwapEvent.takerPaymentSpendConfirmed)) (by
        intro s e
        cases e <;> simp [applyEvent, w, pushError]) h
    obtain hbase | ⟨e, he, rfl⟩ := horigin
    · simp [applyEvent, w, ofData] at hbase
    · exact he
  · intro h
    apply foldl_of_mem (f := applyEvent t)
      (P := fun s : MakerSwap => s.mutable.takerPaymentSpendConfirmed = true) _ _ h
    · exact fun s => rfl
    · intro s d _ hs
      cases d <;> simp_all [applyEvent, w, pushError]

theorem exists_refund (h : (replay X uuid t data events).mutable.makerPaymentRefund.isSome) :
    ∃ tx, .makerPaymentRefunded (some tx) ∈ events := by
  have horigin := foldl_origin (f := applyEvent t)
    (P := fun s : MakerSwap => s.mutable.makerPaymentRefund.isSome)
    (q := fun e => ∃ tx, e = MakerSwapEvent.makerPaymentRefunded (some tx)) (by
      intro s e
      cases e with
      | makerPaymentRefunded tx => cases tx <;> simp [applyEvent, w]
      | _ => simp [applyEvent, w, pushError]) h
  obtain hbase | ⟨e, he, tx, rfl⟩ := horigin
  · simp [applyEvent, w, ofData] at hbase
  · exact ⟨tx, he⟩

theorem replay_refund (h : RefundRecorded events) (hnone : .makerPaymentRefunded none ∉ events) :
    (replay X uuid t data events).mutable.makerPaymentRefund.isSome := by
  obtain ⟨tx, he⟩ := h
  cases tx with
  | none => exact absurd he hnone
  | some tx =>
    unfold replay
    apply foldl_of_mem (f := applyEvent t)
      (P := fun s : MakerSwap => s.mutable.makerPaymentRefund.isSome) _ _ he
    · exact fun s => rfl
    · intro s d hd hs
      cases d with
      | makerPaymentRefunded tx' =>
        cases tx' with
        | none => exact absurd hd hnone
        | some tx' => rfl
      | _ => simpa [applyEvent, w, pushError] using hs

/-- The swap that a log gives back has what the command after the log unwraps. -/
theorem finds_of_pending {c : MakerSwapCommand} (h : grammar.Log (.started data :: events))
    (hc : Pending (.started data :: events) c) : Finds (replay X uuid t data events) c := by
  have hhas (k : ℕ) (hk : k ≤ needs c) (hpos : 0 < k) : Has (replay X uuid t data events) k := by
    obtain ⟨d, hd, hm⟩ := hc.exists_milestone h hk hpos
    apply replay_has (mem_events hd _) hm
    rintro data rfl
    match k, hpos, hm with
    | 1, _, ⟨_, h⟩ => cases h
    | 2, _, ⟨_, h⟩ => cases h
    | k + 3, _, ⟨_, h⟩ => cases h
  cases c with
  | waitForTakerPayment => exact hhas 1 le_rfl (by decide)
  | validateTakerPayment => exact hhas 2 le_rfl (by decide)
  | spendTakerPayment => exact hhas 2 le_rfl (by decide)
  | confirmTakerPaymentSpend => exact hhas 3 le_rfl (by decide)
  | refundMakerPayment => exact hhas 1 le_rfl (by decide)
  | _ => trivial

end Replay

/-! ## The agreement -/

/-- `is_recoverable` and the checks of `recover_funds` at this time agree with the log. -/
def RecoverabilityAgrees (X : SwapEnv) (uuid : Uuid) (t : ℕ) (log : MakerSavedSwap) : Prop :=
  ((∃ tx, .makerPaymentSent tx ∈ log) → ¬ RefundRecorded log →
    .takerPaymentSpendConfirmed ∉ log →
      log.isRecoverable = true ∧ Recovers X uuid t log true) ∧
  (RefundRecorded log ∨ .takerPaymentSpendConfirmed ∈ log →
    log.isRecoverable = false ∧ Recovers X uuid t log false)

section Agreement

variable {X : SwapEnv} {uuid : Uuid} {t : ℕ} {log : MakerSavedSwap}

theorem recoverGuards_isOk {s : MakerSwap} : (recoverGuards s).isOk = true ↔
    s.finishedAt ≠ 0 ∧ s.mutable.makerPaymentRefund.isSome = false ∧
      ¬ (s.mutable.takerPaymentSpend.isSome ∧ s.mutable.takerPaymentSpendConfirmed) := by
  unfold recoverGuards
  split
  · simp_all [Except.isOk, Except.toBool]
  split
  · simp_all [Except.isOk, Except.toBool]
  split
  · simp_all [Except.isOk, Except.toBool]
  · simp_all [Except.isOk, Except.toBool]

/-- A saved swap that begins with its data is loaded without asking anything. -/
theorem recovers_iff {data : MakerSwapData} {events : MakerSavedSwap} {ok : Bool} :
    Recovers X uuid t (.started data :: events) ok ↔
      (recoverGuards (replay X uuid t data events)).isOk = ok := Iff.rfl

theorem isFinished_iff : log.isFinished = true ↔ log.getLast? = some .finished := by
  simp [MakerSavedSwap.isFinished]

/-- A log that has come so far begins with the data of the swap. -/
theorem exists_started {d : MakerSwapEvent} (h : grammar.Log log) (hd : d ∈ log)
    (hstage : 1 ≤ stage d) : ∃ data events, log = .started data :: events := by
  cases log with
  | nil => cases hd
  | cons e events =>
    cases h.head with
    | started data => exact ⟨data, events, rfl⟩
    | startFailed err =>
      exact absurd trivial (not_failsEarly h hd hstage (List.mem_cons_self) (by simp))
    | failed h => cases h

/-- A log that follows the grammar and is finished is not recoverable only for what it records. -/
theorem isRecoverable_of_log (h : grammar.Log log) (hfin : log.isFinished = true)
    (hsent : ∃ tx, .makerPaymentSent tx ∈ log) (hrefund : ¬ RefundRecorded log)
    (hconfirmed : .takerPaymentSpendConfirmed ∉ log) : log.isRecoverable = true := by
  obtain ⟨tx, hsent⟩ := hsent
  have hsettles : log.any MakerSavedSwap.settles = false := by
    rw [List.any_eq_false]
    intro e he hsettles
    by_cases hearly : FailsEarly e
    · apply not_failsEarly h hsent le_rfl he _ hearly
      rintro rfl
      simp [MakerSavedSwap.settles] at hsettles
    · cases e with
      | makerPaymentRefunded tx => exact hrefund ⟨tx, he⟩
      | takerPaymentSpendConfirmed => exact hconfirmed he
      | _ => simp_all [MakerSavedSwap.settles, FailsEarly]
  simp [MakerSavedSwap.isRecoverable, hfin, hsettles]

/-- A refund without a transaction is the only one that the log records. -/
theorem refund_of_none (h : grammar.Log log) (hnone : .makerPaymentRefunded none ∈ log)
    (tx : TransactionIdentifier) :
    .makerPaymentRefunded (some tx) ∉ log ∧ .takerPaymentSpendConfirmed ∉ log := by
  constructor
  · intro he
    apply h.not_both (fun d e => @refundedBy_lasts d e none)
      (fun d e => @refundedBy_lasts d e (some tx)) hnone (.inl rfl) he (.inl rfl) <;>
      simp [RefundedBy]
  · intro he
    apply h.not_both (fun d e => @refundedBy_lasts d e none)
      (fun _ _ => confirmed_lasts) hnone (.inl rfl) he (.inl rfl) <;>
      simp [RefundedBy, Confirmed]

/-- The two agree on every log of a swap that is finished, but for a refund that is recorded
without its transaction. -/
theorem recoverabilityAgrees_iff (h : grammar.Log log) (hfin : log.isFinished = true) (ht : 0 < t) :
    RecoverabilityAgrees X uuid t log ↔ .makerPaymentRefunded none ∉ log := by
  by_cases hlate : ∃ d ∈ log, 1 ≤ stage d
  · obtain ⟨d, hd, hstage⟩ := hlate
    obtain ⟨data, events, rfl⟩ := exists_started h hd hstage
    have hfinished : .finished ∈ events :=
      mem_events (List.mem_of_getLast? (isFinished_iff.mp hfin)) (by simp)
    have htime : (replay X uuid t data events).finishedAt ≠ 0 := by
      rw [replay_finishedAt hfinished]
      omega
    have hconfirmed : (replay X uuid t data events).mutable.takerPaymentSpendConfirmed = true ↔
        .takerPaymentSpendConfirmed ∈ MakerSwapEvent.started data :: events := by
      rw [replay_confirmed_iff]
      simp
    unfold RecoverabilityAgrees
    simp only [recovers_iff]
    constructor
    · rintro ⟨-, hrefuse⟩ hnone
      have honly := refund_of_none h hnone
      have hrefused := (hrefuse (.inl ⟨none, hnone⟩)).2
      rw [← Bool.not_eq_true, recoverGuards_isOk] at hrefused
      apply hrefused
      refine ⟨htime, ?_, ?_⟩
      · rw [← Bool.not_eq_true]
        intro hsome
        obtain ⟨tx, he⟩ := exists_refund hsome
        exact (honly tx).1 (List.mem_cons_of_mem _ he)
      · rintro ⟨hspend, hc⟩
        obtain ⟨tx, -⟩ := Option.isSome_iff_exists.mp hspend
        exact (honly tx).2 (hconfirmed.mp hc)
    · intro hnone
      constructor
      · intro hsent hrefund hunconfirmed
        refine ⟨isRecoverable_of_log h hfin hsent hrefund hunconfirmed, ?_⟩
        rw [recoverGuards_isOk]
        refine ⟨htime, ?_, fun hspend => hunconfirmed (hconfirmed.mp hspend.2)⟩
        rw [← Bool.not_eq_true]
        intro hsome
        obtain ⟨tx, he⟩ := exists_refund hsome
        exact hrefund ⟨some tx, List.mem_cons_of_mem _ he⟩
      · intro hsettled
        have hsettles : (MakerSwapEvent.started data :: events).any MakerSavedSwap.settles = true := by
          rw [List.any_eq_true]
          obtain ⟨tx, he⟩ | he := hsettled
          all_goals exact ⟨_, he, rfl⟩
        refine ⟨by simp [MakerSavedSwap.isRecoverable, hsettles], ?_⟩
        rw [← Bool.not_eq_true, recoverGuards_isOk]
        rintro ⟨-, hrefund, hspend⟩
        obtain ⟨tx, he⟩ | hc := hsettled
        · have hsome : (replay X uuid t data events).mutable.makerPaymentRefund.isSome :=
            replay_refund ⟨tx, mem_events he (by simp)⟩ (fun hn => hnone (List.mem_cons_of_mem _ hn))
          rw [hrefund] at hsome
          cases hsome
        · apply hspend
          obtain ⟨e, he, tx, rfl⟩ := exists_milestone (k := 3) h hc le_rfl
          constructor
          · exact replay_has (k := 3) (mem_events he (by simp)) ⟨tx, rfl⟩
          · exact hconfirmed.mpr hc
  · push Not at hlate
    have hearly {e : MakerSwapEvent} (he : e ∈ log) (hstage : 1 ≤ stage e) : False :=
      absurd hstage (by simpa using hlate e he)
    constructor
    · exact fun _ hnone => hearly hnone le_rfl
    · intro _
      constructor
      · rintro ⟨tx, hsent⟩
        exact (hearly hsent le_rfl).elim
      · rintro (⟨tx, he⟩ | he)
        · exact (hearly he le_rfl).elim
        · exact (hearly he (by simp [stage])).elim

end Agreement

end MakerSwap

end DeXFG.LegacySwap
