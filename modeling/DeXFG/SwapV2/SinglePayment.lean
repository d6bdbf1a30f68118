import DeXFG.SwapV2.MakerTransitions
import DeXFG.SwapV2.TakerTransitions

/-!
# One payment for a swap

A side pays in one state, and the record of the next state says that it has. A
machine that is stopped between the two enters the paying state again and pays
again; with the record in the storage it never comes back to it.
-/
namespace DeXFG.SwapV2
open Library Library.Process Library.DurableMachine

variable {X : External} {Mach State Ev Repr : Type}

/-! ## Phases -/

/-- Where a swap stands with its own payment. -/
inductive Phase where
  | before
  | after
  | ended
  deriving DecidableEq, Repr

/-- The phases of the records of a side, and how its transitions go through them. -/
structure Phases (T : Transitions X Mach State Ev Repr) (M : SwapMachine X Mach State Ev Repr) where
  phase : Ev → Phase
  pays : ∀ {m stage c}, T.pays m stage c →
    ∃ s, stage = .entered s ∧ phase (T.getEvent s) = .before
  unpaid : ∀ {R m stage c s}, T.pays m stage c → T.next R m stage s →
    phase (T.getEvent s) = .ended
  paid : ∀ {R m stage s}, T.paid R m stage s → phase (T.getEvent s) = .after
  next_before : ∀ {R m s s'}, T.next R m (.entered s) s' → phase (T.getEvent s') = .before →
    phase (T.getEvent s) = .before
  next_after : ∀ {R m stage s'}, T.next R m stage s' → phase (T.getEvent s') = .after →
    ∃ s, stage = .entered s ∧ phase (T.getEvent s) = .after
  ends : ∀ {s}, T.ends s → phase (T.getEvent s) = .ended
  recreated : ∀ {repr events m s}, M.recreateMachine repr events = .ok (m, s) →
    ∃ event ∈ events.getLast?, phase (T.getEvent s) = phase event ∧ phase event ≠ .ended

namespace Phases

variable {T : Transitions X Mach State Ev Repr} {M : SwapMachine X Mach State Ev Repr}
  (P : Phases T M)

/-- The phase of a stage. A new swap has not paid. -/
def stagePhase : Stage State → Phase
  | .start => .before
  | .entered s => P.phase (T.getEvent s)

/-- No record says that the swap has paid or ended. -/
def Unpaid (last : Option Ev) : Prop := ∀ event ∈ last, P.phase event = .before

variable {P}

theorem stagePhase_of_next {R : (c : Call X Ev Repr) → c.Answer → Prop} {m : Mach}
    {stage : Stage State} {s : State} (h : T.next R m stage s)
    (hs : P.phase (T.getEvent s) = .before) : P.stagePhase stage = .before := by
  cases stage with
  | start => rfl
  | entered s' => exact P.next_before h hs

theorem stagePhase_of_pays {m : Mach} {stage : Stage State} {c : Call X Ev Repr}
    (h : T.pays m stage c) : P.stagePhase stage = .before := by
  obtain ⟨s, rfl, hs⟩ := P.pays h
  exact hs

/-- The paying state is left for good. -/
theorem phase_of_afterPayment {R : (c : Call X Ev Repr) → c.Answer → Prop} {m : Mach}
    {stage : Stage State} {c : Call X Ev Repr} {isSent : Bool} {s : State} (hc : T.pays m stage c)
    (h : T.AfterPayment R m stage isSent s) : P.phase (T.getEvent s) ≠ .before := by
  unfold Transitions.AfterPayment at h
  split at h
  · simp [P.paid h]
  · simp [P.unpaid hc h]

end Phases

/-! ## Counting payments -/

/-- The own payment was broadcast, whatever the answer. -/
def Call.broadcast : (c : Call X Ev Repr) → Reply c.Answer → Bool
  | .sendMakerPaymentV2 _, r => r.took
  | .sendTakerFunding _, r => r.took
  | _, _ => false

theorem Call.isPayment_of_broadcast {c : Call X Ev Repr} {r : Reply c.Answer}
    (h : c.broadcast r = true) : c.isPayment = true := by
  cases c <;> first | rfl | cases h

/-- The own payments of a swap that were broadcast. -/
def World.payments (w : World X Ev Repr) : ℕ :=
  w.log.countP fun entry => entry.call.broadcast entry.reply

def counting (X : External) (Ev Repr : Type) : Observer X Ev Repr ℕ where
  init := 0
  note entry n := if entry.call.broadcast entry.reply then n + 1 else n

theorem counting_view (w : World X Ev Repr) : ((counting X Ev Repr).view w).data = w.payments := by
  unfold World.payments
  change w.log.foldr (counting X Ev Repr).note 0 = _
  induction w.log with
  | nil => rfl
  | cons entry log ih =>
    rw [List.foldr_cons, List.countP_cons, ih]
    change (if _ then _ else _) = _
    split <;> simp

namespace Phases

variable {T : Transitions X Mach State Ev Repr} {M : SwapMachine X Mach State Ev Repr}
  (P : Phases T M)

abbrev CountedView (Ev Repr : Type) := View Ev Repr ℕ

/-- A payment that was broadcast is answered, and then gets on record. -/
def Recorded (v : CountedView Ev Repr) : (c : Call X Ev Repr) → Reply c.Answer → Prop
  | .storeEvent _, r => 0 < v.data → P.Unpaid v.last → r.took = true
  | c, r => c.broadcast r = true → r.answer.isSome = true

/-- The reply of the event lets no payment get lost. -/
def RecordsPayments {S : Type}
    (x : Config (Call X Ev Repr) Call.Answer (World X Ev Repr) S)
    (e : Event (Call X Ev Repr) Call.Answer) : Prop :=
  match x.status, e with
  | .running _ (.call c _), .reply r => P.Recorded ((counting X Ev Repr).view x.world) c (r c)
  | _, _ => True

/-- Not more than one payment, and none while no record says so. -/
structure Kept (v : CountedView Ev Repr) : Prop where
  once : v.data ≤ 1
  unpaid : P.Unpaid v.last → v.data = 0

/-- The machine works in a stage. -/
structure Here (p : Mach × Stage State) (v : CountedView Ev Repr) : Prop where
  kept : P.Kept v
  phase : P.Unpaid v.last ↔ P.stagePhase p.2 = .before

def contract : Contract (Call X Ev Repr) Call.Answer (CountedView Ev Repr) where
  allowed := P.Recorded
  pre v c := c.isPayment = true → v.data = 0
  stopped := P.Kept

variable {P} {m : Mach} {p : Mach × Stage State} {v : CountedView Ev Repr}

/-- A call that neither stores an event nor pays changes nothing here. -/
theorem Here.handles (h : P.Here p v) {c : Call X Ev Repr} (hevent : ∀ e, c ≠ .storeEvent e)
    (hc : c.isPayment = false) :
    Handles (View.env (counting X Ev Repr)) P.contract c (fun _ => P.Here p) v := by
  refine ⟨fun h => absurd h (by simp [hc]), fun r _ => ?_⟩
  have hlast := View.react_last (counting X Ev Repr) v hevent r
  have hdata : (v.react (counting X Ev Repr) c r).data = v.data := by
    have hnot : c.broadcast r ≠ true := fun h => by
      rw [Call.isPayment_of_broadcast h] at hc
      cases hc
    rw [View.react_data]
    exact if_neg hnot
  have hhere : P.Here p (v.react (counting X Ev Repr) c r) := by
    refine ⟨⟨?_, ?_⟩, ?_⟩
    · rw [hdata]
      exact h.kept.once
    · rw [hdata, hlast]
      exact h.kept.unpaid
    · rw [hlast]
      exact h.phase
  exact ⟨fun _ => hhere.kept, fun _ _ => ⟨fun _ => hhere.kept, fun _ => hhere⟩⟩

/-- A record is stored: of a state that has not paid only where nothing was paid. -/
theorem handles_store {next : State} (hle : v.data ≤ 1)
    (hnext : P.phase (T.getEvent next) = .before → v.data = 0) :
    Handles (View.env (counting X Ev Repr)) P.contract (.storeEvent (T.getEvent next))
      (fun _ => P.Here (m, .entered next)) v := by
  refine ⟨nofun, fun r hr => ?_⟩
  have hlast := View.react_storeEvent (counting X Ev Repr) v (T.getEvent next) r
  have hdata : (v.react (counting X Ev Repr) (.storeEvent (T.getEvent next)) r).data = v.data :=
    View.react_data _ _ _ _
  have hkept : P.Kept (v.react (counting X Ev Repr) (.storeEvent (T.getEvent next)) r) := by
    constructor
    · rw [hdata]
      exact hle
    · rw [hdata, hlast]
      intro hunpaid
      by_cases htook : r.took = true
      · rw [if_pos htook] at hunpaid
        exact hnext (hunpaid _ rfl)
      · rw [if_neg htook] at hunpaid
        by_contra hpaid
        exact htook (hr (Nat.pos_of_ne_zero hpaid) hunpaid)
  refine ⟨fun _ => hkept, ?_⟩
  rintro (e | _) ha
  · exact ⟨fun _ => hkept, nofun⟩
  · refine ⟨fun _ => hkept, fun _ => ⟨hkept, ?_⟩⟩
    change P.Unpaid (v.react (counting X Ev Repr) (.storeEvent (T.getEvent next)) r).last ↔
      P.phase (T.getEvent next) = .before
    rw [hlast, if_pos (Reply.took_of_ok ha)]
    simp [Unpaid]

def upkeep (P : Phases T M) (hT : T.Sound M) :
    Upkeep T M (fun _ _ => True) (View.env (counting X Ev Repr)) P.contract where
  here := P.Here
  answers _ _ := trivial
  plain {_ _ c} h hc := by
    obtain hc | hc | hc | hc := hc
    · exact h.handles (by rintro _ rfl; cases hc) (by cases c <;> first | rfl | cases hc)
    · exact h.handles nofun rfl
    · exact h.handles nofun rfl
    · exact h.handles nofun rfl
  change h hnext := by
    apply handles_store h.kept.once
    exact fun hbefore => h.kept.unpaid (h.phase.mpr (stagePhase_of_next hnext hbefore))
  pay {m stage v c} h hc := by
    have hunpaid := h.kept.unpaid (h.phase.mpr (stagePhase_of_pays hc))
    have hpayment := hT.pays hc
    refine ⟨fun _ => hunpaid, fun r hr => ?_⟩
    have hlast := View.react_last (counting X Ev Repr) v (c := c)
      (by rintro _ rfl; cases hpayment) r
    have hdata : (v.react (counting X Ev Repr) c r).data = if c.broadcast r then 1 else 0 := by
      rw [View.react_data]
      change (if _ then v.data + 1 else v.data) = _
      rw [hunpaid]
    have hle : (v.react (counting X Ev Repr) c r).data ≤ 1 := by
      rw [hdata]
      split <;> decide
    constructor
    · intro hnone
      have hnot : c.broadcast r = false := by
        rw [← Bool.not_eq_true]
        intro hsent
        have hanswered : c.broadcast r = true → r.answer.isSome = true := by
          revert hr
          cases c <;> first | exact id | cases hpayment
        have := hanswered hsent
        simp [hnone] at this
      refine ⟨hle, fun _ => ?_⟩
      change (v.react (counting X Ev Repr) c r).data = 0
      rw [hdata, hnot]
      rfl
    · intro a _
      constructor
      · intro hfailed
        rw [Call.not_failed_of_isPayment hpayment a] at hfailed
        cases hfailed
      · intro _ next hnext
        exact handles_store hle fun hbefore => absurd hbefore (phase_of_afterPayment hc hnext)
  finish h _ := by
    obtain ⟨hpre, hreply⟩ := h.handles (c := .markFinished) nofun rfl
    refine ⟨hpre, fun r hr => ⟨(hreply r hr).1, fun a ha => ⟨((hreply r hr).2 a ha).1, ?_⟩⟩⟩
    exact fun hok => (((hreply r hr).2 a ha).2 hok).kept

theorem verified (hT : T.Sound M) :
    Verified M.machine (View.env (counting X Ev Repr)) (counting X Ev Repr).view P.contract P.Here
      (P.upkeep hT).Ending := by
  apply (P.upkeep hT).verified hT (counting X Ev Repr).abstraction
  · exact fun _ _ h => ⟨h.once, h.unpaid⟩
  · intro w p hkept hp
    obtain ⟨repr, m, state, _, hm, rfl⟩ := SwapMachine.exists_of_restore hp
    obtain ⟨event, hevent, hphase, _⟩ := P.recreated hm
    refine ⟨hkept, ?_⟩
    change P.Unpaid w.events.getLast? ↔ P.phase (T.getEvent state) = .before
    rw [hphase, hevent]
    simp [Unpaid]

theorem keeps_eq (P : Phases T M) :
    Keeps (S := Mach × Stage State) P.contract (counting X Ev Repr).view = P.RecordsPayments := by
  funext x e
  obtain ⟨w, ⟨s, p | p | p⟩ | _⟩ := x
  all_goals cases e <;> rfl

/-- A side that loses no payment pays once. -/
theorem payments_le_one (hT : T.Sound M) {now : ℕ} {es : List (Event (Call X Ev Repr) Call.Answer)}
    (hes : Runs.Meets (fun x e => some (M.machine.step x e)) P.RecordsPayments (M.start m now) es) :
    (M.machine.run (M.start m now) es).world.payments ≤ 1 := by
  have hstart : P.Here (m, .start) ((counting X Ev Repr).view (World.fresh now)) :=
    ⟨⟨Nat.zero_le _, fun _ => rfl⟩, by simp [stagePhase, Unpaid, World.fresh, Observer.view]⟩
  rw [← P.keeps_eq] at hes
  rw [← counting_view]
  apply (verified (P := P) hT).world_of_run (I := fun v => v.data ≤ 1) _ (fun _ _ h => h)
    (x := M.start m now) (Nat.zero_le _)
    (Upkeep.wp_runFrom (U := P.upkeep hT) (p := (m, .start)) hstart) hes
  intro v c r hle hpre _
  change (v.react (counting X Ev Repr) c r).data ≤ 1
  rw [View.react_data]
  change (if _ then v.data + 1 else v.data) ≤ 1
  split
  · rename_i hsent
    rw [hpre (Call.isPayment_of_broadcast hsent)]
  · exact hle

end Phases

/-! ## Both sides -/

namespace MakerSwap

def MakerStateKind.phase : MakerStateKind → Phase
  | .initialized => .before
  | .waitingForTakerFunding => .before
  | .takerFundingReceived => .before
  | .makerPaymentSentFundingSpendGenerated => .after
  | .makerPaymentRefundRequired => .after
  | .makerPaymentRefunded => .ended
  | .takerPaymentReceived => .after
  | .takerPaymentReceivedAndPreimageValidationSkipped => .after
  | .takerPaymentSpent => .after
  | .aborted => .ended
  | .completed => .ended

theorem phase_received (self : MakerPaymentSentFundingSpendGenerated X)
    (takerPayment : X.takerCoin.Tx) : (self.received takerPayment).kind.phase = .after := by
  unfold MakerPaymentSentFundingSpendGenerated.received
  split <;> rfl

def phases (X : External) : Phases (transitions X) (makerSwap X) where
  phase event := event.kind.phase
  pays {m stage c} h := by
    change Pays m stage c at h
    unfold Pays at h
    split at h
    · exact ⟨_, rfl, rfl⟩
    · cases h
  unpaid {_ m stage c s} hc h := by
    change Pays m stage c at hc
    unfold Pays at hc
    split at hc
    · cases h
      rfl
    · cases hc
  paid := by
    rintro R m _ _ ⟨⟩
    rfl
  next_before h hs := by
    cases h with
    | received self takerPayment => exact absurd ((phase_received self takerPayment).symm.trans hs) nofun
    | waitingForTakerFunding => rfl
    | takerFundingReceived => rfl
    | _ => cases hs
  next_after h hs := by
    cases h with
    | initialized => cases hs
    | waitingForTakerFunding => cases hs
    | takerFundingReceived => cases hs
    | refunded => cases hs
    | completed => cases hs
    | aborted => cases hs
    | _ => exact ⟨_, rfl, rfl⟩
  ends {s} h := by
    change s.kind.isTerminal = true at h
    cases s <;> first | rfl | cases h
  recreated h := by
    obtain ⟨-, event, hevent, hstate⟩ := exists_of_recreateMachine h
    refine ⟨event, hevent, congrArg MakerStateKind.phase (kind_of_recreateState hstate).1, ?_⟩
    intro hended
    cases event <;> first | (cases hended; done) | cases hstate

end MakerSwap

namespace TakerSwap

def TakerStateKind.phase : TakerStateKind → Phase
  | .initialized => .before
  | .negotiated => .before
  | .takerFundingSent => .after
  | .takerFundingRefundRequired => .after
  | .makerPaymentAndFundingSpendPreimgReceived => .after
  | .takerPaymentSent => .after
  | .takerPaymentSentAndPreimageSendingSkipped => .after
  | .takerPaymentRefundRequired => .after
  | .makerPaymentConfirmed => .after
  | .takerPaymentSpent => .after
  | .makerPaymentSpent => .after
  | .takerFundingRefunded => .ended
  | .takerPaymentRefunded => .ended
  | .aborted => .ended
  | .completed => .ended

theorem phase_paymentSent (makerCoinStartBlock takerCoinStartBlock : ℕ)
    (makerPayment : X.makerCoin.Tx) (d : NegotiationData X) (takerPayment : X.takerCoin.Tx) :
    (paymentSent makerCoinStartBlock takerCoinStartBlock makerPayment d takerPayment).kind.phase =
      .after := by
  unfold paymentSent
  split <;> rfl

def phases (X : External) : Phases (transitions X) (takerSwap X) where
  phase event := event.kind.phase
  pays {m stage c} h := by
    change Pays m stage c at h
    unfold Pays at h
    split at h
    · exact ⟨_, rfl, rfl⟩
    · cases h
  unpaid {_ m stage c s} hc h := by
    change Pays m stage c at hc
    unfold Pays at hc
    split at hc
    · cases h
      rfl
    · cases hc
  paid := by
    rintro R m _ _ ⟨⟩
    rfl
  next_before h hs := by
    cases h with
    | paymentSentAtOnce => exact absurd ((phase_paymentSent _ _ _ _ _).symm.trans hs) nofun
    | paymentSent => exact absurd ((phase_paymentSent _ _ _ _ _).symm.trans hs) nofun
    | negotiated => rfl
    | _ => cases hs
  next_after h hs := by
    cases h with
    | initialized => cases hs
    | negotiated => cases hs
    | fundingRefunded => cases hs
    | paymentRefunded => cases hs
    | completed => cases hs
    | aborted => cases hs
    | _ => exact ⟨_, rfl, rfl⟩
  ends {s} h := by
    change s.kind.isTerminal = true at h
    cases s <;> first | rfl | cases h
  recreated h := by
    obtain ⟨-, event, hevent, hstate⟩ := exists_of_recreateMachine h
    refine ⟨event, hevent, congrArg TakerStateKind.phase (kind_of_recreateState hstate).1, ?_⟩
    intro hended
    cases event <;> first | (cases hended; done) | cases hstate

end TakerSwap

/-- In every run, with any messages, errors, crashes and restarts, in which a broadcast payment is
answered and the next record reaches the storage, either side broadcasts one payment at most. -/
theorem single_payment (X : External) :
    (∀ m now es, Runs.Meets (fun x e => some ((MakerSwap.makerSwap X).machine.step x e))
        (MakerSwap.phases X).RecordsPayments ((MakerSwap.makerSwap X).start m now) es →
      ((MakerSwap.makerSwap X).machine.run
        ((MakerSwap.makerSwap X).start m now) es).world.payments ≤ 1) ∧
    ∀ m now es, Runs.Meets (fun x e => some ((TakerSwap.takerSwap X).machine.step x e))
        (TakerSwap.phases X).RecordsPayments ((TakerSwap.takerSwap X).start m now) es →
      ((TakerSwap.takerSwap X).machine.run
        ((TakerSwap.takerSwap X).start m now) es).world.payments ≤ 1 := by
  constructor
  · intro m now es hes
    exact Phases.payments_le_one (MakerSwap.sound X) hes
  · intro m now es hes
    exact Phases.payments_le_one (TakerSwap.sound X) hes

theorem recorded_smooth {T : Transitions .raw Mach State Ev Repr}
    {M : SwapMachine .raw Mach State Ev Repr} (P : Phases T M) {startedAt lockDuration : ℕ}
    {recorded : Bool} {n : ℕ}
    (x : Config (Call .raw Ev Repr) Call.Answer (World .raw Ev Repr) (Mach × Stage State)) :
    Runs.Meets (fun x e => some (M.machine.step x e)) P.RecordsPayments x
      (List.replicate n (.reply (smooth startedAt lockDuration recorded))) := by
  apply Runs.meets_of_all
  intro x e he
  obtain rfl := List.eq_of_mem_replicate he
  unfold Phases.RecordsPayments
  split
  · rename_i c _ _ _ hr
    obtain rfl := Event.reply.inj hr
    cases c with
    | storeEvent event => exact fun _ _ => rfl
    | pollSwapV2Msg field waitUntil => cases field <;> exact nofun
    | _ => exact fun _ => rfl
  · trivial

/-- Both sides without trouble, past their payment. -/
theorem single_payment_smooth :
    (MakerSwap.sampleRun 1700000000
      (MakerSwap.smoothEvents 1700000000 false 45)).world.payments ≤ 1 ∧
    (TakerSwap.sampleRun true (TakerSwap.smoothEvents false 48)).world.payments ≤ 1 := by
  obtain ⟨hmaker, htaker⟩ := single_payment .raw
  exact ⟨hmaker _ _ _ (recorded_smooth _ _), htaker _ _ _ (recorded_smooth _ _)⟩

/-- The request took effect, and the process is stopped before it is answered. -/
def stoppedAfter (c : Call X Ev Repr) : Reply c.Answer where
  delay := 0
  reached := true
  answer := none

/-- The process is stopped when its payment is broadcast, and started again: it pays again. -/
theorem pays_twice :
    (MakerSwap.sampleRun 1700000000 (MakerSwap.smoothEvents 1700000000 false 25 ++
      [.reply stoppedAfter, .kickstart 10] ++
      MakerSwap.smoothEvents 1700000000 true 10)).world.payments = 2 ∧
    (TakerSwap.sampleRun true (TakerSwap.smoothEvents false 18 ++
      [.reply stoppedAfter, .kickstart 10] ++
      TakerSwap.smoothEvents true 10)).world.payments = 2 := by
  constructor <;> decide +kernel

end DeXFG.SwapV2
