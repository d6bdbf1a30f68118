import DeXFG.SwapV2.Transitions

/-!
# What stands in every state of a swap

A property of the states that every transition hands on, and that a restart
finds again in the records, holds of every state that a run enters.
-/
namespace DeXFG.SwapV2
open Library Library.Process Library.DurableMachine

variable {X : External} {Mach State Ev Repr : Type}

/-- The process is about to enter a state. -/
def Enters {C W S : Type} {A : C → Type} (x : Config C A W S) (s : S) : Prop :=
  ∃ s', x.status = .running s' (.done (.changeState s))

/-- The state that the process is about to enter. -/
def entering {C W S : Type} {A : C → Type} (x : Config C A W S) : Option S :=
  match x.status with
  | .running _ (.done (.changeState s)) => some s
  | _ => none

theorem enters_of_entering {C W S : Type} {A : C → Type} {x : Config C A W S} {s : S}
    (h : entering x = some s) : Enters x s := by
  obtain ⟨_, status⟩ := x
  match status, h with
  | .running s' (.done (.changeState _)), rfl => exact ⟨s', rfl⟩

/-- The answer of the event is in `R`. -/
def Answering {W S : Type} (R : (c : Call X Ev Repr) → c.Answer → Prop)
    (x : Config (Call X Ev Repr) Call.Answer W S) (e : Event (Call X Ev Repr) Call.Answer) : Prop :=
  match x.status, e with
  | .running _ (.call c _), .reply r => ∀ a, (r c).answer = some a → R c a
  | _, _ => True

/-- Nothing of the calls is kept. -/
def unseen (X : External) (Ev Repr : Type) : Observer X Ev Repr Unit where
  init := ()
  note _ _ := ()

/-- Properties of the machine, of its states, and of what is stored of them. -/
structure Standing (T : Transitions X Mach State Ev Repr) (M : SwapMachine X Mach State Ev Repr)
    (R : (c : Call X Ev Repr) → c.Answer → Prop) where
  mach : Mach → Prop
  state : Mach → State → Prop
  record : Ev → Prop
  repr : Repr → Prop
  next : ∀ {m stage s}, mach m → (∀ s, stage = .entered s → state m s) → T.next R m stage s →
    state m s
  paid : ∀ {m stage s}, mach m → (∀ s, stage = .entered s → state m s) → T.paid R m stage s →
    state m s
  recorded : ∀ {m s}, mach m → state m s → record (T.getEvent s)
  stored : ∀ {m}, mach m → repr (M.toDbRepr m)
  recreated : ∀ {r events m s}, repr r → (∀ e ∈ events.getLast?, record e) →
    M.recreateMachine r events = .ok (m, s) → mach m ∧ state m s

namespace Standing

variable {T : Transitions X Mach State Ev Repr} {M : SwapMachine X Mach State Ev Repr}
  {R : (c : Call X Ev Repr) → c.Answer → Prop} (J : Standing T M R)

abbrev StoredView (Ev Repr : Type) := View Ev Repr Unit

/-- What is stored has the properties. -/
structure Kept (v : StoredView Ev Repr) : Prop where
  repr : ∀ r ∈ v.repr, J.repr r
  last : ∀ e ∈ v.last, J.record e

/-- The machine works in a stage. -/
structure Here (p : Mach × Stage State) (v : StoredView Ev Repr) : Prop where
  kept : J.Kept v
  mach : J.mach p.1
  state : ∀ s, p.2 = .entered s → J.state p.1 s

def contract : Contract (Call X Ev Repr) Call.Answer (StoredView Ev Repr) where
  allowed _ c r := ∀ a, r.answer = some a → R c a
  pre _ _ := True
  stopped := J.Kept

variable {J} {p : Mach × Stage State} {v : StoredView Ev Repr} {m : Mach}

theorem Kept.react (h : J.Kept v) {c : Call X Ev Repr} (hrepr : ∀ r, c = .storeRepr r → J.repr r)
    (hevent : ∀ e, c = .storeEvent e → J.record e) (r : Reply c.Answer) :
    J.Kept (v.react (unseen X Ev Repr) c r) := by
  constructor
  · cases c with
    | storeRepr repr =>
      rw [View.react_storeRepr]
      split
      · simpa using hrepr repr rfl
      · exact h.repr
    | _ =>
      rw [View.react_repr _ _ (by nofun)]
      exact h.repr
  · cases c with
    | storeEvent event =>
      rw [View.react_storeEvent]
      split
      · simpa using hevent event rfl
      · exact h.last
    | _ =>
      rw [View.react_last _ _ (by nofun)]
      exact h.last

/-- A call that is no state change. -/
theorem Here.handles (h : J.Here p v) {c : Call X Ev Repr}
    (hrepr : ∀ r, c = .storeRepr r → J.repr r) (hevent : ∀ e, c ≠ .storeEvent e) :
    Handles (View.env (unseen X Ev Repr)) J.contract c (fun _ => J.Here p) v := by
  refine ⟨trivial, fun r _ => ?_⟩
  have hkept := h.kept.react hrepr (fun e he => absurd he (hevent e)) r
  exact ⟨fun _ => hkept, fun _ _ => ⟨fun _ => hkept, fun _ => ⟨hkept, h.mach, h.state⟩⟩⟩

/-- Another state is entered. -/
theorem Here.change {stage : Stage State} (h : J.Here (m, stage) v) {next : State}
    (hnext : J.state m next) :
    Handles (View.env (unseen X Ev Repr)) J.contract (.storeEvent (T.getEvent next))
      (fun _ => J.Here (m, .entered next)) v := by
  refine ⟨trivial, fun r _ => ?_⟩
  have hkept := h.kept.react (c := .storeEvent (T.getEvent next)) nofun
    (by rintro _ ⟨⟩; exact J.recorded h.mach hnext) r
  refine ⟨fun _ => hkept, fun _ _ => ⟨fun _ => hkept, fun _ => ⟨hkept, h.mach, ?_⟩⟩⟩
  rintro _ ⟨⟩
  exact hnext

def upkeep (J : Standing T M R) (hT : T.Sound M) :
    Upkeep T M R (View.env (unseen X Ev Repr)) J.contract where
  here := J.Here
  answers hr ha := hr _ ha
  plain {p _ c} h hc := by
    obtain hc | hc | hc | hc := hc
    · exact h.handles (by rintro _ rfl; cases hc) (by rintro _ rfl; cases hc)
    · exact h.handles nofun nofun
    · exact h.handles nofun nofun
    · exact h.handles (by rintro _ ⟨⟩; exact J.stored h.mach) nofun
  change h hnext := h.change (J.next h.mach h.state hnext)
  pay {m stage _ c} h hc := by
    have hpays := hT.pays hc
    obtain ⟨hpre, hreply⟩ := h.handles (c := c) (by rintro _ rfl; cases hpays)
      (by rintro _ rfl; cases hpays)
    refine ⟨hpre, fun r hr => ⟨(hreply r hr).1, fun a ha => ⟨((hreply r hr).2 a ha).1, ?_⟩⟩⟩
    intro hfailed next hnext
    apply Here.change (((hreply r hr).2 a ha).2 hfailed)
    unfold Transitions.AfterPayment at hnext
    split at hnext
    · exact J.paid h.mach h.state hnext
    · exact J.next h.mach h.state hnext
  finish h _ := by
    refine ⟨trivial, fun r _ => ?_⟩
    have hkept := h.kept.react (c := .markFinished) nofun nofun r
    exact ⟨fun _ => hkept, fun _ _ => ⟨fun _ => hkept, fun _ => hkept⟩⟩

theorem verified (hT : T.Sound M) :
    Verified M.machine (View.env (unseen X Ev Repr)) (unseen X Ev Repr).view J.contract J.Here
      (J.upkeep hT).Ending := by
  apply (J.upkeep hT).verified hT (unseen X Ev Repr).abstraction
  · exact fun _ _ h => ⟨h.repr, h.last⟩
  · intro w p hkept hp
    obtain ⟨repr, m, state, hrepr, hm, rfl⟩ := SwapMachine.exists_of_restore hp
    have hrecreated := J.recreated (hkept.repr repr hrepr) hkept.last hm
    refine ⟨hkept, hrecreated.1, ?_⟩
    rintro _ ⟨⟩
    exact hrecreated.2

theorem keeps_eq (J : Standing T M R) :
    Keeps (S := Mach × Stage State) J.contract (unseen X Ev Repr).view = Answering R := by
  funext x e
  obtain ⟨w, ⟨s, p | p | p⟩ | _⟩ := x
  all_goals cases e <;> rfl

/-- Every state that a run of a new swap enters has the property. -/
theorem enters (hT : T.Sound M) (hm : J.mach m) {now : ℕ}
    {es : List (Event (Call X Ev Repr) Call.Answer)}
    (hes : Runs.Meets (fun x e => some (M.machine.step x e)) (Answering R) (M.start m now) es)
    {m' : Mach} {state : State} (h : Enters (M.machine.run (M.start m now) es) (m', .entered state)) :
    J.mach m' ∧ J.state m' state := by
  have hstart : J.Here (m, .start) ((unseen X Ev Repr).view (World.fresh now)) :=
    ⟨⟨nofun, nofun⟩, hm, nofun⟩
  rw [← J.keeps_eq] at hes
  have hgood := (verified (J := J) hT).good_run (x := M.start m now)
    (Upkeep.wp_runFrom (U := J.upkeep hT) (p := (m, .start)) hstart) hes
  obtain ⟨s', hstatus⟩ := h
  rw [Good, hstatus] at hgood
  exact ⟨hgood.mach, hgood.state state rfl⟩

end Standing

end DeXFG.SwapV2
