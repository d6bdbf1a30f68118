import DeXFG.Library.Process
import DeXFG.Library.Runs

/-!
# State machines that survive a restart

Each state of the machine has a process, which ends by changing to another
state, by finishing or with an error. When the process is stopped in a call, or
ends with an error, the machine is down until it is started again from what the
world remembers of it. A machine is verified against a contract on an
abstraction of the world, state by state, and keeps the contract in every run.
-/
namespace DeXFG.Library.DurableMachine
open Process

variable {C : Type} {A : C → Type} {W V S : Type*}

inductive StateResult (S : Type*) where
  | changeState (next : S)
  | finish
  | error

structure Machine (C : Type) (A : C → Type) (W S : Type*) where
  env : Env C A W
  onChanged : S → Proc C A (StateResult S)
  onFinished : S → Proc C A Unit
  /-- The state that the world remembers. -/
  restore : W → Option S
  /-- What a restarted machine does before it enters the state. -/
  resume : S → Proc C A (StateResult S)

/-- A running machine knows the state whose process it runs. -/
inductive Status (C : Type) (A : C → Type) (S : Type*) where
  | running (s : S) (p : Proc C A (StateResult S))
  | down

structure Config (C : Type) (A : C → Type) (W S : Type*) where
  world : W
  status : Status C A S

/-- The environment's reply to whichever call is pending, or a restart after some time. -/
inductive Event (C : Type) (A : C → Type) where
  | reply (r : (c : C) → Reply (A c))
  | kickstart (delay : ℕ)

def Config.pending (x : Config C A W S) : Option C :=
  match x.status with
  | .running _ (.call c _) => some c
  | _ => none

namespace Machine

/-- One step. Only a pending call waits for the environment; a machine that runs is not started
a second time. -/
def step (m : Machine C A W S) (x : Config C A W S) (e : Event C A) : Config C A W S :=
  match x.status, e with
  | .running _ (.done (.changeState s)), _ => { x with status := .running s (m.onChanged s) }
  | .running s (.done .finish), _ =>
    { x with status := .running s ((m.onFinished s).bind fun _ => .done .error) }
  | .running _ (.done .error), _ => { x with status := .down }
  | .running s (.now k), _ => { x with status := .running s (k (m.env.clock x.world)) }
  | .running s (.call c k), .reply r =>
    { world := m.env.react x.world c (r c)
      status :=
        match (r c).answer with
        | some a => .running s (k a)
        | none => .down }
  | .running _ (.call _ _), .kickstart _ => x
  | .down, .kickstart delay =>
    { world := m.env.elapse x.world delay
      status :=
        match m.restore (m.env.elapse x.world delay) with
        | some s => .running s (m.resume s)
        | none => .down }
  | .down, .reply _ => x

/-- The run over a list of events. -/
def run (m : Machine C A W S) (x : Config C A W S) (es : List (Event C A)) : Config C A W S :=
  es.foldl m.step x

end Machine

/-- `abs` forgets what the abstract world does not keep. -/
structure Abstraction (E : Env C A W) (E' : Env C A V) (abs : W → V) : Prop where
  clock : ∀ w, E'.clock (abs w) = E.clock w
  elapse : ∀ w d, abs (E.elapse w d) = E'.elapse (abs w) d
  react : ∀ w c r, abs (E.react w c r) = E'.react (abs w) c r

/-- The reply of this event is one that the contract allows. -/
def Keeps (K : Contract C A V) (abs : W → V) (x : Config C A W S) (e : Event C A) : Prop :=
  match x.status, e with
  | .running _ (.call c _), .reply r => K.allowed (abs x.world) c (r c)
  | _, _ => True

instance decidableKeeps {K : Contract C A V} [∀ v c r, Decidable (K.allowed v c r)]
    {abs : W → V} : ∀ (x : Config C A W S) e, Decidable (Keeps K abs x e)
  | ⟨w, .running _ (.call c _)⟩, .reply r => inferInstanceAs (Decidable (K.allowed (abs w) c (r c)))
  | ⟨_, .running _ (.call _ _)⟩, .kickstart _ => isTrue trivial
  | ⟨_, .running _ (.now _)⟩, _ => isTrue trivial
  | ⟨_, .running _ (.done _)⟩, _ => isTrue trivial
  | ⟨_, .down⟩, _ => isTrue trivial

/-- What holds when the process of a state ends: `here` of the next state, `done` of the state it
finishes in, and of the world what holds when the machine is stopped. -/
def Post (K : Contract C A V) (here done : S → V → Prop) (s : S) : StateResult S → V → Prop
  | .changeState s', v => here s' v
  | .finish, v => done s v
  | .error, v => K.stopped v

/-- Every process of the machine keeps the contract. -/
structure Verified (m : Machine C A W S) (E' : Env C A V) (abs : W → V) (K : Contract C A V)
    (here done : S → V → Prop) : Prop where
  abstraction : Abstraction m.env E' abs
  onChanged : ∀ s v, here s v → (m.onChanged s).wp E' K (Post K here done s) v
  onFinished : ∀ s v, done s v → (m.onFinished s).wp E' K (fun _ => K.stopped) v
  elapse : ∀ v d, K.stopped v → K.stopped (E'.elapse v d)
  resume : ∀ w s, K.stopped (abs w) → m.restore w = some s →
    (m.resume s).wp E' K (Post K here done s) (abs w)

/-- As `Verified`, where a restart may find another world than the stop has left. -/
structure VerifiedRestart (m : Machine C A W S) (E' : Env C A V) (abs : W → V) (K : Contract C A V)
    (here done : S → V → Prop) : Prop where
  abstraction : Abstraction m.env E' abs
  onChanged : ∀ s v, here s v → (m.onChanged s).wp E' K (Post K here done s) v
  onFinished : ∀ s v, done s v → (m.onFinished s).wp E' K (fun _ => K.stopped) v
  down : ∀ w d, K.stopped (abs w) → m.restore (m.env.elapse w d) = none →
    K.stopped (abs (m.env.elapse w d))
  resume : ∀ w d s, K.stopped (abs w) → m.restore (m.env.elapse w d) = some s →
    (m.resume s).wp E' K (Post K here done s) (abs (m.env.elapse w d))

variable {m : Machine C A W S} {E' : Env C A V} {abs : W → V} {K : Contract C A V}
  {here done : S → V → Prop} {x : Config C A W S}

/-- The rest of the running process keeps the contract. -/
def Good (E' : Env C A V) (abs : W → V) (K : Contract C A V) (here done : S → V → Prop)
    (x : Config C A W S) : Prop :=
  match x.status with
  | .running s p => p.wp E' K (Post K here done s) (abs x.world)
  | .down => K.stopped (abs x.world)

theorem Good.pre {c : C} (h : Good E' abs K here done x) (hc : x.pending = some c) :
    K.pre (abs x.world) c := by
  obtain ⟨w, status⟩ := x
  match status, h, hc with
  | .running _ (.call _ _), h, rfl => exact h.1

theorem VerifiedRestart.good_step (hm : VerifiedRestart m E' abs K here done) {e : Event C A}
    (h : Good E' abs K here done x) (he : Keeps K abs x e) :
    Good E' abs K here done (m.step x e) := by
  obtain ⟨w, status⟩ := x
  match status, e, h, he with
  | .running _ (.done (.changeState s)), _, h, _ => exact hm.onChanged s _ h
  | .running s (.done .finish), _, h, _ =>
    exact (wp_bind _ _).mpr (hm.onFinished s _ h)
  | .running _ (.done .error), _, h, _ => exact h
  | .running s (.now k), _, h, _ =>
    show (k (m.env.clock w)).wp E' K _ (abs w)
    rw [← hm.abstraction.clock]
    exact h
  | .running s (.call c k), .reply r, h, he =>
    have hreply := ((wp_call c k).mp h).2 (r c) he
    rw [← hm.abstraction.react] at hreply
    cases hans : (r c).answer with
    | none =>
      simp only [Machine.step, hans]
      exact hreply.1 hans
    | some a =>
      simp only [Machine.step, hans]
      exact hreply.2 a hans
  | .running _ (.call _ _), .kickstart _, h, _ => exact h
  | .down, .kickstart d, h, _ =>
    cases hs : m.restore (m.env.elapse w d) with
    | none =>
      simp only [Machine.step, hs]
      exact hm.down w d h hs
    | some s =>
      simp only [Machine.step, hs]
      exact hm.resume w d s h hs
  | .down, .reply _, h, _ => exact h

theorem Verified.verifiedRestart (hm : Verified m E' abs K here done) :
    VerifiedRestart m E' abs K here done := by
  have hstopped (w : W) (d : ℕ) (h : K.stopped (abs w)) : K.stopped (abs (m.env.elapse w d)) := by
    rw [hm.abstraction.elapse]
    exact hm.elapse _ _ h
  exact
    { abstraction := hm.abstraction
      onChanged := hm.onChanged
      onFinished := hm.onFinished
      down := fun w d h _ => hstopped w d h
      resume := fun w d s h hs => hm.resume _ s (hstopped w d h) hs }

theorem Verified.good_step (hm : Verified m E' abs K here done) {e : Event C A}
    (h : Good E' abs K here done x) (he : Keeps K abs x e) :
    Good E' abs K here done (m.step x e) :=
  hm.verifiedRestart.good_step h he

/-- A verified machine keeps the contract in every run whose replies the contract allows. -/
theorem VerifiedRestart.good_run (hm : VerifiedRestart m E' abs K here done)
    {es : List (Event C A)} (h : Good E' abs K here done x)
    (hes : Runs.Meets (fun x e => some (m.step x e)) (Keeps K abs) x es) :
    Good E' abs K here done (m.run x es) :=
  Runs.invariant_run (fun _ _ _ hx he hstep => Option.some.inj hstep ▸ hm.good_step hx he) h hes
    (Runs.run_some x es)

theorem Verified.good_run (hm : Verified m E' abs K here done) {es : List (Event C A)}
    (h : Good E' abs K here done x)
    (hes : Runs.Meets (fun x e => some (m.step x e)) (Keeps K abs) x es) :
    Good E' abs K here done (m.run x es) :=
  hm.verifiedRestart.good_run h hes

/-- Every call of a run is made where the contract wants it. -/
theorem Verified.pre_of_run (hm : Verified m E' abs K here done) {es : List (Event C A)}
    (h : Good E' abs K here done x)
    (hes : Runs.Meets (fun x e => some (m.step x e)) (Keeps K abs) x es) {c : C}
    (hc : (m.run x es).pending = some c) : K.pre (abs (m.run x es).world) c :=
  (hm.good_run h hes).pre hc

/-- What every promised call with an allowed reply preserves holds of the world in every run. -/
theorem Verified.world_of_run (hm : Verified m E' abs K here done) {I : V → Prop}
    (hreact : ∀ v c r, I v → K.pre v c → K.allowed v c r → I (E'.react v c r))
    (helapse : ∀ v d, I v → I (E'.elapse v d)) {es : List (Event C A)} (hI : I (abs x.world))
    (h : Good E' abs K here done x)
    (hes : Runs.Meets (fun x e => some (m.step x e)) (Keeps K abs) x es) :
    I (abs (m.run x es).world) := by
  have hstep (y : Config C A W S) (e : Event C A) (hy : Good E' abs K here done y)
      (hIy : I (abs y.world)) (he : Keeps K abs y e) : I (abs (m.step y e).world) := by
    obtain ⟨w, status⟩ := y
    match status, e, hy, he with
    | .running _ (.done (.changeState _)), _, _, _ => exact hIy
    | .running _ (.done .finish), _, _, _ => exact hIy
    | .running _ (.done .error), _, _, _ => exact hIy
    | .running _ (.now _), _, _, _ => exact hIy
    | .running _ (.call c _), .reply r, hy, he =>
      have hnext := hreact _ c (r c) hIy hy.1 he
      rw [← hm.abstraction.react] at hnext
      exact hnext
    | .running _ (.call _ _), .kickstart _, _, _ => exact hIy
    | .down, .kickstart d, _, _ =>
      have hnext := helapse _ d hIy
      rw [← hm.abstraction.elapse] at hnext
      exact hnext
    | .down, .reply _, _, _ => exact hIy
  have hboth : Good E' abs K here done (m.run x es) ∧ I (abs (m.run x es).world) := by
    apply Runs.invariant_run (I := fun y => Good E' abs K here done y ∧ I (abs y.world))
      (G := Keeps K abs) ?_ ⟨h, hI⟩ hes (Runs.run_some x es)
    rintro y e _ ⟨hy, hIy⟩ he ⟨⟩
    exact ⟨hm.good_step hy he, hstep y e hy hIy he⟩
  exact hboth.2

end DeXFG.Library.DurableMachine
