import DeXFG.Library.DurableMachine
import DeXFG.Library.Outcomes

/-!
# Machines that live from a log of events

A command of the machine ends with a list of events, which are applied to the
state in memory and saved one by one; then comes the next command. When the
process is stopped, the log is all that is left, and the machine goes on with
what it loads from the log. An invariant of the log and of what is under way is
verified command by command and event by event, and holds in every run.
-/
namespace DeXFG.Library.EventSourced
open Process DurableMachine

variable {C : Type} {A : C → Type} {σ ε κ α : Type}

section Replay

variable {S E : Type*} {f : S → E → S} {P : S → Prop} {q : E → Prop} {log : List E} {s : S} {e : E}

/-- What an event brings about and no event undoes holds after a log with the event. -/
theorem foldl_of_mem (hset : ∀ s, P (f s e)) (hkeep : ∀ s, ∀ d ∈ log, P s → P (f s d))
    (he : e ∈ log) : P (log.foldl f s) := by
  induction log using List.reverseRecOn with
  | nil => cases he
  | append_singleton log d ih =>
    rw [List.foldl_append, List.foldl_cons, List.foldl_nil]
    rw [List.mem_append, List.mem_singleton] at he
    obtain he | rfl := he
    · apply hkeep _ _ (by simp)
      exact ih (fun s d hd => hkeep s d (List.mem_append_left _ hd)) he
    · exact hset _

/-- What holds after a log held before it or comes from one of its events. -/
theorem foldl_origin (hstep : ∀ s e, P (f s e) → P s ∨ q e) (h : P (log.foldl f s)) :
    P s ∨ ∃ e ∈ log, q e := by
  induction log generalizing s with
  | nil => exact .inl h
  | cons d log ih =>
    cases ih h with
    | inl hd =>
      apply (hstep s d hd).imp_right
      exact fun hq => ⟨d, by simp, hq⟩
    | inr hlater =>
      obtain ⟨e, he, hq⟩ := hlater
      exact .inr ⟨e, List.mem_cons_of_mem _ he, hq⟩

end Replay

/-- The calls of a command, and the two ways to write the log. -/
inductive StoreCall (C ε : Type) where
  | ext (c : C)
  | save (e : ε)
  | overwrite (log : List ε)

@[reducible] def StoreCall.Answer (A : C → Type) : StoreCall C ε → Type
  | .ext c => A c
  | .save _ => Except String Unit
  | .overwrite _ => Except String Unit

/-- A process that leaves the log alone. -/
def external : Proc C A α → Proc (StoreCall C ε) (StoreCall.Answer A) α
  | .done a => .done a
  | .now k => .now fun t => external (k t)
  | .call c k => .call (.ext c) fun a => external (k a)

structure System (C : Type) (A : C → Type) (σ ε κ : Type) where
  /-- The state after an event that is applied at a time. -/
  apply : ℕ → σ → ε → σ
  /-- The state, the next command and the events of a command; an error where it panics. -/
  handle : κ → σ → Proc C A (Except String (σ × Option κ × List ε))
  load : List ε → Proc (StoreCall C ε) (StoreCall.Answer A) (Except String (σ × Option κ))

/-- The clock and the saved log. -/
structure Store (ε : Type) where
  now : ℕ
  log : List ε

inductive Phase (σ ε κ : Type) where
  | loading (log : List ε)
  | handling (s : σ) (c : κ)
  /-- These events of the command are not saved yet. -/
  | saving (s : σ) (c : κ) (events : List ε) (next : Option κ)

def storeEnv : Env (StoreCall C ε) (StoreCall.Answer A) (Store ε) where
  clock w := w.now
  elapse w d := { w with now := w.now + d }
  react w c r :=
    match c, r with
    | .ext _, r => { w with now := w.now + r.delay }
    | .save e, r => { now := w.now + r.delay, log := if r.took then w.log ++ [e] else w.log }
    | .overwrite log, r => { now := w.now + r.delay, log := if r.took then log else w.log }

namespace System

variable (m : System C A σ ε κ)

abbrev PhaseProc (C : Type) (A : C → Type) (σ ε κ : Type) :=
  Proc (StoreCall C ε) (StoreCall.Answer A) (StateResult (Phase σ ε κ))

def onChanged : Phase σ ε κ → PhaseProc C A σ ε κ
  | .loading log => (m.load log).bind fun
    | .ok (s, some c) => .done (.changeState (.handling s c))
    | .ok (_, none) => .done .error
    | .error _ => .done .error
  | .handling s c => (external (m.handle c s)).bind fun
    | .ok (s', next, events) => .done (.changeState (.saving s' c events next))
    | .error _ => .done .error
  | .saving s c (e :: es) next => .now fun t => .call (.save e) fun
    | .ok _ => .done (.changeState (.saving (m.apply t s e) c es next))
    | .error _ => .done .error
  | .saving s _ [] (some c) => .done (.changeState (.handling s c))
  | .saving _ _ [] none => .done .finish

def machine : Machine (StoreCall C ε) (StoreCall.Answer A) (Store ε) (Phase σ ε κ) where
  env := storeEnv
  onChanged := m.onChanged
  onFinished _ := .done ()
  restore w := some (.loading w.log)
  resume ph := .done (.changeState ph)

abbrev RunConfig (C : Type) (A : C → Type) (σ ε κ : Type) :=
  Config (StoreCall C ε) (StoreCall.Answer A) (Store ε) (Phase σ ε κ)

/-- A new machine, before its first command. -/
def begin (s : σ) (c : κ) (now : ℕ) : RunConfig C A σ ε κ where
  world := ⟨now, []⟩
  status := .running (.handling s c) (.done (.changeState (.handling s c)))

/-- A stopped machine with this log. -/
def stopped (log : List ε) (now : ℕ) : RunConfig C A σ ε κ where
  world := ⟨now, log⟩
  status := .down

end System

/-- The machine is about to enter the phase. -/
def Enters (x : System.RunConfig C A σ ε κ) (ph : Phase σ ε κ) : Prop :=
  ∃ ph', x.status = .running ph' (.done (.changeState ph))

/-- The machine is at a command with this state in memory, and goes on with `next`. -/
def AtCommand (x : System.RunConfig C A σ ε κ) (s : σ) (c : κ) (next : Option κ) : Prop :=
  Enters x (.handling s c) ∧ next = some c ∨ ∃ es, Enters x (.saving s c es next)

/-- What the environment keeps towards a command, with the log as it is, and the log towards the
one who reads it. -/
def contract (K : List ε → Contract C A ℕ) (L : List ε → Prop) :
    Contract (StoreCall C ε) (StoreCall.Answer A) (Store ε) where
  allowed w c r :=
    match c, r with
    | .ext c, r => (K w.log).allowed w.now c r
    | .save _, _ => True
    | .overwrite _, _ => True
  pre w c :=
    match c with
    | .ext c => (K w.log).pre w.now c
    | .save e => L (w.log ++ [e])
    | .overwrite log => L log
  stopped w := L w.log

/-- `J` of the log and the phase and `L` of the log are kept by every command, by every saved
event and by loading. -/
structure Invariant (m : System C A σ ε κ) (K : List ε → Contract C A ℕ) (L : List ε → Prop)
    (J : List ε → Phase σ ε κ → Prop) : Prop where
  log : ∀ {log ph}, J log ph → L log
  handled : ∀ {log s c} t, J log (.handling s c) →
    (m.handle c s).wp clockEnv (K log)
      (fun r _ => ∀ s' next es, r = .ok (s', next, es) → J log (.saving s' c es next)) t
  saved : ∀ {log s c e es next} t, J log (.saving s c (e :: es) next) →
    J (log ++ [e]) (.saving (m.apply t s e) c es next)
  next : ∀ {log s c c'}, J log (.saving s c [] (some c')) → J log (.handling s c')
  loaded : ∀ {log} t, L log → (m.load log).wp storeEnv (contract K L)
    (fun r w => L w.log ∧ ∀ s c, r = .ok (s, some c) → J w.log (.handling s c)) ⟨t, log⟩

/-- What holds when a phase is entered. -/
def Here (L : List ε → Prop) (J : List ε → Phase σ ε κ → Prop) (ph : Phase σ ε κ)
    (w : Store ε) : Prop :=
  match ph with
  | .loading log => log = w.log ∧ L w.log
  | ph => J w.log ph

section Rules

variable {m : System C A σ ε κ} {K : List ε → Contract C A ℕ} {L : List ε → Prop}
  {J : List ε → Phase σ ε κ → Prop}

theorem wp_external {log : List ε} {p : Proc C A α} {Q : α → ℕ → Prop} {t : ℕ} (hlog : L log)
    (h : p.wp clockEnv (K log) Q t) :
    (external p).wp storeEnv (contract K L) (fun a w => w.log = log ∧ Q a w.now) ⟨t, log⟩ := by
  induction p generalizing t with
  | done a => exact ⟨rfl, h⟩
  | now k ih => exact ih t h
  | call c k ih =>
    rw [wp_call] at h
    rw [external, wp_call]
    constructor
    · exact h.1
    · intro r hr
      constructor
      · exact fun _ => hlog
      · exact fun a ha => ih a ((h.2 r hr).2 a ha)

theorem wp_ext {c : C} {k : A c → Proc (StoreCall C ε) (StoreCall.Answer A) α}
    {Q : α → Store ε → Prop} {t : ℕ} {log : List ε} (hlog : L log) (hpre : (K log).pre t c)
    (h : ∀ r a, (K log).allowed t c r → r.answer = some a →
      (k a).wp storeEnv (contract K L) Q ⟨t + r.delay, log⟩) :
    (Proc.call (.ext c) k).wp storeEnv (contract K L) Q ⟨t, log⟩ := by
  rw [wp_call]
  constructor
  · exact hpre
  · intro r hr
    constructor
    · exact fun _ => hlog
    · exact fun a ha => h r a hr ha

/-- A log that is written over: it is the old or the new one when this fails. -/
theorem wp_overwrite {log log' : List ε}
    {k : Except String Unit → Proc (StoreCall C ε) (StoreCall.Answer A) α}
    {Q : α → Store ε → Prop} {t : ℕ} (hlog : L log) (hlog' : L log')
    (hok : ∀ t', (k (.ok ())).wp storeEnv (contract K L) Q ⟨t', log'⟩)
    (herror : ∀ e t' l, L l → (k (.error e)).wp storeEnv (contract K L) Q ⟨t', l⟩) :
    (Proc.call (.overwrite log') k).wp storeEnv (contract K L) Q ⟨t, log⟩ := by
  have hwritten (r : Reply (Except String Unit)) : L (if r.took then log' else log) := by
    cases r.took with
    | true => exact hlog'
    | false => exact hlog
  rw [wp_call]
  constructor
  · exact hlog'
  · intro r _
    constructor
    · exact fun _ => hwritten r
    · intro a ha
      match a with
      | .ok () =>
        change (k (.ok ())).wp _ _ Q ⟨_, if r.took then log' else log⟩
        rw [if_pos (Reply.took_of_ok ha)]
        exact hok _
      | .error e => exact herror e _ _ (hwritten r)

/-- Whether a write took effect or not, the log keeps what it keeps before and after it. -/
private theorem log_write {old new : List ε} (took : Bool) (hold : L old) (hnew : L new) :
    L (if took then new else old) := by
  cases took with
  | true => exact hnew
  | false => exact hold

theorem Invariant.verified (h : Invariant m K L J) :
    Verified m.machine storeEnv id (contract K L) (Here L J) (fun _ w => L w.log) where
  abstraction := ⟨fun _ => rfl, fun _ _ => rfl, fun _ _ _ => rfl⟩
  onChanged := by
    rintro ph ⟨t, log⟩ hph
    match ph, hph with
    | .loading _, ⟨rfl, hlog⟩ =>
      change ((m.load _).bind _).wp _ _ _ _
      rw [wp_bind]
      apply wp_mono _ _ (h.loaded t hlog)
      rintro r w ⟨hw, hnext⟩
      match r with
      | .ok (s, some c) => exact hnext s c rfl
      | .ok (_, none) => exact hw
      | .error _ => exact hw
    | .handling s c, hph =>
      change ((external (m.handle c s)).bind _).wp _ _ _ _
      rw [wp_bind]
      apply wp_mono _ _ (wp_external (h.log hph) (h.handled t hph))
      rintro r ⟨t', log'⟩ ⟨rfl, hr⟩
      match r with
      | .ok (s', next, es) => exact hr s' next es rfl
      | .error _ => exact h.log hph
    | .saving s c (e :: es) next, hph =>
      have hsaved : J (log ++ [e]) (.saving (m.apply t s e) c es next) := h.saved t hph
      change (Proc.call (StoreCall.save e) _).wp _ _ _ _
      rw [wp_call]
      constructor
      · exact h.log hsaved
      · intro r _
        constructor
        · exact fun _ => log_write r.took (h.log hph) (h.log hsaved)
        · intro a ha
          match a with
          | .ok _ =>
            have htook := Reply.took_of_ok ha
            change J (if r.took then log ++ [e] else log) _
            rw [if_pos htook]
            exact hsaved
          | .error _ => exact log_write r.took (h.log hph) (h.log hsaved)
    | .saving s _ [] (some c), hph => exact h.next hph
    | .saving _ _ [] none, hph => exact h.log hph
  onFinished := fun _ _ hw => hw
  elapse := fun _ _ hw => hw
  resume := by
    rintro w ph hw ⟨⟩
    exact ⟨rfl, hw⟩

/-- The replies of a run are ones that the contract allows. -/
abbrev AllowedRun (m : System C A σ ε κ) (K : List ε → Contract C A ℕ) (L : List ε → Prop)
    (x : System.RunConfig C A σ ε κ)
    (es : List (DurableMachine.Event (StoreCall C ε) (StoreCall.Answer A))) : Prop :=
  Runs.Meets (fun x e => some (m.machine.step x e)) (Keeps (contract K L) id) x es

variable {x : System.RunConfig C A σ ε κ}
  {es : List (DurableMachine.Event (StoreCall C ε) (StoreCall.Answer A))}

theorem allowedRun_free : AllowedRun m (fun _ => free) L x es := by
  have hallowed (w : Store ε) (c : StoreCall C ε) (r : Reply (StoreCall.Answer A c)) :
      (contract (fun _ => free) L).allowed w c r := by
    cases c <;> trivial
  apply Runs.meets_of_all
  intro y e _
  unfold Keeps
  split
  · exact hallowed _ _ _
  · trivial

/-- A run in which every call gets a reply that is always allowed. -/
theorem allowedRun_replicate {r : (c : StoreCall C ε) → Reply (StoreCall.Answer A c)}
    (h : ∀ w c, (contract K L).allowed w c (r c)) (n : ℕ) :
    AllowedRun m K L x (List.replicate n (.reply r)) := by
  apply Runs.meets_of_all
  intro y e he
  obtain rfl := List.eq_of_mem_replicate he
  unfold Keeps
  split
  · rename_i heq
    obtain rfl := Event.reply.inj heq
    exact h _ _
  · trivial

theorem good_begin {s : σ} {c : κ} {now : ℕ} (h : J [] (.handling s c)) :
    Good storeEnv id (contract K L) (Here L J) (fun _ w => L w.log)
      (System.begin (A := A) s c now) := h

theorem good_stopped {log : List ε} {now : ℕ} (h : L log) :
    Good storeEnv id (contract K L) (Here L J) (fun _ w => L w.log)
      (System.stopped (A := A) log now) := h

/-- The invariant holds of every phase that a run enters. -/
theorem Invariant.enters (h : Invariant m K L J)
    (hx : Good storeEnv id (contract K L) (Here L J) (fun _ w => L w.log) x)
    (hes : AllowedRun m K L x es) {ph : Phase σ ε κ} (hph : Enters (m.machine.run x es) ph) :
    Here L J ph (m.machine.run x es).world := by
  have hgood := h.verified.good_run hx hes
  obtain ⟨ph', hstatus⟩ := hph
  rw [Good, hstatus] at hgood
  exact hgood

/-- A command of a run makes only promised calls. -/
theorem Invariant.pre (h : Invariant m K L J)
    (hx : Good storeEnv id (contract K L) (Here L J) (fun _ w => L w.log) x)
    (hes : AllowedRun m K L x es) {c : C} (hc : (m.machine.run x es).pending = some (.ext c)) :
    (K (m.machine.run x es).world.log).pre (m.machine.run x es).world.now c :=
  h.verified.pre_of_run hx hes hc

/-- The log of every run keeps its invariant. -/
theorem Invariant.log_run (h : Invariant m K L J) (hlog : L x.world.log)
    (hx : Good storeEnv id (contract K L) (Here L J) (fun _ w => L w.log) x)
    (hes : AllowedRun m K L x es) : L (m.machine.run x es).world.log := by
  apply h.verified.world_of_run (I := fun w => L w.log) _ _ hlog hx hes
  · intro w c r hw hpre _
    match c, r, hpre with
    | .ext _, _, _ => exact hw
    | .save _, r, hpre => exact log_write r.took hw hpre
    | .overwrite _, r, hpre => exact log_write r.took hw hpre
  · exact fun _ _ hw => hw

end Rules

end DeXFG.Library.EventSourced
