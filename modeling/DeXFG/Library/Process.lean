import Mathlib.Tactic

/-!
# Processes that call their environment

A process ends with a result, reads the clock, or makes a call and goes on with
the answer. A call takes time, may have taken effect although no success was
reported, and may never be answered because the process was stopped meanwhile.
`Proc.wp` is the weakest precondition for a contract that says what the
environment may reply, what must hold when a call is made, and what must hold of
the world whenever the process is stopped.
-/
namespace DeXFG.Library.Process

variable {C : Type} {A : C → Type} {W V α β : Type*}

inductive Proc (C : Type) (A : C → Type) (α : Type*) where
  | done (a : α)
  | now (k : ℕ → Proc C A α)
  | call (c : C) (k : A c → Proc C A α)

/-- How a call ends: after which delay, whether the request took effect, and with which answer;
`none` when the process was stopped before it got one. -/
structure Reply (α : Type*) where
  delay : ℕ
  reached : Bool
  answer : Option α

/-- The request took effect: the answer says so, or it did without a good answer. -/
def Reply.took {ε : Type*} (r : Reply (Except ε α)) : Bool :=
  r.reached || r.answer.any Except.isOk

/-- The request was answered with an error. -/
def Reply.failed {ε : Type*} (r : Reply (Except ε α)) : Bool :=
  r.answer.any fun a => !a.isOk

theorem Reply.took_of_ok {ε : Type*} {r : Reply (Except ε α)} {a : α}
    (h : r.answer = some (.ok a)) : r.took = true := by
  simp [took, h, Except.isOk, Except.toBool]

theorem Reply.failed_of_error {ε : Type*} {r : Reply (Except ε α)} {e : ε}
    (h : r.answer = some (.error e)) : r.failed = true := by
  simp [failed, h, Except.isOk, Except.toBool]

/-- The world around a process: its clock, the passing of time, the effect of a call. -/
structure Env (C : Type) (A : C → Type) (W : Type*) where
  clock : W → ℕ
  elapse : W → ℕ → W
  react : W → (c : C) → Reply (A c) → W

namespace Proc

def bind (p : Proc C A α) (f : α → Proc C A β) : Proc C A β :=
  match p with
  | done a => f a
  | now k => now fun t => (k t).bind f
  | call c k => call c fun a => (k a).bind f

instance : Monad (Proc C A) where
  pure := done
  bind := bind

@[simp] theorem pure_eq (a : α) : (pure a : Proc C A α) = done a := rfl

theorem bind_eq {α β : Type} (p : Proc C A α) (f : α → Proc C A β) : p >>= f = p.bind f := rfl

@[simp] theorem done_bind (a : α) (f : α → Proc C A β) : (done a : Proc C A α).bind f = f a := rfl

@[simp] theorem now_bind (k : ℕ → Proc C A α) (f : α → Proc C A β) :
    (now k).bind f = now fun t => (k t).bind f := rfl

@[simp] theorem call_bind (c : C) (k : A c → Proc C A α) (f : α → Proc C A β) :
    (call c k).bind f = call c fun a => (k a).bind f := rfl

end Proc

/-- The clock, as a process. -/
def nowSec : Proc C A ℕ := .now .done

/-- A call, as a process. -/
def call (c : C) : Proc C A (A c) := .call c .done

/-- What the environment may reply, what holds when a call is made, and what holds of the world
when the process is stopped. -/
structure Contract (C : Type) (A : C → Type) (W : Type*) where
  allowed : W → (c : C) → Reply (A c) → Prop
  pre : W → C → Prop
  stopped : W → Prop

/-- From this world the process keeps the contract and ends only in the postcondition. -/
def Proc.wp (E : Env C A W) (K : Contract C A W) : Proc C A α → (α → W → Prop) → W → Prop
  | .done a, Q, w => Q a w
  | .now k, Q, w => (k (E.clock w)).wp E K Q w
  | .call c k, Q, w => K.pre w c ∧ ∀ r, K.allowed w c r →
      match r.answer with
      | none => K.stopped (E.react w c r)
      | some a => (k a).wp E K Q (E.react w c r)

section Rules

variable {E : Env C A W} {K : Contract C A W} {Q R : α → W → Prop} {w : W}

@[simp] theorem wp_done (a : α) : (Proc.done a).wp E K Q w ↔ Q a w := Iff.rfl

@[simp] theorem wp_now (k : ℕ → Proc C A α) :
    (Proc.now k).wp E K Q w ↔ (k (E.clock w)).wp E K Q w := Iff.rfl

theorem wp_call (c : C) (k : A c → Proc C A α) :
    (Proc.call c k).wp E K Q w ↔ K.pre w c ∧ ∀ r, K.allowed w c r →
      (r.answer = none → K.stopped (E.react w c r)) ∧
      ∀ a, r.answer = some a → (k a).wp E K Q (E.react w c r) := by
  refine and_congr_right fun _ => forall_congr' fun r => imp_congr_right fun _ => ?_
  cases r.answer with
  | none => simp
  | some a => simp

theorem wp_mono (p : Proc C A α) (h : ∀ a w, Q a w → R a w) :
    p.wp E K Q w → p.wp E K R w := by
  induction p generalizing w with
  | done a => exact h a w
  | now k ih => exact ih _
  | call c k ih =>
    rw [wp_call, wp_call]
    rintro ⟨hpre, hreply⟩
    exact ⟨hpre, fun r hr => ⟨(hreply r hr).1, fun a ha => ih a ((hreply r hr).2 a ha)⟩⟩

theorem wp_bind (p : Proc C A α) (f : α → Proc C A β) {Q : β → W → Prop} :
    (p.bind f).wp E K Q w ↔ p.wp E K (fun a w' => (f a).wp E K Q w') w := by
  induction p generalizing w with
  | done a => exact Iff.rfl
  | now k ih => exact ih _
  | call c k ih =>
    rw [Proc.call_bind, wp_call, wp_call]
    simp only [ih]

/-- A call whose replies do not matter: it leaves the world as it was. -/
theorem wp_call_of_neutral {c : C} {k : A c → Proc C A α} (hpre : K.pre w c)
    (hreact : ∀ r, E.react w c r = w) (hstopped : K.stopped w)
    (h : ∀ a, (k a).wp E K Q w) : (Proc.call c k).wp E K Q w := by
  refine (wp_call c k).mpr ⟨hpre, fun r _ => ?_⟩
  rw [hreact]
  exact ⟨fun _ => hstopped, fun a _ => h a⟩

end Rules

end DeXFG.Library.Process
