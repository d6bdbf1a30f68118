import DeXFG.Library.Process

/-!
# Outcomes of a process

What a process may call and how it may end, at whatever time it runs: `Proc.Sat`
quantifies over the answers that a relation admits and over all clock readings.
`Proc.Hits` says that the process gets to a call of a kind whatever it is
answered.
-/
namespace DeXFG.Library.Process

variable {C : Type} {A : C → Type} {α β W : Type*}

namespace Proc

/-- With answers in `R` the process calls only `P` and ends only in `Q`. -/
def Sat (R : (c : C) → A c → Prop) (P : C → Prop) : Proc C A α → (α → Prop) → Prop
  | .done a, Q => Q a
  | .now k, Q => ∀ t, (k t).Sat R P Q
  | .call c k, Q => P c ∧ ∀ a, R c a → (k a).Sat R P Q

/-- With answers in `R` the process calls only `P` until what is left of it is an exit. -/
def Until (R : (c : C) → A c → Prop) (P : C → Prop) (E : Proc C A α → Prop) : Proc C A α → Prop
  | .done a => E (.done a)
  | .now k => E (.now k) ∨ ∀ t, (k t).Until R P E
  | .call c k => E (.call c k) ∨ P c ∧ ∀ a, R c a → (k a).Until R P E

/-- With answers in `R` the process makes a call in `P` before it ends. -/
def Hits (R : (c : C) → A c → Prop) (P : C → Prop) : Proc C A α → Prop
  | .done _ => False
  | .now k => ∀ t, (k t).Hits R P
  | .call c k => P c ∨ ∀ a, R c a → (k a).Hits R P

end Proc

open Proc

section Rules

variable {R : (c : C) → A c → Prop} {P P' : C → Prop} {Q Q' : α → Prop}

@[simp] theorem sat_done (a : α) : (Proc.done a : Proc C A α).Sat R P Q ↔ Q a := Iff.rfl

@[simp] theorem sat_now (k : ℕ → Proc C A α) :
    (Proc.now k).Sat R P Q ↔ ∀ t, (k t).Sat R P Q := Iff.rfl

@[simp] theorem sat_call (c : C) (k : A c → Proc C A α) :
    (Proc.call c k).Sat R P Q ↔ P c ∧ ∀ a, R c a → (k a).Sat R P Q := Iff.rfl

theorem sat_bind (p : Proc C A α) (f : α → Proc C A β) {Q : β → Prop} :
    (p.bind f).Sat R P Q ↔ p.Sat R P (fun a => (f a).Sat R P Q) := by
  induction p with
  | done a => exact Iff.rfl
  | now k ih => exact forall_congr' ih
  | call c k ih => exact and_congr_right fun _ => forall_congr' fun a => imp_congr_right fun _ => ih a

theorem sat_mono {p : Proc C A α} (hP : ∀ c, P c → P' c) (hQ : ∀ a, Q a → Q' a)
    (h : p.Sat R P Q) : p.Sat R P' Q' := by
  induction p with
  | done a => exact hQ a h
  | now k ih => exact fun t => ih t (h t)
  | call c k ih => exact ⟨hP c h.1, fun a ha => ih a (h.2 a ha)⟩

theorem sat_and {p : Proc C A α} (h : p.Sat R P Q) (h' : p.Sat R P' Q') :
    p.Sat R (fun c => P c ∧ P' c) (fun a => Q a ∧ Q' a) := by
  induction p with
  | done a => exact ⟨h, h'⟩
  | now k ih => exact fun t => ih t (h t) (h' t)
  | call c k ih => exact ⟨⟨h.1, h'.1⟩, fun a ha => ih a (h.2 a ha) (h'.2 a ha)⟩

/-- Where every call can be answered, the process ends. -/
theorem sat_exists {p : Proc C A α} (hR : ∀ c, ∃ a, R c a) (h : p.Sat R P Q) : ∃ a, Q a := by
  induction p with
  | done a => exact ⟨a, h⟩
  | now k ih => exact ih 0 (h 0)
  | call c k ih =>
    obtain ⟨a, ha⟩ := hR c
    exact ih a (h.2 a ha)

/-- What holds with all answers holds with fewer. -/
theorem sat_weaken {R' : (c : C) → A c → Prop} {p : Proc C A α} (hR : ∀ c a, R' c a → R c a)
    (h : p.Sat R P Q) : p.Sat R' P Q := by
  induction p with
  | done a => exact h
  | now k ih => exact fun t => ih t (h t)
  | call c k ih => exact ⟨h.1, fun a ha => ih a (h.2 a (hR c a ha))⟩

/-- What a process does in some world whose environment answers as `R` admits. -/
theorem wp_of_sat {E : Env C A W} {K : Contract C A W} {p : Proc C A α} {w : W}
    (hallowed : ∀ w c r, K.allowed w c r → ∀ a, r.answer = some a → R c a)
    (hpre : ∀ w c, P c → K.pre w c) (hstopped : ∀ w, K.stopped w) (h : p.Sat R P Q) :
    p.wp E K (fun a _ => Q a) w := by
  induction p generalizing w with
  | done a => exact h
  | now k ih => exact ih _ (h _)
  | call c k ih =>
    rw [wp_call]
    constructor
    · exact hpre w c h.1
    · intro r hr
      constructor
      · exact fun _ => hstopped _
      · exact fun a ha => ih a (h.2 a (hallowed w c r hr a ha))

theorem until_exit {E : Proc C A α → Prop} {p : Proc C A α} (h : E p) : p.Until R P E := by
  cases p with
  | done a => exact h
  | now k => exact .inl h
  | call c k => exact .inl h

theorem until_now {E : Proc C A α → Prop} {k : ℕ → Proc C A α} (h : ∀ t, (k t).Until R P E) :
    (Proc.now k).Until R P E := .inr h

theorem until_call {E : Proc C A α → Prop} {c : C} {k : A c → Proc C A α} (hc : P c)
    (h : ∀ a, R c a → (k a).Until R P E) : (Proc.call c k).Until R P E := .inr ⟨hc, h⟩

theorem until_bind {E : Proc C A β → Prop} {p : Proc C A α} {f : α → Proc C A β}
    (h : p.Sat R P Q) (hf : ∀ a, Q a → (f a).Until R P E) : (p.bind f).Until R P E := by
  induction p with
  | done a => exact hf a h
  | now k ih => exact until_now fun t => ih t (h t)
  | call c k ih => exact until_call h.1 fun a ha => ih a (h.2 a ha)

theorem until_mono {E E' : Proc C A α → Prop} {p : Proc C A α} (hP : ∀ c, P c → P' c)
    (hE : ∀ p, E p → E' p) (h : p.Until R P E) : p.Until R P' E' := by
  induction p with
  | done a => exact hE _ h
  | now k ih =>
    cases h with
    | inl h => exact until_exit (hE _ h)
    | inr h => exact until_now fun t => ih t (h t)
  | call c k ih =>
    cases h with
    | inl h => exact until_exit (hE _ h)
    | inr h => exact until_call (hP c h.1) fun a ha => ih a (h.2 a ha)

/-- What a process does in a world whose invariant its calls keep until an exit. -/
theorem wp_of_until {E : Env C A W} {K : Contract C A W} {X : Proc C A α → Prop} {I : W → Prop}
    {Q : α → W → Prop} {p : Proc C A α} {w : W}
    (hpre : ∀ w c, I w → P c → K.pre w c)
    (hreact : ∀ w c r, I w → P c → K.allowed w c r →
      (r.answer = none → K.stopped (E.react w c r)) ∧
      ∀ a, r.answer = some a → R c a ∧ I (E.react w c r))
    (hexit : ∀ p w, X p → I w → p.wp E K Q w) (h : p.Until R P X) (hw : I w) :
    p.wp E K Q w := by
  induction p generalizing w with
  | done a => exact hexit _ w h hw
  | now k ih =>
    cases h with
    | inl h => exact hexit _ w h hw
    | inr h => exact ih _ (h _) hw
  | call c k ih =>
    cases h with
    | inl h => exact hexit _ w h hw
    | inr h =>
      rw [wp_call]
      constructor
      · exact hpre w c hw h.1
      · intro r hr
        have hnext := hreact w c r hw h.1 hr
        constructor
        · exact hnext.1
        · intro a ha
          exact ih a (h.2 a (hnext.2 a ha).1) (hnext.2 a ha).2

/-- What a process does in a world, and how it ends wherever it gets such answers. -/
theorem wp_and_sat {E : Env C A W} {K : Contract C A W} {p : Proc C A α} {Q' : α → W → Prop} {w : W}
    (hallowed : ∀ w c r, K.allowed w c r → ∀ a, r.answer = some a → R c a)
    (hwp : p.wp E K Q' w) (h : p.Sat R P Q) : p.wp E K (fun a w => Q' a w ∧ Q a) w := by
  induction p generalizing w with
  | done a => exact ⟨hwp, h⟩
  | now k ih => exact ih _ hwp (h _)
  | call c k ih =>
    rw [wp_call] at hwp ⊢
    constructor
    · exact hwp.1
    · intro r hr
      constructor
      · exact (hwp.2 r hr).1
      · exact fun a ha => ih a ((hwp.2 r hr).2 a ha) (h.2 a (hallowed w c r hr a ha))

theorem hits_bind {p : Proc C A α} (f : α → Proc C A β) (h : p.Hits R P) : (p.bind f).Hits R P := by
  induction p with
  | done a => exact h.elim
  | now k ih => exact fun t => ih t (h t)
  | call c k ih =>
    cases h with
    | inl hc => exact .inl hc
    | inr hk => exact .inr fun a ha => ih a (hk a ha)

end Rules

/-- Nothing is asked of the environment, nor of the process. -/
def free : Contract C A W where
  allowed _ _ _ := True
  pre _ _ := True
  stopped _ := True

/-- The clock alone. -/
def clockEnv : Env C A ℕ where
  clock := id
  elapse t d := t + d
  react t _ r := t + r.delay

end DeXFG.Library.Process
