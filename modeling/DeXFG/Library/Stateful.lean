import Mathlib.Tactic

/-!
# Computations that change a state and may fail

A failed computation keeps the changes it made before it failed. `Sat` is the
weakest precondition with one postcondition for a result and one for a failure;
the rules follow the way computations are put together.
-/
namespace DeXFG.Library.Stateful

abbrev Action (σ ε α : Type) := ExceptT ε (StateM σ) α

variable {σ ε δ α β : Type}

/-- How the computation ends, and the state it leaves. -/
def exec (m : Action σ ε α) (s : σ) : Except ε α × σ := m.run.run s

/-- A result that needs no state, as a computation. -/
def ofResult : Except ε α → Action σ ε α
  | .ok a => pure a
  | .error e => throw e

def mapErr (f : ε → δ) (m : Action σ ε α) : Action σ δ α := m.adapt f

/-- The computation ends with a result in `Q`, or with a failure in a state in `E`. -/
def Sat (m : Action σ ε α) (s : σ) (Q : α → σ → Prop) (E : σ → Prop) : Prop :=
  match exec m s with
  | (.ok a, s') => Q a s'
  | (.error _, s') => E s'

section Rules

variable {m : Action σ ε α} {f : α → Action σ ε β} {s : σ} {Q Q' : α → σ → Prop}
  {E E' : σ → Prop}

theorem Sat.of_ok {a : α} {s' : σ} (h : Sat m s Q E) (hm : exec m s = (.ok a, s')) : Q a s' := by
  simpa only [Sat, hm] using h

theorem Sat.of_error {e : ε} {s' : σ} (h : Sat m s Q E) (hm : exec m s = (.error e, s')) :
    E s' := by
  simpa only [Sat, hm] using h

theorem Sat.mono (h : Sat m s Q E) (hQ : ∀ a s', Q a s' → Q' a s') (hE : ∀ s', E s' → E' s') :
    Sat m s Q' E' := by
  revert h
  simp only [Sat]
  split
  · exact hQ _ _
  · exact hE _

@[simp] theorem sat_pure (a : α) : Sat (pure a : Action σ ε α) s Q E ↔ Q a s := Iff.rfl

@[simp] theorem sat_throw (e : ε) : Sat (throw e : Action σ ε α) s Q E ↔ E s := Iff.rfl

@[simp] theorem sat_get {Q : σ → σ → Prop} :
    Sat (get : Action σ ε σ) s Q E ↔ Q s s := Iff.rfl

@[simp] theorem sat_modify (g : σ → σ) {Q : Unit → σ → Prop} :
    Sat (modify g : Action σ ε Unit) s Q E ↔ Q () (g s) := Iff.rfl

theorem exec_bind : exec (m >>= f) s =
    match exec m s with
    | (.ok a, s') => exec (f a) s'
    | (.error e, s') => (.error e, s') := by
  show ((m >>= f).run.run s : Except ε β × σ) = _
  rw [ExceptT.run_bind]
  show (match m.run.run s with
    | (r, s') => _) = _
  rcases hm : (m.run.run s : Except ε α × σ) with ⟨_ | _, _⟩ <;> simp [exec, hm] <;> rfl

@[simp] theorem sat_bind {Q : β → σ → Prop} :
    Sat (m >>= f) s Q E ↔ Sat m s (fun a s' => Sat (f a) s' Q E) E := by
  simp only [Sat, exec_bind]
  rcases exec m s with ⟨_ | _, _⟩ <;> rfl

@[simp] theorem sat_ofResult {r : Except ε α} :
    Sat (ofResult r : Action σ ε α) s Q E ↔
      (∀ a, r = .ok a → Q a s) ∧ ∀ e, r = .error e → E s := by
  cases r with
  | ok a => simp [ofResult]
  | error e => simp [ofResult]

theorem exec_mapErr (g : ε → δ) :
    exec (mapErr g m) s = ((exec m s).1.mapError g, (exec m s).2) := by
  rfl

@[simp] theorem sat_mapErr (g : ε → δ) : Sat (mapErr g m) s Q E ↔ Sat m s Q E := by
  simp only [Sat, exec_mapErr]
  rcases exec m s with ⟨_ | _, _⟩ <;> rfl

/-- Over a list: the invariant speaks of the part that is done and of its results. -/
theorem sat_mapM {g : α → Action σ ε β} {l : List α} (I : List α → List β → σ → Prop)
    (hstep : ∀ done a bs s, I done bs s →
      Sat (g a) s (fun b s' => I (done ++ [a]) (bs ++ [b]) s') E) (h : I [] [] s) :
    Sat (l.mapM g) s (I l) E := by
  have key : ∀ (rest done : List α) (bs : List β) (s : σ), I done bs s →
      Sat (rest.mapM g) s (fun bs' => I (done ++ rest) (bs ++ bs')) E := by
    intro rest
    induction rest with
    | nil =>
      intro done bs s hI
      simpa using hI
    | cons a rest ih =>
      intro done bs s hI
      rw [List.mapM_cons, sat_bind]
      apply (hstep done a bs s hI).mono
      · intro b s' hI'
        rw [sat_bind]
        apply (ih _ _ _ hI').mono
        · intro bs' s'' h'
          simpa using h'
        · exact fun _ h' => h'
      · exact fun _ h' => h'
  exact key l [] [] s h

end Rules

end DeXFG.Library.Stateful
