import Mathlib.Tactic

/-!
# Runs of a labelled transition function

A machine is a partial function from a state and an event to the next state;
`none` means that the event is not enabled. The file gives the run over a list
of events, the runs whose steps all meet a condition on the state before the
step, the reachable states, and the invariant rule for each of them.
-/
namespace DeXFG.Library.Runs

variable {σ ε : Type*}

/-- Execute a list of events from the left. -/
def run (step : σ → ε → Option σ) : σ → List ε → Option σ
  | s, [] => some s
  | s, e :: es => (step s e).bind fun s' => run step s' es

/-- Every step of the run meets the condition in the state it starts from. -/
def Meets (step : σ → ε → Option σ) (G : σ → ε → Prop) : σ → List ε → Prop
  | _, [] => True
  | s, e :: es => G s e ∧ ∀ s', step s e = some s' → Meets step G s' es

/-- States reached from an initial state by some run. -/
def Reachable (step : σ → ε → Option σ) (init : σ → Prop) (s : σ) : Prop :=
  ∃ s₀ es, init s₀ ∧ run step s₀ es = some s

variable {step : σ → ε → Option σ} {G : σ → ε → Prop} {init I : σ → Prop} {s s' : σ}

@[simp] theorem run_nil (s : σ) : run step s [] = some s := rfl

theorem run_cons_eq_some {e : ε} {es : List ε} :
    run step s (e :: es) = some s' ↔ ∃ t, step s e = some t ∧ run step t es = some s' := by
  simp [run, Option.bind_eq_some_iff]

theorem run_append_eq_some {es fs : List ε} :
    run step s (es ++ fs) = some s' ↔ ∃ t, run step s es = some t ∧ run step t fs = some s' := by
  induction es generalizing s with
  | nil => simp
  | cons e es ih =>
    rw [List.cons_append, run_cons_eq_some]
    simp only [ih, run_cons_eq_some]
    constructor
    · rintro ⟨t, hstep, u, hes, hfs⟩
      exact ⟨u, ⟨t, hstep, hes⟩, hfs⟩
    · rintro ⟨u, ⟨t, hstep, hes⟩, hfs⟩
      exact ⟨t, hstep, u, hes, hfs⟩

theorem run_singleton {e : ε} : run step s [e] = some s' ↔ step s e = some s' := by
  rw [run_cons_eq_some]
  simp

/-- A total step function is folded over the events. -/
theorem run_some {f : σ → ε → σ} (s : σ) (es : List ε) :
    run (fun s e => some (f s e)) s es = some (es.foldl f s) := by
  induction es generalizing s with
  | nil => rfl
  | cons e es ih =>
    rw [run, Option.bind_some, ih, List.foldl_cons]

@[simp] theorem meets_nil (s : σ) : Meets step G s [] := trivial

theorem meets_cons {e : ε} {es : List ε} :
    Meets step G s (e :: es) ↔ G s e ∧ ∀ t, step s e = some t → Meets step G t es := Iff.rfl

/-- A run is checked by executing it. -/
instance decidableMeets [∀ s e, Decidable (G s e)] : ∀ s es, Decidable (Meets step G s es)
  | _, [] => isTrue trivial
  | s, e :: es =>
    match h : step s e with
    | none => decidable_of_iff (G s e) <| by
        rw [meets_cons, h]
        simp
    | some t =>
      have := decidableMeets t es
      decidable_of_iff (G s e ∧ Meets step G t es) <| by
        rw [meets_cons, h]
        simp

/-- A condition on the events alone is met by every run over events that satisfy it. -/
theorem meets_of_forall {P : ε → Prop} {es : List ε} (h : ∀ e ∈ es, P e) :
    Meets step (fun _ e => P e) s es := by
  induction es generalizing s with
  | nil => trivial
  | cons e es ih =>
    rw [List.forall_mem_cons] at h
    exact ⟨h.1, fun t _ => ih h.2⟩

/-- A condition that holds in every state is met by every run. -/
theorem meets_of_all {es : List ε} (h : ∀ s, ∀ e ∈ es, G s e) : Meets step G s es := by
  induction es generalizing s with
  | nil => trivial
  | cons e es ih =>
    constructor
    · exact h s e List.mem_cons_self
    · exact fun t _ => ih fun s e he => h s e (List.mem_cons_of_mem _ he)

theorem Meets.and {G' : σ → ε → Prop} {es : List ε} (h : Meets step G s es)
    (h' : Meets step G' s es) : Meets step (fun s e => G s e ∧ G' s e) s es := by
  induction es generalizing s with
  | nil => trivial
  | cons e es ih => exact ⟨⟨h.1, h'.1⟩, fun t ht => ih (h.2 t ht) (h'.2 t ht)⟩

/-- Invariant rule for runs whose steps meet a condition. -/
theorem invariant_run
    (hstep : ∀ s e s', I s → G s e → step s e = some s' → I s')
    {es : List ε} (hI : I s) (hG : Meets step G s es) (hrun : run step s es = some s') : I s' := by
  induction es generalizing s with
  | nil =>
    rw [run_nil, Option.some.injEq] at hrun
    exact hrun ▸ hI
  | cons e es ih =>
    obtain ⟨t, ht, hrest⟩ := run_cons_eq_some.mp hrun
    exact ih (hstep s e t hI hG.1 ht) (hG.2 t ht) hrest

/-- When a step keeps the property `P` exactly under the condition, a run meets the condition
exactly when `P` holds after each of its prefixes. The invariant carries what else is needed. -/
theorem meets_iff_forall_append {P : σ → Prop} (htotal : ∀ s e, ∃ s', step s e = some s')
    (hexact : ∀ s e s', I s → P s → step s e = some s' → (P s' ↔ G s e))
    (hstep : ∀ s e s', I s → G s e → step s e = some s' → I s')
    {es : List ε} (hI : I s) (hP : P s) :
    Meets step G s es ↔ ∀ pre, pre <+: es → ∀ s', run step s pre = some s' → P s' := by
  induction es generalizing s with
  | nil =>
    constructor
    · intro _ pre hpre s' hrun
      rw [List.prefix_nil] at hpre
      subst hpre
      rw [run_nil, Option.some.injEq] at hrun
      exact hrun ▸ hP
    · intro _
      trivial
  | cons e es ih =>
    obtain ⟨t, ht⟩ := htotal s e
    constructor
    · rintro ⟨hG, hmeets⟩ pre hpre s' hrun
      have hPt : P t := (hexact s e t hI hP ht).mpr hG
      have hrest := (ih (hstep s e t hI hG ht) hPt).mp (hmeets t ht)
      rcases List.prefix_cons_iff.mp hpre with rfl | ⟨pre', rfl, hpre'⟩
      · rw [run_nil, Option.some.injEq] at hrun
        exact hrun ▸ hP
      · obtain ⟨t', ht', hrun'⟩ := run_cons_eq_some.mp hrun
        obtain rfl := Option.some.inj (ht.symm.trans ht')
        exact hrest pre' hpre' s' hrun'
    · intro hall
      have hPt : P t := hall [e] (List.prefix_cons_inj e |>.mpr (List.nil_prefix)) t
        (run_singleton.mpr ht)
      have hG : G s e := (hexact s e t hI hP ht).mp hPt
      refine ⟨hG, fun t' ht' => ?_⟩
      obtain rfl := Option.some.inj (ht.symm.trans ht')
      refine (ih (hstep s e t hI hG ht) hPt).mpr fun pre hpre s' hrun => ?_
      exact hall (e :: pre) ((List.prefix_cons_inj e).mpr hpre) s'
        (run_cons_eq_some.mpr ⟨t, ht, hrun⟩)

theorem Reachable.of_init (h : init s) : Reachable step init s := ⟨s, [], h, rfl⟩

theorem Reachable.run (h : Reachable step init s) {es : List ε}
    (hrun : Runs.run step s es = some s') : Reachable step init s' := by
  obtain ⟨s₀, fs, h₀, hfs⟩ := h
  exact ⟨s₀, fs ++ es, h₀, run_append_eq_some.mpr ⟨s, hfs, hrun⟩⟩

/-- Invariant rule for reachable states. -/
theorem Reachable.invariant
    (hinit : ∀ s, init s → I s) (hstep : ∀ s e s', I s → step s e = some s' → I s')
    (h : Reachable step init s) : I s := by
  obtain ⟨s₀, es, h₀, hrun⟩ := h
  exact invariant_run (G := fun _ _ => True) (fun s e s' hI _ => hstep s e s' hI)
    (hinit s₀ h₀) (meets_of_forall fun _ _ => trivial) hrun

end DeXFG.Library.Runs
