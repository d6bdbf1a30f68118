import Mathlib.Order.Basic
import Mathlib.Tactic

/-!
# Loops with an exit

The body of a loop breaks with a result or goes on with the next state. Fuel bounds the turns. A
loop keeps an invariant up to its result, and it ends if a measure falls in each turn that goes on.
-/
namespace DeXFG.Library.Loops

/-- What the body of a loop comes to. -/
inductive Flow (ρ σ : Type*) where
  | done (result : ρ)
  | again (state : σ)

/-- What holds of the result, or of the next state. -/
def Flow.Holds {ρ σ : Type*} (P : ρ → Prop) (I : σ → Prop) : Flow ρ σ → Prop
  | done r => P r
  | again s => I s

variable {ρ σ : Type*}

theorem Flow.Holds.mono {P P' : ρ → Prop} {I I' : σ → Prop} {flow : Flow ρ σ}
    (h : flow.Holds P I) (hP : ∀ r, P r → P' r) (hI : ∀ s, I s → I' s) : flow.Holds P' I' := by
  cases flow with
  | done r => exact hP r h
  | again s => exact hI s h

/-- Turn after turn until one is done. -/
def loop (body : σ → Flow ρ σ) : ℕ → σ → Option ρ
  | 0, _ => none
  | fuel + 1, s =>
    match body s with
    | .done r => some r
    | .again s => loop body fuel s

variable {body : σ → Flow ρ σ} {s : σ} {r : ρ} {fuel : ℕ}

theorem loop_done (h : body s = .done r) : loop body (fuel + 1) s = some r := by
  rw [loop, h]

theorem loop_again {t : σ} (h : body s = .again t) :
    loop body (fuel + 1) s = loop body fuel t := by
  rw [loop, h]

/-- An invariant that each turn keeps, and that gives the result where it breaks. -/
theorem of_loop {P : ρ → Prop} {I : σ → Prop} (hbody : ∀ s, I s → (body s).Holds P I)
    (hI : I s) (h : loop body fuel s = some r) : P r := by
  induction fuel generalizing s with
  | zero => cases h
  | succ fuel ih =>
    have hturn := hbody s hI
    cases hflow : body s with
    | done found =>
      rw [hflow] at hturn
      rw [loop_done hflow] at h
      cases h
      exact hturn
    | again t =>
      rw [hflow] at hturn
      rw [loop_again hflow] at h
      exact ih hturn h

/-- The loop ends if a measure falls in each turn that goes on. -/
theorem loop_ends {P : ρ → Prop} {I : σ → Prop} (size : σ → ℕ)
    (hbody : ∀ s, I s → (body s).Holds P fun t => I t ∧ size t < size s)
    (hI : I s) (hfuel : size s < fuel) : ∃ r, loop body fuel s = some r ∧ P r := by
  induction fuel generalizing s with
  | zero => omega
  | succ fuel ih =>
    have hturn := hbody s hI
    cases hflow : body s with
    | done found =>
      rw [hflow] at hturn
      exact ⟨found, loop_done hflow, hturn⟩
    | again t =>
      rw [hflow] at hturn
      rw [loop_again hflow]
      exact ih hturn.1 (by have := hturn.2; omega)

end DeXFG.Library.Loops
