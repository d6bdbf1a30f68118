import Mathlib.Tactic

/-!
# Logs that follow a grammar

A grammar says which event a log may begin with and which event may come after
which. What an event says about the log before it, and about all that comes
after it, follows from the pairs alone.
-/
namespace DeXFG.Library.EventGrammar

variable {ε : Type*}

structure Grammar (ε : Type*) where
  first : ε → Prop
  follows : ε → ε → Prop

namespace Grammar

variable (g : Grammar ε)

/-- The event may come next. -/
def Next (log : List ε) (e : ε) : Prop :=
  match log.getLast? with
  | none => g.first e
  | some d => g.follows d e

inductive Log : List ε → Prop
  | nil : Log []
  | snoc {log : List ε} {e : ε} (h : Log log) (hnext : g.Next log e) : Log (log ++ [e])

end Grammar

variable {g : Grammar ε} {log es : List ε} {d e : ε}

@[simp] theorem next_nil : g.Next [] e ↔ g.first e := Iff.rfl

@[simp] theorem next_snoc : g.Next (log ++ [d]) e ↔ g.follows d e := by
  simp [Grammar.Next]

theorem log_snoc : g.Log (log ++ [e]) ↔ g.Log log ∧ g.Next log e := by
  constructor
  · intro h
    generalize hl : log ++ [e] = l at h
    cases h with
    | nil => simp at hl
    | snoc h hnext =>
      obtain ⟨rfl, hlast⟩ := List.append_inj' hl rfl
      obtain rfl := List.singleton_inj.mp hlast
      exact ⟨h, hnext⟩
  · exact fun ⟨h, hnext⟩ => h.snoc hnext

namespace Grammar.Log

theorem left (h : g.Log (log ++ es)) : g.Log log := by
  induction es using List.reverseRecOn with
  | nil => simpa using h
  | append_singleton es e ih =>
    rw [← List.append_assoc, log_snoc] at h
    exact ih h.1

/-- The events after the first one of a list come one after the other. -/
theorem append (h : g.Log log) (hnext : g.Next log e) (hes : List.IsChain g.follows (e :: es)) :
    g.Log (log ++ e :: es) := by
  induction es generalizing log e with
  | nil => exact h.snoc hnext
  | cons e' es ih =>
    have hes' := List.isChain_cons_cons.mp hes
    rw [List.append_cons]
    exact ih (h.snoc hnext) (next_snoc.mpr hes'.1) hes'.2

theorem head (h : g.Log (e :: es)) : g.first e := by
  rw [← List.singleton_append] at h
  exact (log_snoc.mp (List.nil_append [e] ▸ h.left)).2

/-- The first event may be replaced by one with the same successors. -/
theorem replace_head (h : g.Log (d :: es)) (hfirst : g.first e)
    (hfollows : ∀ e', g.follows d e' → g.follows e e') : g.Log (e :: es) := by
  induction es using List.reverseRecOn with
  | nil => exact log_snoc.mpr ⟨.nil, hfirst⟩
  | append_singleton es e' ih =>
    obtain ⟨h, hnext⟩ := log_snoc.mp (List.cons_append ▸ h)
    rw [← List.cons_append, log_snoc]
    constructor
    · exact ih h
    · cases es using List.reverseRecOn with
      | nil => exact hfollows e' hnext
      | append_singleton es d' =>
        rw [← List.cons_append, next_snoc] at hnext ⊢
        exact hnext

/-- Where every event that needs another one in the log either is that one or comes after an
event that needs it too, it is in the log. -/
theorem exists_of_backward {p q : ε → Prop} (h : g.Log log)
    (hfirst : ∀ e, g.first e → p e → q e) (hstep : ∀ d e, g.follows d e → p e → q e ∨ p d)
    (he : e ∈ log) (hp : p e) : ∃ d ∈ log, q d := by
  induction h generalizing e with
  | nil => cases he
  | @snoc log e' h hnext ih =>
    have hbefore (hmem : ∃ d ∈ log, p d) : ∃ d ∈ log ++ [e'], q d := by
      obtain ⟨d, hd, hpd⟩ := hmem
      obtain ⟨d', hd', hq⟩ := ih hd hpd
      exact ⟨d', List.mem_append_left _ hd', hq⟩
    rw [List.mem_append, List.mem_singleton] at he
    cases he with
    | inl he => exact hbefore ⟨e, he, hp⟩
    | inr he =>
      subst he
      cases log using List.reverseRecOn with
      | nil => exact ⟨e, by simp, hfirst e hnext hp⟩
      | append_singleton log d =>
        cases hstep d e (next_snoc.mp hnext) hp with
        | inl hq => exact ⟨e, by simp, hq⟩
        | inr hpd => exact hbefore ⟨d, by simp, hpd⟩

/-- What every event passes on to the next one holds of the last event once it holds of one. -/
theorem last_of_forward {p : ε → Prop} (h : g.Log (log ++ [d]))
    (hstep : ∀ d e, g.follows d e → p d → p e) (he : e ∈ log ++ [d]) (hp : p e) : p d := by
  induction log using List.reverseRecOn generalizing d with
  | nil =>
    rw [List.nil_append, List.mem_singleton] at he
    exact he ▸ hp
  | append_singleton log d' ih =>
    obtain ⟨h, hnext⟩ := log_snoc.mp h
    rw [List.mem_append, List.mem_singleton] at he
    cases he with
    | inl he => exact hstep d' d (next_snoc.mp hnext) (ih h he)
    | inr he => exact he ▸ hp

/-- Two things that last, once they hold of an event, do not both come up in a log. -/
theorem not_both {p p' : ε → Prop} (h : g.Log log) (hstep : ∀ d e, g.follows d e → p d → p e)
    (hstep' : ∀ d e, g.follows d e → p' d → p' e) (he : e ∈ log) (hp : p e) (hd : d ∈ log)
    (hp' : p' d) (hne : ¬ p' e) (hne' : ¬ p d) : False := by
  induction h with
  | nil => cases he
  | @snoc log a h hnext ih =>
    have hlast : g.Log (log ++ [a]) := h.snoc hnext
    rw [List.mem_append, List.mem_singleton] at he hd
    obtain he | rfl := he
    · obtain hd | rfl := hd
      · exact ih he hd
      · exact hne' (hlast.last_of_forward hstep (List.mem_append_left _ he) hp)
    · obtain hd | rfl := hd
      · exact hne (hlast.last_of_forward hstep' (List.mem_append_left _ hd) hp')
      · exact hne hp'

/-- An event is the first one, or comes after another. -/
theorem exists_before (h : g.Log log) (he : e ∈ log) :
    g.first e ∨ ∃ d ∈ log, g.follows d e := by
  induction h with
  | nil => cases he
  | @snoc log e' h hnext ih =>
    rw [List.mem_append, List.mem_singleton] at he
    cases he with
    | inl he =>
      apply (ih he).imp_right
      exact fun ⟨d, hd, hfollows⟩ => ⟨d, List.mem_append_left _ hd, hfollows⟩
    | inr he =>
      subst he
      cases log using List.reverseRecOn with
      | nil => exact .inl hnext
      | append_singleton log d => exact .inr ⟨d, by simp, next_snoc.mp hnext⟩

/-- Before the last event, every event is followed by another. -/
theorem exists_after (h : g.Log (log ++ [d])) (he : e ∈ log) :
    ∃ e' ∈ log ++ [d], g.follows e e' := by
  induction log using List.reverseRecOn generalizing d with
  | nil => cases he
  | append_singleton log d' ih =>
    obtain ⟨h, hnext⟩ := log_snoc.mp h
    rw [List.mem_append, List.mem_singleton] at he
    cases he with
    | inl he =>
      obtain ⟨e', he', hfollows⟩ := ih h he
      exact ⟨e', List.mem_append_left _ he', hfollows⟩
    | inr he => exact ⟨d, by simp, he ▸ next_snoc.mp hnext⟩

end Grammar.Log

end DeXFG.Library.EventGrammar
