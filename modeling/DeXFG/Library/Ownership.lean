import Mathlib.Data.Finset.Basic
import Mathlib.Logic.Function.Basic
import Mathlib.Tactic

/-!
# Resources with one owner

Numbered resources that are created one after the other, each held by one owner until it is
released. Nothing is held after its release, and nothing is left without an owner before it.
-/
namespace DeXFG.Library

/-- Who holds what, how many resources there have been, and which are released. -/
structure Ledger (O : Type*) where
  holds : O → Option ℕ
  created : ℕ
  released : Finset ℕ

namespace Ledger

variable {O : Type*}

structure Sound (L : Ledger O) : Prop where
  unique : ∀ {o o' r}, L.holds o = some r → L.holds o' = some r → o = o'
  live : ∀ {o r}, L.holds o = some r → r < L.created ∧ r ∉ L.released
  held : ∀ {r}, r < L.created → r ∉ L.released → ∃ o, L.holds o = some r
  bounded : ∀ {r}, r ∈ L.released → r < L.created

/-- What the owners that give up `rs` leave. -/
structure Releases (L : Ledger O) (rs : List ℕ) (L' : Ledger O) : Prop where
  created : L'.created = L.created
  released : L'.released = L.released ∪ rs.toFinset
  sub : ∀ {o r}, L'.holds o = some r → L.holds o = some r ∧ r ∉ rs
  kept : ∀ {o r}, L.holds o = some r → r ∉ rs → L'.holds o = some r
  owned : ∀ {r}, r ∈ rs → ∃ o, L.holds o = some r

variable {L L' : Ledger O}

theorem sound_empty : Sound { holds := fun _ : O => none, created := 0, released := ∅ } where
  unique h := by cases h
  live h := by cases h
  held h := absurd h (Nat.not_lt_zero _)
  bounded h := by simp at h

theorem Sound.release (h : L.Sound) {rs : List ℕ} (hrel : L.Releases rs L') : L'.Sound where
  unique ho ho' := h.unique (hrel.sub ho).1 (hrel.sub ho').1
  live {o r} ho := by
    obtain ⟨hheld, hnot⟩ := hrel.sub ho
    obtain ⟨hlt, hlive⟩ := h.live hheld
    rw [hrel.created, hrel.released, Finset.mem_union, List.mem_toFinset]
    exact ⟨hlt, not_or.mpr ⟨hlive, hnot⟩⟩
  held {r} hlt hnot := by
    rw [hrel.created] at hlt
    rw [hrel.released, Finset.mem_union, List.mem_toFinset, not_or] at hnot
    obtain ⟨o, ho⟩ := h.held hlt hnot.1
    exact ⟨o, hrel.kept ho hnot.2⟩
  bounded {r} hr := by
    rw [hrel.released, Finset.mem_union, List.mem_toFinset] at hr
    rw [hrel.created]
    rcases hr with hr | hr
    · exact h.bounded hr
    · obtain ⟨o, ho⟩ := hrel.owned hr
      exact (h.live ho).1

variable [DecidableEq O] {o o' : O} {r : ℕ}

/-- A new resource goes to an owner without one. -/
theorem Sound.create (h : L.Sound) (ho : L.holds o = none) (hcreated : L'.created = L.created + 1)
    (hreleased : L'.released = L.released)
    (hholds : L'.holds = Function.update L.holds o (some L.created)) : L'.Sound where
  unique {p p' r} hp hp' := by
    rw [hholds, Function.update_apply] at hp hp'
    split_ifs at hp hp' with hpo hpo' hpo'
    · rw [hpo, hpo']
    · rw [← Option.some.inj hp] at hp'
      exact absurd (h.live hp').1 (lt_irrefl _)
    · rw [← Option.some.inj hp'] at hp
      exact absurd (h.live hp).1 (lt_irrefl _)
    · exact h.unique hp hp'
  live {p r} hp := by
    rw [hholds, Function.update_apply] at hp
    rw [hcreated, hreleased]
    split_ifs at hp with hpo
    · rw [← Option.some.inj hp]
      exact ⟨Nat.lt_succ_self _, fun hmem => absurd (h.bounded hmem) (lt_irrefl _)⟩
    · exact ⟨(h.live hp).1.trans (Nat.lt_succ_self _), (h.live hp).2⟩
  held {r} hlt hnot := by
    rw [hcreated] at hlt
    rw [hreleased] at hnot
    rw [hholds]
    rcases (Nat.lt_succ_iff.mp hlt).eq_or_lt with rfl | hlt
    · exact ⟨o, Function.update_self _ _ _⟩
    · obtain ⟨p, hp⟩ := h.held hlt hnot
      have hpo : p ≠ o := by
        rintro rfl
        rw [ho] at hp
        cases hp
      exact ⟨p, by rw [Function.update_of_ne hpo, hp]⟩
  bounded {r} hr := by
    rw [hreleased] at hr
    rw [hcreated]
    exact (h.bounded hr).trans (Nat.lt_succ_self _)

/-- A resource goes from its owner to one without any. -/
theorem Sound.move (h : L.Sound) (ho : L.holds o = some r) (ho' : L.holds o' = none)
    (hcreated : L'.created = L.created) (hreleased : L'.released = L.released)
    (hholds : L'.holds = Function.update (Function.update L.holds o none) o' (some r)) :
    L'.Sound where
  unique {p p' q} hp hp' := by
    rw [hholds] at hp hp'
    simp only [Function.update_apply] at hp hp'
    split_ifs at hp hp' with h₁ h₂ h₃ h₄ h₅
    · rw [h₁, h₂]
    · rw [← Option.some.inj hp] at hp'
      exact absurd (h.unique hp' ho) h₃
    · rw [← Option.some.inj hp'] at hp
      exact absurd (h.unique hp ho) h₄
    · exact h.unique hp hp'
  live {p q} hp := by
    rw [hholds] at hp
    simp only [Function.update_apply] at hp
    rw [hcreated, hreleased]
    split_ifs at hp
    · rw [← Option.some.inj hp]
      exact h.live ho
    · exact h.live hp
  held {q} hlt hnot := by
    rw [hcreated] at hlt
    rw [hreleased] at hnot
    rw [hholds]
    obtain ⟨p, hp⟩ := h.held hlt hnot
    rcases eq_or_ne p o with rfl | hpo
    · rw [ho] at hp
      rw [← Option.some.inj hp]
      exact ⟨o', Function.update_self _ _ _⟩
    · have hpo' : p ≠ o' := by
        rintro rfl
        rw [ho'] at hp
        cases hp
      exact ⟨p, by rw [Function.update_of_ne hpo', Function.update_of_ne hpo, hp]⟩
  bounded {q} hq := by
    rw [hreleased] at hq
    rw [hcreated]
    exact h.bounded hq

end Ledger

end DeXFG.Library
