import Mathlib.Data.List.Infix

/-!
# The shortest prefix that passes a test

A loop that takes elements one by one and tests what it has taken after each of
them stops with the shortest nonempty prefix that passes, or takes everything.
-/
namespace DeXFG.Library.ShortestPrefix

variable {α : Type*} {P : List α → Prop} {l best : List α}

/-- The shortest prefix of `l` that satisfies `P`, or all of `l` when there is none. -/
structure IsShortest (P : List α → Prop) (l best : List α) : Prop where
  isPrefix : best <+: l
  reaches : P best ∨ best = l
  shorter : ∀ p, p <+: best → p ≠ best → ¬ P p

/-- There is only one. -/
theorem IsShortest.eq {best' : List α} (h : IsShortest P l best) (h' : IsShortest P l best') :
    best = best' := by
  have hle {a b : List α} (ha : IsShortest P l a) (hb : IsShortest P l b) (hab : a <+: b) :
      a = b := by
    by_contra hne
    rcases ha.reaches with hP | hall
    · exact hb.shorter a hab hne hP
    · exact hne (hab.eq_of_length_le (hall ▸ hb.isPrefix.length_le))
  rcases List.prefix_or_prefix_of_prefix h.isPrefix h'.isPrefix with hab | hba
  · exact hle h h' hab
  · exact (hle h' h hba).symm

variable [DecidablePred P]

/-- Take elements until what is taken satisfies `P`. -/
def takeUntil (P : List α → Prop) [DecidablePred P] (taken : List α) : List α → List α
  | [] => taken
  | a :: rest =>
    if P (taken ++ [a]) then taken ++ [a] else takeUntil P (taken ++ [a]) rest

/-- The loop invariant: nothing taken before satisfied `P`. -/
theorem takeUntil_isShortest {taken rest : List α} (h : ∀ p, p <+: taken → ¬ P p) :
    IsShortest P (taken ++ rest) (takeUntil P taken rest) := by
  induction rest generalizing taken with
  | nil =>
    rw [List.append_nil, takeUntil]
    exact { isPrefix := List.prefix_rfl, reaches := .inr rfl, shorter := fun p hp _ => h p hp }
  | cons a rest ih =>
    have happend : taken ++ a :: rest = (taken ++ [a]) ++ rest := by simp
    rw [takeUntil, happend]
    split
    next hP =>
      refine { isPrefix := List.prefix_append _ _, reaches := .inl hP, shorter := ?_ }
      intro p hp hne
      rcases List.prefix_concat_iff.mp hp with hall | hp
      · exact absurd hall hne
      · exact h p hp
    next hP =>
      apply ih
      intro p hp
      rcases List.prefix_concat_iff.mp hp with rfl | hp
      · exact hP
      · exact h p hp

end DeXFG.Library.ShortestPrefix
