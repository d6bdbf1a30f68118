import Mathlib.Tactic

/-!
# Scans that stop after a gap

A wallet looks for used indices one after the other and gives up once more than
`gap` of them in a row are unused. `frontier` is what it comes to know that way,
`Reaches` says which numbers of known indices can be justified step by step, and
the frontier is the largest of these. `Stops` says where a scan has to end.
-/
namespace DeXFG.Library.GapScan

/-- From `known` indices, with `unused` unused ones looked at behind them, the scan looks at
`fuel` more at most. -/
def frontier (used : ℕ → Bool) (gap : ℕ) : (fuel known unused : ℕ) → ℕ
  | 0, known, _ => known
  | fuel + 1, known, unused =>
    if unused ≤ gap then
      if used (known + unused) then frontier used gap fuel (known + unused + 1) 0
      else frontier used gap fuel known (unused + 1)
    else known

/-- Each used index that is known is at most `gap` behind the ones known before. -/
inductive Reaches (used : ℕ → Bool) (gap limit : ℕ) : ℕ → ℕ → Prop where
  | refl (n : ℕ) : Reaches used gap limit n n
  | step {n i m : ℕ} (hle : n ≤ i) (hgap : i ≤ n + gap) (hlt : i < limit) (hused : used i)
      (h : Reaches used gap limit (i + 1) m) : Reaches used gap limit n m

variable {used : ℕ → Bool} {gap limit fuel known unused m : ℕ}

theorem known_le_frontier : known ≤ frontier used gap fuel known unused := by
  induction fuel generalizing known unused with
  | zero => exact Nat.le_refl _
  | succ fuel ih =>
    rw [frontier]
    split
    · split
      · have h : known + unused + 1 ≤ frontier used gap fuel (known + unused + 1) 0 := ih
        omega
      · exact ih
    · exact Nat.le_refl _

theorem reaches_frontier (h : known + unused + fuel = limit) :
    Reaches used gap limit known (frontier used gap fuel known unused) := by
  induction fuel generalizing known unused with
  | zero => exact .refl known
  | succ fuel ih =>
    rw [frontier]
    split
    · next hgap =>
      split
      · next hused => exact .step (by omega) (by omega) (by omega) hused (ih (by omega))
      · exact ih (by omega)
    · exact .refl known

/-- The scan misses nothing that can be reached. -/
theorem le_frontier_of_reaches (h : known + unused + fuel = limit)
    (hunused : ∀ i, known ≤ i → i < known + unused → used i = false)
    (hm : Reaches used gap limit known m) : m ≤ frontier used gap fuel known unused := by
  induction fuel generalizing known unused with
  | zero =>
    cases hm with
    | refl => exact Nat.le_refl _
    | step hle hgap hlt hused _ => simp [hunused _ hle (by omega)] at hused
  | succ fuel ih =>
    cases hm with
    | refl => exact known_le_frontier
    | @step _ i _ hle hgap hlt hused hrest =>
      have hi : known + unused ≤ i := by
        by_contra hlt'
        simp [hunused i hle (by omega)] at hused
      rw [frontier, if_pos (by omega)]
      by_cases hu : used (known + unused)
      · rw [if_pos hu]
        apply ih (by omega) (by intro j hj hj'; omega)
        by_cases hsame : i = known + unused
        · exact hsame ▸ hrest
        · exact .step (by omega) (by omega) hlt hused hrest
      · rw [if_neg hu]
        apply ih (by omega)
        · intro j hj hj'
          by_cases hsame : j = known + unused
          · simpa [hsame] using hu
          · exact hunused j hj (by omega)
        · exact .step hle hgap hlt hused hrest

/-- The frontier is the largest number that can be reached. -/
theorem le_frontier_iff : m ≤ frontier used gap (limit - known) known 0 ↔
    m ≤ known ∨ ∃ n, m ≤ n ∧ Reaches used gap limit known n := by
  by_cases hlt : known ≤ limit
  · constructor
    · exact fun h => .inr ⟨_, h, reaches_frontier (by omega)⟩
    · rintro (h | ⟨n, hn, hr⟩)
      · exact le_trans h known_le_frontier
      · exact le_trans hn (le_frontier_of_reaches (by omega) (by intro i h h'; omega) hr)
  · have hfuel : limit - known = 0 := by omega
    rw [hfuel]
    constructor
    · exact .inl
    · rintro (h | ⟨n, hn, hr⟩)
      · exact h
      · cases hr with
        | refl => exact hn
        | step hle _ hlt' _ _ => omega

/-! ## Where a scan stops -/

/-- The number of unused indices in a row right before `first + n`, none of them before
`first`. -/
def trail (used : ℕ → Bool) (first : ℕ) : ℕ → ℕ
  | 0 => 0
  | n + 1 => if used (first + n) then 0 else trail used first n + 1

/-- The numbers of indices after which there is none left or a gap has been found. -/
def Stops (used : ℕ → Bool) (first limit gap : ℕ) : Set ℕ :=
  {n | limit ≤ first + n ∨ gap ≤ trail used first n}

variable {first n i : ℕ}

theorem trail_le : trail used first n ≤ n := by
  induction n with
  | zero => exact Nat.le_refl _
  | succ n ih =>
    rw [trail]
    split <;> omega

theorem unused_of_trail (hlow : first + n ≤ i + trail used first n) (hhigh : i < first + n) :
    used i = false := by
  induction n with
  | zero =>
    rw [trail] at hlow
    omega
  | succ n ih =>
    rw [trail] at hlow
    by_cases hu : used (first + n)
    · rw [if_pos hu] at hlow
      omega
    · by_cases hlast : i = first + n
      · simpa [hlast] using hu
      · rw [if_neg hu] at hlow
        exact ih (by omega) (by omega)

/-- The index before the row is used. -/
theorem used_before_trail (h : trail used first n < n) :
    used (first + n - trail used first n - 1) := by
  induction n with
  | zero => omega
  | succ n ih =>
    rw [trail] at h ⊢
    by_cases hu : used (first + n)
    · rw [if_pos hu]
      simpa using hu
    · rw [if_neg hu] at h ⊢
      have hprev := ih (by omega)
      have hindex : first + (n + 1) - (trail used first n + 1) - 1 =
          first + n - trail used first n - 1 := by omega
      rwa [hindex]

/-- A scan that tolerates one more stops at the same index just where no gap ends before the
limit. -/
theorem isLeast_stops_iff (h : IsLeast (Stops used first limit (gap + 1)) n) :
    IsLeast (Stops used first limit gap) n ↔
      ∀ m, first + m < limit → trail used first m < gap := by
  have hstop : ∀ m, m < n → first + m < limit ∧ trail used first m < gap + 1 := by
    intro m hm
    have hnot : m ∉ Stops used first limit (gap + 1) := fun hmem => absurd (h.2 hmem) (by omega)
    simp only [Stops, Set.mem_ofPred_eq, not_or, not_le] at hnot
    exact hnot
  constructor
  · intro hleast m hlimit
    by_contra hgap
    have hbefore : ∀ k, k < n → trail used first k < gap := by
      intro k hk
      by_contra hk'
      have hmem : k ∈ Stops used first limit gap := .inr (not_lt.mp hk')
      exact absurd (hleast.2 hmem) (by omega)
    -- at `n` the row is longer than it can have become
    have hlast : n ≤ m := by
      by_contra hlt
      exact hgap (hbefore m (by omega))
    have hn : gap + 1 ≤ trail used first n := h.1.resolve_left (by omega)
    cases n with
    | zero => simp [trail] at hn
    | succ k =>
      have hk := hbefore k (Nat.lt_succ_self k)
      rw [trail] at hn
      split at hn <;> omega
  · intro hgap
    constructor
    · exact h.1.imp_right fun hn => by omega
    · intro m hm
      by_contra hlt
      have hbound := (hstop m (by omega)).1
      have := hm.resolve_left (by omega)
      exact absurd (hgap m hbound) (by omega)

end DeXFG.Library.GapScan
