import Mathlib.Data.List.Nodup
import Mathlib.Tactic.Ring

/-!
# Lists in pages

A list that is asked for page by page: by number, or by the last entry of the page before.
-/
namespace DeXFG.Library.Paging

variable {α ε : Type}

def page (l : List α) (limit skip : ℕ) : List α := (l.drop skip).take limit

/-- Asks for the page after the last entry until there is none, at most `fuel` times. -/
def walk (query : ℕ → Option α → Except ε (List α)) : ℕ → ℕ → Option α → Except ε (List α)
  | 0, _, _ => .ok []
  | fuel + 1, i, after => do
    let entries ← query i after
    match entries.getLast? with
    | none => .ok []
    | some last => do
      let rest ← walk query fuel (i + 1) (some last)
      .ok (entries ++ rest)

/-- Asks for so many pages by their numbers. -/
def walkPages (query : ℕ → Except ε (List α)) : ℕ → Except ε (List α)
  | 0 => .ok []
  | n + 1 => do
    let entries ← walkPages query n
    let more ← query n
    .ok (entries ++ more)

variable {l : List α} {limit : ℕ}

/-- The entry before a position, if there is one. -/
def before (l : List α) : ℕ → Option α
  | 0 => none
  | k + 1 => l[k]?

theorem getLast?_page (hlimit : 0 < limit) {k : ℕ} (hk : k < l.length) :
    (page l limit k).getLast? = before l (min (k + limit) l.length) := by
  obtain ⟨m, hm⟩ : ∃ m, min (k + limit) l.length = m + 1 :=
    Nat.exists_eq_succ_of_ne_zero (by omega)
  have hlength : (page l limit k).length = m + 1 - k := by
    rw [page, List.length_take, List.length_drop]
    omega
  rw [hm, before, List.getLast?_eq_getElem?, hlength, page, List.getElem?_take, if_pos (by omega),
    List.getElem?_drop]
  congr 1
  omega

theorem drop_min (l : List α) (k : ℕ) : l.drop (min k l.length) = l.drop k := by
  by_cases hle : k ≤ l.length
  · rw [min_eq_left hle]
  · rw [min_eq_right (by omega), List.drop_length, List.drop_eq_nil_of_le (by omega)]

theorem walk_before {query : ℕ → Option α → Except ε (List α)} (hlimit : 0 < limit)
    (hquery : ∀ i k, k ≤ l.length → query i (before l k) = .ok (page l limit k))
    {fuel : ℕ} (i : ℕ) {k : ℕ} (hk : k ≤ l.length) (hfuel : l.length - k < fuel) :
    walk query fuel i (before l k) = .ok (l.drop k) := by
  induction fuel generalizing i k with
  | zero => omega
  | succ fuel ih =>
    rw [walk, hquery i k hk]
    by_cases hend : k = l.length
    · simp [hend, page, bind, Except.bind]
    · have hlt : k < l.length := by omega
      have hnext := getLast?_page hlimit hlt
      have hrest := ih (i + 1) (Nat.min_le_right (k + limit) l.length) (by omega)
      obtain ⟨m, hm⟩ : ∃ m, min (k + limit) l.length = m + 1 :=
        Nat.exists_eq_succ_of_ne_zero (by omega)
      rw [hm] at hnext hrest
      have hentry : before l (m + 1) = some l[m] := List.getElem?_eq_getElem (by omega)
      rw [hentry] at hnext hrest
      simp only [bind, Except.bind, hnext, hrest]
      rw [page, ← hm, drop_min, ← List.drop_drop, List.take_append_drop]

/-- By their last entries the pages are the list. -/
theorem walk_eq {query : ℕ → Option α → Except ε (List α)} (hlimit : 0 < limit)
    (hquery : ∀ i k, k ≤ l.length → query i (before l k) = .ok (page l limit k))
    {fuel : ℕ} (hfuel : l.length < fuel) (i : ℕ) : walk query fuel i none = .ok l := by
  have h := walk_before hlimit hquery i (Nat.zero_le l.length) (by omega)
  rwa [List.drop_zero] at h

/-- By their numbers the pages are the list. -/
theorem walkPages_eq {query : ℕ → Except ε (List α)} {n : ℕ}
    (hquery : ∀ k < n, query k = .ok (page l limit (k * limit))) :
    walkPages query n = .ok (l.take (n * limit)) := by
  induction n with
  | zero => simp [walkPages]
  | succ n ih =>
    rw [walkPages, ih fun k hk => hquery k (by omega), hquery n (Nat.lt_succ_self n),
      Nat.succ_mul, List.take_add]
    rfl

end DeXFG.Library.Paging
