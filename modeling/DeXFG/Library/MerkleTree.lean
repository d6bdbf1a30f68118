import Mathlib.Data.List.Basic

/-!
# Merkle trees over rows

The row above a row has a node for each pair, and one for the last element with
itself if it is left over. The branch of a position folds to the root, whatever
the nodes are made with.
-/
namespace DeXFG.Library.MerkleTree

variable {α : Type} (node : α → α → α)

/-- The row above a row. -/
def above : List α → List α
  | a :: b :: row => node a b :: above row
  | [a] => [node a a]
  | [] => []

/-- The element beside a position, itself if there is none. -/
def sibling (row : List α) (i : ℕ) : Option α :=
  if i % 2 = 1 then row[i - 1]?
  else match row[i + 1]? with
    | some a => some a
    | none => row[i]?

/-- What is folded with an element at a position. -/
def join (i : ℕ) (current next : α) : α :=
  if i % 2 = 1 then node next current else node current next

/-- An element folded with the nodes of a branch. -/
def fold : α → List α → ℕ → α
  | current, [], _ => current
  | current, next :: nodes, i => fold (join node i current next) nodes (i / 2)

@[simp] theorem fold_nil (a : α) (i : ℕ) : fold node a [] i = a := rfl

@[simp] theorem fold_cons (a next : α) (nodes : List α) (i : ℕ) :
    fold node a (next :: nodes) i = fold node (join node i a next) nodes (i / 2) := rfl

variable {node} {row : List α} {a : α} {i : ℕ}

theorem length_above (row : List α) : (above node row).length = (row.length + 1) / 2 := by
  induction row using above.induct with
  | case1 a b row ih =>
    simp only [above, List.length_cons, ih]
    omega
  | case2 a => simp [above]
  | case3 => simp [above]

theorem exists_sibling (h : row[i]? = some a) : ∃ b, sibling row i = some b := by
  have hlt : i < row.length := (List.getElem?_eq_some_iff.mp h).1
  unfold sibling
  split
  · exact ⟨_, List.getElem?_eq_getElem (by omega)⟩
  · cases hnext : row[i + 1]? with
    | some b => exact ⟨b, rfl⟩
    | none => exact ⟨a, h⟩

/-- An element and the one beside it make the node above them. -/
theorem getElem?_above {b : α} (h : row[i]? = some a) (hb : sibling row i = some b) :
    (above node row)[i / 2]? = some (join node i a b) := by
  induction row using above.induct generalizing i with
  | case1 x y row ih =>
    match i, h, hb with
    | 0, h, hb =>
      simp only [List.getElem?_cons_zero, Option.some.injEq] at h
      simp only [sibling, Nat.zero_mod, Nat.zero_ne_one, if_false, List.getElem?_cons_succ,
        List.getElem?_cons_zero, Option.some.injEq] at hb
      simp [above, join, h, hb]
    | 1, h, hb =>
      simp only [List.getElem?_cons_succ, List.getElem?_cons_zero, Option.some.injEq] at h
      simp only [sibling, Nat.one_mod, if_true, Nat.sub_self, List.getElem?_cons_zero,
        Option.some.injEq] at hb
      simp [above, join, h, hb]
    | j + 2, h, hb =>
      have hmod : (j + 2) % 2 = j % 2 := by omega
      have hdiv : (j + 2) / 2 = j / 2 + 1 := by omega
      have hb' : sibling row j = some b := by
        rw [← hb]
        unfold sibling
        rw [hmod]
        by_cases hodd : j % 2 = 1
        · have hsub : j + 2 - 1 = (j - 1) + 1 + 1 := by omega
          simp [hodd, hsub]
        · simp [hodd]
      rw [hdiv, above, List.getElem?_cons_succ, ih h hb']
      simp [join, hmod]
  | case2 x =>
    match i, h, hb with
    | 0, h, hb =>
      simp only [List.getElem?_cons_zero, Option.some.injEq] at h
      simp only [sibling, Nat.zero_mod, Nat.zero_ne_one, if_false, List.getElem?_cons_succ,
        List.getElem?_nil, List.getElem?_cons_zero, Option.some.injEq] at hb
      simp [above, join, ← h, ← hb]
  | case3 => simp at h

variable (node)

/-- The last row above a row, with as many rows as there are elements at most. -/
def rootFrom : ℕ → List α → Option α
  | 0, _ => none
  | fuel + 1, row =>
    if row.length = 1 then row.head? else rootFrom fuel (above node row)

/-- What is beside the way from a position to the root. -/
def branchFrom : ℕ → List α → ℕ → List α
  | 0, _, _ => []
  | fuel + 1, row, i =>
    if row.length = 1 then []
    else (sibling row i).toList ++ branchFrom fuel (above node row) (i / 2)

/-- The root of a row; a row without elements has none. -/
def root (row : List α) : Option α := rootFrom node row.length row

def branch (row : List α) (i : ℕ) : List α := branchFrom node row.length row i

variable {node}

/-- The branch of a position folds to the root. -/
theorem fold_branchFrom {fuel : ℕ} (hfuel : row.length ≤ fuel) (h : row[i]? = some a) :
    rootFrom node fuel row = some (fold node a (branchFrom node fuel row i) i) := by
  induction fuel generalizing row a i with
  | zero =>
    have hlt : i < row.length := (List.getElem?_eq_some_iff.mp h).1
    omega
  | succ fuel ih =>
    have hlt : i < row.length := (List.getElem?_eq_some_iff.mp h).1
    rw [rootFrom, branchFrom]
    split
    · rename_i hone
      have hi : i = 0 := by omega
      rw [hi, ← List.head?_eq_getElem?] at h
      rw [h, fold_nil]
    · rename_i hone
      obtain ⟨b, hb⟩ := exists_sibling h
      have habove := @getElem?_above _ node _ _ _ _ h hb
      rw [hb, Option.toList_some, List.singleton_append, fold_cons]
      apply ih _ habove
      rw [length_above]
      omega

theorem fold_branch (h : row[i]? = some a) :
    root node row = some (fold node a (branch node row i) i) :=
  fold_branchFrom (Nat.le_refl _) h

end DeXFG.Library.MerkleTree
