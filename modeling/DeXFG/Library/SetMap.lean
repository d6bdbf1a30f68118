import DeXFG.Library.FiniteMap
import Mathlib.Data.Finset.Sort

/-!
# Finite maps whose values are finite sets

An index from keys to sets: `valuesAt` reads an absent key as the empty set,
`addTo` creates the set when it is missing and `dropFrom` removes the key with
its last value. `dropFrom` and `addTo` are known by the sets they leave.
-/
namespace DeXFG.Library.SetMap
open DeXFG.Library.FiniteMap

variable {K V : Type*} [DecidableEq K]

/-- The values stored under a key. -/
def valuesAt (m : HashMap K (Finset V)) (k : K) : Finset V := (m.lookup k).getD ∅

/-- Add a value under a key. -/
def addTo [DecidableEq V] (m : HashMap K (Finset V)) (k : K) (v : V) : HashMap K (Finset V) :=
  m.insert k (insert v (valuesAt m k))

/-- Remove a value under a key, and the key itself when no value is left. -/
def dropFrom [DecidableEq V] (m : HashMap K (Finset V)) (k : K) (v : V) : HashMap K (Finset V) :=
  match m.lookup k with
  | some values => if values.erase v = ∅ then m.erase k else m.insert k (values.erase v)
  | none => m

variable {m : HashMap K (Finset V)} {k k' : K} {v w : V} {values : Finset V}

@[simp] theorem valuesAt_empty (k : K) : valuesAt (∅ : HashMap K (Finset V)) k = ∅ := by
  simp [valuesAt]

theorem valuesAt_of_lookup (h : m.lookup k = some values) : valuesAt m k = values := by
  rw [valuesAt, h, Option.getD_some]

@[simp] theorem valuesAt_insert_self : valuesAt (m.insert k values) k = values := by
  rw [valuesAt, Finmap.lookup_insert, Option.getD_some]

theorem valuesAt_insert_of_ne (h : k' ≠ k) : valuesAt (m.insert k values) k' = valuesAt m k' := by
  rw [valuesAt, Finmap.lookup_insert_of_ne _ h, valuesAt]

section Changes

variable [DecidableEq V]

theorem valuesAt_addTo (k' : K) :
    valuesAt (addTo m k v) k' = if k' = k then insert v (valuesAt m k) else valuesAt m k' := by
  unfold addTo
  by_cases h : k' = k
  · rw [if_pos h, h, valuesAt_insert_self]
  · rw [if_neg h, valuesAt_insert_of_ne h]

theorem mem_valuesAt_addTo :
    w ∈ valuesAt (addTo m k v) k' ↔ (k' = k ∧ w = v) ∨ w ∈ valuesAt m k' := by
  rw [valuesAt_addTo]
  by_cases h : k' = k
  · simp [h]
  · simp [h]

theorem valuesAt_dropFrom (k' : K) :
    valuesAt (dropFrom m k v) k' = if k' = k then (valuesAt m k).erase v else valuesAt m k' := by
  unfold dropFrom
  cases hlookup : m.lookup k with
  | none =>
    have hk : valuesAt m k = ∅ := by rw [valuesAt, hlookup, Option.getD_none]
    by_cases h : k' = k
    · simp [h, hk]
    · simp [h]
  | some values =>
    rw [valuesAt_of_lookup hlookup]
    by_cases hempty : values.erase v = ∅
    · simp only [hempty, if_true]
      by_cases h : k' = k
      · rw [if_pos h, h, valuesAt, Finmap.lookup_erase, Option.getD_none]
      · rw [if_neg h, valuesAt, Finmap.lookup_erase_ne h, valuesAt]
    · simp only [hempty, if_false]
      by_cases h : k' = k
      · rw [if_pos h, h, valuesAt_insert_self]
      · rw [if_neg h, valuesAt_insert_of_ne h]

theorem mem_valuesAt_dropFrom :
    w ∈ valuesAt (dropFrom m k v) k' ↔ w ∈ valuesAt m k' ∧ ¬(k' = k ∧ w = v) := by
  rw [valuesAt_dropFrom]
  by_cases h : k' = k
  · simp [h, and_comm]
  · simp [h]

end Changes

/-! ### Iteration orders -/

/-- An order in which the elements of a set are visited. -/
structure SetIteration (V : Type*) where
  toList : Finset V → List V
  mem_toList : ∀ s v, v ∈ toList s ↔ v ∈ s
  nodup_toList : ∀ s, (toList s).Nodup

/-- The elements in increasing order. -/
def sortedSetIteration [LinearOrder V] : SetIteration V where
  toList s := s.sort (· ≤ ·)
  mem_toList _ _ := Finset.mem_sort _
  nodup_toList _ := Finset.sort_nodup _ _

theorem SetIteration.toList_empty (it : SetIteration V) : it.toList ∅ = [] := by
  rw [List.eq_nil_iff_forall_not_mem]
  intro v hv
  rw [it.mem_toList] at hv
  cases hv

/-! ### The first element of an ordered set that passes a test -/

/-- The least element satisfying the test, as an ordered iteration finds it. -/
def firstWhere [LinearOrder V] (p : V → Bool) (s : Finset V) : Option V :=
  (s.sort (· ≤ ·)).find? p

theorem mem_of_firstWhere [LinearOrder V] {p : V → Bool} {s : Finset V}
    (h : firstWhere p s = some v) : v ∈ s ∧ p v = true := by
  constructor
  · have hmem := List.mem_of_find?_eq_some h
    rwa [Finset.mem_sort] at hmem
  · exact List.find?_some h

theorem firstWhere_eq_none [LinearOrder V] {p : V → Bool} {s : Finset V} :
    firstWhere p s = none ↔ ∀ v ∈ s, p v = false := by
  simp [firstWhere]

end DeXFG.Library.SetMap
