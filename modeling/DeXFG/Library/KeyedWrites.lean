import DeXFG.Library.FiniteMap

/-!
# Sequences of writes to a finite map

A write stores a value under a key or deletes the key. After a sequence of
writes every key holds what the last write to it says, and keys that were not
written keep their value.
-/
namespace DeXFG.Library.KeyedWrites
open DeXFG.Library.FiniteMap

variable {K V : Type*} [DecidableEq K]

/-- A write: `some v` stores `v`, `none` deletes the key. -/
abbrev Write (K V : Type*) := K × Option V

def applyWrite (m : HashMap K V) (w : Write K V) : HashMap K V :=
  match w.2 with
  | some v => m.insert w.1 v
  | none => m.erase w.1

def applyWrites (m : HashMap K V) (ws : List (Write K V)) : HashMap K V :=
  ws.foldl applyWrite m

/-- The value of the last write to a key; `none` when the key is not written. -/
def lastWrite : List (Write K V) → K → Option (Option V)
  | [], _ => none
  | w :: ws, k => (lastWrite ws k).or (if w.1 = k then some w.2 else none)

variable {m : HashMap K V} {w : Write K V} {ws : List (Write K V)} {k : K} {v : V}

theorem lookup_applyWrite (k : K) :
    (applyWrite m w).lookup k = if w.1 = k then w.2 else m.lookup k := by
  rcases w with ⟨k', _ | v⟩
  · by_cases h : k' = k
    · simp [applyWrite, h]
    · simp [applyWrite, h, Finmap.lookup_erase_ne (Ne.symm h)]
  · by_cases h : k' = k
    · simp [applyWrite, h]
    · simp [applyWrite, h, Finmap.lookup_insert_of_ne _ (Ne.symm h)]

@[simp] theorem applyWrites_nil : applyWrites m [] = m := rfl

@[simp] theorem applyWrites_cons : applyWrites m (w :: ws) = applyWrites (applyWrite m w) ws := rfl

theorem applyWrites_append (ws' : List (Write K V)) :
    applyWrites m (ws ++ ws') = applyWrites (applyWrites m ws) ws' := by
  rw [applyWrites, List.foldl_append]
  rfl

/-- The last write wins. -/
theorem lookup_applyWrites (k : K) :
    (applyWrites m ws).lookup k = (lastWrite ws k).getD (m.lookup k) := by
  induction ws generalizing m with
  | nil => rfl
  | cons w ws ih =>
    rw [applyWrites_cons, ih, lookup_applyWrite, lastWrite]
    by_cases h : w.1 = k
    · cases lastWrite ws k <;> simp [h]
    · cases lastWrite ws k <;> simp [h]

theorem lastWrite_append (ws' : List (Write K V)) :
    lastWrite (ws ++ ws') k = (lastWrite ws' k).or (lastWrite ws k) := by
  induction ws with
  | nil => simp [lastWrite]
  | cons w ws ih => rw [List.cons_append, lastWrite, ih, lastWrite, Option.or_assoc]

theorem lastWrite_eq_none : lastWrite ws k = none ↔ ∀ w ∈ ws, w.1 ≠ k := by
  induction ws with
  | nil => simp [lastWrite]
  | cons w ws ih => simp [lastWrite, Option.or_eq_none_iff, ih, and_comm]

theorem mem_of_lastWrite {v : Option V} (h : lastWrite ws k = some v) : (k, v) ∈ ws := by
  induction ws with
  | nil => cases h
  | cons w ws ih =>
    rw [lastWrite, Option.or_eq_some_iff] at h
    rcases h with h | ⟨_, h⟩
    · exact List.mem_cons_of_mem _ (ih h)
    · by_cases hk : w.1 = k
      · rw [if_pos hk, Option.some.injEq] at h
        rw [← hk, ← h]
        exact List.mem_cons_self
      · rw [if_neg hk] at h
        cases h

section FlatMap

variable {E : Type*} {f : K × E → List (Write K V)} {l : List (K × E)}

theorem lastWrite_flatMap_of_notMem (hkey : ∀ e ∈ l, ∀ w ∈ f e, w.1 = e.1)
    (h : k ∉ l.map Prod.fst) : lastWrite (l.flatMap f) k = none := by
  rw [lastWrite_eq_none]
  rintro w hw rfl
  obtain ⟨e, he, hmem⟩ := List.mem_flatMap.mp hw
  exact h (List.mem_map.mpr ⟨e, he, (hkey e he w hmem).symm⟩)

/-- Entries with different keys that each write their own key only do not disturb each other. -/
theorem lastWrite_flatMap_of_mem (hkey : ∀ e ∈ l, ∀ w ∈ f e, w.1 = e.1)
    (hnodup : (l.map Prod.fst).Nodup) {x : E} (h : (k, x) ∈ l) :
    lastWrite (l.flatMap f) k = lastWrite (f (k, x)) k := by
  induction l with
  | nil => cases h
  | cons e l ih =>
    rw [List.map_cons, List.nodup_cons] at hnodup
    have hrest : ∀ e' ∈ l, ∀ w ∈ f e', w.1 = e'.1 :=
      fun e' he' => hkey e' (List.mem_cons_of_mem _ he')
    rw [List.flatMap_cons, lastWrite_append]
    rcases List.mem_cons.mp h with rfl | hmem
    · rw [lastWrite_flatMap_of_notMem hrest hnodup.1, Option.none_or]
    · have hnone : lastWrite (f e) k = none := by
        rw [lastWrite_eq_none]
        rintro w hw rfl
        rw [hkey e List.mem_cons_self w hw] at hmem
        exact hnodup.1 (List.mem_map.mpr ⟨(e.1, x), hmem, rfl⟩)
      rw [ih hrest hnodup.2 hmem, hnone, Option.or_none]

end FlatMap

/-! ### Writes collected in a map -/

/-- Collecting writes in a map keeps the last one of every key. -/
theorem lookup_insertAll (delta : HashMap K (Option V)) (k : K) :
    (insertAll delta ws).lookup k = (lastWrite ws k).or (delta.lookup k) := by
  induction ws generalizing delta with
  | nil => rfl
  | cons w ws ih =>
    change (insertAll (delta.insert w.1 w.2) ws).lookup k = _
    rw [ih, lastWrite, Option.or_assoc]
    by_cases h : w.1 = k
    · rw [if_pos h, ← h, Finmap.lookup_insert, Option.some_or]
    · rw [if_neg h, Finmap.lookup_insert_of_ne _ (Ne.symm h), Option.none_or]

section Encode

variable {B : Type*} (encode : V → B)

/-- The write of the encoded value. -/
def encodeWrite (w : Write K V) : Write K B := (w.1, w.2.map encode)

theorem lastWrite_map_encodeWrite (ws : List (Write K V)) (k : K) :
    lastWrite (ws.map (encodeWrite encode)) k = (lastWrite ws k).map (Option.map encode) := by
  induction ws with
  | nil => rfl
  | cons w ws ih =>
    rw [List.map_cons, lastWrite, ih, lastWrite]
    by_cases h : w.1 = k
    · cases lastWrite ws k <;> simp [encodeWrite, h]
    · cases lastWrite ws k <;> simp [encodeWrite, h]

/-- Apply collected writes of encoded values, each key once. -/
noncomputable def applyDelta (m : HashMap K B) (delta : HashMap K (Option V)) : HashMap K B :=
  applyWrites m ((toList delta).map (encodeWrite encode))

theorem lastWrite_eq_of_nodup {v : Option V} (hnodup : (ws.map Prod.fst).Nodup) :
    lastWrite ws k = some v ↔ (k, v) ∈ ws := by
  constructor
  · exact mem_of_lastWrite
  · intro hmem
    induction ws with
    | nil => cases hmem
    | cons w ws ih =>
      rw [List.map_cons, List.nodup_cons] at hnodup
      rw [lastWrite]
      rcases List.mem_cons.mp hmem with rfl | htail
      · have hnone : lastWrite ws k = none := by
          rw [lastWrite_eq_none]
          rintro w hw rfl
          exact hnodup.1 (List.mem_map.mpr ⟨w, hw, rfl⟩)
        simp [hnone]
      · rw [ih hnodup.2 htail, Option.some_or]

theorem lastWrite_toList (delta : HashMap K (Option V)) (k : K) :
    lastWrite (toList delta) k = delta.lookup k := by
  ext v
  rw [lastWrite_eq_of_nodup (nodup_toList delta), mem_toList]

theorem lookup_applyDelta (m : HashMap K B) (delta : HashMap K (Option V)) (k : K) :
    (applyDelta encode m delta).lookup k =
      ((delta.lookup k).map (Option.map encode)).getD (m.lookup k) := by
  rw [applyDelta, lookup_applyWrites, lastWrite_map_encodeWrite, lastWrite_toList]

/-- Writes may be collected before they are applied. -/
theorem applyDelta_insertAll (m : HashMap K B) :
    applyDelta encode m (insertAll ∅ ws) = applyWrites m (ws.map (encodeWrite encode)) := by
  refine Finmap.ext_lookup fun k => ?_
  rw [lookup_applyDelta, lookup_applyWrites, lookup_insertAll, lastWrite_map_encodeWrite,
    Finmap.lookup_empty, Option.or_none]

end Encode

end DeXFG.Library.KeyedWrites
