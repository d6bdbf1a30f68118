import Mathlib.Data.Finmap
import Mathlib.Data.Finset.Sort
import Mathlib.Algebra.BigOperators.Group.Multiset.Basic
import Mathlib.Algebra.Order.BigOperators.Group.Multiset
import Mathlib.Tactic

/-!
# Finite maps: filtering and sums over the values

A hash map is a finite map from keys to values of one type. The two bulk
operations used by state machines over such maps are `retain`, which keeps the
entries that pass a test, and `sum`, which adds a weight over all values.
-/
namespace DeXFG.Library.FiniteMap

/-- A finite map whose values all have the same type. -/
abbrev HashMap (K V : Type*) := Finmap fun _ : K => V

variable {K V W : Type*}

/-- The map keeping exactly the entries that satisfy the test. -/
def retain (p : K → V → Bool) (m : HashMap K V) : HashMap K V where
  entries := m.entries.filter fun e => p e.1 e.2
  nodupKeys := by
    have hkeys : m.entries.keys.Nodup := Multiset.nodup_keys.mpr m.nodupKeys
    exact Multiset.nodup_keys.mp
      (Multiset.nodup_of_le (Multiset.map_le_map (Multiset.filter_le _ _)) hkeys)

/-- Some value of the map satisfies the test. -/
def anyValue (p : V → Bool) (m : HashMap K V) : Bool :=
  decide (0 < m.entries.countP fun e => p e.2 = true)

/-- The sum of a weight over all values of the map. -/
def sum [AddCommMonoid W] (f : V → W) (m : HashMap K V) : W :=
  (m.entries.map fun e => f e.2).sum

/-- The entries of a map in some order. -/
noncomputable def toList (m : HashMap K V) : List (K × V) :=
  m.entries.toList.map fun e => (e.1, e.2)

theorem nodup_toList (m : HashMap K V) : ((toList m).map Prod.fst).Nodup := by
  have hkeys : m.entries.keys.Nodup := Multiset.nodup_keys.mpr m.nodupKeys
  rw [toList, List.map_map, ← Multiset.coe_nodup, ← Multiset.map_coe, Multiset.coe_toList]
  exact hkeys

/-- The map with every value changed by `f`. -/
def mapValues (f : V → W) (m : HashMap K V) : HashMap K W where
  entries := m.entries.map fun e => ⟨e.1, f e.2⟩
  nodupKeys := by
    have hkeys : m.entries.keys.Nodup := Multiset.nodup_keys.mpr m.nodupKeys
    rw [← Multiset.nodup_keys, Multiset.keys, Multiset.map_map]
    exact hkeys

section Lookup

variable [DecidableEq K]

theorem lookup_mapValues (f : V → W) (m : HashMap K V) (k : K) :
    (mapValues f m).lookup k = (m.lookup k).map f := by
  ext w
  rw [Finmap.lookup_eq_some_iff, Option.map_eq_some_iff]
  simp only [mapValues, Multiset.mem_map, Finmap.lookup_eq_some_iff]
  constructor
  · rintro ⟨⟨k', v⟩, hmem, heq⟩
    obtain ⟨rfl, hw⟩ := Sigma.mk.inj heq
    exact ⟨v, hmem, eq_of_heq hw⟩
  · rintro ⟨v, hmem, rfl⟩
    exact ⟨⟨k, v⟩, hmem, rfl⟩

theorem lookup_retain (p : K → V → Bool) (m : HashMap K V) (k : K) :
    (retain p m).lookup k = (m.lookup k).filter (p k) := by
  ext v
  rw [Finmap.lookup_eq_some_iff]
  simp only [retain, Multiset.mem_filter, Option.filter_eq_some_iff, Finmap.lookup_eq_some_iff]

theorem anyValue_eq_true (p : V → Bool) (m : HashMap K V) :
    anyValue p m = true ↔ ∃ k v, m.lookup k = some v ∧ p v = true := by
  rw [anyValue, decide_eq_true_eq, Multiset.countP_pos]
  constructor
  · rintro ⟨e, hmem, hp⟩
    exact ⟨e.1, e.2, Finmap.lookup_eq_some_iff.mpr hmem, hp⟩
  · rintro ⟨k, v, hlookup, hp⟩
    exact ⟨⟨k, v⟩, Finmap.lookup_eq_some_iff.mp hlookup, hp⟩

theorem anyValue_eq_false (p : V → Bool) (m : HashMap K V) :
    anyValue p m = false ↔ ∀ k v, m.lookup k = some v → p v = false := by
  rw [← Bool.not_eq_true, anyValue_eq_true]
  push Not
  simp

/-- Every entry of the multiset view is found by lookup. -/
theorem forall_entries_iff (P : V → Prop) (m : HashMap K V) :
    (∀ e ∈ m.entries, P e.2) ↔ ∀ k v, m.lookup k = some v → P v := by
  constructor
  · intro h k v hlookup
    exact h ⟨k, v⟩ (Finmap.lookup_eq_some_iff.mp hlookup)
  · intro h e hmem
    exact h e.1 e.2 (Finmap.lookup_eq_some_iff.mpr hmem)

theorem lookup_insert_eq_some {m : HashMap K V} {k k' : K} {v v' : V} :
    (m.insert k v).lookup k' = some v' ↔ (k' = k ∧ v' = v) ∨ (k' ≠ k ∧ m.lookup k' = some v') := by
  rcases eq_or_ne k' k with rfl | hne
  · simp [Finmap.lookup_insert, eq_comm]
  · simp [Finmap.lookup_insert_of_ne _ hne, hne]

theorem lookup_erase_eq_some {m : HashMap K V} {k k' : K} {v : V} :
    (m.erase k).lookup k' = some v ↔ k' ≠ k ∧ m.lookup k' = some v := by
  rcases eq_or_ne k' k with rfl | hne
  · simp [Finmap.lookup_erase]
  · simp [Finmap.lookup_erase_ne hne, hne]

theorem lookup_of_erase {m : HashMap K V} {k k' : K} {v : V}
    (h : (m.erase k).lookup k' = some v) : m.lookup k' = some v :=
  (lookup_erase_eq_some.mp h).2

theorem insert_erase (m : HashMap K V) (k : K) (v : V) :
    (m.erase k).insert k v = m.insert k v := by
  refine Finmap.ext_lookup fun x => ?_
  rcases eq_or_ne x k with rfl | hne
  · rw [Finmap.lookup_insert, Finmap.lookup_insert]
  · rw [Finmap.lookup_insert_of_ne _ hne, Finmap.lookup_insert_of_ne _ hne,
      Finmap.lookup_erase_ne hne]

theorem insert_of_lookup {m : HashMap K V} {k : K} {v : V} (h : m.lookup k = some v) :
    m.insert k v = m := by
  refine Finmap.ext_lookup fun x => ?_
  rcases eq_or_ne x k with rfl | hne
  · rw [Finmap.lookup_insert, h]
  · rw [Finmap.lookup_insert_of_ne _ hne]

/-! ### Maps from lists of entries -/

/-- Insert the entries of a list from the left; later entries win. -/
def insertAll (m : HashMap K V) (l : List (K × V)) : HashMap K V :=
  l.foldl (fun m e => m.insert e.1 e.2) m

theorem lookup_insertAll_of_notMem {m : HashMap K V} {l : List (K × V)} {k : K}
    (h : k ∉ l.map Prod.fst) : (insertAll m l).lookup k = m.lookup k := by
  induction l generalizing m with
  | nil => rfl
  | cons e l ih =>
    rw [List.map_cons, List.mem_cons, not_or] at h
    change (insertAll (m.insert e.1 e.2) l).lookup k = _
    rw [ih h.2, Finmap.lookup_insert_of_ne _ h.1]

theorem lookup_insertAll_of_mem {m : HashMap K V} {l : List (K × V)} {k : K} {v : V}
    (hnodup : (l.map Prod.fst).Nodup) (h : (k, v) ∈ l) : (insertAll m l).lookup k = some v := by
  induction l generalizing m with
  | nil => cases h
  | cons e l ih =>
    rw [List.map_cons, List.nodup_cons] at hnodup
    change (insertAll (m.insert e.1 e.2) l).lookup k = _
    rcases List.mem_cons.mp h with rfl | hl
    · rw [lookup_insertAll_of_notMem hnodup.1, Finmap.lookup_insert]
    · exact ih hnodup.2 hl

theorem mem_toList {m : HashMap K V} {k : K} {v : V} :
    (k, v) ∈ toList m ↔ m.lookup k = some v := by
  rw [toList, Finmap.lookup_eq_some_iff]
  simp only [List.mem_map, Multiset.mem_toList, Prod.mk.injEq]
  constructor
  · rintro ⟨⟨k', v'⟩, hmem, rfl, rfl⟩
    exact hmem
  · intro hmem
    exact ⟨⟨k, v⟩, hmem, rfl, rfl⟩

/-- A map is rebuilt from its entries. -/
theorem insertAll_toList (m : HashMap K V) : insertAll ∅ (toList m) = m := by
  refine Finmap.ext_lookup fun k => ?_
  cases h : m.lookup k with
  | some v => exact lookup_insertAll_of_mem (nodup_toList m) (mem_toList.mpr h)
  | none =>
    rw [lookup_insertAll_of_notMem, Finmap.lookup_empty]
    intro hmem
    obtain ⟨⟨k', v⟩, hentry, rfl⟩ := List.mem_map.mp hmem
    rw [mem_toList, h] at hentry
    cases hentry

/-- A map built from entries with different keys has exactly these entries. -/
theorem lookup_insertAll_empty {l : List (K × V)} (hnodup : (l.map Prod.fst).Nodup) {k : K} {v : V} :
    (insertAll ∅ l).lookup k = some v ↔ (k, v) ∈ l := by
  constructor
  · intro h
    by_cases hmem : k ∈ l.map Prod.fst
    · obtain ⟨⟨k', v'⟩, hentry, rfl⟩ := List.mem_map.mp hmem
      rw [lookup_insertAll_of_mem hnodup hentry, Option.some.injEq] at h
      exact h ▸ hentry
    · rw [lookup_insertAll_of_notMem hmem, Finmap.lookup_empty] at h
      cases h
  · exact lookup_insertAll_of_mem hnodup

/-! ### Iteration orders -/

/-- An order in which the entries of a map are visited. -/
structure Iteration (K V : Type*) [DecidableEq K] where
  toList : HashMap K V → List (K × V)
  mem_toList : ∀ m k v, (k, v) ∈ toList m ↔ m.lookup k = some v
  nodup_toList : ∀ m, ((toList m).map Prod.fst).Nodup

theorem map_fst_filterMap_sublist (m : HashMap K V) (keys : List K) :
    ((keys.filterMap fun k => (m.lookup k).map fun v => (k, v)).map Prod.fst).Sublist keys := by
  induction keys with
  | nil => exact List.Sublist.refl _
  | cons k keys ih =>
    cases h : m.lookup k with
    | none =>
      rw [List.filterMap_cons_none (by rw [h]; rfl)]
      exact ih.cons k
    | some v =>
      rw [List.filterMap_cons_some (by rw [h]; rfl), List.map_cons]
      exact ih.cons_cons k

instance isTrans_le {K : Type*} [LinearOrder K] : IsTrans K fun a b => a ≤ b :=
  ⟨fun _ _ _ => le_trans⟩

instance antisymm_le {K : Type*} [LinearOrder K] : Std.Antisymm fun a b : K => a ≤ b :=
  ⟨fun _ _ => le_antisymm⟩

/-- The entries by increasing key. -/
def sortedIteration {K V : Type*} [LinearOrder K] [DecidableEq K] : Iteration K V where
  toList m := (m.keys.sort (· ≤ ·)).filterMap fun k => (m.lookup k).map fun v => (k, v)
  mem_toList m k v := by
    simp only [List.mem_filterMap, Finset.mem_sort, Finmap.mem_keys, Option.map_eq_some_iff,
      Prod.mk.injEq]
    constructor
    · rintro ⟨k', _, v', hlookup, rfl, rfl⟩
      exact hlookup
    · intro hlookup
      exact ⟨k, Finmap.mem_of_lookup_eq_some hlookup, v, hlookup, rfl, rfl⟩
  nodup_toList m := (Finset.sort_nodup _ _).sublist (map_fst_filterMap_sublist m _)

/-- The keys in increasing order, by a sort that evaluates on closed terms. -/
def orderedKeys {K V : Type*} [LinearOrder K] [DecidableEq K] (m : HashMap K V) : List K :=
  Quot.liftOn m.keys.val (List.insertionSort fun a b => a ≤ b) fun l l' h =>
    ((List.perm_insertionSort _ l).trans
      (h.trans (List.perm_insertionSort _ l').symm)).eq_of_pairwise'
        (List.pairwise_insertionSort _ l) (List.pairwise_insertionSort _ l')

theorem coe_orderedKeys {K V : Type*} [LinearOrder K] [DecidableEq K] (m : HashMap K V) :
    (orderedKeys m : Multiset K) = m.keys.val := by
  rw [orderedKeys]
  induction m.keys.val using Quot.ind with
  | mk l => exact Quot.sound (List.perm_insertionSort _ l)

/-- `sortedIteration` on closed maps. -/
def insertionIteration {K V : Type*} [LinearOrder K] [DecidableEq K] : Iteration K V where
  toList m := (orderedKeys m).filterMap fun k => (m.lookup k).map fun v => (k, v)
  mem_toList m k v := by
    have hkeys : k ∈ orderedKeys m ↔ k ∈ m := by
      rw [← Multiset.mem_coe, coe_orderedKeys, Finset.mem_val, Finmap.mem_keys]
    simp only [List.mem_filterMap, Option.map_eq_some_iff, Prod.mk.injEq]
    constructor
    · rintro ⟨k', _, v', hlookup, rfl, rfl⟩
      exact hlookup
    · intro hlookup
      exact ⟨k, hkeys.mpr (Finmap.mem_of_lookup_eq_some hlookup), v, hlookup, rfl, rfl⟩
  nodup_toList m := by
    have hnodup : (orderedKeys m).Nodup := by
      rw [← Multiset.coe_nodup, coe_orderedKeys]
      exact m.keys.nodup
    exact hnodup.sublist (map_fst_filterMap_sublist m (orderedKeys m))

end Lookup

section Sums

@[simp] theorem sum_empty [AddCommMonoid W] (f : V → W) : sum f (∅ : HashMap K V) = 0 := rfl

theorem sum_insert_of_notMem [DecidableEq K] [AddCommMonoid W] (f : V → W) {m : HashMap K V}
    {k : K} (v : V) (h : k ∉ m) :
    sum f (m.insert k v) = f v + sum f m := by
  rw [sum, Finmap.entries_insert_of_notMem h, Multiset.map_cons, Multiset.sum_cons, sum]

/-- A lookup splits the sum into the value found and the other entries. -/
theorem sum_erase [DecidableEq K] [AddCommMonoid W] (f : V → W) {m : HashMap K V} {k : K}
    {v : V} (h : m.lookup k = some v) :
    sum f m = f v + sum f (m.erase k) := by
  have hnot : k ∉ m.erase k := Finmap.notMem_erase_self
  rw [← sum_insert_of_notMem f v hnot, insert_erase, insert_of_lookup h]

theorem sum_insert_of_lookup [DecidableEq K] [AddCommGroup W] (f : V → W) {m : HashMap K V}
    {k : K} {v₀ : V} (v : V) (h : m.lookup k = some v₀) :
    sum f (m.insert k v) = sum f m - f v₀ + f v := by
  have hnot : k ∉ m.erase k := Finmap.notMem_erase_self
  rw [← insert_erase, sum_insert_of_notMem f v hnot, sum_erase f h]
  abel

/-- Dropping entries is the same as giving them weight zero. -/
theorem sum_retain [AddCommMonoid W] (f : V → W) (p : V → Bool) (m : HashMap K V) :
    sum f (retain (fun _ => p) m) = sum (fun v => if p v then f v else 0) m := by
  simp only [sum, retain]
  induction m.entries using Multiset.induction_on with
  | empty => simp
  | cons e s ih =>
    by_cases hp : p e.2 = true
    · simp [hp, ih]
    · simp [hp, ih]

theorem sum_congr [DecidableEq K] [AddCommMonoid W] {f g : V → W} {m : HashMap K V}
    (h : ∀ k v, m.lookup k = some v → f v = g v) : sum f m = sum g m := by
  have hentries := (forall_entries_iff (fun v => f v = g v) m).mpr h
  rw [sum, sum, Multiset.map_congr rfl hentries]

variable [DecidableEq K] [AddCommMonoid W] [PartialOrder W] [IsOrderedCancelAddMonoid W]

theorem sum_nonneg {f : V → W} {m : HashMap K V}
    (h : ∀ k v, m.lookup k = some v → 0 ≤ f v) : 0 ≤ sum f m := by
  have hentries := (forall_entries_iff (fun v => 0 ≤ f v) m).mpr h
  refine Multiset.sum_nonneg fun w hw => ?_
  obtain ⟨e, hmem, rfl⟩ := Multiset.mem_map.mp hw
  exact hentries e hmem

theorem sum_le_sum {f g : V → W} {m : HashMap K V}
    (h : ∀ k v, m.lookup k = some v → f v ≤ g v) : sum f m ≤ sum g m :=
  Multiset.sum_map_le_sum_map _ _ ((forall_entries_iff (fun v => f v ≤ g v) m).mpr h)

theorem sum_lt_sum {f g : V → W} {m : HashMap K V} {k : K} {v : V}
    (h : ∀ k v, m.lookup k = some v → f v ≤ g v) (hv : m.lookup k = some v) (hlt : f v < g v) :
    sum f m < sum g m := by
  rw [sum_erase f hv, sum_erase g hv]
  refine add_lt_add_of_lt_of_le hlt (sum_le_sum fun x w hx => ?_)
  rcases eq_or_ne x k with rfl | hne
  · rw [Finmap.lookup_erase] at hx
    exact absurd hx (by simp)
  · exact h x w (by rwa [Finmap.lookup_erase_ne hne] at hx)

end Sums

end DeXFG.Library.FiniteMap
