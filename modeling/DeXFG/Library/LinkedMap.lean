import DeXFG.Library.FiniteMap
import Mathlib.Logic.Relation

/-!
# Linked maps

A finite map whose values name a next key. The links are acyclic when no key
reaches itself; adding a node whose next key is absent keeps them acyclic, and
so does removing nodes. A walk along acyclic links ends after at most as many
steps as the map has entries.
-/
namespace DeXFG.Library.LinkedMap
open DeXFG.Library.FiniteMap

variable {H N A : Type*} [DecidableEq H] (next : N → H)

/-- The node stored under `a` names `b` as its next key. -/
def Link (m : HashMap H N) (a b : H) : Prop := ∃ n, m.lookup a = some n ∧ next n = b

def Acyclic (m : HashMap H N) : Prop := ∀ k, ¬Relation.TransGen (Link next m) k k

/-- `m` has no entries that `m'` does not have. -/
def Submap (m m' : HashMap H N) : Prop := ∀ k n, m.lookup k = some n → m'.lookup k = some n

/-- Remove the chain of nodes that starts under `k`; `fuel` bounds its length. -/
def removeChain : ℕ → HashMap H N → H → HashMap H N
  | 0, m, _ => m
  | fuel + 1, m, k =>
    match m.lookup k with
    | none => m
    | some n => removeChain fuel (m.erase k) (next n)

/-- Follow the links from `n` while accumulating the nodes found; `none` when the fuel runs out. -/
def walk (m : HashMap H N) (f : A → N → A) : ℕ → N → A → Option (N × A)
  | 0, _, _ => none
  | fuel + 1, n, acc =>
    match m.lookup (next n) with
    | none => some (n, acc)
    | some n' => walk m f fuel n' (f acc n')

variable {next} {m m' : HashMap H N} {k : H} {n : N}

/-! ### Submaps -/

theorem Submap.refl (m : HashMap H N) : Submap m m := fun _ _ h => h

theorem Submap.trans {m'' : HashMap H N} (h : Submap m m') (h' : Submap m' m'') : Submap m m'' :=
  fun k n hn => h' k n (h k n hn)

theorem submap_erase (m : HashMap H N) (k : H) : Submap (m.erase k) m := by
  intro k' n hn
  by_cases h : k' = k
  · subst h
    simp at hn
  · rwa [Finmap.lookup_erase_ne h] at hn

theorem submap_retain (p : H → N → Bool) (m : HashMap H N) : Submap (retain p m) m := by
  intro k n hn
  rw [lookup_retain, Option.filter_eq_some_iff] at hn
  exact hn.1

theorem submap_removeChain (fuel : ℕ) (m : HashMap H N) (k : H) :
    Submap (removeChain next fuel m k) m := by
  induction fuel generalizing m k with
  | zero => exact Submap.refl m
  | succ fuel ih =>
    rw [removeChain]
    cases h : m.lookup k with
    | none => exact Submap.refl m
    | some n => exact (ih (m.erase k) (next n)).trans (submap_erase m k)

theorem Link.mono (h : Submap m m') {a b : H} (hlink : Link next m a b) : Link next m' a b := by
  obtain ⟨n, hlookup, hnext⟩ := hlink
  exact ⟨n, h a n hlookup, hnext⟩

theorem Acyclic.mono (hacyclic : Acyclic next m') (h : Submap m m') : Acyclic next m := by
  intro k hcycle
  exact hacyclic k (hcycle.lift id fun _ _ hlink => hlink.mono h)

theorem acyclic_empty : Acyclic next (∅ : HashMap H N) := by
  intro k hcycle
  obtain ⟨_, hlink, _⟩ := Relation.TransGen.head'_iff.mp hcycle
  obtain ⟨n, hlookup, _⟩ := hlink
  simp at hlookup

/-! ### Adding a node in front of an absent key -/

theorem transGen_insert (habsent : m.lookup (next n) = none) (hne : next n ≠ k) {a b : H}
    (hpath : Relation.TransGen (Link next (m.insert k n)) a b) :
    Relation.TransGen (Link next m) a b ∨ b = next n := by
  have hlink : ∀ {a b}, Link next (m.insert k n) a b → Link next m a b ∨ b = next n := by
    rintro a b ⟨n', hlookup, rfl⟩
    by_cases ha : a = k
    · subst ha
      rw [Finmap.lookup_insert, Option.some.injEq] at hlookup
      exact Or.inr (congrArg next hlookup.symm)
    · rw [Finmap.lookup_insert_of_ne _ ha] at hlookup
      exact Or.inl ⟨n', hlookup, rfl⟩
  induction hpath with
  | single hstep =>
    rcases hlink hstep with hstep | heq
    · exact Or.inl (.single hstep)
    · exact Or.inr heq
  | tail hpath hstep ih =>
    rcases ih with hpath | rfl
    · rcases hlink hstep with hstep | heq
      · exact Or.inl (hpath.tail hstep)
      · exact Or.inr heq
    · obtain ⟨n', hlookup, _⟩ := hstep
      rw [Finmap.lookup_insert_of_ne _ hne, habsent] at hlookup
      cases hlookup

theorem Acyclic.insert (hacyclic : Acyclic next m) (habsent : m.lookup (next n) = none)
    (hne : next n ≠ k) : Acyclic next (m.insert k n) := by
  intro a hcycle
  rcases transGen_insert habsent hne hcycle with hold | rfl
  · exact hacyclic a hold
  · obtain ⟨_, hlink, _⟩ := Relation.TransGen.head'_iff.mp hcycle
    obtain ⟨n', hlookup, _⟩ := hlink
    rw [Finmap.lookup_insert_of_ne _ hne, habsent] at hlookup
    cases hlookup

/-! ### Walks -/

/-- What a walk preserves. -/
theorem walk_induction {f : A → N → A} {P : N → A → Prop}
    (hstep : ∀ n acc n', P n acc → m.lookup (next n) = some n' → P n' (f acc n'))
    {fuel : ℕ} {acc acc' : A} {n' : N} (h : P n acc) (hwalk : walk next m f fuel n acc = some (n', acc')) :
    P n' acc' ∧ m.lookup (next n') = none := by
  induction fuel generalizing n acc with
  | zero => cases hwalk
  | succ fuel ih =>
    rw [walk] at hwalk
    cases hlookup : m.lookup (next n) with
    | none =>
      rw [hlookup] at hwalk
      obtain ⟨rfl, rfl⟩ := Prod.mk.inj (Option.some.inj hwalk)
      exact ⟨h, hlookup⟩
    | some n₁ =>
      rw [hlookup] at hwalk
      exact ih (hstep n acc n₁ h hlookup) hwalk

theorem link_rightUnique : Relator.RightUnique (Link next m) := by
  rintro a b c ⟨n, hn, rfl⟩ ⟨n', hn', rfl⟩
  rw [hn, Option.some.injEq] at hn'
  rw [hn']

theorem eq_of_reflTransGen_of_absent {a b : H} (ha : m.lookup a = none)
    (hpath : Relation.ReflTransGen (Link next m) a b) : a = b := by
  cases hpath.cases_head with
  | inl heq => exact heq
  | inr hstep =>
    obtain ⟨_, ⟨n, hn, _⟩, _⟩ := hstep
    rw [ha] at hn
    cases hn

/-- All paths from a key end at the same absent key. -/
theorem end_unique {a b c : H} (hab : Relation.ReflTransGen (Link next m) a b)
    (hac : Relation.ReflTransGen (Link next m) a c) (hb : m.lookup b = none)
    (hc : m.lookup c = none) : b = c := by
  rcases hab.total_of_right_unique link_rightUnique hac with hpath | hpath
  · exact eq_of_reflTransGen_of_absent hb hpath
  · exact (eq_of_reflTransGen_of_absent hc hpath).symm

theorem walk_end {f : A → N → A} {fuel : ℕ} {acc acc' : A} {n' : N}
    (hwalk : walk next m f fuel n acc = some (n', acc')) :
    Relation.ReflTransGen (Link next m) (next n) (next n') ∧ m.lookup (next n') = none := by
  refine walk_induction (P := fun n' _ => Relation.ReflTransGen (Link next m) (next n) (next n'))
    ?_ .refl hwalk
  intro n₁ _ n₂ hpath hlookup
  exact hpath.tail ⟨n₂, hlookup, rfl⟩

/-- What the result of a walk records comes from its start or from a node on the way. -/
theorem walk_records_iff {f : A → N → A} {Q : A → Prop} {R : N → Prop}
    (hf : ∀ acc n, Q (f acc n) ↔ Q acc ∨ R n) {fuel : ℕ} {acc acc' : A} {n' : N}
    (hwalk : walk next m f fuel n acc = some (n', acc')) :
    Q acc' ↔ Q acc ∨ ∃ k node, Relation.ReflTransGen (Link next m) (next n) k ∧
      m.lookup k = some node ∧ R node := by
  induction fuel generalizing n acc with
  | zero => cases hwalk
  | succ fuel ih =>
    rw [walk] at hwalk
    cases hlookup : m.lookup (next n) with
    | none =>
      rw [hlookup] at hwalk
      obtain ⟨rfl, rfl⟩ := Prod.mk.inj (Option.some.inj hwalk)
      refine ⟨Or.inl, ?_⟩
      rintro (hacc | ⟨k, node, hpath, hnode, _⟩)
      · exact hacc
      · rw [← eq_of_reflTransGen_of_absent hlookup hpath, hlookup] at hnode
        cases hnode
    | some n₁ =>
      rw [hlookup] at hwalk
      rw [ih hwalk, hf, or_assoc]
      refine or_congr_right ⟨?_, ?_⟩
      · rintro (hn₁ | ⟨k, node, hpath, hnode, hR⟩)
        · exact ⟨next n, n₁, .refl, hlookup, hn₁⟩
        · exact ⟨k, node, hpath.head ⟨n₁, hlookup, rfl⟩, hnode, hR⟩
      · rintro ⟨k, node, hpath, hnode, hR⟩
        rcases hpath.cases_head with rfl | ⟨k', ⟨n₂, hn₂, rfl⟩, hrest⟩
        · rw [hlookup, Option.some.injEq] at hnode
          exact Or.inl (hnode ▸ hR)
        · rw [hlookup, Option.some.injEq] at hn₂
          exact Or.inr ⟨k, node, hn₂ ▸ hrest, hnode, hR⟩

/-- A key that the walk does not reach may be erased. -/
theorem walk_erase {f : A → N → A} (fuel : ℕ) {n : N} {acc : A}
    (hfar : ∀ b, Relation.ReflTransGen (Link next m) (next n) b → b ≠ k) :
    walk next (m.erase k) f fuel n acc = walk next m f fuel n acc := by
  induction fuel generalizing n acc with
  | zero => rfl
  | succ fuel ih =>
    have hlookup : (m.erase k).lookup (next n) = m.lookup (next n) :=
      Finmap.lookup_erase_ne (hfar (next n) .refl)
    rw [walk, walk, hlookup]
    cases hn : m.lookup (next n) with
    | none => rfl
    | some n' =>
      apply ih
      intro b hpath
      exact hfar b (hpath.head ⟨n', hn, rfl⟩)

theorem card_erase_lt {n : N} (h : m.lookup k = some n) :
    (m.erase k).keys.card < m.keys.card := by
  rw [Finmap.keys_erase]
  exact Finset.card_erase_lt_of_mem (Finmap.mem_keys.mpr (Finmap.mem_of_lookup_eq_some h))

/-- A walk along acyclic links ends. -/
theorem exists_walk {f : A → N → A} (hacyclic : Acyclic next m) {fuel : ℕ}
    (hfuel : m.keys.card < fuel) (n : N) (acc : A) :
    ∃ r, walk next m f fuel n acc = some r := by
  induction fuel generalizing m n acc with
  | zero => omega
  | succ fuel ih =>
    rw [walk]
    cases hn : m.lookup (next n) with
    | none => exact ⟨_, rfl⟩
    | some n' =>
      -- the rest of the walk does not come back to the key it started from
      have hfar : ∀ b, Relation.ReflTransGen (Link next m) (next n') b → b ≠ next n := by
        rintro b hpath rfl
        exact hacyclic (next n) (Relation.TransGen.head' ⟨n', hn, rfl⟩ hpath)
      have hcard := card_erase_lt hn
      obtain ⟨r, hr⟩ := ih (hacyclic.mono (submap_erase m (next n))) (by omega) n' (f acc n')
      rw [walk_erase fuel hfar] at hr
      exact ⟨r, hr⟩

/-- With fuel for every entry a chain is removed to its end. -/
theorem removeChain_of_le {fuel fuel' : ℕ} (hfuel : m.keys.card ≤ fuel) (hle : fuel ≤ fuel') :
    removeChain next fuel' m k = removeChain next fuel m k := by
  induction fuel generalizing fuel' m k with
  | zero =>
    have hempty : m.lookup k = none := by
      cases h : m.lookup k with
      | none => rfl
      | some n =>
        have hcard := card_erase_lt h
        omega
    cases fuel' with
    | zero => rfl
    | succ fuel' => simp only [removeChain, hempty]
  | succ fuel ih =>
    cases fuel' with
    | zero => omega
    | succ fuel' =>
      rw [removeChain, removeChain]
      cases h : m.lookup k with
      | none => rfl
      | some n =>
        have hcard := card_erase_lt h
        exact ih (by omega) (by omega)

end DeXFG.Library.LinkedMap
