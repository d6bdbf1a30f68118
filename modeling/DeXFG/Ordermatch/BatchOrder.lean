import DeXFG.Ordermatch.Coherence

/-!
# Grouped batches and the order in the queue

A batch leaves the same trie contents grouped as it would operation by
operation, unless the grouping puts another operation last on some key: an
insertion that follows a removal of its key is applied before it, and a clear
that follows an insertion is applied before that one.
-/
namespace DeXFG.Ordermatch
open DeXFG.Library.FiniteMap DeXFG.Library.SetMap DeXFG.Library.DelayedEffects
open DeXFG.Library.Runs DeXFG.Library.Serde NewProtocol

/-! ## The last operation on a key -/

/-- The operation is applied after all insertions of the key. -/
def TrieOp.Removes (op : TrieOp) (key : TrieKey) : Prop :=
  op = .remove key.1 key.2.1 key.2.2 ∨ op = .removePubkey key.1

instance (op : TrieOp) (key : TrieKey) : Decidable (op.Removes key) :=
  inferInstanceAs (Decidable (_ ∨ _))

/-- The grouping leaves the last operation on the key the last one: an insertion comes after no
removal of the key, and a clear comes after no insertion of it, unless the key is removed too. -/
structure LastStaysLast (ops : List TrieOp) (key : TrieKey) : Prop where
  insert : ∀ before after order, ops = before ++ .insert key.1 key.2.1 key.2.2 order :: after →
    (∀ op ∈ after, op.effect key = none) → ∀ op ∈ before, ¬ op.Removes key
  clear : ∀ before after, ops = before ++ .clearPair key.1 key.2.1 :: after →
    (∀ op ∈ after, op.effect key = none) → (∃ op ∈ before, op.effect key = some true) →
      ∃ op ∈ before, op.Removes key

section LastOperation

variable {ops before after : List TrieOp} {op : TrieOp} {key : TrieKey}

theorem TrieOp.effect_eq_some_false :
    op.effect key = some false ↔ op.Removes key ∨ op = .clearPair key.1 key.2.1 := by
  obtain ⟨name, pair, uuid⟩ := key
  cases op with
  | clearPair pubkey albPair => simp [TrieOp.effect, TrieOp.Removes, eq_comm]
  | insert pubkey albPair u order => simp [TrieOp.effect, TrieOp.Removes]
  | remove pubkey albPair u => simp [TrieOp.effect, TrieOp.Removes, eq_comm]
  | removePubkey pubkey => simp [TrieOp.effect, TrieOp.Removes, eq_comm]

theorem TrieOp.Removes.effect (h : op.Removes key) : op.effect key = some false :=
  TrieOp.effect_eq_some_false.mpr (.inl h)

/-! ### The grouped effect by the operations of the batch -/

theorem exists_removes_iff : (∃ op ∈ ops, op.Removes key) ↔
    .removePubkey key.1 ∈ ops ∨ .remove key.1 key.2.1 key.2.2 ∈ ops := by
  simp only [TrieOp.Removes, and_or_left, exists_or, exists_eq_right, or_comm]

theorem groupedEffect_of_removes (h : ∃ op ∈ ops, op.Removes key) :
    groupedEffect ops key = some false := if_pos (exists_removes_iff.mp h)

theorem groupedEffect_of_insert (hremoves : ¬ ∃ op ∈ ops, op.Removes key)
    (h : ∃ op ∈ ops, op.effect key = some true) : groupedEffect ops key = some true := by
  rw [groupedEffect, if_neg (mt exists_removes_iff.mpr hremoves), if_pos (by simpa using h)]

theorem groupedEffect_of_clear (hremoves : ¬ ∃ op ∈ ops, op.Removes key)
    (hinsert : ¬ ∃ op ∈ ops, op.effect key = some true) (h : .clearPair key.1 key.2.1 ∈ ops) :
    groupedEffect ops key = some false := by
  rw [groupedEffect, if_neg (mt exists_removes_iff.mpr hremoves), if_neg (by simpa using hinsert),
    if_pos h]

theorem groupedEffect_of_none (h : ∀ op ∈ ops, op.effect key = none) :
    groupedEffect ops key = none := by
  have hnot {o : TrieOp} {b : Bool} (heffect : o.effect key = some b) : o ∉ ops := fun ho => by
    simp [h o ho] at heffect
  rw [groupedEffect, if_neg, if_neg, if_neg]
  · exact hnot (TrieOp.effect_eq_some_false.mpr (.inr rfl))
  · simp only [List.any_eq_true, decide_eq_true_eq, not_exists, not_and]
    exact fun o ho heffect => hnot heffect ho
  · rw [← exists_removes_iff]
    rintro ⟨o, ho, hremoves⟩
    exact hnot hremoves.effect ho

theorem groupedEffect_eq_none : groupedEffect ops key = none ↔ batchEffect ops key = none := by
  rw [batchEffect, effectAll_eq_none]
  constructor
  · intro h op hop
    by_contra hne
    have hremoves : ¬ ∃ o ∈ ops, o.Removes key := fun hex => by
      simp [groupedEffect_of_removes hex] at h
    have hinsert : ¬ ∃ o ∈ ops, o.effect key = some true := fun hex => by
      simp [groupedEffect_of_insert hremoves hex] at h
    obtain ⟨b, hb⟩ := Option.ne_none_iff_exists'.mp hne
    cases b with
    | true => exact hinsert ⟨op, hop, hb⟩
    | false =>
      rcases TrieOp.effect_eq_some_false.mp hb with hremove | rfl
      · exact hremoves ⟨op, hop, hremove⟩
      · simp [groupedEffect_of_clear hremoves hinsert hop] at h
  · exact groupedEffect_of_none

/-- Before an operation that stands last on a key, the same has happened as in the batch. -/
theorem exists_mem_split {p : TrieOp → Prop} (hop : ¬ p op) (hafter : ∀ o ∈ after, ¬ p o) :
    (∃ o ∈ before ++ op :: after, p o) ↔ ∃ o ∈ before, p o := by
  constructor
  · rintro ⟨o, ho, hp⟩
    rcases List.mem_append.mp ho with hbefore | hrest
    · exact ⟨o, hbefore, hp⟩
    · rcases List.mem_cons.mp hrest with rfl | hmem
      · exact absurd hp hop
      · exact absurd hp (hafter o hmem)
  · rintro ⟨o, ho, hp⟩
    exact ⟨o, List.mem_append_left _ ho, hp⟩

/-- The removals of a batch whose last operation on the key is no removal. -/
theorem exists_removes_split (hop : ¬ op.Removes key) (hafter : ∀ o ∈ after, o.effect key = none) :
    (∃ o ∈ before ++ op :: after, o.Removes key) ↔ ∃ o ∈ before, o.Removes key :=
  exists_mem_split hop fun o ho hremoves => by
    have heffect := hremoves.effect
    simp [hafter o ho] at heffect

theorem exists_inserts_split (hop : op.effect key ≠ some true)
    (hafter : ∀ o ∈ after, o.effect key = none) :
    (∃ o ∈ before ++ op :: after, o.effect key = some true) ↔
      ∃ o ∈ before, o.effect key = some true :=
  exists_mem_split hop fun o ho => by simp [hafter o ho]

/-- A batch that leaves the last operation last keeps its effect on the key. -/
theorem LastStaysLast.groupedEffect (h : LastStaysLast ops key) :
    groupedEffect ops key = batchEffect ops key := by
  cases hbatch : batchEffect ops key with
  | none => rwa [groupedEffect_eq_none]
  | some b =>
    obtain ⟨before, op, after, rfl, heffect, hafter⟩ := effectAll_eq_some_iff.mp hbatch
    have hmem : op ∈ before ++ op :: after := List.mem_append_right _ List.mem_cons_self
    cases b with
    | true =>
      obtain ⟨order, rfl⟩ := effect_eq_some_true.mp heffect
      apply groupedEffect_of_insert _ ⟨_, hmem, heffect⟩
      rw [exists_removes_split (by simp [TrieOp.Removes]) hafter]
      rintro ⟨o, ho, hremove⟩
      exact h.insert before after order rfl hafter o ho hremove
    | false =>
      by_cases hremoves : ∃ o ∈ before ++ op :: after, o.Removes key
      · exact groupedEffect_of_removes hremoves
      · rcases TrieOp.effect_eq_some_false.mp heffect with hremove | rfl
        · exact absurd ⟨op, hmem, hremove⟩ hremoves
        · apply groupedEffect_of_clear hremoves _ hmem
          rw [exists_inserts_split (by simp [heffect]) hafter]
          intro hinsert
          obtain ⟨o, ho, hremove⟩ := h.clear before after rfl hafter hinsert
          exact hremoves ⟨o, List.mem_append_left _ ho, hremove⟩

/-- The grouping keeps the effect on a key exactly when it leaves its last operation last. -/
theorem groupedEffect_eq_batchEffect_iff :
    groupedEffect ops key = batchEffect ops key ↔ LastStaysLast ops key := by
  refine ⟨fun h => ?_, LastStaysLast.groupedEffect⟩
  constructor
  · rintro before after order rfl hafter op hop hremove
    have hlast : batchEffect (before ++ .insert key.1 key.2.1 key.2.2 order :: after) key =
        some true :=
      effectAll_eq_some_iff.mpr ⟨before, _, after, rfl, by simp [TrieOp.effect], hafter⟩
    rw [hlast, groupedEffect_of_removes ⟨op, List.mem_append_left _ hop, hremove⟩] at h
    cases h
  · rintro before after rfl hafter ⟨op, hop, hinsert⟩
    have hlast : batchEffect (before ++ .clearPair key.1 key.2.1 :: after) key = some false :=
      effectAll_eq_some_iff.mpr ⟨before, _, after, rfl, by simp [TrieOp.effect], hafter⟩
    by_contra hremoves
    have hnone : ¬ ∃ o ∈ before ++ .clearPair key.1 key.2.1 :: after, o.Removes key := by
      rwa [exists_removes_split (by simp [TrieOp.Removes]) hafter]
    rw [hlast, groupedEffect_of_insert hnone ⟨op, List.mem_append_left _ hop, hinsert⟩] at h
    cases h

end LastOperation

/-! ## What is stored under a key -/

/-- The order that an operation stores under the key. -/
def TrieOp.stores (key : TrieKey) : TrieOp → Option OrderbookItem
  | .insert pubkey albPair uuid order => if (pubkey, albPair, uuid) = key then some order else none
  | _ => none

/-- The order that a batch stores last under the key. -/
def lastStored (ops : List TrieOp) (key : TrieKey) : Option OrderbookItem :=
  (ops.filterMap (TrieOp.stores key)).getLast?

section Stored

variable {ops : List TrieOp} {op : TrieOp} {name : String} {pair : AlbOrderedOrderbookPair}
  {uuid : Uuid}

theorem TrieOp.stores_eq_none (h : op.effect (name, pair, uuid) ≠ some true) :
    op.stores (name, pair, uuid) = none := by
  cases op with
  | insert pubkey albPair u order =>
    rw [TrieOp.stores, if_neg]
    intro hkey
    exact h (if_pos hkey.symm)
  | _ => rfl

theorem TrieOp.lookup_change (content : HashMap Uuid Value) :
    (op.change name pair content).lookup uuid =
      match op.effect (name, pair, uuid) with
      | none => content.lookup uuid
      | some false => none
      | some true => (op.stores (name, pair, uuid)).map OrderbookItem.trieStateBytes := by
  cases op with
  | clearPair pubkey albPair =>
    by_cases hkey : name = pubkey ∧ pair = albPair <;> simp [change, effect, hkey]
  | insert pubkey albPair u order =>
    by_cases hpair : name = pubkey ∧ pair = albPair
    · obtain ⟨rfl, rfl⟩ := hpair
      by_cases hu : uuid = u
      · subst hu
        simp [change, effect, stores]
      · simp [change, effect, hu, Finmap.lookup_insert_of_ne _ hu]
    · have hkey : ¬ (name = pubkey ∧ pair = albPair ∧ uuid = u) := fun h => hpair ⟨h.1, h.2.1⟩
      simp [change, effect, hpair, hkey]
  | remove pubkey albPair u =>
    by_cases hpair : name = pubkey ∧ pair = albPair
    · obtain ⟨rfl, rfl⟩ := hpair
      by_cases hu : uuid = u
      · subst hu
        simp [change, effect]
      · simp [change, effect, hu, Finmap.lookup_erase_ne hu]
    · have hkey : ¬ (name = pubkey ∧ pair = albPair ∧ uuid = u) := fun h => hpair ⟨h.1, h.2.1⟩
      simp [change, effect, hpair, hkey]
  | removePubkey pubkey => by_cases hname : name = pubkey <;> simp [change, effect, hname]

theorem lastStored_eq_none (h : batchEffect ops (name, pair, uuid) = none) :
    lastStored ops (name, pair, uuid) = none := by
  rw [lastStored, List.getLast?_eq_none_iff, List.filterMap_eq_nil_iff]
  intro op hop
  apply TrieOp.stores_eq_none
  simp [effectAll_eq_none.mp h op hop]

variable {H : Type} [DecidableEq H] {db : OrderTrieDb H} {store : TrieStore H} {now : ℕ}

/-- Operation by operation, a batch leaves under a key what its last operation on it leaves. -/
theorem TrieStore.lookup_foldl_applyOp (hfresh : db.FreshDefault) (h : store.Readable db)
    (ops : List TrieOp) :
    ((ops.foldl (TrieStore.applyOp db now) store).pairContent db name pair).lookup uuid =
      match batchEffect ops (name, pair, uuid) with
      | none => (store.pairContent db name pair).lookup uuid
      | some false => none
      | some true => (lastStored ops (name, pair, uuid)).map OrderbookItem.trieStateBytes := by
  induction ops generalizing store with
  | nil => rfl
  | cons op ops ih =>
    obtain ⟨hreadable, hcontent⟩ : (store.applyOp db now op).Readable db ∧ _ :=
      TrieStore.applyOp_spec hfresh h op
    have heffect : batchEffect (op :: ops) (name, pair, uuid) =
        (batchEffect ops (name, pair, uuid)).or (op.effect (name, pair, uuid)) := rfl
    rw [List.foldl_cons, ih hreadable, heffect]
    cases hbatch : batchEffect ops (name, pair, uuid) with
    | none =>
      have hnone := lastStored_eq_none hbatch
      rw [lastStored, List.getLast?_eq_none_iff] at hnone
      simp only [Option.none_or, hcontent, TrieOp.lookup_change]
      have hlast : lastStored (op :: ops) (name, pair, uuid) = op.stores (name, pair, uuid) := by
        rw [lastStored, List.filterMap_cons, hnone]
        cases op.stores (name, pair, uuid) <;> rfl
      rw [hlast]
    | some b =>
      cases b with
      | false => rfl
      | true =>
        have hne : lastStored ops (name, pair, uuid) ≠ none := by
          obtain ⟨o, ho, hinsert⟩ := exists_of_effectAll hbatch
          obtain ⟨order, rfl⟩ := effect_eq_some_true.mp hinsert
          rw [lastStored, ne_eq, List.getLast?_eq_none_iff, List.filterMap_eq_nil_iff]
          intro hall
          have hstores := hall _ ho
          simp [TrieOp.stores] at hstores
        have hlast : lastStored (op :: ops) (name, pair, uuid) =
            lastStored ops (name, pair, uuid) := by
          rw [lastStored, ne_eq, List.getLast?_eq_none_iff] at hne
          rw [lastStored, lastStored, List.filterMap_cons]
          cases op.stores (name, pair, uuid) with
          | none => rfl
          | some order => exact List.getLast?_cons_of_ne_nil hne
        simp [hlast]

end Stored

/-! ### The grouping keeps the order of the insertions -/

/-- The order that an operation adds to a group. -/
def TrieOp.insertsInto (key : GroupKey) : TrieOp → Option (Uuid × OrderbookItem)
  | .insert pubkey albPair uuid order =>
    if (pubkey, albPair) = key then some (uuid, order) else none
  | _ => none

/-- The orders of a list that have the uuid. -/
def storedUnder (uuid : Uuid) (inserts : List (Uuid × OrderbookItem)) : List OrderbookItem :=
  inserts.filterMap fun entry => if entry.1 = uuid then some entry.2 else none

section Grouped

variable {ops : List TrieOp} {name : String} {pair : AlbOrderedOrderbookPair} {uuid : Uuid}

theorem GroupedOps.inserts_add (grouped : GroupedOps) (op : TrieOp) (key : GroupKey) :
    ((grouped.add op).group key).inserts =
      (grouped.group key).inserts ++ (op.insertsInto key).toList := by
  cases op with
  | clearPair pubkey albPair =>
    rw [add, group_setGroup]
    split <;> simp_all [TrieOp.insertsInto]
  | insert pubkey albPair u order =>
    rw [add, group_setGroup, TrieOp.insertsInto]
    by_cases hkey : key = (pubkey, albPair)
    · simp [hkey]
    · simp [hkey, Ne.symm hkey]
  | remove pubkey albPair u =>
    rw [add, group_setGroup]
    split <;> simp_all [TrieOp.insertsInto]
  | removePubkey pubkey => simp [add, group_withPubkeys, TrieOp.insertsInto]

theorem GroupedOps.inserts_foldl_add (grouped : GroupedOps) (ops : List TrieOp) (key : GroupKey) :
    ((ops.foldl GroupedOps.add grouped).group key).inserts =
      (grouped.group key).inserts ++ ops.filterMap (TrieOp.insertsInto key) := by
  induction ops generalizing grouped with
  | nil => simp
  | cons op ops ih =>
    rw [List.foldl_cons, ih, inserts_add, List.append_assoc, List.filterMap_cons]
    cases op.insertsInto key <;> rfl

theorem filterMap_stores (ops : List TrieOp) : ops.filterMap (TrieOp.stores (name, pair, uuid)) =
    storedUnder uuid (ops.filterMap (TrieOp.insertsInto (name, pair))) := by
  rw [storedUnder, List.filterMap_filterMap]
  congr 1
  funext op
  cases op with
  | insert pubkey albPair u order =>
    by_cases hkey : (pubkey, albPair) = (name, pair)
    · obtain ⟨rfl, rfl⟩ := Prod.mk.inj hkey
      simp [TrieOp.stores, TrieOp.insertsInto]
    · have hne : ¬ (pubkey, albPair, u) = (name, pair, uuid) := fun h =>
        hkey (Prod.ext (Prod.mk.inj h).1 (Prod.mk.inj (Prod.mk.inj h).2).1)
      simp [TrieOp.stores, TrieOp.insertsInto, hkey, hne]
  | _ => rfl

theorem filterMap_stores_toOps (key : GroupKey) (g : TrieOpGroup) :
    (TrieOpGroup.toOps (key, g)).filterMap (TrieOp.stores (name, pair, uuid)) =
      if key = (name, pair) then storedUnder uuid g.inserts else [] := by
  have hclear : (if g.clear then [TrieOp.clearPair key.1 key.2] else []).filterMap
      (TrieOp.insertsInto (name, pair)) = [] := by
    split <;> rfl
  have hremoves : (g.removes.map (TrieOp.remove key.1 key.2)).filterMap
      (TrieOp.insertsInto (name, pair)) = [] := by
    simp [List.filterMap_map, TrieOp.insertsInto]
  rw [filterMap_stores, TrieOpGroup.toOps, List.filterMap_append, List.filterMap_append, hclear,
    hremoves, List.nil_append, List.append_nil, List.filterMap_map]
  by_cases hkey : key = (name, pair)
  · subst hkey
    have hall : (fun order : Uuid × OrderbookItem => TrieOp.insertsInto (name, pair)
        (.insert name pair order.1 order.2)) = some := by
      funext order
      simp [TrieOp.insertsInto]
    rw [if_pos rfl, Function.comp_def, hall, List.filterMap_some]
  · have hnone : (fun order : Uuid × OrderbookItem => TrieOp.insertsInto (name, pair)
        (.insert key.1 key.2 order.1 order.2)) = fun _ => none := by
      funext order
      simp [TrieOp.insertsInto, hkey]
    simp [hkey, hnone, storedUnder]

/-- Only one element of a list contributes. -/
theorem flatMap_eq_of_mem {α β : Type} {f : α → List β} {l : List α} {a : α} (ha : a ∈ l)
    (hnodup : l.Nodup) (hother : ∀ b ∈ l, b ≠ a → f b = []) : l.flatMap f = f a := by
  obtain ⟨before, after, rfl⟩ := List.append_of_mem ha
  have hnotMem : a ∉ before ++ after := (List.nodup_cons.mp (List.nodup_middle.mp hnodup)).1
  have hnil : ∀ part, part ⊆ before ++ after → part.flatMap f = [] := by
    intro part hpart
    apply List.flatMap_eq_nil_iff.mpr
    intro b hb
    have hmem := hpart hb
    apply hother b
    · rw [List.mem_append] at hmem
      rcases hmem with hbefore | hafter
      · exact List.mem_append_left _ hbefore
      · exact List.mem_append_right _ (List.mem_cons_of_mem _ hafter)
    · rintro rfl
      exact hnotMem hmem
  rw [List.flatMap_append, List.flatMap_cons, hnil before (List.subset_append_left _ _),
    hnil after (List.subset_append_right _ _), List.nil_append, List.append_nil]

theorem filterMap_stores_regroup (it : ApplyIteration) (ops : List TrieOp) :
    (regroup it ops).filterMap (TrieOp.stores (name, pair, uuid)) =
      ops.filterMap (TrieOp.stores (name, pair, uuid)) := by
  have hpubkeys (pubkeys : List String) : (pubkeys.map TrieOp.removePubkey).filterMap
      (TrieOp.stores (name, pair, uuid)) = [] := by
    simp [List.filterMap_map, TrieOp.stores]
  have hinserts := GroupedOps.inserts_foldl_add {} ops (name, pair)
  have hempty : (({} : GroupedOps).group (name, pair)).inserts = [] := by simp [GroupedOps.group]
  rw [hempty, List.nil_append] at hinserts
  rw [regroup, List.filterMap_append, hpubkeys, List.append_nil, filterMap_stores ops, ← hinserts,
    List.filterMap_flatMap]
  cases hlookup : (ops.foldl GroupedOps.add {}).groups.lookup (name, pair) with
  | none =>
    have hgroup : ((ops.foldl GroupedOps.add {}).group (name, pair)).inserts = [] := by
      rw [GroupedOps.group, hlookup, Option.getD_none]
    rw [hgroup, List.flatMap_eq_nil_iff.mpr]
    · rfl
    · rintro ⟨key, g⟩ hentry
      rw [filterMap_stores_toOps, if_neg]
      rintro rfl
      rw [it.groups.mem_toList, hlookup] at hentry
      cases hentry
  | some g =>
    have hgroup : (ops.foldl GroupedOps.add {}).group (name, pair) = g := by
      rw [GroupedOps.group, hlookup, Option.getD_some]
    have hmem := (it.groups.mem_toList _ _ _).mpr hlookup
    rw [hgroup, flatMap_eq_of_mem hmem (it.groups.nodup_toList _).of_map, filterMap_stores_toOps,
      if_pos rfl]
    rintro ⟨key, g'⟩ hentry hne
    rw [filterMap_stores_toOps, if_neg]
    rintro rfl
    rw [it.groups.mem_toList, hlookup, Option.some.injEq] at hentry
    exact hne (hentry ▸ rfl)

theorem lastStored_regroup (it : ApplyIteration) (ops : List TrieOp) :
    lastStored (regroup it ops) (name, pair, uuid) = lastStored ops (name, pair, uuid) := by
  rw [lastStored, lastStored, filterMap_stores_regroup]

end Grouped

/-! ## One batch -/

variable {H : Type} [DecidableEq H] {db : OrderTrieDb H}

/-- The trie contents are the same after both. -/
def TrieStore.SameContents (db : OrderTrieDb H) (store store' : TrieStore H) : Prop :=
  ∀ name pair, store.pairContent db name pair = store'.pairContent db name pair

theorem TrieStore.SameContents.keys {store store' : TrieStore H}
    (h : TrieStore.SameContents db store store') : store.keys db = store'.keys db := by
  ext ⟨name, pair, uuid⟩
  change uuid ∈ store.pairContent db name pair ↔ uuid ∈ store'.pairContent db name pair
  rw [h name pair]

/-- A batch leaves the same contents grouped and operation by operation exactly when the grouping
leaves the last operation on every key the last one. -/
theorem TrieStore.sameContents_iff (hfresh : db.FreshDefault) {store : TrieStore H}
    (h : store.Readable db) (it : ApplyIteration) (now : ℕ) (ops : List TrieOp) :
    TrieStore.SameContents db (store.applyOps db it now ops)
        (ops.foldl (TrieStore.applyOp db now) store) ↔
      ∀ key, LastStaysLast ops key := by
  constructor
  · intro hsame key
    rw [← groupedEffect_eq_batchEffect_iff]
    have hkeys := hsame.keys
    rw [(TrieStore.applyOps_spec hfresh h it now ops).2,
      (TrieStore.foldl_applyOp_spec hfresh h ops).2] at hkeys
    have hkey := Set.ext_iff.mp hkeys key
    rw [Effect.mem_apply, Effect.mem_apply] at hkey
    cases hgrouped : groupedEffect ops key with
    | none => rw [groupedEffect_eq_none.mp hgrouped]
    | some b =>
      cases hbatch : batchEffect ops key with
      | none => simp [groupedEffect_eq_none.mpr hbatch] at hgrouped
      | some b' =>
        rw [hgrouped, hbatch] at hkey
        simpa using hkey
  · intro hlast name pair
    rw [TrieStore.applyOps_eq]
    apply Finmap.ext_lookup
    intro uuid
    have hsafe : batchEffect (regroup it ops) (name, pair, uuid) =
        batchEffect ops (name, pair, uuid) := by
      rw [batchEffect_regroup, (hlast _).groupedEffect]
    rw [TrieStore.lookup_foldl_applyOp hfresh h, TrieStore.lookup_foldl_applyOp hfresh h, hsafe,
      lastStored_regroup]

/-! ## Runs -/

namespace IndexedNode

variable {it : IngestIteration} {s s' : IndexedNode H}

/-- No event leaves a root that cannot be read. -/
theorem readable_step (hfresh : db.FreshDefault) (h : s.store.Readable db) {e : NodeEvent H}
    (hstep : s.step db it e = some s') : s'.store.Readable db := by
  cases e with
  | handler e =>
    have hhandler : s' = s.release (e.phaseOne it s.orderbook) := by
      cases e with
      | timedOutUuids uuids => cases hstep
      | _ => exact (Option.some.inj hstep).symm
    rw [hhandler]
    exact h
  | timeoutRemoved =>
    obtain ⟨timedOut, -, rfl⟩ := Option.map_eq_some_iff.mp hstep
    exact h
  | sent i =>
    obtain ⟨outbox, -, rfl⟩ := Option.map_eq_some_iff.mp hstep
    exact h
  | drained apply now =>
    simp only [IndexedNode.step] at hstep
    cases hqueue : s.outbox.queue with
    | nil =>
      rw [hqueue] at hstep
      cases hstep
    | cons batch queue =>
      rw [hqueue] at hstep
      obtain rfl := Option.some.inj hstep
      exact (s.store.applyOps_spec hfresh h apply now batch).1
  | timeoutCollected env =>
    obtain rfl := Option.some.inj hstep
    exact h
  | keepAlive visit now fromPubkey trieRoots iAmRelay isSubscribed =>
    obtain rfl := Option.some.inj hstep
    exact (TrieStore.prepareSyncRequest_sameRoots h visit trieRoots iAmRelay isSubscribed).1
  | diffsExpired pubkey albPair keep =>
    obtain rfl := Option.some.inj hstep
    exact (TrieStore.modifyState_sameRoots h
      (OrderbookPubkeyState.trieRoots_expireDiffs albPair keep)).1
  | historyExpired pubkey albPair =>
    obtain rfl := Option.some.inj hstep
    exact (TrieStore.modifyState_sameRoots h
      (OrderbookPubkeyState.trieRoots_expireHistory albPair)).1
  | expiredDropped pubkey =>
    obtain rfl := Option.some.inj hstep
    have hroots : ∀ state : OrderbookPubkeyState H, state.dropExpired.trieRoots =
        state.trieRoots := fun _ => rfl
    exact (TrieStore.modifyState_sameRoots h hroots).1

/-- In every state that the node reaches, every batch leaves the same trie contents grouped as
operation by operation, exactly when the grouping leaves the last operation on every key the last
one. -/
theorem applyOps_sameContents_iff (hfresh : db.FreshDefault) (it : IngestIteration)
    (es : List (NodeEvent H)) (hrun : run (step db it) {} es = some s) (batch : List TrieOp)
    (apply : ApplyIteration) (now : ℕ) :
    TrieStore.SameContents db (s.store.applyOps db apply now batch)
        (batch.foldl (TrieStore.applyOp db now) s.store) ↔
      ∀ key, LastStaysLast batch key := by
  have hinit : ({} : IndexedNode H).store.Readable db := by
    intro pubkey state hlookup
    cases hlookup
  have hreadable : s.store.Readable db := by
    refine invariant_run (I := fun s => s.store.Readable db) ?_ hinit
      (meets_of_forall (P := fun _ => True) fun _ _ => trivial) hrun
    intro s e s' hI _ hstep
    exact readable_step hfresh hI hstep
  exact TrieStore.sameContents_iff hfresh hreadable apply now batch

/-! ### A full trie that lists an order three times -/

/-- Received maps by increasing key. -/
def insertionIngest : IngestIteration :=
  ⟨sortedSetIteration, insertionIteration, insertionIteration, insertionIteration⟩

/-- Alice answers with the full trie of a pair. -/
def fullTrieAnswer (orders : List OrderbookItem) :
    List (NodeEvent (Option (HashMap Uuid Value))) :=
  [.handler (.syncResponse "alice"
    { pairOrdersDiff :=
        (∅ : HashMap AlbOrderedOrderbookPair (DeltaOrFullTrie Uuid OrderbookP2PItem)).insert
          "BTC:KMD" (.fullTrie (orders.map fun order => (order.uuid, order.toP2p)))
      infos := ⟨∅, ∅⟩ }), .sent 0]

def kmdOrder : OrderbookItem := testItem "alice" "KMD" "BTC" 1 1

/-- A created order is inserted. -/
theorem sameContents_inserted : ∃ s : IndexedNode (Option (HashMap Uuid Value)),
    run (step contentDb insertionIngest) {} [.handler (.insertOrUpdateOrder kmdOrder), .sent 0] =
        some s ∧
      s.outbox.queue = [[.insert "alice" "BTC:KMD" 1 kmdOrder]] ∧
      TrieStore.SameContents contentDb
        (s.store.applyOps contentDb sortedApply 0 [.insert "alice" "BTC:KMD" 1 kmdOrder])
        ([TrieOp.insert "alice" "BTC:KMD" 1 kmdOrder].foldl (TrieStore.applyOp contentDb 0)
          s.store) := by
  have hfresh : contentDb.FreshDefault := fun content h => by cases h
  have hlast : ∀ key, LastStaysLast [.insert "alice" "BTC:KMD" 1 kmdOrder] key := fun key =>
    groupedEffect_eq_batchEffect_iff.mp (congrFun (regroupSafe_singleton _).symm key)
  exact ⟨_, rfl, by decide +kernel,
    (applyOps_sameContents_iff hfresh insertionIngest
      [.handler (.insertOrUpdateOrder kmdOrder), .sent 0] rfl _ sortedApply 0).mpr hlast⟩

/-- The full trie lists the order, the order without volume, and the order again. The last
operation inserts the order into the trie, and the grouped batch removes it. -/
theorem not_sameContents_thrice :
    ∃ (s : IndexedNode (Option (HashMap Uuid Value))) (batch : List TrieOp),
    run (step contentDb insertionIngest) {}
        (fullTrieAnswer [kmdOrder, { kmdOrder with maxVolume := 0 }, kmdOrder]) = some s ∧
      s.outbox.queue = [batch] ∧ s.orderbook.orderSet.lookup 1 = some kmdOrder ∧
      ¬ TrieStore.SameContents contentDb (s.store.applyOps contentDb sortedApply 0 batch)
        (batch.foldl (TrieStore.applyOp contentDb 0) s.store) := by
  refine ⟨_, [.clearPair "alice" "BTC:KMD", .insert "alice" "BTC:KMD" 1 kmdOrder,
    .remove "alice" "BTC:KMD" 1, .insert "alice" "BTC:KMD" 1 kmdOrder], rfl, by decide +kernel,
    by decide +kernel, fun h => ?_⟩
  have hcontent := h "alice" "BTC:KMD"
  revert hcontent
  decide +kernel

end IndexedNode

end DeXFG.Ordermatch
