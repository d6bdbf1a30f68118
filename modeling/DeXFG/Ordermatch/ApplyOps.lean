import DeXFG.Library.DelayedEffects
import DeXFG.Ordermatch.TrieStore

/-!
# Applying queued trie operations

The worker applies a batch of trie operations by public key and pair: first the
clear, then all insertions, then all removals, and the removal of public keys
last. Each operation acts on the keys of the stored tries; a batch does to them
what its operations do one after the other when the last operation on every key
is also the one that the grouping puts last.
-/
namespace DeXFG.Ordermatch
open DeXFG.Library.FiniteMap DeXFG.Library.SetMap DeXFG.Library.DelayedEffects
open DeXFG.Library.Serde NewProtocol

/-! ## The worker -/

/-- The operations of a batch for one public key and pair. -/
structure TrieOpGroup where
  clear : Bool := false
  inserts : List (Uuid × OrderbookItem) := []
  removes : List Uuid := []

abbrev GroupKey := String × AlbOrderedOrderbookPair

structure GroupedOps where
  groups : HashMap GroupKey TrieOpGroup := ∅
  pubkeysToRemove : Finset String := ∅

namespace GroupedOps

/-- The group of `entry(..).or_default()`. -/
def group (grouped : GroupedOps) (key : GroupKey) : TrieOpGroup :=
  (grouped.groups.lookup key).getD {}

def setGroup (grouped : GroupedOps) (key : GroupKey) (group : TrieOpGroup) : GroupedOps :=
  { grouped with groups := grouped.groups.insert key group }

def add (grouped : GroupedOps) : TrieOp → GroupedOps
  | .clearPair pubkey albPair =>
    grouped.setGroup (pubkey, albPair) { grouped.group (pubkey, albPair) with clear := true }
  | .insert pubkey albPair uuid order =>
    let g := grouped.group (pubkey, albPair)
    grouped.setGroup (pubkey, albPair) { g with inserts := g.inserts ++ [(uuid, order)] }
  | .remove pubkey albPair uuid =>
    let g := grouped.group (pubkey, albPair)
    grouped.setGroup (pubkey, albPair) { g with removes := g.removes ++ [uuid] }
  | .removePubkey pubkey =>
    { grouped with pubkeysToRemove := insert pubkey grouped.pubkeysToRemove }

end GroupedOps

/-- The orders in which the groups and the removed public keys are visited. -/
structure ApplyIteration where
  groups : Iteration GroupKey TrieOpGroup
  pubkeys : SetIteration String

variable {H : Type} [DecidableEq H] (db : OrderTrieDb H)

namespace TrieStore

def applyGroup (now : ℕ) (store : TrieStore H) (entry : GroupKey × TrieOpGroup) : TrieStore H :=
  let (pubkey, albPair) := entry.1
  let store := if entry.2.clear then store.applyClearPair pubkey albPair else store
  let store := entry.2.inserts.foldl
    (fun store order => store.applyInsert db pubkey albPair now order.1 order.2) store
  entry.2.removes.foldl (fun store uuid => store.applyRemove db pubkey albPair now uuid) store

def applyOps (it : ApplyIteration) (now : ℕ) (store : TrieStore H) (ops : List TrieOp) :
    TrieStore H :=
  let grouped := ops.foldl GroupedOps.add {}
  let store := (it.groups.toList grouped.groups).foldl (applyGroup db now) store
  (it.pubkeys.toList grouped.pubkeysToRemove).foldl
    (fun store pubkey => { store with pubkeysState := store.pubkeysState.erase pubkey }) store

end TrieStore

/-! ## Groups as sequences of operations -/

/-- The operations in the order in which a group applies them. -/
def TrieOpGroup.toOps (entry : GroupKey × TrieOpGroup) : List TrieOp :=
  (if entry.2.clear then [TrieOp.clearPair entry.1.1 entry.1.2] else []) ++
    (entry.2.inserts.map fun order => TrieOp.insert entry.1.1 entry.1.2 order.1 order.2) ++
      entry.2.removes.map (TrieOp.remove entry.1.1 entry.1.2)

/-- The operations in the order in which the worker applies them. -/
def regroup (it : ApplyIteration) (ops : List TrieOp) : List TrieOp :=
  let grouped := ops.foldl GroupedOps.add {}
  (it.groups.toList grouped.groups).flatMap TrieOpGroup.toOps ++
    (it.pubkeys.toList grouped.pubkeysToRemove).map TrieOp.removePubkey

namespace TrieStore

theorem applyGroup_eq (now : ℕ) (store : TrieStore H) (entry : GroupKey × TrieOpGroup) :
    store.applyGroup db now entry =
      (TrieOpGroup.toOps entry).foldl (TrieStore.applyOp db now) store := by
  unfold applyGroup TrieOpGroup.toOps
  rw [List.foldl_append, List.foldl_append, List.foldl_map, List.foldl_map]
  cases entry.2.clear <;> rfl

theorem applyOps_eq (it : ApplyIteration) (now : ℕ) (store : TrieStore H) (ops : List TrieOp) :
    store.applyOps db it now ops = (regroup it ops).foldl (TrieStore.applyOp db now) store := by
  have hgroup : applyGroup db now = fun store entry =>
      (TrieOpGroup.toOps entry).foldl (TrieStore.applyOp db now) store := by
    funext store entry
    exact applyGroup_eq db now store entry
  unfold applyOps regroup
  rw [List.foldl_append, List.foldl_map, List.foldl_flatMap, hgroup]
  rfl

end TrieStore

/-! ## Keys of the stored tries -/

/-- A public key, a pair and the uuid of an order. -/
abbrev TrieKey := String × AlbOrderedOrderbookPair × Uuid

/-- What an operation does to the keys of the stored tries. -/
def TrieOp.effect : TrieOp → Effect TrieKey
  | .clearPair pubkey albPair, key =>
    if key.1 = pubkey ∧ key.2.1 = albPair then some false else none
  | .insert pubkey albPair uuid _, key => if key = (pubkey, albPair, uuid) then some true else none
  | .remove pubkey albPair uuid, key => if key = (pubkey, albPair, uuid) then some false else none
  | .removePubkey pubkey, key => if key.1 = pubkey then some false else none

/-- What an operation does to the content of the trie of a public key for a pair. -/
def TrieOp.change (op : TrieOp) (name : String) (pair : AlbOrderedOrderbookPair)
    (content : HashMap Uuid Value) : HashMap Uuid Value :=
  match op with
  | .clearPair pubkey albPair => if name = pubkey ∧ pair = albPair then ∅ else content
  | .insert pubkey albPair uuid order =>
    if name = pubkey ∧ pair = albPair then content.insert uuid order.trieStateBytes else content
  | .remove pubkey albPair uuid =>
    if name = pubkey ∧ pair = albPair then content.erase uuid else content
  | .removePubkey pubkey => if name = pubkey then ∅ else content

theorem TrieOp.mem_change {op : TrieOp} {name : String} {pair : AlbOrderedOrderbookPair}
    {content : HashMap Uuid Value} {uuid : Uuid} :
    uuid ∈ op.change name pair content ↔
      (op.effect (name, pair, uuid)).elim (uuid ∈ content) (· = true) := by
  cases op with
  | clearPair pubkey albPair =>
    simp only [change, effect]
    split_ifs <;> simp [Finmap.notMem_empty]
  | insert pubkey albPair u order =>
    simp only [change, effect, Prod.mk.injEq, ← and_assoc]
    by_cases hpair : name = pubkey ∧ pair = albPair
    · by_cases hu : uuid = u <;> simp [hpair, hu]
    · simp [hpair]
  | remove pubkey albPair u =>
    simp only [change, effect, Prod.mk.injEq, ← and_assoc]
    by_cases hpair : name = pubkey ∧ pair = albPair
    · by_cases hu : uuid = u <;> simp [hpair, hu]
    · simp [hpair]
  | removePubkey pubkey =>
    simp only [change, effect]
    split_ifs <;> simp [Finmap.notMem_empty]

/-- The effect of a batch, its operations one after the other. -/
def batchEffect (ops : List TrieOp) : Effect TrieKey := effectAll TrieOp.effect ops

/-- The effect of a batch as the worker applies it. -/
def groupedEffect (ops : List TrieOp) : Effect TrieKey := fun key =>
  if .removePubkey key.1 ∈ ops ∨ .remove key.1 key.2.1 key.2.2 ∈ ops then some false
  else if ops.any (fun op => op.effect key = some true) then some true
  else if .clearPair key.1 key.2.1 ∈ ops then some false
  else none

/-- The default root is the root of no content. -/
def TrieDb.FreshDefault (db : OrderTrieDb H) : Prop := ∀ content, db.root content ≠ db.defaultRoot

namespace OrderbookPubkeyState

variable (state : OrderbookPubkeyState H) (albPair : AlbOrderedOrderbookPair)

/-- The content of the trie recorded for a pair. -/
def content : HashMap Uuid Value := (getTrieMut db (state.pairRoot db albPair)).getD ∅

/-- Every recorded root can be read. -/
def Readable : Prop := ∀ albPair, ∃ content, getTrieMut db (state.pairRoot db albPair) = some content

/-! ### One operation on one public key -/

variable {db state albPair} {now : ℕ} {uuid : Uuid} {order : OrderbookItem}

theorem getTrieMut_root (hfresh : db.FreshDefault) (content : HashMap Uuid Value) :
    getTrieMut db (db.root content) = some content := by
  rw [getTrieMut, if_neg (hfresh content), db.read_root]

theorem content_eq_of_pairRoot {root : H} (h : state.pairRoot db albPair = root)
    {trie : HashMap Uuid Value} (htrie : getTrieMut db root = some trie) :
    state.content db albPair = trie := by
  rw [content, h, htrie, Option.getD_some]

theorem getTrieMut_pairRoot (h : state.Readable db) (albPair : AlbOrderedOrderbookPair) :
    getTrieMut db (state.pairRoot db albPair) = some (state.content db albPair) := by
  obtain ⟨trie, htrie⟩ := h albPair
  rw [content_eq_of_pairRoot rfl htrie, htrie]

omit [DecidableEq H] in
theorem pairRoot_new : (new now : OrderbookPubkeyState H).pairRoot db albPair = db.defaultRoot := by
  simp [pairRoot, new]

theorem content_new : (new now : OrderbookPubkeyState H).content db albPair = ∅ :=
  content_eq_of_pairRoot pairRoot_new (if_pos rfl)

theorem readable_new : (new now : OrderbookPubkeyState H).Readable db := fun _ =>
  ⟨∅, by rw [pairRoot_new, getTrieMut, if_pos rfl]⟩

theorem getTrieMut_applyInsert (hfresh : db.FreshDefault) (h : state.Readable db)
    (pair : AlbOrderedOrderbookPair) :
    getTrieMut db ((state.applyInsert db albPair uuid order).pairRoot db pair) =
      some (if pair = albPair then (state.content db albPair).insert uuid order.trieStateBytes
        else state.content db pair) := by
  rw [pairRoot, applyInsert_trieRoots]
  by_cases hpair : pair = albPair
  · rw [if_pos hpair, hpair, Finmap.lookup_insert, Option.getD_some, insertedRoot,
      getTrieMut_pairRoot h]
    exact getTrieMut_root hfresh _
  · rw [if_neg hpair, Finmap.lookup_insert_of_ne _ hpair]
    exact getTrieMut_pairRoot h pair

theorem getTrieMut_applyRemove (hfresh : db.FreshDefault) (h : state.Readable db)
    (pair : AlbOrderedOrderbookPair) :
    getTrieMut db ((state.applyRemove db albPair uuid).pairRoot db pair) =
      some (if pair = albPair then (state.content db albPair).erase uuid
        else state.content db pair) := by
  rw [pairRoot, applyRemove_trieRoots]
  by_cases hpair : pair = albPair
  · rw [if_pos hpair, hpair, Finmap.lookup_insert, Option.getD_some, removedRoot]
    have hget := getTrieMut_pairRoot h albPair
    by_cases hempty : state.pairRoot db albPair = db.defaultRoot ∨
        state.pairRoot db albPair = db.hashedNullNode
    · have hnone : state.content db albPair = ∅ := by
        rcases hempty with hroot | hroot
        · exact content_eq_of_pairRoot hroot (if_pos rfl)
        · exact content_eq_of_pairRoot hroot (getTrieMut_root hfresh ∅)
      rw [if_pos hempty, hget, hnone]
      rfl
    · have hread : db.read (state.pairRoot db albPair) = some (state.content db albPair) := by
        rwa [getTrieMut, if_neg (not_or.mp hempty).1] at hget
      rw [if_neg hempty, hread]
      exact getTrieMut_root hfresh _
  · rw [if_neg hpair, Finmap.lookup_insert_of_ne _ hpair]
    exact getTrieMut_pairRoot h pair

theorem getTrieMut_applyClearPair (h : state.Readable db) (pair : AlbOrderedOrderbookPair) :
    getTrieMut db ((state.applyClearPair albPair).pairRoot db pair) =
      some (if pair = albPair then ∅ else state.content db pair) := by
  rw [pairRoot, applyClearPair]
  by_cases hpair : pair = albPair
  · rw [if_pos hpair, hpair, Finmap.lookup_erase, Option.getD_none, getTrieMut, if_pos rfl]
  · rw [if_neg hpair, Finmap.lookup_erase_ne hpair]
    exact getTrieMut_pairRoot h pair

end OrderbookPubkeyState

namespace TrieStore

/-- The content of the trie recorded as the root of a public key for a pair. -/
def pairContent (store : TrieStore H) (pubkey : String) (albPair : AlbOrderedOrderbookPair) :
    HashMap Uuid Value :=
  match store.pubkeysState.lookup pubkey with
  | none => ∅
  | some state => state.content db albPair

/-- The keys of all stored tries. -/
def keys (store : TrieStore H) : Set TrieKey := {key | key.2.2 ∈ store.pairContent db key.1 key.2.1}

def Readable (store : TrieStore H) : Prop :=
  ∀ pubkey state, store.pubkeysState.lookup pubkey = some state → state.Readable db

/-! ### One operation on the store -/

variable {db} {store : TrieStore H} {pubkey : String} {now : ℕ}

theorem pairContent_of_lookup {state : OrderbookPubkeyState H}
    (h : store.pubkeysState.lookup pubkey = some state) (pair : AlbOrderedOrderbookPair) :
    store.pairContent db pubkey pair = state.content db pair := by
  rw [pairContent, h]

theorem content_pubkeyStateMut (pair : AlbOrderedOrderbookPair) :
    (store.pubkeyStateMut pubkey now).content db pair = store.pairContent db pubkey pair := by
  unfold pubkeyStateMut pairContent
  cases store.pubkeysState.lookup pubkey with
  | none => exact OrderbookPubkeyState.content_new
  | some state => rfl

theorem Readable.pubkeyStateMut (h : store.Readable db) :
    (store.pubkeyStateMut pubkey now).Readable db := by
  unfold TrieStore.pubkeyStateMut
  cases hlookup : store.pubkeysState.lookup pubkey with
  | none => exact OrderbookPubkeyState.readable_new
  | some state => exact h pubkey state hlookup

theorem pairContent_setPubkeyState {state : OrderbookPubkeyState H} {name : String}
    {pair : AlbOrderedOrderbookPair} :
    (store.setPubkeyState pubkey state).pairContent db name pair =
      if name = pubkey then state.content db pair else store.pairContent db name pair := by
  unfold pairContent setPubkeyState
  by_cases hname : name = pubkey
  · subst hname
    rw [if_pos rfl, Finmap.lookup_insert]
  · rw [if_neg hname, Finmap.lookup_insert_of_ne _ hname]

theorem Readable.setPubkeyState (h : store.Readable db) {state : OrderbookPubkeyState H}
    (hstate : state.Readable db) : (store.setPubkeyState pubkey state).Readable db := by
  intro name found hlookup
  by_cases hname : name = pubkey
  · rw [TrieStore.setPubkeyState, hname, Finmap.lookup_insert, Option.some.injEq] at hlookup
    exact hlookup ▸ hstate
  · rw [TrieStore.setPubkeyState, Finmap.lookup_insert_of_ne _ hname] at hlookup
    exact h name found hlookup

/-- The state of a public key is replaced by one in which the trie of one pair is changed. -/
theorem setPubkeyState_spec (h : store.Readable db) {state : OrderbookPubkeyState H}
    {albPair : AlbOrderedOrderbookPair} {f : HashMap Uuid Value → HashMap Uuid Value}
    (hstate : ∀ pair, getTrieMut db (state.pairRoot db pair) =
      some (if pair = albPair then f (store.pairContent db pubkey albPair)
        else store.pairContent db pubkey pair)) :
    (store.setPubkeyState pubkey state).Readable db ∧
      ∀ name pair, (store.setPubkeyState pubkey state).pairContent db name pair =
        if name = pubkey ∧ pair = albPair then f (store.pairContent db name pair)
        else store.pairContent db name pair := by
  refine ⟨h.setPubkeyState fun pair => ⟨_, hstate pair⟩, fun name pair => ?_⟩
  rw [pairContent_setPubkeyState, OrderbookPubkeyState.content_eq_of_pairRoot rfl (hstate pair)]
  by_cases hname : name = pubkey
  · subst hname
    by_cases hpair : pair = albPair
    · simp [hpair]
    · simp [hpair]
  · simp [hname]

/-- An operation changes the contents of the tries and leaves all roots readable. -/
theorem applyOp_spec (hfresh : db.FreshDefault) (h : store.Readable db) (op : TrieOp) :
    (store.applyOp db now op).Readable db ∧ ∀ name pair,
      (store.applyOp db now op).pairContent db name pair =
        op.change name pair (store.pairContent db name pair) := by
  cases op with
  | clearPair pubkey albPair =>
    simp only [applyOp, applyClearPair, TrieOp.change]
    cases hlookup : store.pubkeysState.lookup pubkey with
    | none =>
      refine ⟨h, fun name pair => ?_⟩
      split_ifs with hkey
      · rw [hkey.1, pairContent, hlookup]
      · rfl
    | some state =>
      refine setPubkeyState_spec (f := fun _ => ∅) h fun pair => ?_
      rw [OrderbookPubkeyState.getTrieMut_applyClearPair (h pubkey state hlookup),
        pairContent_of_lookup hlookup]
  | insert pubkey albPair uuid order =>
    refine setPubkeyState_spec (f := fun content => content.insert uuid order.trieStateBytes) h
      fun pair => ?_
    rw [OrderbookPubkeyState.getTrieMut_applyInsert hfresh h.pubkeyStateMut,
      content_pubkeyStateMut, content_pubkeyStateMut]
  | remove pubkey albPair uuid =>
    refine setPubkeyState_spec (f := fun content => content.erase uuid) h fun pair => ?_
    rw [OrderbookPubkeyState.getTrieMut_applyRemove hfresh h.pubkeyStateMut,
      content_pubkeyStateMut, content_pubkeyStateMut]
  | removePubkey pubkey =>
    constructor
    · intro name found hlookup
      by_cases hname : name = pubkey
      · subst hname
        simp [applyOp] at hlookup
      · simp only [applyOp, Finmap.lookup_erase_ne hname] at hlookup
        exact h name found hlookup
    · intro name pair
      simp only [applyOp, pairContent, TrieOp.change]
      by_cases hname : name = pubkey
      · subst hname
        simp
      · rw [if_neg hname, Finmap.lookup_erase_ne hname]

theorem keys_applyOp (hfresh : db.FreshDefault) (h : store.Readable db) (op : TrieOp) :
    (store.applyOp db now op).keys db = op.effect.apply (store.keys db) := by
  ext ⟨name, pair, uuid⟩
  rw [Effect.mem_apply]
  change uuid ∈ (store.applyOp db now op).pairContent db name pair ↔ _
  rw [(applyOp_spec hfresh h op).2, TrieOp.mem_change]
  rfl

/-- Operations one after the other. -/
theorem foldl_applyOp_spec (hfresh : db.FreshDefault) (h : store.Readable db) (ops : List TrieOp) :
    (ops.foldl (TrieStore.applyOp db now) store).Readable db ∧
      (ops.foldl (TrieStore.applyOp db now) store).keys db =
        (batchEffect ops).apply (store.keys db) := by
  induction ops generalizing store with
  | nil => exact ⟨h, rfl⟩
  | cons op ops ih =>
    obtain ⟨hreadable, hkeys⟩ := ih (applyOp_spec hfresh h op).1
    refine ⟨hreadable, hkeys.trans ?_⟩
    rw [keys_applyOp hfresh h, batchEffect, batchEffect, effectAll, Effect.apply_andThen]

end TrieStore

/-! ## The grouping -/

namespace GroupedOps

variable {ops : List TrieOp} {key : GroupKey} {uuid : Uuid} {pubkey : String}

/-- The operations of a list stand in the groups of their public keys and pairs. -/
structure Holds (grouped : GroupedOps) (ops : List TrieOp) : Prop where
  clear : ∀ key, (grouped.group key).clear = true ↔ .clearPair key.1 key.2 ∈ ops
  inserts : ∀ key entry, entry ∈ (grouped.group key).inserts ↔
    .insert key.1 key.2 entry.1 entry.2 ∈ ops
  removes : ∀ key uuid, uuid ∈ (grouped.group key).removes ↔ .remove key.1 key.2 uuid ∈ ops
  pubkeysToRemove : ∀ pubkey, pubkey ∈ grouped.pubkeysToRemove ↔ .removePubkey pubkey ∈ ops

theorem group_setGroup {grouped : GroupedOps} {key key' : GroupKey} {g : TrieOpGroup} :
    (grouped.setGroup key g).group key' = if key' = key then g else grouped.group key' := by
  unfold group setGroup
  by_cases h : key' = key
  · subst h
    simp
  · rw [if_neg h, Finmap.lookup_insert_of_ne _ h]

theorem group_withPubkeys {grouped : GroupedOps} {pubkeys : Finset String} :
    ({ grouped with pubkeysToRemove := pubkeys }).group key = grouped.group key := rfl

theorem Holds.add {grouped : GroupedOps} (h : grouped.Holds ops) (op : TrieOp) :
    (grouped.add op).Holds (ops ++ [op]) := by
  constructor
  · rintro ⟨name, pair⟩
    have hclear := h.clear (name, pair)
    cases op <;> grind [GroupedOps.add, group_setGroup, group_withPubkeys]
  · rintro ⟨name, pair⟩ ⟨uuid, order⟩
    have hinserts := h.inserts (name, pair) (uuid, order)
    cases op <;> grind [GroupedOps.add, group_setGroup, group_withPubkeys]
  · rintro ⟨name, pair⟩ uuid
    have hremoves := h.removes (name, pair) uuid
    cases op <;> grind [GroupedOps.add, group_setGroup, group_withPubkeys]
  · intro pubkey
    cases op <;> simp [GroupedOps.add, setGroup, h.pubkeysToRemove, or_comm]

theorem holds_empty : Holds {} [] := by
  have hgroup : ∀ key, ({} : GroupedOps).group key = {} := fun key => by simp [group]
  constructor <;> simp [hgroup]

theorem holds_foldl_add {grouped : GroupedOps} {done : List TrieOp} (h : grouped.Holds done) :
    (ops.foldl add grouped).Holds (done ++ ops) := by
  induction ops generalizing grouped done with
  | nil => simpa using h
  | cons op ops ih =>
    have hstep := ih (h.add op)
    rwa [List.append_assoc] at hstep

end GroupedOps

/-! ### The effect of a group -/

section GroupEffect

variable {g : TrieOpGroup} {name : String} {pair : AlbOrderedOrderbookPair} {uuid : Uuid}

theorem effectAll_clear (b : Bool) :
    effectAll TrieOp.effect (if b then [.clearPair name pair] else []) (name, pair, uuid) =
      if b then some false else none := by
  cases b <;> simp [effectAll, Effect.andThen, TrieOp.effect]

theorem effectAll_inserts (inserts : List (Uuid × OrderbookItem)) :
    effectAll TrieOp.effect (inserts.map fun order => .insert name pair order.1 order.2)
      (name, pair, uuid) = if uuid ∈ inserts.map Prod.fst then some true else none := by
  induction inserts with
  | nil => rfl
  | cons entry inserts ih =>
    simp only [List.map_cons, effectAll, Effect.andThen, ih, TrieOp.effect, Prod.mk.injEq, true_and,
      List.mem_cons]
    by_cases hmem : uuid ∈ inserts.map Prod.fst
    · simp [hmem]
    · simp [hmem]

theorem effectAll_removes (removes : List Uuid) :
    effectAll TrieOp.effect (removes.map (.remove name pair)) (name, pair, uuid) =
      if uuid ∈ removes then some false else none := by
  induction removes with
  | nil => rfl
  | cons removed removes ih =>
    simp only [List.map_cons, effectAll, Effect.andThen, ih, TrieOp.effect, Prod.mk.injEq, true_and,
      List.mem_cons]
    by_cases hmem : uuid ∈ removes
    · simp [hmem]
    · simp [hmem]

theorem effectAll_toOps :
    effectAll TrieOp.effect (TrieOpGroup.toOps ((name, pair), g)) (name, pair, uuid) =
      if uuid ∈ g.removes then some false
      else if uuid ∈ g.inserts.map Prod.fst then some true
      else if g.clear then some false else none := by
  unfold TrieOpGroup.toOps
  rw [effectAll_append, effectAll_append, effectAll_clear, effectAll_inserts, effectAll_removes]
  split_ifs <;> rfl

theorem effect_toOps_of_ne {key : GroupKey} (hne : key ≠ (name, pair)) {op : TrieOp}
    (hop : op ∈ TrieOpGroup.toOps (key, g)) : op.effect (name, pair, uuid) = none := by
  obtain ⟨pubkey, albPair⟩ := key
  have hkey : ¬(name = pubkey ∧ pair = albPair) := by
    rintro ⟨rfl, rfl⟩
    exact hne rfl
  unfold TrieOpGroup.toOps at hop
  simp only [List.mem_append, List.mem_map] at hop
  rcases hop with (hclear | ⟨order, _, rfl⟩) | ⟨removed, _, rfl⟩
  · split_ifs at hclear
    · rw [List.mem_singleton] at hclear
      subst hclear
      exact if_neg hkey
    · cases hclear
  · exact if_neg fun h => hkey ⟨(Prod.mk.inj h).1, (Prod.mk.inj (Prod.mk.inj h).2).1⟩
  · exact if_neg fun h => hkey ⟨(Prod.mk.inj h).1, (Prod.mk.inj (Prod.mk.inj h).2).1⟩

/-- The groups of other keys do not matter. -/
theorem effectAll_groups (it : Iteration GroupKey TrieOpGroup) (grouped : GroupedOps) :
    effectAll TrieOp.effect ((it.toList grouped.groups).flatMap TrieOpGroup.toOps)
      (name, pair, uuid) =
      effectAll TrieOp.effect (TrieOpGroup.toOps ((name, pair), grouped.group (name, pair)))
        (name, pair, uuid) := by
  cases hlookup : grouped.groups.lookup (name, pair) with
  | none =>
    have hgroup : grouped.group (name, pair) = {} := by
      rw [GroupedOps.group, hlookup, Option.getD_none]
    have hnone : effectAll TrieOp.effect ((it.toList grouped.groups).flatMap TrieOpGroup.toOps)
        (name, pair, uuid) = none := by
      rw [effectAll_eq_none]
      intro op hop
      obtain ⟨⟨key, g⟩, hentry, hop⟩ := List.mem_flatMap.mp hop
      rw [it.mem_toList] at hentry
      refine effect_toOps_of_ne ?_ hop
      rintro rfl
      rw [hlookup] at hentry
      cases hentry
    rw [hnone, hgroup]
    rfl
  | some g =>
    have hgroup : grouped.group (name, pair) = g := by
      rw [GroupedOps.group, hlookup, Option.getD_some]
    have hmem : ((name, pair), g) ∈ it.toList grouped.groups := (it.mem_toList _ _ _).mpr hlookup
    rw [hgroup]
    refine effectAll_flatMap hmem (it.nodup_toList _).of_map ?_
    rintro ⟨key, g'⟩ hentry hne op hop
    refine effect_toOps_of_ne ?_ hop
    rintro rfl
    rw [it.mem_toList, hlookup, Option.some.injEq] at hentry
    subst hentry
    exact hne rfl

theorem effectAll_removePubkeys (pubkeys : List String) :
    effectAll TrieOp.effect (pubkeys.map .removePubkey) (name, pair, uuid) =
      if name ∈ pubkeys then some false else none := by
  induction pubkeys with
  | nil => rfl
  | cons pubkey pubkeys ih =>
    simp only [List.map_cons, effectAll, Effect.andThen, ih, TrieOp.effect, List.mem_cons]
    by_cases hmem : name ∈ pubkeys
    · simp [hmem]
    · simp [hmem]

theorem effect_eq_some_true {op : TrieOp} :
    op.effect (name, pair, uuid) = some true ↔ ∃ order, op = .insert name pair uuid order := by
  cases op <;> simp [TrieOp.effect, eq_comm]

/-- Grouped by public key and pair, a batch has its grouped effect. -/
theorem batchEffect_regroup (it : ApplyIteration) (ops : List TrieOp) :
    batchEffect (regroup it ops) = groupedEffect ops := by
  funext ⟨name, pair, uuid⟩
  have hholds : (ops.foldl GroupedOps.add {}).Holds ops := by
    simpa using GroupedOps.holds_foldl_add GroupedOps.holds_empty
  have hinserts : (uuid ∈ ((ops.foldl GroupedOps.add {}).group (name, pair)).inserts.map Prod.fst) ↔
      ops.any (fun op => op.effect (name, pair, uuid) = some true) = true := by
    simp only [List.mem_map, List.any_eq_true, decide_eq_true_eq, effect_eq_some_true,
      hholds.inserts]
    constructor
    · rintro ⟨⟨u, order⟩, hmem, rfl⟩
      exact ⟨_, hmem, order, rfl⟩
    · rintro ⟨op, hmem, order, rfl⟩
      exact ⟨(uuid, order), hmem, rfl⟩
  unfold batchEffect regroup groupedEffect
  rw [effectAll_append, effectAll_removePubkeys, effectAll_groups, effectAll_toOps]
  simp only [it.pubkeys.mem_toList, hholds.removes, hholds.clear, hholds.pubkeysToRemove, hinserts]
  by_cases hpubkey : .removePubkey name ∈ ops
  · simp [hpubkey]
  · simp [hpubkey]

end GroupEffect

/-- A batch changes the keys by its grouped effect. -/
theorem TrieStore.applyOps_spec {db} (hfresh : TrieDb.FreshDefault db) {store : TrieStore H}
    (h : store.Readable db) (it : ApplyIteration) (now : ℕ) (ops : List TrieOp) :
    (store.applyOps db it now ops).Readable db ∧
      (store.applyOps db it now ops).keys db = (groupedEffect ops).apply (store.keys db) := by
  rw [TrieStore.applyOps_eq, ← batchEffect_regroup it]
  exact foldl_applyOp_spec hfresh h _

/-- The grouping does not change what the batch does. -/
def RegroupSafe (ops : List TrieOp) : Prop := batchEffect ops = groupedEffect ops

theorem regroupSafe_singleton (op : TrieOp) : RegroupSafe [op] := by
  funext ⟨name, pair, uuid⟩
  cases op <;> simp only [batchEffect, groupedEffect, effectAll, Effect.andThen, TrieOp.effect,
    List.mem_singleton] <;> simp

end DeXFG.Ordermatch
