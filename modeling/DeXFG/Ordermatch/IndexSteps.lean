import DeXFG.Ordermatch.ApplyOps
import DeXFG.Ordermatch.Placement

/-!
# Index changes and their trie operations

Every handler is a sequence of steps, each of which changes the index and hands
out trie operations: a put or a drop of one order, the removal of the orders of
a public key for a pair, or the removal of the state of a public key. A step
gives the trie operations that its change of the index calls for exactly when it
meets a condition on the orders stored before it.
-/
namespace DeXFG.Ordermatch
open DeXFG.Library.FiniteMap DeXFG.Library.SetMap DeXFG.Library.KeyedWrites
open DeXFG.Library.DelayedEffects DeXFG.Library.Runs NewProtocol

/-! ## Steps -/

inductive IndexStep where
  | op (op : IndexOp)
  | clear (pubkey : String) (albPair : AlbOrderedOrderbookPair)
  | forget (pubkey : String)

namespace Orderbook

variable (it : SetIteration Uuid)

def perform (orderbook : Orderbook) : IndexStep → Orderbook × List TrieOp
  | .op op => orderbook.exec op
  | .clear pubkey albPair => (orderbook.indexRemovePubkeyPairOrders it pubkey albPair,
      [.clearPair pubkey albPair])
  | .forget pubkey => (orderbook, [.removePubkey pubkey])

def performAll (orderbook : Orderbook) (steps : List IndexStep) : Orderbook × List TrieOp :=
  forEach (perform it) orderbook steps

variable {it} {orderbook : Orderbook} {step : IndexStep} {steps : List IndexStep}

theorem performAll_cons :
    orderbook.performAll it (step :: steps) = (((orderbook.perform it step).1.performAll it steps).1,
      (orderbook.perform it step).2 ++ ((orderbook.perform it step).1.performAll it steps).2) := rfl

theorem performAll_append (steps' : List IndexStep) :
    orderbook.performAll it (steps ++ steps') =
      (((orderbook.performAll it steps).1.performAll it steps').1,
        (orderbook.performAll it steps).2 ++
          ((orderbook.performAll it steps).1.performAll it steps').2) := by
  induction steps generalizing orderbook with
  | nil => rfl
  | cons step steps ih =>
    rw [List.cons_append, performAll_cons, ih, performAll_cons, List.append_assoc]

theorem performAll_map_op (ops : List IndexOp) :
    orderbook.performAll it (ops.map .op) = orderbook.execAll ops := by
  induction ops generalizing orderbook with
  | nil => rfl
  | cons op ops ih =>
    rw [List.map_cons, performAll_cons, ih, execAll_cons]
    rfl

@[simp] theorem recentlyCancelled_perform :
    (orderbook.perform it step).1.recentlyCancelled = orderbook.recentlyCancelled := by
  cases step with
  | op op => exact recentlyCancelled_exec
  | clear pubkey albPair =>
    simp only [perform, indexRemovePubkeyPairOrders_eq, recentlyCancelled_execAll]
  | forget pubkey => rfl

@[simp] theorem myP2pPubkeys_perform :
    (orderbook.perform it step).1.myP2pPubkeys = orderbook.myP2pPubkeys := by
  cases step with
  | op op => exact myP2pPubkeys_exec
  | clear pubkey albPair =>
    simp only [perform, indexRemovePubkeyPairOrders_eq, myP2pPubkeys_execAll]
  | forget pubkey => rfl

theorem recentlyCancelled_performAll :
    (orderbook.performAll it steps).1.recentlyCancelled = orderbook.recentlyCancelled := by
  induction steps generalizing orderbook with
  | nil => rfl
  | cons step steps ih => rw [performAll_cons, ih, recentlyCancelled_perform]

theorem myP2pPubkeys_performAll :
    (orderbook.performAll it steps).1.myP2pPubkeys = orderbook.myP2pPubkeys := by
  induction steps generalizing orderbook with
  | nil => rfl
  | cons step steps ih => rw [performAll_cons, ih, myP2pPubkeys_perform]

/-- A loop whose rounds are steps that depend on the expiring data and the own keys only. -/
theorem forEach_eq_performAll {α : Type} {body : Orderbook → α → Orderbook × List TrieOp}
    (steps : HashMap Uuid String → Finset String → α → List IndexStep)
    (h : ∀ orderbook item, body orderbook item =
      orderbook.performAll it (steps orderbook.recentlyCancelled orderbook.myP2pPubkeys item))
    (orderbook : Orderbook) (items : List α) :
    forEach body orderbook items = orderbook.performAll it
      (items.flatMap (steps orderbook.recentlyCancelled orderbook.myP2pPubkeys)) := by
  induction items generalizing orderbook with
  | nil => rfl
  | cons item items ih =>
    rw [List.flatMap_cons, performAll_append]
    change ((forEach body (body orderbook item).1 items).1,
      (body orderbook item).2 ++ (forEach body (body orderbook item).1 items).2) = _
    rw [ih, h, recentlyCancelled_performAll, myP2pPubkeys_performAll]

end Orderbook

/-! ## Handlers as steps -/

section Handlers

variable (it : IngestIteration)

def fullTrieSteps (recentlyCancelled : HashMap Uuid String) (newTrieOrders : PubkeyOrders)
    (params : ProcessTrieParams) : List IndexStep :=
  .clear params.pubkey params.albPair ::
    (fullTrieInserts params.infos recentlyCancelled newTrieOrders).map .op

def pairDiffSteps (fromPubkey : String) (infos : OrderInfos)
    (recentlyCancelled : HashMap Uuid String)
    (entry : AlbOrderedOrderbookPair × DeltaOrFullTrie Uuid OrderbookP2PItem) : List IndexStep :=
  match entry.2 with
  | .delta delta => (deltaOps it infos recentlyCancelled delta).map .op
  | .fullTrie values => fullTrieSteps recentlyCancelled values ⟨fromPubkey, entry.1, infos⟩

def fillPubkeySteps (env : FillEnv) (base rel : String) (infos : OrderInfos)
    (recentlyCancelled : HashMap Uuid String) (myP2pPubkeys : Finset String)
    (entry : String × PubkeyOrders) : List IndexStep :=
  if acceptsPubkey env { myP2pPubkeys := myP2pPubkeys } entry.1 then
    fullTrieSteps recentlyCancelled entry.2 ⟨entry.1, albOrderedPair base rel, infos⟩
  else []

theorem processPubkeyFullTrie_eq_performAll (orderbook : Orderbook) (newTrieOrders : PubkeyOrders)
    (params : ProcessTrieParams) :
    processPubkeyFullTrie it orderbook newTrieOrders params = orderbook.performAll it.uuids
      (fullTrieSteps orderbook.recentlyCancelled newTrieOrders params) := by
  rw [processPubkeyFullTrie_eq, fullTrieSteps, Orderbook.performAll_cons,
    Orderbook.performAll_map_op]
  simp only [Orderbook.perform, Orderbook.indexRemovePubkeyPairOrders_eq]
  rfl

theorem processSyncResponse_eq (orderbook : Orderbook) (fromPubkey : String)
    (response : SyncPubkeyOrderbookStateRes) :
    processSyncResponse it orderbook fromPubkey response = orderbook.performAll it.uuids
      ((it.pairs.toList response.pairOrdersDiff).flatMap
        (pairDiffSteps it fromPubkey response.infos orderbook.recentlyCancelled)) := by
  apply Orderbook.forEach_eq_performAll
    (fun recentlyCancelled _ => pairDiffSteps it fromPubkey response.infos recentlyCancelled)
  rintro orderbook ⟨pair, delta | values⟩
  · simp only [processPairDiff, pairDiffSteps, processTrieDelta_eq, Orderbook.performAll_map_op]
  · exact processPubkeyFullTrie_eq_performAll it orderbook values _

theorem fillOrderbook_eq (env : FillEnv) (orderbook : Orderbook) (base rel : String)
    (response : GetOrderbookRes) :
    fillOrderbook it env orderbook base rel response = orderbook.performAll it.uuids
      ((it.pubkeys.toList response.pubkeyOrders).flatMap (fillPubkeySteps env base rel
        response.infos orderbook.recentlyCancelled orderbook.myP2pPubkeys)) := by
  apply Orderbook.forEach_eq_performAll (fillPubkeySteps env base rel response.infos)
  intro orderbook entry
  have haccepts : acceptsPubkey env { myP2pPubkeys := orderbook.myP2pPubkeys } entry.1 =
      acceptsPubkey env orderbook entry.1 := rfl
  unfold fillPubkeyOrders fillPubkeySteps
  rw [haccepts]
  split_ifs
  · exact processPubkeyFullTrie_eq_performAll it orderbook entry.2 _
  · rfl

end Handlers

namespace IndexEvent
open Orderbook

variable (it : IngestIteration)

/-- What a handler does while it holds the lock: the new index and the operations to enqueue. -/
def phaseOne (orderbook : Orderbook) : IndexEvent → Orderbook × List TrieOp
  | insertOrUpdateOrder item => orderbook.indexInsertOrUpdate item
  | insertOrUpdateMyOrder item key => Ordermatch.insertOrUpdateMyOrder orderbook item key
  | deleteMyOrder uuid key => Ordermatch.deleteMyOrder orderbook uuid key
  | makerOrderUpdated fromPubkey msg =>
    (processMakerOrderUpdated orderbook fromPubkey msg).getD (orderbook, [])
  | myMakerOrderUpdated msg => processMyMakerOrderUpdated orderbook msg
  | makerOrderCancelled fromPubkey msg => processMakerOrderCancelled orderbook fromPubkey msg
  | syncResponse fromPubkey response => processSyncResponse it orderbook fromPubkey response
  | fillOrderbook env base rel response =>
    Ordermatch.fillOrderbook it env orderbook base rel response
  | timedOutUuids uuids => removeTimedOutUuids orderbook uuids
  | cancelledExpired keep => ({ orderbook with
      recentlyCancelled := retain (fun u _ => keep u) orderbook.recentlyCancelled }, [])

theorem phaseOne_fst (orderbook : Orderbook) (e : IndexEvent) :
    (e.phaseOne it orderbook).1 = e.handle it orderbook := by
  cases e with
  | makerOrderUpdated fromPubkey msg =>
    simp only [phaseOne, handle]
    cases processMakerOrderUpdated orderbook fromPubkey msg <;> rfl
  | _ => rfl

/-- The steps that the handler takes. -/
def steps (orderbook : Orderbook) : IndexEvent → List IndexStep
  | syncResponse fromPubkey response => (it.pairs.toList response.pairOrdersDiff).flatMap
      (pairDiffSteps it fromPubkey response.infos orderbook.recentlyCancelled)
  | fillOrderbook env base rel response => (it.pubkeys.toList response.pubkeyOrders).flatMap
      (fillPubkeySteps env base rel response.infos orderbook.recentlyCancelled
        orderbook.myP2pPubkeys)
  | e => (e.ops it orderbook).map .op

/-- Every handler takes its steps, and may change the expiring data and the own keys. -/
theorem phaseOne_eq (orderbook : Orderbook) (e : IndexEvent) : ∃ cancelled keys,
    e.phaseOne it orderbook =
      ((orderbook.performAll it.uuids (e.steps it orderbook)).1.withMemory cancelled keys,
        (orderbook.performAll it.uuids (e.steps it orderbook)).2) := by
  have hsame : ∀ orderbook' : Orderbook,
      orderbook' = orderbook'.withMemory orderbook'.recentlyCancelled orderbook'.myP2pPubkeys :=
    fun _ => rfl
  cases e with
  | insertOrUpdateOrder item =>
    simp only [steps, performAll_map_op, phaseOne, indexInsertOrUpdate_eq]
    exact ⟨_, _, rfl⟩
  | insertOrUpdateMyOrder item key =>
    simp only [steps, performAll_map_op, phaseOne, Ordermatch.insertOrUpdateMyOrder,
      indexInsertOrUpdate_eq]
    cases key with
    | none => exact ⟨_, _, rfl⟩
    | some key => exact ⟨_, _, rfl⟩
  | deleteMyOrder uuid key =>
    simp only [steps, performAll_map_op, phaseOne, Ordermatch.deleteMyOrder, ops, execAll_singleton]
    cases key with
    | none => exact ⟨_, _, rfl⟩
    | some key => exact ⟨_, _, rfl⟩
  | makerOrderUpdated fromPubkey msg =>
    simp only [steps, performAll_map_op, phaseOne, processMakerOrderUpdated, ops]
    cases orderbook.findOrderByUuidAndPubkey msg.uuid fromPubkey with
    | none => exact ⟨_, _, rfl⟩
    | some order =>
      simp only [updateOps, ← indexInsertOrUpdate_eq]
      exact ⟨_, _, rfl⟩
  | myMakerOrderUpdated msg =>
    simp only [steps, performAll_map_op, phaseOne, processMyMakerOrderUpdated, ops]
    cases orderbook.findOrderByUuid msg.uuid with
    | none => exact ⟨_, _, rfl⟩
    | some order =>
      simp only [updateOps, ← indexInsertOrUpdate_eq]
      exact ⟨_, _, rfl⟩
  | makerOrderCancelled fromPubkey msg =>
    simp only [steps, performAll_map_op, phaseOne, ops, processMakerOrderCancelled_eq]
    exact ⟨_, _, rfl⟩
  | syncResponse fromPubkey response =>
    simp only [steps, phaseOne, processSyncResponse_eq]
    exact ⟨_, _, rfl⟩
  | fillOrderbook env base rel response =>
    simp only [steps, phaseOne, fillOrderbook_eq]
    exact ⟨_, _, rfl⟩
  | timedOutUuids uuids =>
    simp only [steps, performAll_map_op, phaseOne, ops, removeTimedOutUuids_eq]
    exact ⟨_, _, rfl⟩
  | cancelledExpired keep => exact ⟨_, orderbook.myP2pPubkeys, rfl⟩

end IndexEvent

/-! ## The keys of the index -/

namespace Orderbook

variable {it : SetIteration Uuid} {orderbook : Orderbook} {step : IndexStep}
  {steps : List IndexStep} {pubkey : String} {albPair : AlbOrderedOrderbookPair} {uuid : Uuid}

/-- The public key, pair and uuid of every stored order. -/
def indexKeys (orderbook : Orderbook) : Set TrieKey :=
  {key | ∃ order, orderbook.orderSet.lookup key.2.2 = some order ∧ order.pubkey = key.1 ∧
    order.albPair = key.2.1}

/-- The uuid is listed under one of the two orientations of the pair. -/
def ListedUnder (orderbook : Orderbook) (albPair : AlbOrderedOrderbookPair) (uuid : Uuid) : Prop :=
  match splitOnce albPair with
  | none => False
  | some (base, rel) => uuid ∈ valuesAt orderbook.unordered (base, rel) ∨
      uuid ∈ valuesAt orderbook.unordered (rel, base)

/-- What a step must find: a put replaces no order of another public key or pair, the orders of a
public key listed under a pair are its orders of the pair, and a forgotten public key has no
orders. -/
def StepOk (orderbook : Orderbook) : IndexStep → Prop
  | .op (.put order) => ∀ stored, orderbook.orderSet.lookup order.uuid = some stored →
      stored.pubkey = order.pubkey ∧ stored.albPair = order.albPair
  | .op (.drop _) => True
  | .clear pubkey albPair => ∀ uuid stored, orderbook.orderSet.lookup uuid = some stored →
      stored.pubkey = pubkey → (stored.albPair = albPair ↔ orderbook.ListedUnder albPair uuid)
  | .forget pubkey => ∀ uuid, orderbook.owner uuid ≠ some pubkey

theorem mem_unordered_execAll_drops {uuids : List Uuid} (h : uuid ∉ uuids)
    (pair : String × String) :
    uuid ∈ valuesAt (orderbook.execAll (uuids.map .drop)).1.unordered pair ↔
      uuid ∈ valuesAt orderbook.unordered pair := by
  induction uuids generalizing orderbook with
  | nil => rfl
  | cons dropped uuids ih =>
    rw [List.mem_cons, not_or] at h
    rw [List.map_cons, execAll_cons, ih h.2]
    cases hlookup : orderbook.orderSet.lookup dropped with
    | none => rw [exec_drop_of_none hlookup]
    | some order =>
      rw [exec_drop_of_some hlookup]
      simp [mem_valuesAt_dropFrom, h.1]

theorem mem_ownedUuids {pair : String × String} :
    uuid ∈ orderbook.ownedUuids it pubkey pair ↔
      uuid ∈ valuesAt orderbook.unordered pair ∧ orderbook.owner uuid = some pubkey := by
  rw [ownedUuids, List.mem_filter, it.mem_toList, decide_eq_true_eq]

/-- Exactly the orders of the public key that are listed under the pair leave the index. -/
theorem lookup_indexRemovePubkeyPairOrders :
    (orderbook.owner uuid = some pubkey ∧ orderbook.ListedUnder albPair uuid →
      (orderbook.indexRemovePubkeyPairOrders it pubkey albPair).orderSet.lookup uuid = none) ∧
    (¬(orderbook.owner uuid = some pubkey ∧ orderbook.ListedUnder albPair uuid) →
      (orderbook.indexRemovePubkeyPairOrders it pubkey albPair).orderSet.lookup uuid =
        orderbook.orderSet.lookup uuid) := by
  rw [indexRemovePubkeyPairOrders_eq]
  unfold pairDrops ListedUnder
  cases splitOnce albPair with
  | none => simp
  | some pair =>
    obtain ⟨base, rel⟩ := pair
    simp only [execAll_append, lookup_execAll_drops]
    by_cases hfirst : uuid ∈ orderbook.ownedUuids it pubkey (base, rel)
    · obtain ⟨hlisted, howner⟩ := mem_ownedUuids.mp hfirst
      rw [if_pos hfirst, ite_self]
      exact ⟨fun _ => rfl, fun hnot => absurd ⟨howner, Or.inl hlisted⟩ hnot⟩
    · have howner : (orderbook.execAll ((orderbook.ownedUuids it pubkey (base, rel)).map
          .drop)).1.owner uuid = orderbook.owner uuid := by
        rw [owner, lookup_execAll_drops, if_neg hfirst, owner]
      have hsecond : uuid ∈ (orderbook.execAll ((orderbook.ownedUuids it pubkey (base, rel)).map
          .drop)).1.ownedUuids it pubkey (rel, base) ↔
            uuid ∈ valuesAt orderbook.unordered (rel, base) ∧ orderbook.owner uuid = some pubkey := by
        rw [mem_ownedUuids, howner, mem_unordered_execAll_drops hfirst]
      rw [if_neg hfirst]
      rw [mem_ownedUuids] at hfirst
      constructor
      · rintro ⟨hpubkey, hlisted⟩
        rw [if_pos (hsecond.mpr ⟨hlisted.resolve_left fun h => hfirst ⟨h, hpubkey⟩, hpubkey⟩)]
      · intro hnot
        rw [if_neg fun h => hnot ⟨(hsecond.mp h).2, Or.inr (hsecond.mp h).1⟩]

theorem owner_eq_some {name : String} :
    orderbook.owner uuid = some name ↔
      ∃ order, orderbook.orderSet.lookup uuid = some order ∧ order.pubkey = name :=
  Option.map_eq_some_iff

theorem mem_indexKeys {pair : AlbOrderedOrderbookPair} :
    (pubkey, pair, uuid) ∈ orderbook.indexKeys ↔
      ∃ order, orderbook.orderSet.lookup uuid = some order ∧ order.pubkey = pubkey ∧
        order.albPair = pair := Iff.rfl

theorem mem_apply_batchEffect_singleton {op : TrieOp} {keys : Set TrieKey} {key : TrieKey} :
    key ∈ (batchEffect [op]).apply keys ↔ (op.effect key).elim (key ∈ keys) (· = true) := by
  rw [Effect.mem_apply, batchEffect, effectAll, Effect.andThen]
  rfl

theorem indexKeys_put_iff {order : OrderbookItem} :
    (orderbook.exec (.put order)).1.indexKeys =
      (batchEffect (orderbook.exec (.put order)).2).apply orderbook.indexKeys ↔
        orderbook.StepOk (.op (.put order)) := by
  have hbefore : ∀ name pair u, (name, pair, u) ∈ (orderbook.exec (.put order)).1.indexKeys ↔
      if order.uuid = u then order.pubkey = name ∧ order.albPair = pair
      else (name, pair, u) ∈ orderbook.indexKeys := by
    intro name pair u
    rw [mem_indexKeys, orderSet_exec, lookup_applyWrite, IndexOp.write_fst, IndexOp.uuid]
    split_ifs
    · simp [IndexOp.write]
    · rfl
  have hafter : ∀ name pair u,
      (name, pair, u) ∈ (batchEffect (orderbook.exec (.put order)).2).apply orderbook.indexKeys ↔
        (order.uuid = u ∧ order.pubkey = name ∧ order.albPair = pair) ∨
          (name, pair, u) ∈ orderbook.indexKeys := by
    intro name pair u
    refine mem_apply_batchEffect_singleton.trans ?_
    simp only [TrieOp.effect, Prod.mk.injEq]
    by_cases hkey : name = order.pubkey ∧ pair = order.albPair ∧ u = order.uuid
    · simp [hkey]
    · have hne : ¬(order.uuid = u ∧ order.pubkey = name ∧ order.albPair = pair) := by
        rintro ⟨rfl, rfl, rfl⟩
        exact hkey ⟨rfl, rfl, rfl⟩
      simp [hkey, hne]
  constructor
  · intro heq stored hlookup
    have hkey := Set.ext_iff.mp heq (stored.pubkey, stored.albPair, order.uuid)
    rw [hbefore, hafter, if_pos rfl] at hkey
    have hsame := hkey.mpr (Or.inr ⟨stored, hlookup, rfl, rfl⟩)
    exact ⟨hsame.1.symm, hsame.2.symm⟩
  · intro hok
    ext ⟨name, pair, u⟩
    rw [hbefore, hafter]
    by_cases hu : order.uuid = u
    · subst hu
      rw [if_pos rfl]
      constructor
      · rintro ⟨rfl, rfl⟩
        exact Or.inl ⟨rfl, rfl, rfl⟩
      · rintro (⟨-, rfl, rfl⟩ | ⟨stored, hlookup, rfl, rfl⟩)
        · exact ⟨rfl, rfl⟩
        · obtain ⟨hpubkey, hpair⟩ := hok stored hlookup
          exact ⟨hpubkey.symm, hpair.symm⟩
    · simp [hu]

theorem indexKeys_drop (uuid : Uuid) :
    (orderbook.exec (.drop uuid)).1.indexKeys =
      (batchEffect (orderbook.exec (.drop uuid)).2).apply orderbook.indexKeys := by
  cases hlookup : orderbook.orderSet.lookup uuid with
  | none =>
    rw [exec_drop_of_none hlookup]
    rfl
  | some order =>
    rw [exec_drop_of_some hlookup]
    ext ⟨name, pair, u⟩
    rw [mem_apply_batchEffect_singleton, mem_indexKeys]
    simp only [TrieOp.effect, Prod.mk.injEq]
    by_cases hu : u = uuid
    · subst hu
      have hgone : (orderbook.orderSet.erase u).lookup u = none := Finmap.lookup_erase _ _
      by_cases hkey : name = order.pubkey ∧ pair = order.albPair
      · simp [hkey, hgone]
      · have hold : (name, pair, u) ∉ orderbook.indexKeys := by
          rintro ⟨stored, hstored, rfl, rfl⟩
          rw [hlookup, Option.some.injEq] at hstored
          subst hstored
          exact hkey ⟨rfl, rfl⟩
        simp [hkey, hold, hgone]
    · rw [Finmap.lookup_erase_ne hu]
      simp [hu, mem_indexKeys]

theorem indexKeys_clear_iff :
    (orderbook.indexRemovePubkeyPairOrders it pubkey albPair).indexKeys =
      (batchEffect [.clearPair pubkey albPair]).apply orderbook.indexKeys ↔
        orderbook.StepOk (.clear pubkey albPair) := by
  have hafter : ∀ name pair u,
      (name, pair, u) ∈ (batchEffect [.clearPair pubkey albPair]).apply orderbook.indexKeys ↔
        ¬(name = pubkey ∧ pair = albPair) ∧ (name, pair, u) ∈ orderbook.indexKeys := by
    intro name pair u
    rw [mem_apply_batchEffect_singleton]
    simp only [TrieOp.effect]
    split_ifs with hkey
    · simp [hkey]
    · simp [hkey]
  have hbefore : ∀ name pair u,
      (name, pair, u) ∈ (orderbook.indexRemovePubkeyPairOrders it pubkey albPair).indexKeys ↔
        ¬(name = pubkey ∧ orderbook.ListedUnder albPair u) ∧
          (name, pair, u) ∈ orderbook.indexKeys := by
    intro name pair u
    obtain ⟨hgone, hkept⟩ := @lookup_indexRemovePubkeyPairOrders it orderbook pubkey albPair u
    rw [mem_indexKeys]
    by_cases hremoved : orderbook.owner u = some pubkey ∧ orderbook.ListedUnder albPair u
    · obtain ⟨stored, hlookup, hpubkey⟩ := owner_eq_some.mp hremoved.1
      rw [hgone hremoved, mem_indexKeys, hlookup]
      constructor
      · rintro ⟨_, hnone, _⟩
        cases hnone
      · rintro ⟨hnot, order, horder, rfl, rfl⟩
        rw [Option.some.injEq] at horder
        subst horder
        exact absurd ⟨hpubkey, hremoved.2⟩ hnot
    · rw [hkept hremoved, mem_indexKeys]
      constructor
      · rintro ⟨order, horder, rfl, rfl⟩
        refine ⟨?_, order, horder, rfl, rfl⟩
        rintro ⟨rfl, hlisted⟩
        exact hremoved ⟨owner_eq_some.mpr ⟨order, horder, rfl⟩, hlisted⟩
      · exact And.right
  constructor
  · intro heq u stored hlookup hpubkey
    have hkey := Set.ext_iff.mp heq (stored.pubkey, stored.albPair, u)
    rw [hbefore, hafter] at hkey
    have hstored : (stored.pubkey, stored.albPair, u) ∈ orderbook.indexKeys :=
      ⟨stored, hlookup, rfl, rfl⟩
    have hnot := (and_congr_left_iff.mp hkey) hstored
    simpa [hpubkey] using (not_iff_not.mp hnot).symm
  · intro hok
    ext ⟨name, pair, u⟩
    rw [hbefore, hafter]
    refine and_congr_left ?_
    rintro ⟨stored, hlookup, rfl, rfl⟩
    rw [not_iff_not]
    exact and_congr_right fun hpubkey => (hok u stored hlookup hpubkey).symm

/-- The trie operations of a step do to the keys what the step does to the index, exactly when
the step is in order. -/
theorem indexKeys_perform_iff :
    (orderbook.perform it step).1.indexKeys =
      (batchEffect (orderbook.perform it step).2).apply orderbook.indexKeys ↔
        orderbook.StepOk step := by
  cases step with
  | op op =>
    cases op with
    | put order => exact indexKeys_put_iff
    | drop uuid => exact iff_of_true (indexKeys_drop uuid) trivial
  | clear pubkey albPair => exact indexKeys_clear_iff
  | forget pubkey =>
    have hafter : ∀ name pair u,
        (name, pair, u) ∈ (batchEffect [.removePubkey pubkey]).apply orderbook.indexKeys ↔
          name ≠ pubkey ∧ (name, pair, u) ∈ orderbook.indexKeys := by
      intro name pair u
      rw [mem_apply_batchEffect_singleton]
      simp only [TrieOp.effect]
      split_ifs with hkey
      · simp [hkey]
      · simp [hkey]
    constructor
    · intro heq u howner
      obtain ⟨stored, hlookup, hpubkey⟩ := owner_eq_some.mp howner
      have hkey := Set.ext_iff.mp heq (stored.pubkey, stored.albPair, u)
      exact ((hafter _ _ _).mp (hkey.mp ⟨stored, hlookup, rfl, rfl⟩)).1 hpubkey
    · intro hok
      ext ⟨name, pair, u⟩
      refine Iff.trans ?_ (hafter name pair u).symm
      refine (and_iff_right_of_imp ?_).symm
      rintro ⟨stored, hlookup, rfl, -⟩ hpubkey
      exact hok u (owner_eq_some.mpr ⟨stored, hlookup, hpubkey⟩)

/-! ### Sequences of steps -/

def performStep (it : SetIteration Uuid) (orderbook : Orderbook) (step : IndexStep) :
    Option Orderbook :=
  some (orderbook.perform it step).1

theorem batchEffect_append (ops ops' : List TrieOp) :
    batchEffect (ops ++ ops') = (batchEffect ops).andThen (batchEffect ops') :=
  funext fun _ => effectAll_append

theorem indexKeys_performAll (hok : Meets (performStep it) StepOk orderbook steps) :
    (orderbook.performAll it steps).1.indexKeys =
      (batchEffect (orderbook.performAll it steps).2).apply orderbook.indexKeys := by
  induction steps generalizing orderbook with
  | nil => rfl
  | cons step steps ih =>
    rw [performAll_cons, ih (hok.2 _ rfl), indexKeys_perform_iff.mpr hok.1, batchEffect_append,
      Effect.apply_andThen]

/-- Removing single orders is always in order. -/
theorem meets_drops {uuids : List Uuid}
    (hok : Meets (performStep it) StepOk (orderbook.execAll (uuids.map .drop)).1 steps) :
    Meets (performStep it) StepOk orderbook ((uuids.map fun u => .op (.drop u)) ++ steps) := by
  induction uuids generalizing orderbook with
  | nil => exact hok
  | cons uuid uuids ih =>
    refine ⟨trivial, fun orderbook' hstep => ?_⟩
    obtain rfl := Option.some.inj hstep
    exact ih hok

theorem meets_forget {pubkeys : List String}
    (hok : ∀ pubkey ∈ pubkeys, orderbook.StepOk (.forget pubkey)) :
    Meets (performStep it) StepOk orderbook (pubkeys.map .forget) := by
  induction pubkeys with
  | nil => trivial
  | cons pubkey pubkeys ih =>
    refine ⟨hok pubkey List.mem_cons_self, fun orderbook' hstep => ?_⟩
    obtain rfl := Option.some.inj hstep
    exact ih fun pubkey' hmem => hok pubkey' (List.mem_cons_of_mem _ hmem)

theorem performAll_forget (pubkeys : List String) :
    orderbook.performAll it (pubkeys.map .forget) =
      (orderbook, pubkeys.map .removePubkey) := by
  induction pubkeys with
  | nil => rfl
  | cons pubkey pubkeys ih =>
    rw [List.map_cons, performAll_cons]
    simp only [perform, ih]
    rfl

end Orderbook

end DeXFG.Ordermatch
