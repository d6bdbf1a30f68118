import DeXFG.Ordermatch.Orderbook
import Mathlib.Data.String.Basic

/-!
# Handlers that feed the orderbook index

Every path by which orders enter or leave the index, up to the point where the
lock is released: each handler returns the orderbook and the trie operations it
enqueues afterwards. Received maps are iterated in some order.
-/
namespace DeXFG.Ordermatch
open DeXFG.Library.FiniteMap DeXFG.Library.SetMap DeXFG.Library.KeyedWrites NewProtocol

/-! ## Responses of peers -/

abbrev PubkeyOrders := List (Uuid × OrderbookP2PItem)

inductive DeltaOrFullTrie (Key Value : Type) where
  | delta (delta : HashMap Key (Option Value))
  | fullTrie (trie : List (Key × Value))

/-- The protocol and confirmation settings sent next to the orders. -/
structure OrderInfos where
  protocolInfos : HashMap Uuid BaseRelProtocolInfo
  confInfos : HashMap Uuid OrderConfirmationsSettings

structure SyncPubkeyOrderbookStateRes where
  pairOrdersDiff : HashMap AlbOrderedOrderbookPair (DeltaOrFullTrie Uuid OrderbookP2PItem)
  infos : OrderInfos

structure GetOrderbookRes where
  pubkeyOrders : HashMap String PubkeyOrders
  infos : OrderInfos

/-- The orders in which the hash sets and maps of the handlers are iterated. -/
structure IngestIteration where
  uuids : SetIteration Uuid
  delta : Iteration Uuid (Option OrderbookP2PItem)
  pairs : Iteration AlbOrderedOrderbookPair (DeltaOrFullTrie Uuid OrderbookP2PItem)
  pubkeys : Iteration String PubkeyOrders

/-- Everything by increasing key. -/
def sortedIngest : IngestIteration :=
  ⟨sortedSetIteration, sortedIteration, sortedIteration, sortedIteration⟩

structure ProcessTrieParams where
  pubkey : String
  albPair : AlbOrderedOrderbookPair
  infos : OrderInfos

namespace OrderInfos

/-- The item stored for a received order. -/
def item (infos : OrderInfos) (uuid : Uuid) (order : OrderbookP2PItem) : OrderbookItem :=
  .fromP2pAndInfo order ((infos.protocolInfos.lookup uuid).getD .default)
    (infos.confInfos.lookup uuid)

@[simp] theorem toP2p_item (infos : OrderInfos) (uuid : Uuid) (order : OrderbookP2PItem) :
    (infos.item uuid order).toP2p = order := rfl

@[simp] theorem item_uuid (infos : OrderInfos) (uuid : Uuid) (order : OrderbookP2PItem) :
    (infos.item uuid order).uuid = order.uuid := rfl

@[simp] theorem item_pubkey (infos : OrderInfos) (uuid : Uuid) (order : OrderbookP2PItem) :
    (infos.item uuid order).pubkey = order.pubkey := rfl

end OrderInfos

/-! ## Handlers -/

variable (it : IngestIteration)

def processPubkeyFullTrie (orderbook : Orderbook) (newTrieOrders : PubkeyOrders)
    (params : ProcessTrieParams) : Orderbook × List TrieOp :=
  let orderbook := orderbook.indexRemovePubkeyPairOrders it.uuids params.pubkey params.albPair
  let inserted := forEach (fun orderbook entry =>
    orderbook.indexInsertOrUpdate (params.infos.item entry.1 entry.2)) orderbook newTrieOrders
  (inserted.1, .clearPair params.pubkey params.albPair :: inserted.2)

def processTrieDelta (orderbook : Orderbook)
    (deltaOrders : HashMap Uuid (Option OrderbookP2PItem)) (params : ProcessTrieParams) :
    Orderbook × List TrieOp :=
  forEach (fun orderbook entry =>
    match entry.2 with
    | some order => orderbook.indexInsertOrUpdate (params.infos.item entry.1 order)
    | none =>
      match orderbook.indexRemove entry.1 with
      | (orderbook, some (_, op)) => (orderbook, [op])
      | (orderbook, none) => (orderbook, []))
    orderbook (it.delta.toList deltaOrders)

/-- One pair of a `SyncPubkeyOrderbookState` response. -/
def processPairDiff (fromPubkey : String) (infos : OrderInfos) (orderbook : Orderbook)
    (entry : AlbOrderedOrderbookPair × DeltaOrFullTrie Uuid OrderbookP2PItem) :
    Orderbook × List TrieOp :=
  match entry.2 with
  | .delta delta => processTrieDelta it orderbook delta ⟨fromPubkey, entry.1, infos⟩
  | .fullTrie values => processPubkeyFullTrie it orderbook values ⟨fromPubkey, entry.1, infos⟩

/-- The part of `process_orders_keep_alive` that processes the response. -/
def processSyncResponse (orderbook : Orderbook) (fromPubkey : String)
    (response : SyncPubkeyOrderbookStateRes) : Orderbook × List TrieOp :=
  forEach (processPairDiff it fromPubkey response.infos) orderbook
    (it.pairs.toList response.pairOrdersDiff)

def processMakerOrderCreated (orderbook : Orderbook) (fromPubkey : String)
    (createdMsg : MakerOrderCreated) : Orderbook × List TrieOp :=
  orderbook.indexInsertOrUpdate (.ofMakerOrderCreated createdMsg fromPubkey)

/-- `none` is the `OrderNotFound` error. -/
def processMakerOrderUpdated (orderbook : Orderbook) (fromPubkey : String)
    (updatedMsg : MakerOrderUpdated) : Option (Orderbook × List TrieOp) :=
  (orderbook.findOrderByUuidAndPubkey updatedMsg.uuid fromPubkey).map fun order =>
    orderbook.indexInsertOrUpdate (order.applyUpdated updatedMsg)

def processMakerOrderCancelled (orderbook : Orderbook) (fromPubkey : String)
    (cancelledMsg : MakerOrderCancelled) : Orderbook × List TrieOp :=
  let orderbook := { orderbook with
    recentlyCancelled := orderbook.recentlyCancelled.insert cancelledMsg.uuid fromPubkey }
  match orderbook.orderSet.lookup cancelledMsg.uuid with
  | none => (orderbook, [])
  | some order =>
    if order.pubkey = fromPubkey then
      match orderbook.indexRemove cancelledMsg.uuid with
      | (orderbook, some (_, op)) => (orderbook, [op])
      | (orderbook, none) => (orderbook, [])
    else (orderbook, [])

/-- The p2p key of the order is given by its public key in hex. -/
def insertOrUpdateMyOrder (orderbook : Orderbook) (item : OrderbookItem)
    (p2pPubkey : Option String) : Orderbook × List TrieOp :=
  let (orderbook, ops) := orderbook.indexInsertOrUpdate item
  match p2pPubkey with
  | some key => ({ orderbook with myP2pPubkeys := insert key orderbook.myP2pPubkeys }, ops)
  | none => (orderbook, ops)

def deleteMyOrder (orderbook : Orderbook) (uuid : Uuid) (p2pPubkey : Option String) :
    Orderbook × List TrieOp :=
  let (orderbook, removed) := orderbook.indexRemove uuid
  let ops := (removed.map Prod.snd).toList
  match p2pPubkey with
  | some key => ({ orderbook with myP2pPubkeys := orderbook.myP2pPubkeys.erase key }, ops)
  | none => (orderbook, ops)

def processMyMakerOrderUpdated (orderbook : Orderbook) (message : MakerOrderUpdated) :
    Orderbook × List TrieOp :=
  match orderbook.findOrderByUuid message.uuid with
  | some order => orderbook.indexInsertOrUpdate (order.applyUpdated message)
  | none => (orderbook, [])

/-- Step 2 of the pubkey timeout in `lp_ordermatch_loop`. -/
def removeTimedOutUuids (orderbook : Orderbook) (uuidsToRemove : List Uuid) :
    Orderbook × List TrieOp :=
  forEach (fun orderbook uuid =>
    match orderbook.indexRemove uuid with
    | (orderbook, some (_, op)) => (orderbook, [op])
    | (orderbook, none) => (orderbook, [])) orderbook uuidsToRemove

/-! ### Responses of `GetOrderbook` -/

def hexDigit? (c : Char) : Option ℕ :=
  if '0' ≤ c ∧ c ≤ '9' then some (c.toNat - '0'.toNat)
  else if 'a' ≤ c ∧ c ≤ 'f' then some (c.toNat - 'a'.toNat + 10)
  else if 'A' ≤ c ∧ c ≤ 'F' then some (c.toNat - 'A'.toNat + 10)
  else none

def hexDecodeChars : List Char → Option (List UInt8)
  | [] => some []
  | [_] => none
  | high :: low :: rest => do
    let h ← hexDigit? high
    let l ← hexDigit? low
    let bytes ← hexDecodeChars rest
    return UInt8.ofNat (16 * h + l) :: bytes

/-- `hex::decode`. -/
def hexDecode (s : String) : Option (List UInt8) := hexDecodeChars s.toList

/-- What the node knows when it fills the orderbook. -/
structure FillEnv where
  myPubsecp : Option String
  isPubkeyBanned : List UInt8 → Bool

def isMyOrder (orderPubkey : String) (myPub : Option String) (myP2pPubkeys : Finset String) :
    Bool :=
  myPub = some orderPubkey || decide (orderPubkey ∈ myP2pPubkeys)

/-- The checks of `request_and_fill_orderbook` on a public key of the response. -/
def acceptsPubkey (env : FillEnv) (orderbook : Orderbook) (pubkey : String) : Bool :=
  match hexDecode pubkey with
  | none => false
  | some [] => false
  | some (_ :: pubkeyWithoutPrefix) =>
    pubkeyWithoutPrefix.length = 32 && !isMyOrder pubkey env.myPubsecp orderbook.myP2pPubkeys &&
      !env.isPubkeyBanned pubkeyWithoutPrefix

/-- One public key of the response. -/
def fillPubkeyOrders (env : FillEnv) (base rel : String) (infos : OrderInfos)
    (orderbook : Orderbook) (entry : String × PubkeyOrders) : Orderbook × List TrieOp :=
  if acceptsPubkey env orderbook entry.1 then
    processPubkeyFullTrie it orderbook entry.2 ⟨entry.1, albOrderedPair base rel, infos⟩
  else (orderbook, [])

/-- The part of `request_and_fill_orderbook` that processes the response. -/
def fillOrderbook (env : FillEnv) (orderbook : Orderbook) (base rel : String)
    (response : GetOrderbookRes) : Orderbook × List TrieOp :=
  forEach (fillPubkeyOrders it env base rel response.infos) orderbook
    (it.pubkeys.toList response.pubkeyOrders)

/-! ## Handlers as primitive changes -/

/-- The changes of a loop whose body makes the changes `body`. -/
def collectOps {α : Type} (body : Orderbook → α → List IndexOp) (orderbook : Orderbook) :
    List α → List IndexOp
  | [] => []
  | item :: items =>
    body orderbook item ++ collectOps body (orderbook.execAll (body orderbook item)).1 items

/-- The change asked for by one entry of a delta. -/
def deltaEntryOps (infos : OrderInfos) (recentlyCancelled : HashMap Uuid String)
    (entry : Uuid × Option OrderbookP2PItem) : List IndexOp :=
  match entry.2 with
  | some order => insertOps recentlyCancelled (infos.item entry.1 order)
  | none => [.drop entry.1]

def deltaOps (infos : OrderInfos) (recentlyCancelled : HashMap Uuid String)
    (deltaOrders : HashMap Uuid (Option OrderbookP2PItem)) : List IndexOp :=
  (it.delta.toList deltaOrders).flatMap (deltaEntryOps infos recentlyCancelled)

/-- The insertions asked for by the entries of a full trie. -/
def fullTrieInserts (infos : OrderInfos) (recentlyCancelled : HashMap Uuid String)
    (newTrieOrders : PubkeyOrders) : List IndexOp :=
  newTrieOrders.flatMap fun entry => insertOps recentlyCancelled (infos.item entry.1 entry.2)

def fullTrieOps (orderbook : Orderbook) (newTrieOrders : PubkeyOrders)
    (params : ProcessTrieParams) : List IndexOp :=
  orderbook.pairDrops it.uuids params.pubkey params.albPair ++
    fullTrieInserts params.infos orderbook.recentlyCancelled newTrieOrders

def pairDiffOps (fromPubkey : String) (infos : OrderInfos) (orderbook : Orderbook)
    (entry : AlbOrderedOrderbookPair × DeltaOrFullTrie Uuid OrderbookP2PItem) : List IndexOp :=
  match entry.2 with
  | .delta delta => deltaOps it infos orderbook.recentlyCancelled delta
  | .fullTrie values => fullTrieOps it orderbook values ⟨fromPubkey, entry.1, infos⟩

def syncResponseOps (orderbook : Orderbook) (fromPubkey : String)
    (response : SyncPubkeyOrderbookStateRes) : List IndexOp :=
  collectOps (pairDiffOps it fromPubkey response.infos) orderbook
    (it.pairs.toList response.pairOrdersDiff)

def fillPubkeyOps (env : FillEnv) (base rel : String) (infos : OrderInfos)
    (orderbook : Orderbook) (entry : String × PubkeyOrders) : List IndexOp :=
  if acceptsPubkey env orderbook entry.1 then
    fullTrieOps it orderbook entry.2 ⟨entry.1, albOrderedPair base rel, infos⟩
  else []

def fillOrderbookOps (env : FillEnv) (orderbook : Orderbook) (base rel : String)
    (response : GetOrderbookRes) : List IndexOp :=
  collectOps (fillPubkeyOps it env base rel response.infos) orderbook
    (it.pubkeys.toList response.pubkeyOrders)

/-- The change made by an update of an order that was found. -/
def updateOps (orderbook : Orderbook) (order : Option OrderbookItem) (msg : MakerOrderUpdated) :
    List IndexOp :=
  match order with
  | some order => insertOps orderbook.recentlyCancelled (order.applyUpdated msg)
  | none => []

/-- The change made by a cancellation. -/
def cancelOps (orderbook : Orderbook) (fromPubkey : String) (uuid : Uuid) : List IndexOp :=
  if orderbook.owner uuid = some fromPubkey then [.drop uuid] else []

section Loops

variable {α : Type} {body : Orderbook → α → Orderbook × List TrieOp}

/-- A loop makes the changes of its rounds, one after the other. -/
theorem forEach_fst_eq {ops : Orderbook → α → List IndexOp}
    (h : ∀ orderbook item, (body orderbook item).1 = (orderbook.execAll (ops orderbook item)).1)
    (orderbook : Orderbook) (items : List α) :
    (forEach body orderbook items).1 = (orderbook.execAll (collectOps ops orderbook items)).1 := by
  induction items generalizing orderbook with
  | nil => rfl
  | cons item items ih =>
    rw [collectOps, Orderbook.execAll_append]
    change (forEach body (body orderbook item).1 items).1 = _
    rw [ih, h]

/-- A loop whose rounds are changes that depend on the expiring data only. -/
theorem forEach_eq_execAll (ops : HashMap Uuid String → α → List IndexOp)
    (h : ∀ orderbook item,
      body orderbook item = orderbook.execAll (ops orderbook.recentlyCancelled item))
    (orderbook : Orderbook) (items : List α) :
    forEach body orderbook items =
      orderbook.execAll (items.flatMap (ops orderbook.recentlyCancelled)) := by
  induction items generalizing orderbook with
  | nil => rfl
  | cons item items ih =>
    rw [List.flatMap_cons, Orderbook.execAll_append]
    change ((forEach body (body orderbook item).1 items).1,
      (body orderbook item).2 ++ (forEach body (body orderbook item).1 items).2) = _
    rw [ih, h, Orderbook.recentlyCancelled_execAll]

end Loops

open Orderbook

theorem indexRemove_eq_exec (orderbook : Orderbook) (uuid : Uuid) :
    (match orderbook.indexRemove uuid with
      | (orderbook, some (_, op)) => (orderbook, [op])
      | (orderbook, none) => (orderbook, [])) = orderbook.execAll [.drop uuid] := by
  rw [execAll_singleton]
  rcases h : orderbook.indexRemove uuid with ⟨orderbook', _ | ⟨order, op⟩⟩
  · simp [exec, h]
  · simp [exec, h]

theorem processMakerOrderCancelled_eq (orderbook : Orderbook) (fromPubkey : String)
    (msg : MakerOrderCancelled) :
    processMakerOrderCancelled orderbook fromPubkey msg =
      (let removed := orderbook.execAll (cancelOps orderbook fromPubkey msg.uuid)
       (removed.1.withMemory (orderbook.recentlyCancelled.insert msg.uuid fromPubkey)
         orderbook.myP2pPubkeys, removed.2)) := by
  have hremove := indexRemove_eq_exec
    (orderbook.withMemory (orderbook.recentlyCancelled.insert msg.uuid fromPubkey)
      orderbook.myP2pPubkeys) msg.uuid
  rw [execAll_singleton, exec_withMemory] at hremove
  unfold processMakerOrderCancelled cancelOps owner
  cases hlookup : orderbook.orderSet.lookup msg.uuid with
  | none => simp [hlookup, withMemory]
  | some order =>
    by_cases hpubkey : order.pubkey = fromPubkey
    · simp only [hlookup, hpubkey, if_true, Option.map_some, execAll_singleton]
      exact hremove
    · simp [hlookup, hpubkey, withMemory]

theorem processTrieDelta_eq (orderbook : Orderbook)
    (deltaOrders : HashMap Uuid (Option OrderbookP2PItem)) (params : ProcessTrieParams) :
    processTrieDelta it orderbook deltaOrders params =
      orderbook.execAll (deltaOps it params.infos orderbook.recentlyCancelled deltaOrders) := by
  apply forEach_eq_execAll (deltaEntryOps params.infos)
  rintro orderbook ⟨uuid, _ | order⟩
  · exact indexRemove_eq_exec orderbook uuid
  · exact indexInsertOrUpdate_eq orderbook (params.infos.item uuid order)

theorem removeTimedOutUuids_eq (orderbook : Orderbook) (uuids : List Uuid) :
    removeTimedOutUuids orderbook uuids = orderbook.execAll (uuids.map .drop) := by
  have hloop := forEach_eq_execAll (fun _ uuid => [IndexOp.drop uuid])
    (fun orderbook uuid => indexRemove_eq_exec orderbook uuid) orderbook uuids
  rwa [← List.map_eq_flatMap] at hloop

theorem processPubkeyFullTrie_eq (orderbook : Orderbook) (newTrieOrders : PubkeyOrders)
    (params : ProcessTrieParams) :
    processPubkeyFullTrie it orderbook newTrieOrders params =
      (let cleared := (orderbook.execAll (orderbook.pairDrops it.uuids params.pubkey params.albPair)).1
       let inserted := cleared.execAll
         (fullTrieInserts params.infos orderbook.recentlyCancelled newTrieOrders)
       (inserted.1, .clearPair params.pubkey params.albPair :: inserted.2)) := by
  have hinserts := forEach_eq_execAll
    (fun recentlyCancelled (entry : Uuid × OrderbookP2PItem) =>
      insertOps recentlyCancelled (params.infos.item entry.1 entry.2))
    (fun orderbook entry => indexInsertOrUpdate_eq orderbook (params.infos.item entry.1 entry.2))
    (orderbook.indexRemovePubkeyPairOrders it.uuids params.pubkey params.albPair) newTrieOrders
  rw [indexRemovePubkeyPairOrders_eq, recentlyCancelled_execAll] at hinserts
  unfold processPubkeyFullTrie
  rw [indexRemovePubkeyPairOrders_eq]
  simp only [hinserts]
  rfl

theorem processPubkeyFullTrie_fst (orderbook : Orderbook) (newTrieOrders : PubkeyOrders)
    (params : ProcessTrieParams) :
    (processPubkeyFullTrie it orderbook newTrieOrders params).1 =
      (orderbook.execAll (fullTrieOps it orderbook newTrieOrders params)).1 := by
  rw [processPubkeyFullTrie_eq, fullTrieOps, execAll_append]

theorem processPairDiff_fst (fromPubkey : String) (infos : OrderInfos) (orderbook : Orderbook)
    (entry : AlbOrderedOrderbookPair × DeltaOrFullTrie Uuid OrderbookP2PItem) :
    (processPairDiff it fromPubkey infos orderbook entry).1 =
      (orderbook.execAll (pairDiffOps it fromPubkey infos orderbook entry)).1 := by
  rcases entry with ⟨pair, delta | values⟩
  · simp only [processPairDiff, pairDiffOps, processTrieDelta_eq]
  · simp only [processPairDiff, pairDiffOps, processPubkeyFullTrie_fst]

theorem processSyncResponse_fst (orderbook : Orderbook) (fromPubkey : String)
    (response : SyncPubkeyOrderbookStateRes) :
    (processSyncResponse it orderbook fromPubkey response).1 =
      (orderbook.execAll (syncResponseOps it orderbook fromPubkey response)).1 :=
  forEach_fst_eq (processPairDiff_fst it fromPubkey response.infos) orderbook _

theorem fillPubkeyOrders_fst (env : FillEnv) (base rel : String) (infos : OrderInfos)
    (orderbook : Orderbook) (entry : String × PubkeyOrders) :
    (fillPubkeyOrders it env base rel infos orderbook entry).1 =
      (orderbook.execAll (fillPubkeyOps it env base rel infos orderbook entry)).1 := by
  unfold fillPubkeyOrders fillPubkeyOps
  by_cases h : acceptsPubkey env orderbook entry.1 = true
  · rw [if_pos h, if_pos h, processPubkeyFullTrie_fst]
  · rw [if_neg h, if_neg h, execAll_nil]

theorem fillOrderbook_fst (env : FillEnv) (orderbook : Orderbook) (base rel : String)
    (response : GetOrderbookRes) :
    (fillOrderbook it env orderbook base rel response).1 =
      (orderbook.execAll (fillOrderbookOps it env orderbook base rel response)).1 :=
  forEach_fst_eq (fillPubkeyOrders_fst it env base rel response.infos) orderbook _

end DeXFG.Ordermatch
