import DeXFG.Library.KeyedWrites
import DeXFG.Library.SetMap
import DeXFG.Ordermatch.NewProtocol

/-!
# The orderbook index

The in-memory indices of the orders of all makers. Index methods change the
indices and return the trie mutations that the trie store applies later. Each
method is described by the list of primitive changes it makes: an order is put
under its uuid, or the order of a uuid is dropped.
-/
namespace DeXFG.Ordermatch
open DeXFG.Library.FiniteMap DeXFG.Library.SetMap DeXFG.Library.KeyedWrites NewProtocol

/-! ## Items -/

/-- The part of an order that is sent to peers and stored in the trie. -/
structure OrderbookP2PItem where
  pubkey : String
  base : String
  rel : String
  price : MmNumber
  maxVolume : MmNumber
  minVolume : MmNumber
  uuid : Uuid
  createdAt : UInt64
  deriving DecidableEq

structure BaseRelProtocolInfo where
  base : List UInt8
  rel : List UInt8
  deriving DecidableEq

def BaseRelProtocolInfo.default : BaseRelProtocolInfo := ⟨[], []⟩

structure OrderbookItem where
  pubkey : String
  base : String
  rel : String
  price : MmNumber
  maxVolume : MmNumber
  minVolume : MmNumber
  uuid : Uuid
  createdAt : UInt64
  baseProtocolInfo : List UInt8
  relProtocolInfo : List UInt8
  confSettings : Option OrderConfirmationsSettings
  deriving DecidableEq

def albOrderedPair (base rel : String) : AlbOrderedOrderbookPair :=
  if base < rel then base ++ ":" ++ rel else rel ++ ":" ++ base

namespace OrderbookItem

/-- `From<(MakerOrderCreated, String)>`. -/
def ofMakerOrderCreated (order : MakerOrderCreated) (pubkey : String) : OrderbookItem where
  pubkey := pubkey
  base := order.base
  rel := order.rel
  price := order.price
  maxVolume := order.maxVolume
  minVolume := order.minVolume
  uuid := order.uuid
  createdAt := order.createdAt
  baseProtocolInfo := order.baseProtocolInfo
  relProtocolInfo := order.relProtocolInfo
  confSettings := some order.confSettings

def fromP2pAndInfo (o : OrderbookP2PItem) (protoInfo : BaseRelProtocolInfo)
    (confInfo : Option OrderConfirmationsSettings) : OrderbookItem where
  pubkey := o.pubkey
  base := o.base
  rel := o.rel
  price := o.price
  maxVolume := o.maxVolume
  minVolume := o.minVolume
  uuid := o.uuid
  createdAt := o.createdAt
  baseProtocolInfo := protoInfo.base
  relProtocolInfo := protoInfo.rel
  confSettings := confInfo

/-- `From<OrderbookItem> for OrderbookP2PItem`. -/
def toP2p (o : OrderbookItem) : OrderbookP2PItem where
  pubkey := o.pubkey
  base := o.base
  rel := o.rel
  price := o.price
  maxVolume := o.maxVolume
  minVolume := o.minVolume
  uuid := o.uuid
  createdAt := o.createdAt

/-- The confirmation settings of an update are not taken over. -/
def applyUpdated (o : OrderbookItem) (msg : MakerOrderUpdated) : OrderbookItem :=
  { o with
    price := msg.newPrice.getD o.price
    maxVolume := msg.newMaxVolume.getD o.maxVolume
    minVolume := msg.newMinVolume.getD o.minVolume }

def baseRel (o : OrderbookItem) : String × String := (o.base, o.rel)

def albPair (o : OrderbookItem) : AlbOrderedOrderbookPair := albOrderedPair o.base o.rel

/-- An item with these amounts removes the order of its uuid instead of storing it. -/
def isInvalid (o : OrderbookItem) : Bool :=
  decide (o.maxVolume ≤ 0 ∨ o.price ≤ 0 ∨ o.minVolume < 0)

@[simp] theorem toP2p_fromP2pAndInfo (o : OrderbookP2PItem) (protoInfo : BaseRelProtocolInfo)
    (confInfo : Option OrderConfirmationsSettings) :
    (fromP2pAndInfo o protoInfo confInfo).toP2p = o := rfl

@[simp] theorem applyUpdated_pubkey (o : OrderbookItem) (msg : MakerOrderUpdated) :
    (o.applyUpdated msg).pubkey = o.pubkey := rfl

@[simp] theorem applyUpdated_uuid (o : OrderbookItem) (msg : MakerOrderUpdated) :
    (o.applyUpdated msg).uuid = o.uuid := rfl

@[simp] theorem applyUpdated_baseRel (o : OrderbookItem) (msg : MakerOrderUpdated) :
    (o.applyUpdated msg).baseRel = o.baseRel := rfl

end OrderbookItem

/-- An order with amounts that pass the checks. -/
def testItem (pubkey base rel : String) (price : MmNumber) (uuid : Uuid) : OrderbookItem where
  pubkey := pubkey
  base := base
  rel := rel
  price := price
  maxVolume := 1
  minVolume := 0
  uuid := uuid
  createdAt := 0
  baseProtocolInfo := []
  relProtocolInfo := []
  confSettings := none

/-- The order is ordered by price and uuid. -/
structure OrderedByPriceOrder where
  price : MmNumber
  uuid : Uuid
  deriving DecidableEq

namespace OrderedByPriceOrder

def key (o : OrderedByPriceOrder) : ℚ ×ₗ Uuid := toLex (o.price, o.uuid)

theorem key_injective : Function.Injective key := by
  rintro ⟨p, u⟩ ⟨p', u'⟩ h
  simpa [key] using h

instance : LinearOrder OrderedByPriceOrder := LinearOrder.lift' key key_injective

end OrderedByPriceOrder

/-- A trie mutation for the trie store. -/
inductive TrieOp where
  | clearPair (pubkey : String) (albPair : AlbOrderedOrderbookPair)
  | insert (pubkey : String) (albPair : AlbOrderedOrderbookPair) (uuid : Uuid)
      (order : OrderbookItem)
  | remove (pubkey : String) (albPair : AlbOrderedOrderbookPair) (uuid : Uuid)
  | removePubkey (pubkey : String)
  deriving DecidableEq

/-! ## The index -/

structure Orderbook where
  ordered : HashMap (String × String) (Finset OrderedByPriceOrder) := ∅
  pairsExistingForBase : HashMap String (Finset String) := ∅
  pairsExistingForRel : HashMap String (Finset String) := ∅
  unordered : HashMap (String × String) (Finset Uuid) := ∅
  orderSet : HashMap Uuid OrderbookItem := ∅
  /-- The entries that have not expired. -/
  recentlyCancelled : HashMap Uuid String := ∅
  myP2pPubkeys : Finset String := ∅

/-- `str::split_once(':')`. -/
def splitOnce (s : String) : Option (String × String) :=
  if ':' ∈ s.toList then
    some (String.ofList (s.toList.takeWhile (· ≠ ':')),
      String.ofList ((s.toList.dropWhile (· ≠ ':')).drop 1))
  else none

/-- A loop over `items` whose body changes the orderbook and appends its trie operations. -/
def forEach {α : Type} (body : Orderbook → α → Orderbook × List TrieOp) (orderbook : Orderbook) :
    List α → Orderbook × List TrieOp
  | [] => (orderbook, [])
  | item :: items =>
    let step := body orderbook item
    let rest := forEach body step.1 items
    (rest.1, step.2 ++ rest.2)

namespace Orderbook

def findOrderByUuidAndPubkey (orderbook : Orderbook) (uuid : Uuid) (fromPubkey : String) :
    Option OrderbookItem :=
  (orderbook.orderSet.lookup uuid).filter fun order => order.pubkey = fromPubkey

def findOrderByUuid (orderbook : Orderbook) (uuid : Uuid) : Option OrderbookItem :=
  orderbook.orderSet.lookup uuid

/-- Remove the first entry with the uuid, if there is one. -/
def removeExisting (ordered : Finset OrderedByPriceOrder) (uuid : Uuid) :
    Finset OrderedByPriceOrder :=
  match firstWhere (fun maybeExisting => maybeExisting.uuid = uuid) ordered with
  | some existing => ordered.erase existing
  | none => ordered

/-- Only an entry under the same pair is replaced in `ordered`. -/
def indexInsertOrUpdateInner (orderbook : Orderbook) (order : OrderbookItem) : Orderbook :=
  let baseRel := (order.base, order.rel)
  let ordered := removeExisting (valuesAt orderbook.ordered baseRel) order.uuid
  { orderbook with
    ordered := orderbook.ordered.insert baseRel (insert ⟨order.price, order.uuid⟩ ordered)
    pairsExistingForBase := addTo orderbook.pairsExistingForBase order.base order.rel
    pairsExistingForRel := addTo orderbook.pairsExistingForRel order.rel order.base
    unordered := addTo orderbook.unordered baseRel order.uuid
    orderSet := orderbook.orderSet.insert order.uuid order }

/-- `pairs_existing_for_base` and `pairs_existing_for_rel` are left as they are. -/
def indexRemove (orderbook : Orderbook) (uuid : Uuid) :
    Orderbook × Option (OrderbookItem × TrieOp) :=
  match orderbook.orderSet.lookup uuid with
  | none => (orderbook, none)
  | some order =>
    let baseRel := (order.base, order.rel)
    ({ orderbook with
        orderSet := orderbook.orderSet.erase uuid
        ordered := dropFrom orderbook.ordered baseRel ⟨order.price, uuid⟩
        unordered := dropFrom orderbook.unordered baseRel uuid },
      some (order, .remove order.pubkey (albOrderedPair order.base order.rel) uuid))

def indexInsertOrUpdate (orderbook : Orderbook) (order : OrderbookItem) :
    Orderbook × List TrieOp :=
  if orderbook.recentlyCancelled.lookup order.uuid = some order.pubkey then (orderbook, [])
  else if order.maxVolume ≤ 0 ∨ order.price ≤ 0 ∨ order.minVolume < 0 then
    match orderbook.indexRemove order.uuid with
    | (orderbook, some (_, op)) => (orderbook, [op])
    | (orderbook, none) => (orderbook, [])
  else
    (orderbook.indexInsertOrUpdateInner order,
      [.insert order.pubkey (albOrderedPair order.base order.rel) order.uuid order])

/-- The inner loop body of `index_remove_pubkey_pair_orders`. -/
def removeOwned (pubkey : String) (orderbook : Orderbook) (uuid : Uuid) : Orderbook :=
  match orderbook.orderSet.lookup uuid with
  | none => orderbook
  | some order => if order.pubkey = pubkey then (orderbook.indexRemove uuid).1 else orderbook

/-- The outer loop body of `index_remove_pubkey_pair_orders`. -/
def removePairOrders (it : SetIteration Uuid) (pubkey : String) (orderbook : Orderbook)
    (pair : String × String) : Orderbook :=
  match orderbook.unordered.lookup pair with
  | none => orderbook
  | some uuids => (it.toList uuids).foldl (removeOwned pubkey) orderbook

def indexRemovePubkeyPairOrders (it : SetIteration Uuid) (orderbook : Orderbook) (pubkey : String)
    (albPair : AlbOrderedOrderbookPair) : Orderbook :=
  match splitOnce albPair with
  | none => orderbook
  | some (base, rel) =>
    [(base, rel), (rel, base)].foldl (removePairOrders it pubkey) orderbook

end Orderbook

/-! ## Primitive changes -/

/-- A primitive change of the index. -/
inductive IndexOp where
  | put (order : OrderbookItem)
  | drop (uuid : Uuid)
  deriving DecidableEq

namespace IndexOp

def uuid : IndexOp → Uuid
  | put order => order.uuid
  | drop uuid => uuid

/-- What the change writes to `order_set`. -/
def write : IndexOp → Write Uuid OrderbookItem
  | put order => (order.uuid, some order)
  | drop uuid => (uuid, none)

@[simp] theorem write_fst (op : IndexOp) : op.write.1 = op.uuid := by cases op <;> rfl

end IndexOp

/-- The change made by `index_insert_or_update`. -/
def insertOps (recentlyCancelled : HashMap Uuid String) (order : OrderbookItem) : List IndexOp :=
  if recentlyCancelled.lookup order.uuid = some order.pubkey then []
  else if order.isInvalid then [.drop order.uuid] else [.put order]

namespace Orderbook

def exec (orderbook : Orderbook) : IndexOp → Orderbook × List TrieOp
  | .put order => (orderbook.indexInsertOrUpdateInner order,
      [.insert order.pubkey order.albPair order.uuid order])
  | .drop uuid =>
    ((orderbook.indexRemove uuid).1, ((orderbook.indexRemove uuid).2.map Prod.snd).toList)

def execAll (orderbook : Orderbook) (ops : List IndexOp) : Orderbook × List TrieOp :=
  forEach exec orderbook ops

/-- The owner of the order stored under a uuid. -/
def owner (orderbook : Orderbook) (uuid : Uuid) : Option String :=
  (orderbook.orderSet.lookup uuid).map OrderbookItem.pubkey

/-- The uuids under one pair whose stored order belongs to the public key. -/
def ownedUuids (it : SetIteration Uuid) (orderbook : Orderbook) (pubkey : String)
    (pair : String × String) : List Uuid :=
  (it.toList (valuesAt orderbook.unordered pair)).filter
    fun uuid => orderbook.owner uuid = some pubkey

/-- The changes made by `index_remove_pubkey_pair_orders`. -/
def pairDrops (it : SetIteration Uuid) (orderbook : Orderbook) (pubkey : String)
    (albPair : AlbOrderedOrderbookPair) : List IndexOp :=
  match splitOnce albPair with
  | none => []
  | some (base, rel) =>
    let first := (orderbook.ownedUuids it pubkey (base, rel)).map IndexOp.drop
    first ++ ((orderbook.execAll first).1.ownedUuids it pubkey (rel, base)).map IndexOp.drop

section Exec

variable {orderbook : Orderbook} {op : IndexOp} {ops : List IndexOp}

@[simp] theorem execAll_nil : orderbook.execAll [] = (orderbook, []) := rfl

theorem execAll_cons :
    orderbook.execAll (op :: ops) = (((orderbook.exec op).1.execAll ops).1,
      (orderbook.exec op).2 ++ ((orderbook.exec op).1.execAll ops).2) := rfl

theorem execAll_append (ops' : List IndexOp) :
    orderbook.execAll (ops ++ ops') = (((orderbook.execAll ops).1.execAll ops').1,
      (orderbook.execAll ops).2 ++ ((orderbook.execAll ops).1.execAll ops').2) := by
  induction ops generalizing orderbook with
  | nil => rfl
  | cons op ops ih =>
    rw [List.cons_append, execAll_cons, ih, execAll_cons, List.append_assoc]

theorem execAll_singleton : orderbook.execAll [op] = orderbook.exec op := by
  rw [execAll_cons]
  simp

theorem exec_drop_of_none {uuid : Uuid} (h : orderbook.orderSet.lookup uuid = none) :
    orderbook.exec (.drop uuid) = (orderbook, []) := by
  simp [exec, indexRemove, h]

theorem exec_drop_of_some {uuid : Uuid} {order : OrderbookItem}
    (h : orderbook.orderSet.lookup uuid = some order) :
    orderbook.exec (.drop uuid) = ({ orderbook with
      orderSet := orderbook.orderSet.erase uuid
      ordered := dropFrom orderbook.ordered order.baseRel ⟨order.price, uuid⟩
      unordered := dropFrom orderbook.unordered order.baseRel uuid },
      [.remove order.pubkey order.albPair uuid]) := by
  simp [exec, indexRemove, h, OrderbookItem.baseRel, OrderbookItem.albPair]

@[simp] theorem recentlyCancelled_exec :
    (orderbook.exec op).1.recentlyCancelled = orderbook.recentlyCancelled := by
  cases op with
  | put order => rfl
  | drop uuid =>
    cases h : orderbook.orderSet.lookup uuid with
    | none => rw [exec_drop_of_none h]
    | some order => rw [exec_drop_of_some h]

@[simp] theorem myP2pPubkeys_exec :
    (orderbook.exec op).1.myP2pPubkeys = orderbook.myP2pPubkeys := by
  cases op with
  | put order => rfl
  | drop uuid =>
    cases h : orderbook.orderSet.lookup uuid with
    | none => rw [exec_drop_of_none h]
    | some order => rw [exec_drop_of_some h]

@[simp] theorem recentlyCancelled_execAll :
    (orderbook.execAll ops).1.recentlyCancelled = orderbook.recentlyCancelled := by
  induction ops generalizing orderbook with
  | nil => rfl
  | cons op ops ih => rw [execAll_cons, ih, recentlyCancelled_exec]

@[simp] theorem myP2pPubkeys_execAll :
    (orderbook.execAll ops).1.myP2pPubkeys = orderbook.myP2pPubkeys := by
  induction ops generalizing orderbook with
  | nil => rfl
  | cons op ops ih => rw [execAll_cons, ih, myP2pPubkeys_exec]

theorem orderSet_exec :
    (orderbook.exec op).1.orderSet = applyWrite orderbook.orderSet op.write := by
  cases op with
  | put order => rfl
  | drop uuid =>
    cases h : orderbook.orderSet.lookup uuid with
    | some order => rw [exec_drop_of_some h]; rfl
    | none =>
      rw [exec_drop_of_none h]
      refine Finmap.ext_lookup fun u => ?_
      rw [lookup_applyWrite]
      by_cases hu : uuid = u
      · subst hu
        simp [IndexOp.write, h]
      · simp [IndexOp.write, hu]

/-- The orders are what the writes of the changes make of them. -/
theorem orderSet_execAll :
    (orderbook.execAll ops).1.orderSet = applyWrites orderbook.orderSet (ops.map IndexOp.write) := by
  induction ops generalizing orderbook with
  | nil => rfl
  | cons op ops ih => rw [execAll_cons, ih, orderSet_exec, List.map_cons, applyWrites_cons]

end Exec

/-! ### The expiring data and the own keys -/

/-- The orderbook with other expiring data and other own keys. -/
def withMemory (orderbook : Orderbook) (cancelled : HashMap Uuid String) (keys : Finset String) :
    Orderbook :=
  { orderbook with recentlyCancelled := cancelled, myP2pPubkeys := keys }

theorem exec_withMemory (orderbook : Orderbook) (cancelled : HashMap Uuid String)
    (keys : Finset String) (op : IndexOp) :
    (orderbook.withMemory cancelled keys).exec op =
      ((orderbook.exec op).1.withMemory cancelled keys, (orderbook.exec op).2) := by
  cases op with
  | put order => rfl
  | drop uuid =>
    cases h : orderbook.orderSet.lookup uuid with
    | none =>
      have h' : (orderbook.withMemory cancelled keys).orderSet.lookup uuid = none := h
      rw [exec_drop_of_none h, exec_drop_of_none h']
    | some order =>
      have h' : (orderbook.withMemory cancelled keys).orderSet.lookup uuid = some order := h
      rw [exec_drop_of_some h, exec_drop_of_some h']
      rfl

/-! ### The index methods as primitive changes -/

theorem indexInsertOrUpdate_eq (orderbook : Orderbook) (order : OrderbookItem) :
    orderbook.indexInsertOrUpdate order =
      orderbook.execAll (insertOps orderbook.recentlyCancelled order) := by
  unfold indexInsertOrUpdate insertOps
  by_cases hcancelled : orderbook.recentlyCancelled.lookup order.uuid = some order.pubkey
  · simp [hcancelled]
  · rw [if_neg hcancelled, if_neg hcancelled]
    by_cases hinvalid : order.maxVolume ≤ 0 ∨ order.price ≤ 0 ∨ order.minVolume < 0
    · have hitem : order.isInvalid = true := by simpa [OrderbookItem.isInvalid] using hinvalid
      rw [if_pos hinvalid, if_pos hitem, execAll_singleton]
      cases h : orderbook.orderSet.lookup order.uuid with
      | none => simp [indexRemove, exec, h]
      | some stored => simp [indexRemove, exec, h]
    · have hitem : ¬order.isInvalid = true := by simpa [OrderbookItem.isInvalid] using hinvalid
      rw [if_neg hinvalid, if_neg hitem, execAll_singleton]
      rfl

theorem removeOwned_of_owner {orderbook : Orderbook} {pubkey : String} {uuid : Uuid}
    (h : orderbook.owner uuid = some pubkey) :
    removeOwned pubkey orderbook uuid = (orderbook.exec (.drop uuid)).1 := by
  obtain ⟨order, hlookup, hpubkey⟩ := Option.map_eq_some_iff.mp h
  simp [removeOwned, exec, hlookup, hpubkey]

theorem removeOwned_of_ne_owner {orderbook : Orderbook} {pubkey : String} {uuid : Uuid}
    (h : orderbook.owner uuid ≠ some pubkey) : removeOwned pubkey orderbook uuid = orderbook := by
  unfold removeOwned
  cases hlookup : orderbook.orderSet.lookup uuid with
  | none => rfl
  | some order =>
    have hpubkey : order.pubkey ≠ pubkey := by
      intro heq
      exact h (by rw [owner, hlookup, Option.map_some, heq])
    simp only [if_neg hpubkey]

theorem owner_exec_of_ne {orderbook : Orderbook} {op : IndexOp} {uuid : Uuid}
    (h : op.uuid ≠ uuid) : (orderbook.exec op).1.owner uuid = orderbook.owner uuid := by
  rw [owner, orderSet_exec, lookup_applyWrite, IndexOp.write_fst, if_neg h, owner]

theorem foldl_removeOwned (orderbook : Orderbook) (pubkey : String) {uuids : List Uuid}
    (hnodup : uuids.Nodup) :
    uuids.foldl (removeOwned pubkey) orderbook =
      (orderbook.execAll ((uuids.filter fun uuid => orderbook.owner uuid = some pubkey).map
        IndexOp.drop)).1 := by
  induction uuids generalizing orderbook with
  | nil => rfl
  | cons uuid uuids ih =>
    obtain ⟨hnot, hnodup⟩ := List.nodup_cons.mp hnodup
    rw [List.foldl_cons, ih _ hnodup]
    by_cases howner : orderbook.owner uuid = some pubkey
    · have hrest : ∀ u ∈ uuids, (orderbook.exec (.drop uuid)).1.owner u = orderbook.owner u := by
        intro u hu
        apply owner_exec_of_ne
        rintro rfl
        exact hnot hu
      rw [removeOwned_of_owner howner, List.filter_cons_of_pos (by simpa using howner),
        List.map_cons, execAll_cons]
      rw [List.filter_congr fun u hu => by rw [hrest u hu]]
    · rw [removeOwned_of_ne_owner howner, List.filter_cons_of_neg (by simpa using howner)]

theorem removePairOrders_eq (it : SetIteration Uuid) (pubkey : String) (orderbook : Orderbook)
    (pair : String × String) :
    removePairOrders it pubkey orderbook pair =
      (orderbook.execAll ((orderbook.ownedUuids it pubkey pair).map IndexOp.drop)).1 := by
  unfold removePairOrders
  cases h : orderbook.unordered.lookup pair with
  | none =>
    simp [ownedUuids, valuesAt, h, it.toList_empty]
  | some uuids =>
    rw [ownedUuids, valuesAt_of_lookup h]
    exact foldl_removeOwned orderbook pubkey (it.nodup_toList uuids)

theorem indexRemovePubkeyPairOrders_eq (it : SetIteration Uuid) (orderbook : Orderbook)
    (pubkey : String) (albPair : AlbOrderedOrderbookPair) :
    orderbook.indexRemovePubkeyPairOrders it pubkey albPair =
      (orderbook.execAll (orderbook.pairDrops it pubkey albPair)).1 := by
  unfold indexRemovePubkeyPairOrders pairDrops
  cases splitOnce albPair with
  | none => rfl
  | some pair =>
    simp only [List.foldl_cons, List.foldl_nil, removePairOrders_eq, execAll_append]

theorem owner_of_owner_drops {orderbook : Orderbook} {uuid : Uuid} {uuids : List Uuid}
    {name : String}
    (h : (orderbook.execAll (uuids.map .drop)).1.owner uuid = some name) :
    orderbook.owner uuid = some name := by
  induction uuids generalizing orderbook with
  | nil => exact h
  | cons dropped uuids ih =>
    rw [List.map_cons, execAll_cons] at h
    have howner := ih h
    rw [owner, orderSet_exec, lookup_applyWrite] at howner
    by_cases hu : dropped = uuid
    · subst hu
      simp [IndexOp.write] at howner
    · rwa [IndexOp.write_fst, IndexOp.uuid, if_neg hu] at howner

/-- Only orders of the public key itself are dropped. -/
theorem mem_pairDrops {orderbook : Orderbook} {op : IndexOp} {it : SetIteration Uuid}
    {pubkey : String} {albPair : AlbOrderedOrderbookPair}
    (h : op ∈ orderbook.pairDrops it pubkey albPair) :
    ∃ dropped, op = .drop dropped ∧ orderbook.owner dropped = some pubkey := by
  unfold pairDrops at h
  cases hsplit : splitOnce albPair with
  | none =>
    rw [hsplit] at h
    cases h
  | some pair =>
    rw [hsplit] at h
    rcases List.mem_append.mp h with hmem | hmem
    · obtain ⟨dropped, hdropped, rfl⟩ := List.mem_map.mp hmem
      exact ⟨dropped, rfl, by simpa using (List.mem_filter.mp hdropped).2⟩
    · obtain ⟨dropped, hdropped, rfl⟩ := List.mem_map.mp hmem
      exact ⟨dropped, rfl, owner_of_owner_drops (by simpa using (List.mem_filter.mp hdropped).2)⟩

end Orderbook

end DeXFG.Ordermatch
