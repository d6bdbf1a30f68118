import DeXFG.Ordermatch.Ingest

/-!
# Orders of other makers

What a message attributed to one public key does to the orders of the others.
The removals that precede a full trie, updates and cancellations check the
owner; insertions and the deletions of a delta do not, so an order of another
maker stays exactly when the last entry naming its uuid, if any, brings the
same order again.
-/
namespace DeXFG.Ordermatch
open DeXFG.Library.FiniteMap DeXFG.Library.SetMap DeXFG.Library.KeyedWrites NewProtocol

namespace Orderbook

/-- The order is stored under the uuid and found by the order indices of its pair. -/
structure Holds (orderbook : Orderbook) (uuid : Uuid) (order : OrderbookItem) : Prop where
  stored : orderbook.orderSet.lookup uuid = some order
  ordered : ⟨order.price, uuid⟩ ∈ valuesAt orderbook.ordered order.baseRel
  unordered : uuid ∈ valuesAt orderbook.unordered order.baseRel

variable {orderbook : Orderbook} {op : IndexOp} {ops : List IndexOp} {uuid : Uuid}
  {order : OrderbookItem} {pubkey : String}

/-! ## One change -/

theorem mem_removeExisting_of_ne {ordered : Finset OrderedByPriceOrder}
    {entry : OrderedByPriceOrder} (h : entry.uuid ≠ uuid) :
    entry ∈ removeExisting ordered uuid ↔ entry ∈ ordered := by
  unfold removeExisting
  cases hfirst : firstWhere (fun maybeExisting => maybeExisting.uuid = uuid) ordered with
  | none => rfl
  | some found =>
    have hfound := (mem_of_firstWhere hfirst).2
    rw [decide_eq_true_eq] at hfound
    have hne : entry ≠ found := by
      rintro rfl
      exact h hfound
    exact Finset.mem_erase.trans (and_iff_right hne)

theorem mem_ordered_exec_of_ne (h : op.uuid ≠ uuid) {pair : String × String}
    {price : MmNumber} :
    ⟨price, uuid⟩ ∈ valuesAt (orderbook.exec op).1.ordered pair ↔
      ⟨price, uuid⟩ ∈ valuesAt orderbook.ordered pair := by
  cases op with
  | put order =>
    change _ ∈ valuesAt (orderbook.ordered.insert order.baseRel (insert _
      (removeExisting (valuesAt orderbook.ordered order.baseRel) order.uuid))) pair ↔ _
    by_cases hpair : pair = order.baseRel
    · subst hpair
      have hne : uuid ≠ order.uuid := Ne.symm h
      rw [valuesAt_insert_self, Finset.mem_insert, mem_removeExisting_of_ne hne]
      simp [hne]
    · rw [valuesAt_insert_of_ne hpair]
  | drop dropped =>
    cases hlookup : orderbook.orderSet.lookup dropped with
    | none => rw [exec_drop_of_none hlookup]
    | some stored =>
      have hne : uuid ≠ dropped := Ne.symm h
      rw [exec_drop_of_some hlookup, mem_valuesAt_dropFrom]
      simp [hne]

theorem mem_unordered_exec_of_ne (h : op.uuid ≠ uuid) {pair : String × String} :
    uuid ∈ valuesAt (orderbook.exec op).1.unordered pair ↔
      uuid ∈ valuesAt orderbook.unordered pair := by
  have hne : uuid ≠ op.uuid := Ne.symm h
  cases op with
  | put order =>
    change _ ∈ valuesAt (addTo orderbook.unordered order.baseRel order.uuid) pair ↔ _
    rw [mem_valuesAt_addTo]
    exact or_iff_right fun hand => hne hand.2
  | drop dropped =>
    cases hlookup : orderbook.orderSet.lookup dropped with
    | none => rw [exec_drop_of_none hlookup]
    | some stored =>
      rw [exec_drop_of_some hlookup, mem_valuesAt_dropFrom]
      exact and_iff_left fun hand => hne hand.2

theorem holds_exec_of_ne (h : op.uuid ≠ uuid) :
    (orderbook.exec op).1.Holds uuid order ↔ orderbook.Holds uuid order := by
  have hlookup : (orderbook.exec op).1.orderSet.lookup uuid = orderbook.orderSet.lookup uuid := by
    rw [orderSet_exec, lookup_applyWrite, IndexOp.write_fst, if_neg h]
  constructor
  · rintro ⟨hstored, hordered, hunordered⟩
    exact ⟨hlookup ▸ hstored, (mem_ordered_exec_of_ne h).mp hordered,
      (mem_unordered_exec_of_ne h).mp hunordered⟩
  · rintro ⟨hstored, hordered, hunordered⟩
    exact ⟨hlookup ▸ hstored, (mem_ordered_exec_of_ne h).mpr hordered,
      (mem_unordered_exec_of_ne h).mpr hunordered⟩

/-- A change of the uuid itself decides which order it holds afterwards. -/
theorem holds_exec_self :
    (orderbook.exec op).1.Holds op.uuid order ↔ op.write.2 = some order := by
  have hlookup : (orderbook.exec op).1.orderSet.lookup op.uuid = op.write.2 := by
    rw [orderSet_exec, lookup_applyWrite, IndexOp.write_fst, if_pos rfl]
  constructor
  · intro hholds
    exact hlookup.symm.trans hholds.stored
  · intro hwrite
    cases op with
    | drop dropped => cases hwrite
    | put put =>
      obtain rfl := Option.some.inj hwrite
      refine ⟨hlookup, ?_, ?_⟩
      · change _ ∈ valuesAt (orderbook.ordered.insert put.baseRel (insert _ _)) put.baseRel
        rw [valuesAt_insert_self]
        exact Finset.mem_insert_self _ _
      · exact mem_valuesAt_addTo.mpr (Or.inl ⟨rfl, rfl⟩)

/-- After a sequence of changes a uuid holds what the last change of it wrote. -/
theorem holds_execAll :
    (orderbook.execAll ops).1.Holds uuid order ↔
      (lastWrite (ops.map IndexOp.write) uuid).elim (orderbook.Holds uuid order)
        (· = some order) := by
  induction ops generalizing orderbook with
  | nil => rfl
  | cons op ops ih =>
    rw [execAll_cons, ih, List.map_cons, lastWrite, IndexOp.write_fst]
    cases lastWrite (ops.map IndexOp.write) uuid with
    | some written => rfl
    | none =>
      rw [Option.none_or, Option.elim_none]
      by_cases h : op.uuid = uuid
      · subst h
        rw [if_pos rfl]
        exact holds_exec_self
      · rw [if_neg h]
        exact holds_exec_of_ne h

/-! ## The removals before a full trie -/

/-- Only orders of the public key itself are removed before a full trie. -/
theorem holds_pairDrops {it : SetIteration Uuid} {albPair : AlbOrderedOrderbookPair}
    (hpubkey : order.pubkey ≠ pubkey) :
    (orderbook.execAll (orderbook.pairDrops it pubkey albPair)).1.Holds uuid order ↔
      orderbook.Holds uuid order := by
  rw [holds_execAll]
  cases hlast : lastWrite ((orderbook.pairDrops it pubkey albPair).map IndexOp.write) uuid with
  | none => rfl
  | some written =>
    obtain ⟨op, hop, hwrite⟩ := List.mem_map.mp (mem_of_lastWrite hlast)
    obtain ⟨dropped, rfl, howner⟩ := mem_pairDrops hop
    obtain ⟨rfl, rfl⟩ := Prod.mk.inj hwrite
    constructor
    · intro h
      cases h
    · intro hholds
      rw [owner, hholds.stored, Option.map_some, Option.some.injEq] at howner
      exact absurd howner hpubkey

end Orderbook

open Orderbook

/-! ## Messages -/

/-- A message or response attributed to one public key. -/
inductive PeerMessage where
  | makerOrderCreated (msg : MakerOrderCreated)
  | makerOrderUpdated (msg : MakerOrderUpdated)
  | makerOrderCancelled (msg : MakerOrderCancelled)
  | syncResponse (response : SyncPubkeyOrderbookStateRes)
  | bestOrders (orders : HashMap String (List OrderbookP2PItem)) (infos : OrderInfos)
  | getOrderbook (env : FillEnv) (base rel : String) (orders : PubkeyOrders) (infos : OrderInfos)

namespace PeerMessage

variable (it : IngestIteration)

/-- The orderbook after the message of `fromPubkey`. A best-orders response is only displayed. -/
def receive (orderbook : Orderbook) (fromPubkey : String) : PeerMessage → Orderbook
  | makerOrderCreated msg => (processMakerOrderCreated orderbook fromPubkey msg).1
  | makerOrderUpdated msg =>
    ((processMakerOrderUpdated orderbook fromPubkey msg).map Prod.fst).getD orderbook
  | makerOrderCancelled msg => (processMakerOrderCancelled orderbook fromPubkey msg).1
  | syncResponse response => (processSyncResponse it orderbook fromPubkey response).1
  | bestOrders _ _ => orderbook
  | getOrderbook env base rel orders infos =>
    (fillPubkeyOrders it env base rel infos orderbook (fromPubkey, orders)).1

/-- The entries of one pair of a sync response. -/
def diffEntries (infos : OrderInfos) (recentlyCancelled : HashMap Uuid String)
    (entry : AlbOrderedOrderbookPair × DeltaOrFullTrie Uuid OrderbookP2PItem) : List IndexOp :=
  match entry.2 with
  | .delta delta => deltaOps it infos recentlyCancelled delta
  | .fullTrie values => fullTrieInserts infos recentlyCancelled values

/-- The insertions and deletions listed by the message that the index does not ignore. -/
def entries (orderbook : Orderbook) (fromPubkey : String) : PeerMessage → List IndexOp
  | makerOrderCreated msg =>
    insertOps orderbook.recentlyCancelled (.ofMakerOrderCreated msg fromPubkey)
  | makerOrderUpdated msg =>
    updateOps orderbook (orderbook.findOrderByUuidAndPubkey msg.uuid fromPubkey) msg
  | makerOrderCancelled msg => cancelOps orderbook fromPubkey msg.uuid
  | syncResponse response =>
    (it.pairs.toList response.pairOrdersDiff).flatMap
      (diffEntries it response.infos orderbook.recentlyCancelled)
  | bestOrders _ _ => []
  | getOrderbook env _ _ orders infos =>
    if acceptsPubkey env orderbook fromPubkey then
      fullTrieInserts infos orderbook.recentlyCancelled orders
    else []

/-- The last entry of the message that names the uuid: `none` when there is none, `some none` for
a deletion. -/
def lastEntry (orderbook : Orderbook) (fromPubkey : String) (m : PeerMessage) (uuid : Uuid) :
    Option (Option OrderbookItem) :=
  lastWrite ((m.entries it orderbook fromPubkey).map IndexOp.write) uuid

variable {orderbook : Orderbook} {fromPubkey : String} {uuid : Uuid} {order : OrderbookItem}

theorem holds_fullTrie (orders : PubkeyOrders) (params : ProcessTrieParams)
    (hpubkey : order.pubkey ≠ params.pubkey) :
    (orderbook.execAll (fullTrieOps it orderbook orders params)).1.Holds uuid order ↔
      (lastWrite ((fullTrieInserts params.infos orderbook.recentlyCancelled orders).map
        IndexOp.write) uuid).elim (orderbook.Holds uuid order) (· = some order) := by
  rw [fullTrieOps, execAll_append, holds_execAll, holds_pairDrops hpubkey]

theorem holds_pairDiff (infos : OrderInfos)
    (entry : AlbOrderedOrderbookPair × DeltaOrFullTrie Uuid OrderbookP2PItem)
    (hpubkey : order.pubkey ≠ fromPubkey) :
    (orderbook.execAll (pairDiffOps it fromPubkey infos orderbook entry)).1.Holds uuid order ↔
      (lastWrite ((diffEntries it infos orderbook.recentlyCancelled entry).map
        IndexOp.write) uuid).elim (orderbook.Holds uuid order) (· = some order) := by
  rcases entry with ⟨pair, delta | values⟩
  · exact holds_execAll
  · exact holds_fullTrie it values _ hpubkey

theorem holds_syncResponse (infos : OrderInfos)
    (diffs : List (AlbOrderedOrderbookPair × DeltaOrFullTrie Uuid OrderbookP2PItem))
    (hpubkey : order.pubkey ≠ fromPubkey) :
    (orderbook.execAll (collectOps (pairDiffOps it fromPubkey infos) orderbook diffs)).1.Holds
        uuid order ↔
      (lastWrite ((diffs.flatMap (diffEntries it infos orderbook.recentlyCancelled)).map
        IndexOp.write) uuid).elim (orderbook.Holds uuid order) (· = some order) := by
  induction diffs generalizing orderbook with
  | nil => rfl
  | cons entry diffs ih =>
    rw [collectOps, execAll_append, ih, recentlyCancelled_execAll, holds_pairDiff it _ _ hpubkey,
      List.flatMap_cons, List.map_append, lastWrite_append]
    cases lastWrite ((diffs.flatMap (diffEntries it infos orderbook.recentlyCancelled)).map
        IndexOp.write) uuid with
    | none => rw [Option.none_or, Option.elim_none]
    | some written => rfl

/-- An order of another maker is held after the message exactly when the last entry naming its
uuid brings it, or no entry names it and it was held before. -/
theorem holds_receive (m : PeerMessage) (hpubkey : order.pubkey ≠ fromPubkey) :
    (m.receive it orderbook fromPubkey).Holds uuid order ↔
      (m.lastEntry it orderbook fromPubkey uuid).elim (orderbook.Holds uuid order)
        (· = some order) := by
  unfold lastEntry
  cases m with
  | makerOrderCreated msg =>
    rw [receive, processMakerOrderCreated, indexInsertOrUpdate_eq, holds_execAll, entries]
  | makerOrderUpdated msg =>
    rw [receive, entries, processMakerOrderUpdated]
    cases orderbook.findOrderByUuidAndPubkey msg.uuid fromPubkey with
    | none => rfl
    | some found =>
      simp only [Option.map_some, Option.getD_some, updateOps, indexInsertOrUpdate_eq]
      exact holds_execAll
  | makerOrderCancelled msg =>
    rw [receive, processMakerOrderCancelled_eq, entries]
    refine Iff.trans ?_ holds_execAll
    constructor
    · rintro ⟨hstored, hordered, hunordered⟩
      exact ⟨hstored, hordered, hunordered⟩
    · rintro ⟨hstored, hordered, hunordered⟩
      exact ⟨hstored, hordered, hunordered⟩
  | syncResponse response =>
    rw [receive, processSyncResponse_fst, syncResponseOps, holds_syncResponse it _ _ hpubkey,
      entries]
  | bestOrders orders infos => rfl
  | getOrderbook env base rel orders infos =>
    rw [receive, fillPubkeyOrders_fst, fillPubkeyOps, entries]
    by_cases haccept : acceptsPubkey env orderbook fromPubkey = true
    · rw [if_pos haccept, if_pos haccept]
      exact holds_fullTrie it orders _ hpubkey
    · rw [if_neg haccept, if_neg haccept]
      rfl

/-- The message leaves every order of the other makers unchanged and in the index exactly when
each entry that is the last one to name the uuid of such an order brings this very order. -/
theorem keepsOthers_iff (m : PeerMessage) (orderbook : Orderbook) (fromPubkey : String) :
    (∀ uuid order, order.pubkey ≠ fromPubkey → orderbook.Holds uuid order →
      (m.receive it orderbook fromPubkey).Holds uuid order) ↔
    ∀ uuid order, order.pubkey ≠ fromPubkey → orderbook.Holds uuid order →
      ∀ entry ∈ m.lastEntry it orderbook fromPubkey uuid, entry = some order := by
  apply forall_congr'
  intro uuid
  apply forall_congr'
  intro order
  apply imp_congr_right
  intro hpubkey
  apply imp_congr_right
  intro hholds
  rw [holds_receive it m hpubkey]
  cases m.lastEntry it orderbook fromPubkey uuid with
  | none => simp [hholds]
  | some entry => simp

/-- A cancellation never reaches an order of another maker. -/
theorem keepsOthers_cancelled (msg : MakerOrderCancelled) (hpubkey : order.pubkey ≠ fromPubkey)
    (hholds : orderbook.Holds uuid order) :
    ((makerOrderCancelled msg).receive it orderbook fromPubkey).Holds uuid order := by
  apply (keepsOthers_iff it (makerOrderCancelled msg) orderbook fromPubkey).mpr _ uuid order
    hpubkey hholds
  intro uuid' order' hpubkey' hholds' entry hentry
  have hmem := mem_of_lastWrite hentry
  rw [entries, cancelOps] at hmem
  by_cases howner : orderbook.owner msg.uuid = some fromPubkey
  · rw [if_pos howner, List.map_singleton, List.mem_singleton] at hmem
    obtain ⟨rfl, rfl⟩ := Prod.mk.inj hmem
    rw [owner, hholds'.stored, Option.map_some, Option.some.injEq] at howner
    exact absurd howner hpubkey'
  · rw [if_neg howner] at hmem
    cases hmem

/-- A delta that deletes a uuid of another maker's order takes this order away. -/
theorem not_keepsOthers_delta :
    ¬∀ uuid order, order.pubkey ≠ "mallory" →
      (Orderbook.execAll {} [.put (testItem "alice" "KMD" "BTC" 1 1)]).1.Holds uuid order →
      ((syncResponse ⟨Finmap.singleton "BTC:KMD" (.delta (Finmap.singleton 1 none)), ⟨∅, ∅⟩⟩).receive sortedIngest
        (Orderbook.execAll {} [.put (testItem "alice" "KMD" "BTC" 1 1)]).1 "mallory").Holds
          uuid order := by
  intro h
  have hholds : (Orderbook.execAll {} [.put (testItem "alice" "KMD" "BTC" 1 1)]).1.Holds 1
      (testItem "alice" "KMD" "BTC" 1 1) := ⟨by decide +kernel, by decide +kernel, by decide +kernel⟩
  have hafter := (h 1 (testItem "alice" "KMD" "BTC" 1 1) (by decide) hholds).stored
  exact absurd hafter (by decide +kernel)

end PeerMessage

end DeXFG.Ordermatch
