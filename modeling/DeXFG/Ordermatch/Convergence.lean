import DeXFG.Ordermatch.Answer

/-!
# When a synchronization converges

A truthful full trie brings the requester to the responder's orders of the
public key. A truthful delta does so for the uuids it names; it starts at the
announced root, so the requester has to agree with the responder on all other
uuids already. In both cases an order that the requester knows as recently
cancelled is not taken over.
-/
namespace DeXFG.Ordermatch
open DeXFG.Library.FiniteMap DeXFG.Library.SetMap DeXFG.Library.KeyedWrites
open DeXFG.Library.LinkedMap DeXFG.Library.Serde NewProtocol Orderbook

variable {H : Type} [DecidableEq H] {db : OrderTrieDb H}

/-! ## Uuids with an assigned pair -/

/-- The pair of the uuid in alphabetical order. -/
def placePair (place : Uuid → String × String) (uuid : Uuid) : AlbOrderedOrderbookPair :=
  albOrderedPair (place uuid).1 (place uuid).2

/-- Orders under their own uuid and pair, with valid amounts. -/
structure WellKept (place : Uuid → String × String) (orderbook : Orderbook) : Prop where
  uuid_eq : ∀ uuid order, orderbook.orderSet.lookup uuid = some order → order.uuid = uuid
  valid : ∀ uuid order, orderbook.orderSet.lookup uuid = some order → order.isInvalid = false
  placed : orderbook.Placed place

/-- No ticker contains a separator. -/
def PlainPlaces (place : Uuid → String × String) : Prop :=
  ∀ uuid, PlainTicker (place uuid).1 ∧ PlainTicker (place uuid).2

variable {place : Uuid → String × String} {orderbook responder : Orderbook} {pubkey : String}
  {pair : AlbOrderedOrderbookPair} {uuid : Uuid} {infos : OrderInfos} {order : OrderbookP2PItem}

theorem PlainPlaces.plainTickers (h : PlainPlaces place) (hplaced : orderbook.Placed place) :
    orderbook.PlainTickers pubkey := by
  intro uuid order hlookup _
  have hplain := h uuid
  rwa [← hplaced uuid order hlookup] at hplain

/-- The item made of an order of the responder. -/
theorem WellKept.item_of_pubkeyOrders (h : WellKept place responder)
    (horder : responder.pubkeyOrders pubkey pair uuid = some order) (infos : OrderInfos) :
    order.uuid = uuid ∧ order.pubkey = pubkey ∧ (infos.item uuid order).isInvalid = false ∧
      (infos.item uuid order).baseRel = place uuid ∧ placePair place uuid = pair := by
  rw [pubkeyOrders_eq] at horder
  obtain ⟨own, hown, rfl⟩ := Option.map_eq_some_iff.mp horder
  obtain ⟨hlookup, howned⟩ := Option.filter_eq_some_iff.mp hown
  rw [decide_eq_true_eq] at howned
  have hplace := h.placed uuid own hlookup
  refine ⟨h.uuid_eq uuid own hlookup, howned.1, h.valid uuid own hlookup, hplace, ?_⟩
  rw [placePair, ← hplace]
  exact howned.2

theorem pubkeyOrders_of_ne_placePair (h : orderbook.Placed place)
    (hpair : placePair place uuid ≠ pair) : orderbook.pubkeyOrders pubkey pair uuid = none := by
  rw [pubkeyOrders_eq, Option.map_eq_none_iff, ownOrder, Option.filter_eq_none_iff]
  intro stored hlookup
  rw [decide_eq_true_eq]
  rintro ⟨_, hstored⟩
  rw [placePair, ← h uuid stored hlookup] at hpair
  exact hpair hstored

/-! ## One pair of the response -/

variable (it : IngestIteration)

/-- The orderbook to which the entries of a diff are applied. -/
def pairBase (pubkey : String) (orderbook : Orderbook)
    (entry : AlbOrderedOrderbookPair × DeltaOrFullTrie Uuid OrderbookP2PItem) : Orderbook :=
  match entry.2 with
  | .delta _ => orderbook
  | .fullTrie _ => (orderbook.execAll (orderbook.pairDrops it.uuids pubkey entry.1)).1

theorem processPairDiff_eq (orderbook : Orderbook)
    (entry : AlbOrderedOrderbookPair × DeltaOrFullTrie Uuid OrderbookP2PItem) :
    (processPairDiff it pubkey infos orderbook entry).1 =
      ((pairBase it pubkey orderbook entry).execAll ((entry.2.visit it.delta).flatMap
        (deltaEntryOps infos orderbook.recentlyCancelled))).1 := by
  rcases entry with ⟨pair, delta | trie⟩
  · simp only [processPairDiff, processTrieDelta_eq]
    rfl
  · simp only [processPairDiff, processPubkeyFullTrie_eq, pairBase, DeltaOrFullTrie.visit,
      List.flatMap_map]
    rfl

/-- The entries of a diff are the responder's orders, each under its own uuid. -/
structure TrueEntries (place : Uuid → String × String) (responder : Orderbook) (pubkey : String)
    (entry : AlbOrderedOrderbookPair × DeltaOrFullTrie Uuid OrderbookP2PItem) : Prop where
  nodup : ((entry.2.visit it.delta).map Prod.fst).Nodup
  order_eq : ∀ uuid order, (uuid, order) ∈ entry.2.visit it.delta →
    order = responder.pubkeyOrders pubkey entry.1 uuid
  pair_eq : ∀ uuid ∈ (entry.2.visit it.delta).map Prod.fst, placePair place uuid = entry.1
  canonical : CanonicalPair entry.1

/-- Everything the requester's orderbook keeps while it processes a truthful response. -/
structure Ready (place : Uuid → String × String) (recentlyCancelled : HashMap Uuid String)
    (orderbook : Orderbook) : Prop where
  index : orderbook.IndexInv
  placed : orderbook.Placed place
  cancelled : orderbook.recentlyCancelled = recentlyCancelled

/-- The order left by a diff: the responder's when the diff names the uuid and the order is not
ignored as cancelled, else the one before the diff, which a full trie has removed. -/
def orderAfter (recentlyCancelled : HashMap Uuid String) (responder : Orderbook) (pubkey : String)
    (entry : AlbOrderedOrderbookPair × DeltaOrFullTrie Uuid OrderbookP2PItem) (uuid : Uuid)
    (before : Option OrderbookP2PItem) : Option OrderbookP2PItem :=
  if uuid ∈ (entry.2.visit it.delta).map Prod.fst ∧ ¬(recentlyCancelled.lookup uuid = some pubkey ∧
      responder.pubkeyOrders pubkey entry.1 uuid ≠ none) then
    responder.pubkeyOrders pubkey entry.1 uuid
  else
    match entry.2 with
    | .delta _ => before
    | .fullTrie _ => none

section Entry

variable {it} {entry : AlbOrderedOrderbookPair × DeltaOrFullTrie Uuid OrderbookP2PItem}
  {recentlyCancelled : HashMap Uuid String}

theorem deltaEntryOps_of_pubkeyOrders (hkept : WellKept place responder)
    (horder : responder.pubkeyOrders pubkey pair uuid = some order) :
    deltaEntryOps infos recentlyCancelled (uuid, some order) =
      if recentlyCancelled.lookup uuid = some pubkey then [] else [.put (infos.item uuid order)] := by
  obtain ⟨rfl, rfl, hvalid, _⟩ := hkept.item_of_pubkeyOrders horder infos
  simp only [deltaEntryOps, insertOps, OrderInfos.item_uuid, OrderInfos.item_pubkey, hvalid,
    Bool.false_eq_true, if_false]

theorem TrueEntries.uuid_eq (h : TrueEntries it place responder pubkey entry)
    (hkept : WellKept place responder) :
    ∀ e ∈ entry.2.visit it.delta, ∀ op ∈ deltaEntryOps infos recentlyCancelled e, op.uuid = e.1 := by
  rintro ⟨uuid, _ | order⟩ he op hop
  · rw [deltaEntryOps, List.mem_singleton] at hop
    rw [hop]
    rfl
  · have horder := (h.order_eq uuid _ he).symm
    rw [deltaEntryOps_of_pubkeyOrders hkept horder] at hop
    split_ifs at hop
    · cases hop
    · rw [List.mem_singleton.mp hop]
      exact (hkept.item_of_pubkeyOrders horder infos).1

/-- What the entries write to a uuid. -/
theorem TrueEntries.lastWrite_eq (h : TrueEntries it place responder pubkey entry)
    (hkept : WellKept place responder) :
    lastWrite (((entry.2.visit it.delta).flatMap (deltaEntryOps infos recentlyCancelled)).map
        IndexOp.write) uuid =
      if uuid ∈ (entry.2.visit it.delta).map Prod.fst then
        match responder.pubkeyOrders pubkey entry.1 uuid with
        | none => some none
        | some order => if recentlyCancelled.lookup uuid = some pubkey then none
            else some (some (infos.item uuid order))
      else none := by
  have hkey : ∀ e ∈ entry.2.visit it.delta,
      ∀ w ∈ (deltaEntryOps infos recentlyCancelled e).map IndexOp.write, w.1 = e.1 := by
    intro e he w hw
    obtain ⟨op, hop, rfl⟩ := List.mem_map.mp hw
    rw [IndexOp.write_fst]
    exact h.uuid_eq hkept e he op hop
  rw [List.map_flatMap]
  by_cases hmem : uuid ∈ (entry.2.visit it.delta).map Prod.fst
  · rw [if_pos hmem]
    obtain ⟨⟨key, order⟩, hentry, rfl⟩ := List.mem_map.mp hmem
    rw [lastWrite_flatMap_of_mem hkey h.nodup hentry, ← h.order_eq key order hentry]
    cases order with
    | none => simp [deltaEntryOps, lastWrite, IndexOp.write]
    | some order =>
      have horder := (h.order_eq key _ hentry).symm
      have huuid := (hkept.item_of_pubkeyOrders horder infos).1
      rw [deltaEntryOps_of_pubkeyOrders hkept horder]
      by_cases hcancelled : recentlyCancelled.lookup key = some pubkey
      · simp [hcancelled, lastWrite]
      · simp [hcancelled, lastWrite, IndexOp.write, huuid]
  · rw [if_neg hmem, lastWrite_flatMap_of_notMem hkey hmem]

theorem Ready.base (h : Ready place recentlyCancelled orderbook) :
    Ready place recentlyCancelled (pairBase it pubkey orderbook entry) := by
  rcases entry with ⟨pair, delta | trie⟩
  · exact h
  · refine ⟨h.index.execAll_pairDrops, ?_, ?_⟩
    · refine (h.placed.execAll h.index ?_).1
      rintro op hop order rfl
      obtain ⟨dropped, hdrop, _⟩ := mem_pairDrops hop
      cases hdrop
    · rw [pairBase, recentlyCancelled_execAll, h.cancelled]

/-- The step of the loop over the pairs. -/
theorem Ready.processPairDiff (infos : OrderInfos)
    (h : Ready place recentlyCancelled orderbook)
    (htrue : TrueEntries it place responder pubkey entry) (hkept : WellKept place responder) :
    Ready place recentlyCancelled (processPairDiff it pubkey infos orderbook entry).1 := by
  rw [processPairDiff_eq]
  have hbase : Ready place recentlyCancelled (pairBase it pubkey orderbook entry) := h.base
  have hops : ∀ op ∈ (entry.2.visit it.delta).flatMap
      (deltaEntryOps infos orderbook.recentlyCancelled), PlacedOp place op := by
    rintro op hop order rfl
    obtain ⟨⟨uuid, _ | entryOrder⟩, he, hput⟩ := List.mem_flatMap.mp hop
    · cases List.mem_singleton.mp hput
    · have horder := (htrue.order_eq uuid _ he).symm
      obtain ⟨huuid, _, _, hplace, _⟩ := hkept.item_of_pubkeyOrders horder infos
      rw [deltaEntryOps_of_pubkeyOrders hkept horder] at hput
      split_ifs at hput
      · cases hput
      · obtain rfl := IndexOp.put.inj (List.mem_singleton.mp hput)
        rw [hplace, OrderInfos.item_uuid, huuid]
  obtain ⟨hplaced, hindex⟩ := hbase.placed.execAll hbase.index hops
  exact ⟨hindex, hplaced, by rw [recentlyCancelled_execAll, hbase.cancelled]⟩

theorem lookup_processPairDiff (h : Ready place recentlyCancelled orderbook)
    (htrue : TrueEntries it place responder pubkey entry) (hkept : WellKept place responder) :
    (Ordermatch.processPairDiff it pubkey infos orderbook entry).1.orderSet.lookup uuid =
      (if uuid ∈ (entry.2.visit it.delta).map Prod.fst then
        match responder.pubkeyOrders pubkey entry.1 uuid with
        | none => some none
        | some order => if recentlyCancelled.lookup uuid = some pubkey then none
            else some (some (infos.item uuid order))
      else none).getD ((pairBase it pubkey orderbook entry).orderSet.lookup uuid) := by
  rw [processPairDiff_eq, orderSet_execAll, lookup_applyWrites, htrue.lastWrite_eq hkept,
    h.cancelled]

/-- The orders of the pair itself after its diff. -/
theorem pubkeyOrders_processPairDiff (h : Ready place recentlyCancelled orderbook)
    (htrue : TrueEntries it place responder pubkey entry) (hkept : WellKept place responder)
    (hplain : PlainPlaces place) :
    (Ordermatch.processPairDiff it pubkey infos orderbook entry).1.pubkeyOrders pubkey entry.1 uuid =
      orderAfter it recentlyCancelled responder pubkey entry uuid
        (orderbook.pubkeyOrders pubkey entry.1 uuid) := by
  have hbase : (pairBase it pubkey orderbook entry).pubkeyOrders pubkey entry.1 uuid =
      match entry.2 with
      | .delta _ => orderbook.pubkeyOrders pubkey entry.1 uuid
      | .fullTrie _ => none := by
    rcases entry with ⟨pair, delta | trie⟩
    · rfl
    · rw [pubkeyOrders_eq, ownOrder, pairBase,
        h.index.lookup_execAll_pairDrops (hplain.plainTickers h.placed) htrue.canonical, Option.filter_filter,
        Option.map_eq_none_iff, Option.filter_eq_none_iff]
      intro stored _
      simp only [Bool.and_eq_true, decide_eq_true_eq, not_and]
      tauto
  unfold orderAfter
  rw [Orderbook.pubkeyOrders, lookup_processPairDiff h htrue hkept]
  by_cases hmem : uuid ∈ (entry.2.visit it.delta).map Prod.fst
  · cases horder : responder.pubkeyOrders pubkey entry.1 uuid with
    | none => simp [hmem, ownEntry]
    | some order =>
      by_cases hcancelled : recentlyCancelled.lookup uuid = some pubkey
      · simp only [hmem, hcancelled, if_true, Option.getD_none]
        rw [if_neg (by simp)]
        exact hbase
      · obtain ⟨huuid, hpubkey, _, hplace, hpair⟩ := hkept.item_of_pubkeyOrders horder infos
        have halb : (infos.item uuid order).albPair = entry.1 := by
          rw [← hpair, placePair, ← hplace]
          rfl
        simp [hmem, hcancelled, ownEntry, hpubkey, halb]
  · simp only [hmem, if_false, Option.getD_none, false_and]
    exact hbase

/-- A diff leaves the orders of the other pairs alone. -/
theorem pubkeyOrders_processPairDiff_of_ne (h : Ready place recentlyCancelled orderbook)
    (htrue : TrueEntries it place responder pubkey entry) (hkept : WellKept place responder)
    (hplain : PlainPlaces place) (hpair : pair ≠ entry.1) :
    (Ordermatch.processPairDiff it pubkey infos orderbook entry).1.pubkeyOrders pubkey pair uuid =
      orderbook.pubkeyOrders pubkey pair uuid := by
  by_cases hplace : placePair place uuid = pair
  · have hnot : uuid ∉ (entry.2.visit it.delta).map Prod.fst := by
      intro hmem
      exact hpair (hplace.symm.trans (htrue.pair_eq uuid hmem))
    have hbase : (pairBase it pubkey orderbook entry).pubkeyOrders pubkey pair uuid =
        orderbook.pubkeyOrders pubkey pair uuid := by
      rcases entry with ⟨pair', delta | trie⟩
      · rfl
      · rw [pubkeyOrders_eq, pubkeyOrders_eq, ownOrder, ownOrder, pairBase,
          h.index.lookup_execAll_pairDrops (hplain.plainTickers h.placed) htrue.canonical, Option.filter_filter]
        congr 2
        funext stored
        rw [← Bool.decide_and, decide_eq_decide]
        constructor
        · exact And.right
        · intro hstored
          exact ⟨fun hother => hpair (hstored.2.symm.trans hother.2), hstored⟩
    rw [Orderbook.pubkeyOrders, lookup_processPairDiff h htrue hkept, if_neg hnot, Option.getD_none]
    exact hbase
  · rw [pubkeyOrders_of_ne_placePair (h.processPairDiff _ htrue hkept).placed hplace,
      pubkeyOrders_of_ne_placePair h.placed hplace]

/-- The loop over the pairs changes the orders of each pair once, by its own diff. -/
theorem pubkeyOrders_forEach (infos : OrderInfos) (uuid : Uuid)
    {entries : List (AlbOrderedOrderbookPair × DeltaOrFullTrie Uuid OrderbookP2PItem)}
    (h : Ready place recentlyCancelled orderbook)
    (htrue : ∀ entry ∈ entries, TrueEntries it place responder pubkey entry)
    (hkept : WellKept place responder) (hplain : PlainPlaces place)
    (hnodup : (entries.map Prod.fst).Nodup) :
    (∀ pair, pair ∉ entries.map Prod.fst →
      (forEach (processPairDiff it pubkey infos) orderbook entries).1.pubkeyOrders pubkey pair uuid =
        orderbook.pubkeyOrders pubkey pair uuid) ∧
    ∀ entry ∈ entries,
      (forEach (processPairDiff it pubkey infos) orderbook entries).1.pubkeyOrders pubkey entry.1
          uuid =
        orderAfter it recentlyCancelled responder pubkey entry uuid
          (orderbook.pubkeyOrders pubkey entry.1 uuid) := by
  induction entries generalizing orderbook with
  | nil => exact ⟨fun _ _ => rfl, fun _ hentry => absurd hentry List.not_mem_nil⟩
  | cons entry entries ih =>
    rw [List.map_cons, List.nodup_cons] at hnodup
    have hfirst := htrue entry List.mem_cons_self
    have hrest := fun entry' hmem => htrue entry' (List.mem_cons_of_mem entry hmem)
    obtain ⟨hother, hown⟩ := ih (h.processPairDiff infos hfirst hkept) hrest hnodup.2
    constructor
    · intro pair hpair
      rw [List.map_cons, List.mem_cons, not_or] at hpair
      exact (hother pair hpair.2).trans
        (pubkeyOrders_processPairDiff_of_ne h hfirst hkept hplain hpair.1)
    · intro entry' hentry
      rcases List.mem_cons.mp hentry with rfl | hmem
      · exact (hother entry'.1 hnodup.1).trans (pubkeyOrders_processPairDiff h hfirst hkept hplain)
      · have hne : entry'.1 ≠ entry.1 := by
          intro heq
          exact hnodup.1 (heq ▸ List.mem_map.mpr ⟨entry', hmem, rfl⟩)
        refine (hown entry' hmem).trans ?_
        rw [pubkeyOrders_processPairDiff_of_ne h hfirst hkept hplain hne]

end Entry

/-! ## The exchange -/

/-- The pair is announced with the root and asked for. -/
def Synced (db : OrderTrieDb H) (env : KeepAliveEnv H) (requester : OrderbookNode H)
    (pubkey : String) (trieRoots : HashMap AlbOrderedOrderbookPair H)
    (pair : AlbOrderedOrderbookPair) (root : H) : Prop :=
  trieRoots.lookup pair = some root ∧ Asked db env.iAmRelay env.isSubscribed
    ((requester.store.pubkeyStateMut pubkey env.now).pairRoot db pair) (pair, root)

/-- The orders of the public key agree for every synced pair. -/
def Converged (synced : AlbOrderedOrderbookPair → H → Prop) (pubkey : String)
    (requester responder : Orderbook) : Prop :=
  ∀ pair root, synced pair root → ∀ uuid,
    requester.pubkeyOrders pubkey pair uuid = responder.pubkeyOrders pubkey pair uuid

/-- The condition on a synced pair before the exchange. -/
structure SyncAgrees (requester responder : Orderbook) (state : OrderbookPubkeyState H)
    (pubkey : String) (pair : AlbOrderedOrderbookPair) (root : H) : Prop where
  delta : AnswersDelta state pair root → ∀ uuid,
    (¬(state.pairHistory pair).Names root uuid ∨
      (requester.recentlyCancelled.lookup uuid = some pubkey ∧
        responder.pubkeyOrders pubkey pair uuid ≠ none)) →
    requester.pubkeyOrders pubkey pair uuid = responder.pubkeyOrders pubkey pair uuid
  fullTrie : ¬AnswersDelta state pair root → ∀ uuid,
    requester.recentlyCancelled.lookup uuid = some pubkey →
      responder.pubkeyOrders pubkey pair uuid = none

/-- Both nodes know every uuid under one pair only, and the responder's roots and histories
describe its orders. -/
structure Orderly (db : OrderTrieDb H) (place : Uuid → String × String)
    (requester responder : Orderbook) (state : OrderbookPubkeyState H) (pubkey : String)
    (synced : AlbOrderedOrderbookPair → H → Prop) : Prop where
  plain : PlainPlaces place
  requesterIndex : requester.IndexInv
  requesterPlaced : requester.Placed place
  responderKept : WellKept place responder
  sound : state.SoundHistories db
  canonical : ∀ pair root, synced pair root → CanonicalPair pair
  describes : ∀ pair root, synced pair root → RootDescribes db responder state pubkey pair
  named : ∀ pair root, synced pair root → ∀ uuid, (state.pairHistory pair).Names root uuid →
    placePair place uuid = pair

/-- The condition in terms of the response: its last change of an order is the responder's order,
and the orders it does not change are the responder's. -/
structure ResponseAgrees (it : IngestIteration) (response : SyncPubkeyOrderbookStateRes)
    (synced : AlbOrderedOrderbookPair → H → Prop) (pubkey : String)
    (requester responder : Orderbook) : Prop where
  untouched : ∀ pair root, synced pair root → ∀ uuid,
    (∀ op ∈ syncResponseOps it requester pubkey response, op.uuid ≠ uuid) →
      requester.pubkeyOrders pubkey pair uuid = responder.pubkeyOrders pubkey pair uuid
  touched : ∀ pair root, synced pair root → ∀ uuid written,
    lastWrite ((syncResponseOps it requester pubkey response).map IndexOp.write) uuid =
        some written →
      ownEntry pubkey pair written = responder.pubkeyOrders pubkey pair uuid

section Truthful

variable {it : IngestIteration} {state : OrderbookPubkeyState H} {root : H}
  {diff : DeltaOrFullTrie Uuid OrderbookP2PItem}

/-- The uuids that a truthful diff names. -/
theorem TellsTruth.mem_visit (h : TellsTruth responder state pubkey pair root diff) :
    uuid ∈ (diff.visit it.delta).map Prod.fst ↔
      match diff with
      | .delta _ => (state.pairHistory pair).Names root uuid
      | .fullTrie _ => responder.pubkeyOrders pubkey pair uuid ≠ none := by
  cases diff with
  | delta delta =>
    rw [← h.2.1 uuid, Option.ne_none_iff_exists']
    simp only [DeltaOrFullTrie.visit, List.mem_map, Prod.exists, exists_and_right, exists_eq_right,
      it.delta.mem_toList]
  | fullTrie trie =>
    simp only [DeltaOrFullTrie.visit, List.map_map, Option.ne_none_iff_exists', ← h.2.2]
    simp

theorem TellsTruth.trueEntries (h : TellsTruth responder state pubkey pair root diff)
    (hkept : WellKept place responder) (hcanonical : CanonicalPair pair)
    (hnamed : ∀ uuid, (state.pairHistory pair).Names root uuid → placePair place uuid = pair) :
    TrueEntries it place responder pubkey (pair, diff) where
  nodup := by
    cases diff with
    | delta delta => exact it.delta.nodup_toList delta
    | fullTrie trie =>
      simp only [DeltaOrFullTrie.visit, List.map_map]
      exact h.2.1
  order_eq uuid order hmem := by
    cases diff with
    | delta delta => exact h.2.2 uuid order ((it.delta.mem_toList _ _ _).mp hmem)
    | fullTrie trie =>
      obtain ⟨⟨key, o⟩, ho, heq⟩ := List.mem_map.mp hmem
      obtain ⟨rfl, rfl⟩ := Prod.mk.inj heq
      exact ((h.2.2 key o).mp ho).symm
  pair_eq uuid hmem := by
    rw [h.mem_visit] at hmem
    cases diff with
    | delta delta => exact hnamed uuid hmem
    | fullTrie trie =>
      obtain ⟨order, horder⟩ := Option.ne_none_iff_exists'.mp hmem
      exact (hkept.item_of_pubkeyOrders horder ⟨∅, ∅⟩).2.2.2.2
  canonical := hcanonical

/-- When a truthful diff leaves the responder's orders. -/
theorem TellsTruth.orderAfter_eq_iff (it : IngestIteration)
    (h : TellsTruth responder state pubkey pair root diff) (requester : Orderbook) :
    (∀ uuid, orderAfter it requester.recentlyCancelled responder pubkey (pair, diff) uuid
        (requester.pubkeyOrders pubkey pair uuid) = responder.pubkeyOrders pubkey pair uuid) ↔
      SyncAgrees requester responder state pubkey pair root := by
  unfold orderAfter
  cases diff with
  | delta delta =>
    have hdelta : AnswersDelta state pair root := h.1
    have hkeys : ∀ uuid, uuid ∈ ((DeltaOrFullTrie.delta delta).visit it.delta).map Prod.fst ↔
        (state.pairHistory pair).Names root uuid := fun uuid => h.mem_visit
    constructor
    · intro hafter
      refine ⟨fun _ uuid huntold => ?_, fun hfull => absurd hdelta hfull⟩
      have huuid := hafter uuid
      rwa [if_neg (by rw [hkeys]; tauto)] at huuid
    · intro hagrees uuid
      split_ifs with htold
      · rfl
      · rw [hkeys] at htold
        exact hagrees.delta hdelta uuid (by tauto)
  | fullTrie trie =>
    have hfull : ¬AnswersDelta state pair root := h.1
    have hkeys : ∀ uuid, uuid ∈ ((DeltaOrFullTrie.fullTrie trie).visit it.delta).map Prod.fst ↔
        responder.pubkeyOrders pubkey pair uuid ≠ none := fun uuid => h.mem_visit
    constructor
    · intro hafter
      refine ⟨fun hdelta => absurd hdelta hfull, fun _ uuid hcancelled => ?_⟩
      have huuid := hafter uuid
      rw [if_neg (by rw [hkeys]; tauto)] at huuid
      exact huuid.symm
    · intro hagrees uuid
      split_ifs with htold
      · rfl
      · rw [hkeys] at htold
        by_contra hne
        exact htold ⟨Ne.symm hne, fun hand => hand.2 (hagrees.fullTrie hfull uuid hand.1)⟩

end Truthful

/-! ### The condition -/

section Exchange

variable {env : KeepAliveEnv H} {requesterNode responderNode after : OrderbookNode H}
  {trieRoots : HashMap AlbOrderedOrderbookPair H} {response : SyncPubkeyOrderbookStateRes}

/-- The request, the answer and the processing of an exchange. -/
theorem keepAliveExchange_eq_some
    (h : keepAliveExchange db env requesterNode responderNode pubkey trieRoots =
      some (response, after)) :
    ∃ roots : HashMap AlbOrderedOrderbookPair H,
      (∀ pair root, roots.lookup pair = some root ↔
        Synced db env requesterNode pubkey trieRoots pair root) ∧
      (processSyncPubkeyOrderbookState db env.sync responderNode.orderbook responderNode.store pubkey
        roots).run = some (.ok (some response)) ∧
      after.orderbook =
        (processSyncResponse env.ingest requesterNode.orderbook pubkey response).1 := by
  unfold keepAliveExchange at h
  dsimp only at h
  split at h
  · cases h
  · rename_i req hreq
    obtain ⟨hpubkey, hroots⟩ := prepareSyncRequest_eq_some hreq
    split at h
    · rename_i answer hanswer
      obtain ⟨rfl, rfl⟩ := Prod.mk.inj (Option.some.inj h)
      rw [hpubkey] at hanswer
      exact ⟨req.trieRoots, hroots, hanswer, rfl⟩
    · cases h

/-- What a response that was processed left of each order. -/
theorem lookup_processSyncResponse (it : IngestIteration) (orderbook : Orderbook)
    (response : SyncPubkeyOrderbookStateRes) :
    (processSyncResponse it orderbook pubkey response).1.orderSet.lookup uuid =
      (lastWrite ((syncResponseOps it orderbook pubkey response).map IndexOp.write) uuid).getD
        (orderbook.orderSet.lookup uuid) := by
  rw [processSyncResponse_fst, orderSet_execAll, lookup_applyWrites]

/-- For any two nodes: every order that the response changes last becomes the responder's, and the
others are the responder's already. -/
theorem converged_iff_response
    (hexchange : keepAliveExchange db env requesterNode responderNode pubkey trieRoots =
      some (response, after)) :
    Converged (Synced db env requesterNode pubkey trieRoots) pubkey after.orderbook
        responderNode.orderbook ↔
      ResponseAgrees env.ingest response (Synced db env requesterNode pubkey trieRoots) pubkey
        requesterNode.orderbook responderNode.orderbook := by
  obtain ⟨_, _, _, hafter⟩ := keepAliveExchange_eq_some hexchange
  have hwritten : ∀ uuid, lastWrite ((syncResponseOps env.ingest requesterNode.orderbook pubkey
      response).map IndexOp.write) uuid = none ↔
        ∀ op ∈ syncResponseOps env.ingest requesterNode.orderbook pubkey response,
          op.uuid ≠ uuid := by
    intro uuid
    rw [lastWrite_eq_none]
    simp
  rw [Converged, hafter]
  simp only [Orderbook.pubkeyOrders, lookup_processSyncResponse]
  constructor
  · intro hconverged
    constructor
    · intro pair root hsynced uuid huntouched
      have hagree := hconverged pair root hsynced uuid
      rwa [(hwritten uuid).mpr huntouched, Option.getD_none] at hagree
    · intro pair root hsynced uuid written hlast
      have hagree := hconverged pair root hsynced uuid
      rwa [hlast, Option.getD_some] at hagree
  · intro hagrees pair root hsynced uuid
    cases hlast : lastWrite ((syncResponseOps env.ingest requesterNode.orderbook pubkey
        response).map IndexOp.write) uuid with
    | none => exact hagrees.untouched pair root hsynced uuid ((hwritten uuid).mp hlast)
    | some written => exact hagrees.touched pair root hsynced uuid written hlast

/-- Between orderly nodes a keep-alive brings the requester to the responder's orders exactly when
the two agree before on all uuids that the recorded diffs from the announced root do not name, and
the requester does not take any of the orders for cancelled. -/
theorem converged_iff_of_orderly {state : OrderbookPubkeyState H}
    (hstate : responderNode.store.pubkeysState.lookup pubkey = some state)
    (horderly : Orderly db place requesterNode.orderbook responderNode.orderbook state pubkey
      (Synced db env requesterNode pubkey trieRoots))
    (hexchange : keepAliveExchange db env requesterNode responderNode pubkey trieRoots =
      some (response, after)) :
    Converged (Synced db env requesterNode pubkey trieRoots) pubkey after.orderbook
        responderNode.orderbook ↔
      ∀ pair root, Synced db env requesterNode pubkey trieRoots pair root →
        SyncAgrees requesterNode.orderbook responderNode.orderbook state pubkey pair root := by
  obtain ⟨roots, hroots, hrun, hafter⟩ := keepAliveExchange_eq_some hexchange
  obtain ⟨hpairs, hanswers⟩ := lookup_response hstate hrun
  have htruthful : ∀ pair diff, response.pairOrdersDiff.lookup pair = some diff →
      ∃ root, Synced db env requesterNode pubkey trieRoots pair root ∧
        TellsTruth responderNode.orderbook state pubkey pair root diff := by
    intro pair diff hdiff
    obtain ⟨root, answer, hroot, rfl, hanswer⟩ := hanswers pair diff hdiff
    have hsynced := (hroots pair root).mp hroot
    exact ⟨root, hsynced, pairOrdersDiff_truthful horderly.sound
      (horderly.describes pair root hsynced) hanswer⟩
  have htrue : ∀ entry ∈ env.ingest.pairs.toList response.pairOrdersDiff,
      TrueEntries env.ingest place responderNode.orderbook pubkey entry := by
    rintro ⟨pair, diff⟩ hentry
    obtain ⟨root, hsynced, htells⟩ :=
      htruthful pair diff ((env.ingest.pairs.mem_toList _ _ _).mp hentry)
    exact htells.trueEntries horderly.responderKept (horderly.canonical pair root hsynced)
      (horderly.named pair root hsynced)
  have hloop : ∀ uuid, _ := fun uuid =>
    (pubkeyOrders_forEach response.infos uuid
      ⟨horderly.requesterIndex, horderly.requesterPlaced, rfl⟩ htrue horderly.responderKept
      horderly.plain (env.ingest.pairs.nodup_toList _)).2
  have hpair : ∀ pair root, Synced db env requesterNode pubkey trieRoots pair root →
      ((∀ uuid, after.orderbook.pubkeyOrders pubkey pair uuid =
          responderNode.orderbook.pubkeyOrders pubkey pair uuid) ↔
        SyncAgrees requesterNode.orderbook responderNode.orderbook state pubkey pair root) := by
    intro pair root hsynced
    have hsome : response.pairOrdersDiff.lookup pair ≠ none := by
      rw [hpairs, (hroots pair root).mpr hsynced]
      exact Option.some_ne_none root
    obtain ⟨diff, hdiff⟩ := Option.ne_none_iff_exists'.mp hsome
    obtain ⟨root', hsynced', htells⟩ := htruthful pair diff hdiff
    have hsame : root' = root := by
      have hroot := (hroots pair root').mpr hsynced'
      rw [(hroots pair root).mpr hsynced, Option.some.injEq] at hroot
      exact hroot.symm
    subst hsame
    rw [← htells.orderAfter_eq_iff env.ingest, hafter]
    refine forall_congr' fun uuid => ?_
    rw [processSyncResponse, hloop uuid (pair, diff) ((env.ingest.pairs.mem_toList _ _ _).mpr hdiff)]
  exact forall_congr' fun pair => forall_congr' fun root => forall_congr' fun hsynced =>
    hpair pair root hsynced

/-- When a keep-alive synchronizes the requester with the responder: for any two nodes in terms of
the response, for orderly nodes in terms of their states before. -/
theorem converged_iff
    (hexchange : keepAliveExchange db env requesterNode responderNode pubkey trieRoots =
      some (response, after)) :
    (Converged (Synced db env requesterNode pubkey trieRoots) pubkey after.orderbook
        responderNode.orderbook ↔
      ResponseAgrees env.ingest response (Synced db env requesterNode pubkey trieRoots) pubkey
        requesterNode.orderbook responderNode.orderbook) ∧
    ∀ state place, responderNode.store.pubkeysState.lookup pubkey = some state →
      Orderly db place requesterNode.orderbook responderNode.orderbook state pubkey
        (Synced db env requesterNode pubkey trieRoots) →
      (Converged (Synced db env requesterNode pubkey trieRoots) pubkey after.orderbook
          responderNode.orderbook ↔
        ∀ pair root, Synced db env requesterNode pubkey trieRoots pair root →
          SyncAgrees requesterNode.orderbook responderNode.orderbook state pubkey pair root) :=
  ⟨converged_iff_response hexchange,
    fun _ _ hstate horderly => converged_iff_of_orderly hstate horderly hexchange⟩

end Exchange

/-! ### Two exchanges -/

/-- An order of alice under a uuid. -/
def aliceOrder (uuid : Uuid) : OrderbookItem := testItem "alice" "KMD" "BTC" 1 uuid

/-- A node that received the orders one after the other. -/
def nodeWith (uuids : List Uuid) : OrderbookNode (Option (HashMap Uuid Value)) :=
  let inserted := Orderbook.execAll {} (uuids.map fun uuid => .put (aliceOrder uuid))
  ⟨inserted.1, inserted.2.foldl (TrieStore.applyOp contentDb 0) {}⟩

/-- The root of the trie with the first order. -/
def firstRoot : Option (HashMap Uuid Value) :=
  some ((∅ : HashMap Uuid Value).insert 1 (aliceOrder 1).trieStateBytes)

/-- What alice announced while she had one order. -/
def firstRoots : HashMap AlbOrderedOrderbookPair (Option (HashMap Uuid Value)) :=
  (∅ : HashMap AlbOrderedOrderbookPair _).insert "BTC:KMD" firstRoot

def relayEnv : KeepAliveEnv (Option (HashMap Uuid Value)) where
  ingest := sortedIngest
  announced := sortedIteration
  sync := ⟨sortedIteration, sortedIteration, sortedIteration⟩
  now := 0
  iAmRelay := true
  isSubscribed _ := false

/-- The state of alice after her first order. -/
def firstState : OrderbookPubkeyState (Option (HashMap Uuid Value)) :=
  (OrderbookPubkeyState.new 0).applyInsert contentDb "BTC:KMD" 1 (aliceOrder 1)

theorem orderly_first : Orderly contentDb (fun _ => ("KMD", "BTC")) (nodeWith []).orderbook
    (nodeWith [1]).orderbook firstState "alice"
    (Synced contentDb relayEnv (nodeWith []) "alice" firstRoots) := by
  have hset : (nodeWith [1]).orderbook.orderSet =
      (∅ : HashMap Uuid OrderbookItem).insert 1 (aliceOrder 1) := rfl
  have hlookup : ∀ uuid, (nodeWith [1]).orderbook.orderSet.lookup uuid =
      if uuid = 1 then some (aliceOrder 1) else none := by
    intro uuid
    rw [hset]
    by_cases huuid : uuid = 1
    · rw [if_pos huuid, huuid, Finmap.lookup_insert]
    · rw [if_neg huuid, Finmap.lookup_insert_of_ne _ huuid, Finmap.lookup_empty]
  have hpair : ∀ pair root, Synced contentDb relayEnv (nodeWith []) "alice" firstRoots pair root →
      pair = "BTC:KMD" := by
    intro pair root hsynced
    by_contra hne
    have hroot := hsynced.1
    rw [firstRoots, Finmap.lookup_insert_of_ne _ hne] at hroot
    simp at hroot
  have hfirst : ∀ uuid order, (nodeWith [1]).orderbook.orderSet.lookup uuid = some order →
      uuid = 1 ∧ order = aliceOrder 1 := by
    intro uuid order horder
    rw [hlookup] at horder
    split_ifs at horder with huuid
    exact ⟨huuid, (Option.some.inj horder).symm⟩
  constructor
  · exact fun _ => ⟨by decide, by decide⟩
  · exact indexInv_empty
  · intro uuid order horder
    simp [nodeWith] at horder
  · constructor
    · intro uuid order horder
      obtain ⟨rfl, rfl⟩ := hfirst uuid order horder
      rfl
    · intro uuid order horder
      obtain ⟨rfl, rfl⟩ := hfirst uuid order horder
      decide +kernel
    · intro uuid order horder
      obtain ⟨rfl, rfl⟩ := hfirst uuid order horder
      rfl
  · exact (OrderbookPubkeyState.soundHistories_new 0).applyInsert 1 (aliceOrder 1)
  · intro pair root hsynced
    exact ⟨"KMD", "BTC", by decide, by decide, hpair pair root hsynced⟩
  · intro pair root hsynced
    obtain rfl := hpair pair root hsynced
    refine ⟨(∅ : HashMap Uuid Value).insert 1 (aliceOrder 1).trieStateBytes, by decide +kernel, ?_⟩
    intro uuid
    rw [ownOrder, hlookup]
    by_cases huuid : uuid = 1
    · subst huuid
      rw [Finmap.lookup_insert, if_pos rfl, Option.filter_some_pos (by decide)]
      rfl
    · rw [Finmap.lookup_insert_of_ne _ huuid, Finmap.lookup_empty, if_neg huuid]
      rfl
  · intro pair root hsynced uuid _
    rw [hpair pair root hsynced]
    exact (by decide : albOrderedPair "KMD" "BTC" = "BTC:KMD")

/-- The first keep-alive after an order was created brings the order. -/
theorem converged_first : ∃ response after,
    keepAliveExchange contentDb relayEnv (nodeWith []) (nodeWith [1]) "alice" firstRoots =
      some (response, after) ∧
    Converged (Synced contentDb relayEnv (nodeWith []) "alice" firstRoots) "alice" after.orderbook
      (nodeWith [1]).orderbook := by
  have hsome : (keepAliveExchange contentDb relayEnv (nodeWith []) (nodeWith [1]) "alice"
      firstRoots).isSome = true := by decide +kernel
  obtain ⟨⟨response, after⟩, hexchange⟩ := Option.isSome_iff_exists.mp hsome
  refine ⟨response, after, hexchange, ?_⟩
  rw [(converged_iff hexchange).2 firstState _ rfl orderly_first]
  intro pair root hsynced
  constructor
  · rintro ⟨actual, _, hleads⟩
    have hempty : firstState.pairHistory pair = ∅ := rfl
    rw [hempty] at hleads
    exact absurd hleads TrieDiffHistory.not_leadsTo_empty
  · intro _ uuid hcancelled
    simp [nodeWith] at hcancelled

/-- The responder knows a second order by the time it answers. It sends the change from the
announced root, which the requester never had, so the first order is missing afterwards. -/
theorem not_converged_second :
    ¬∀ response after,
      keepAliveExchange contentDb relayEnv (nodeWith []) (nodeWith [1, 2]) "alice" firstRoots =
        some (response, after) →
      Converged (Synced contentDb relayEnv (nodeWith []) "alice" firstRoots) "alice"
        after.orderbook (nodeWith [1, 2]).orderbook := by
  intro h
  have hmissing : (keepAliveExchange contentDb relayEnv (nodeWith []) (nodeWith [1, 2]) "alice"
      firstRoots).any (fun result => decide (result.2.orderbook.pubkeyOrders "alice" "BTC:KMD" 1 ≠
        (nodeWith [1, 2]).orderbook.pubkeyOrders "alice" "BTC:KMD" 1)) = true := by decide +kernel
  obtain ⟨⟨response, after⟩, hexchange, hne⟩ := (Option.any_eq_true _ _).mp hmissing
  rw [decide_eq_true_eq] at hne
  refine hne (h response after hexchange "BTC:KMD" firstRoot ⟨?_, ?_⟩ 1)
  · exact Finmap.lookup_insert _
  · decide +kernel

end DeXFG.Ordermatch
