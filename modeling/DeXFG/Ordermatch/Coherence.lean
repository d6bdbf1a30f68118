import DeXFG.Ordermatch.History
import DeXFG.Ordermatch.IndexSteps
import DeXFG.Ordermatch.Sync

/-!
# Coherence of the index and the tries

A handler changes the index under the lock and enqueues the trie operations
after releasing it; the worker applies the queued batches to the tries. What
the tries become when all waiting batches are applied in the order of the lock
is the index, as long as every handler finds the index in order, no handler
overtakes another one that works on the same orders, and no batch is changed by
the grouping.
-/
namespace DeXFG.Ordermatch
open DeXFG.Library.FiniteMap DeXFG.Library.SetMap DeXFG.Library.DelayedEffects
open DeXFG.Library.Runs DeXFG.Library.Serde NewProtocol Orderbook

variable {H : Type} [DecidableEq H]

/-! ## The system -/

/-- The orderbook, the trie store and the batches between them. -/
structure IndexedNode (H : Type) where
  orderbook : Orderbook := {}
  store : TrieStore H := {}
  outbox : Outbox (List TrieOp) := {}
  /-- The uuids and public keys that `lp_ordermatch_loop` found timed out and has not removed. -/
  timedOut : Option (List Uuid × List String) := none

/-- What `lp_ordermatch_loop` looks at when it collects the timed out public keys. -/
structure TimeoutEnv (H : Type) where
  myPubsecp : String
  makerOrderTimeout : ℕ
  now : ℕ
  pubkeys : Iteration String (OrderbookPubkeyState H)
  uuids : SetIteration (Uuid × AlbOrderedOrderbookPair)

/-- Step 1 of the pubkey timeout. -/
def timedOutPubkeys (env : TimeoutEnv H) (orderbook : Orderbook) (store : TrieStore H) :
    List Uuid × List String :=
  let removed := (env.pubkeys.toList store.pubkeysState).filter fun entry =>
    !(entry.1 = env.myPubsecp || decide (entry.1 ∈ orderbook.myP2pPubkeys) ||
      decide (env.now < entry.2.lastKeepAlive + env.makerOrderTimeout))
  (removed.flatMap fun entry => (env.uuids.toList entry.2.ordersUuids).map Prod.fst,
    removed.map Prod.fst)

/-- Steps 2 and 3 of the pubkey timeout. -/
def removeTimedOut (orderbook : Orderbook) (timedOut : List Uuid × List String) :
    Orderbook × List TrieOp :=
  let removed := removeTimedOutUuids orderbook timedOut.1
  (removed.1, removed.2 ++ timedOut.2.map .removePubkey)

inductive NodeEvent (H : Type) where
  /-- The first phase of a handler. -/
  | handler (e : IndexEvent)
  | timeoutCollected (env : TimeoutEnv H)
  /-- The first phase of the removal of timed out public keys. -/
  | timeoutRemoved
  /-- The second phase of a handler: one of the unsent batches is sent. -/
  | sent (i : ℕ)
  /-- The worker takes a batch from the queue. -/
  | drained (it : ApplyIteration) (now : ℕ)
  /-- A keep-alive is prepared for a synchronization request. -/
  | keepAlive (it : Iteration AlbOrderedOrderbookPair H) (now : ℕ) (fromPubkey : String)
      (trieRoots : HashMap AlbOrderedOrderbookPair H) (iAmRelay : Bool)
      (isSubscribed : String → Bool)
  | diffsExpired (pubkey : String) (albPair : AlbOrderedOrderbookPair) (keep : H → Bool)
  | historyExpired (pubkey : String) (albPair : AlbOrderedOrderbookPair)
  | expiredDropped (pubkey : String)

namespace IndexedNode

/-- A handler releases the lock; it has nothing to send when there are no operations. -/
def release (s : IndexedNode H) (phase : Orderbook × List TrieOp) : IndexedNode H :=
  { s with
    orderbook := phase.1
    outbox := if phase.2 = [] then s.outbox else s.outbox.push phase.2 }

variable (db : OrderTrieDb H) (it : IngestIteration)

def step (s : IndexedNode H) : NodeEvent H → Option (IndexedNode H)
  | .handler (.timedOutUuids _) => none
  | .handler e => some (s.release (e.phaseOne it s.orderbook))
  | .timeoutCollected env => some { s with
      timedOut := some (timedOutPubkeys env s.orderbook s.store) }
  | .timeoutRemoved => s.timedOut.map fun timedOut =>
      { s with timedOut := none }.release (removeTimedOut s.orderbook timedOut)
  | .sent i => (s.outbox.send i).map fun outbox => { s with outbox := outbox }
  | .drained apply now =>
    match s.outbox.queue with
    | [] => none
    | batch :: queue => some { s with
        store := s.store.applyOps db apply now batch
        outbox := { s.outbox with queue := queue } }
  | .keepAlive visit now fromPubkey trieRoots iAmRelay isSubscribed => some { s with
      store := (prepareSyncRequestForKeepAlive db visit s.store now fromPubkey trieRoots iAmRelay
        isSubscribed).1 }
  | .diffsExpired pubkey albPair keep => some { s with
      store := TrieEvent.handle db s.store (.diffsExpired pubkey albPair keep) }
  | .historyExpired pubkey albPair => some { s with
      store := TrieEvent.handle db s.store (.historyExpired pubkey albPair) }
  | .expiredDropped pubkey => some { s with
      store := TrieEvent.handle db s.store (.expiredDropped pubkey) }

/-! ### The claim and its condition -/

/-- The tries hold exactly the orders of the index, and every owner of an order has a state. -/
structure Coherent (s : IndexedNode H) : Prop where
  keys : ∀ pubkey albPair uuid, uuid ∈ s.store.pairContent db pubkey albPair ↔
    ∃ order, s.orderbook.orderSet.lookup uuid = some order ∧ order.pubkey = pubkey ∧
      order.albPair = albPair
  owners : ∀ uuid order, s.orderbook.orderSet.lookup uuid = some order →
    order.pubkey ∈ s.store.pubkeysState

/-- All batches were sent and applied. -/
def Quiescent (s : IndexedNode H) : Prop := s.outbox.queue = [] ∧ s.outbox.unsent = []

/-- A handler finds the index in order at each of its steps; all orders of the timed out public
keys are among the collected ones; a sent batch overtakes none that works on the same orders in
another way; and a batch is applied with the effect that its operations have in their order. -/
def InOrder (s : IndexedNode H) : NodeEvent H → Prop
  | .handler e => Meets (performStep it.uuids) StepOk s.orderbook (e.steps it s.orderbook)
  | .timeoutRemoved => ∀ timedOut, s.timedOut = some timedOut → ∀ pubkey ∈ timedOut.2, ∀ uuid,
      s.orderbook.owner uuid = some pubkey → uuid ∈ timedOut.1
  | .sent i => s.outbox.InTurn batchEffect i
  | .drained _ _ => ∀ batch ∈ s.outbox.queue.head?, RegroupSafe batch
  | _ => True

/-- What the tries become when all waiting batches are applied is the index. -/
structure Settled (s : IndexedNode H) : Prop where
  readable : s.store.Readable db
  settle : s.outbox.settle batchEffect (s.store.keys db) = s.orderbook.indexKeys

end IndexedNode

/-! ## One event -/

namespace OrderbookPubkeyState

variable {state : OrderbookPubkeyState H}

omit [DecidableEq H] in
theorem trieRoots_expireDiffs (albPair : AlbOrderedOrderbookPair) (keep : H → Bool)
    (state : OrderbookPubkeyState H) : (state.expireDiffs albPair keep).trieRoots = state.trieRoots := by
  unfold expireDiffs
  cases state.orderPairsTrieStateHistory.lookup albPair <;> rfl

omit [DecidableEq H] in
theorem trieRoots_expireHistory (albPair : AlbOrderedOrderbookPair)
    (state : OrderbookPubkeyState H) : (state.expireHistory albPair).trieRoots = state.trieRoots := by
  unfold expireHistory
  cases state.orderPairsTrieStateHistory.lookup albPair <;> rfl

end OrderbookPubkeyState

namespace TrieStore

variable {db : OrderTrieDb H} {store : TrieStore H} {pubkey : String} {now : ℕ}
  {state : OrderbookPubkeyState H}

/-- A state with the same roots leaves all tries as they are. -/
theorem setPubkeyState_sameRoots (now : ℕ) (h : store.Readable db)
    (hroots : ∀ pair, state.pairRoot db pair = (store.pubkeyStateMut pubkey now).pairRoot db pair) :
    (store.setPubkeyState pubkey state).Readable db ∧
      (store.setPubkeyState pubkey state).keys db = store.keys db := by
  have hstate : state.Readable db := by
    intro pair
    rw [hroots]
    exact h.pubkeyStateMut pair
  refine ⟨h.setPubkeyState hstate, ?_⟩
  ext ⟨name, pair, uuid⟩
  change uuid ∈ (store.setPubkeyState pubkey state).pairContent db name pair ↔
    uuid ∈ store.pairContent db name pair
  rw [pairContent_setPubkeyState]
  by_cases hname : name = pubkey
  · have hcontent : state.content db pair = (store.pubkeyStateMut pubkey now).content db pair := by
      rw [OrderbookPubkeyState.content, hroots, OrderbookPubkeyState.content]
    rw [if_pos hname, hcontent, content_pubkeyStateMut, hname]
  · rw [if_neg hname]

theorem modifyState_sameRoots (h : store.Readable db)
    {f : OrderbookPubkeyState H → OrderbookPubkeyState H}
    (hroots : ∀ state, (f state).trieRoots = state.trieRoots) :
    (store.modifyState pubkey f).Readable db ∧
      (store.modifyState pubkey f).keys db = store.keys db := by
  unfold modifyState
  cases hlookup : store.pubkeysState.lookup pubkey with
  | none => exact ⟨h, rfl⟩
  | some state =>
    have hstate : store.pubkeyStateMut pubkey 0 = state := by
      rw [pubkeyStateMut, hlookup, Option.getD_some]
    refine setPubkeyState_sameRoots 0 h fun pair => ?_
    rw [hstate, OrderbookPubkeyState.pairRoot, hroots, OrderbookPubkeyState.pairRoot]

theorem prepareSyncRequest_sameRoots (h : store.Readable db)
    (it : Iteration AlbOrderedOrderbookPair H) (trieRoots : HashMap AlbOrderedOrderbookPair H)
    (iAmRelay : Bool) (isSubscribed : String → Bool) :
    (prepareSyncRequestForKeepAlive db it store now pubkey trieRoots iAmRelay
      isSubscribed).1.Readable db ∧
    (prepareSyncRequestForKeepAlive db it store now pubkey trieRoots iAmRelay
      isSubscribed).1.keys db = store.keys db := by
  have hfold : ∀ (entries : List (AlbOrderedOrderbookPair × H))
      (acc : OrderbookPubkeyState H × HashMap AlbOrderedOrderbookPair H) pair,
      (entries.foldl (requestStalePair db iAmRelay isSubscribed) acc).1.pairRoot db pair =
        acc.1.pairRoot db pair := by
    intro entries
    induction entries with
    | nil => exact fun _ _ => rfl
    | cons entry entries ih =>
      intro acc pair
      rw [List.foldl_cons, ih, pairRoot_requestStalePair]
  exact setPubkeyState_sameRoots now h fun pair => hfold _ _ pair

end TrieStore

namespace IndexedNode

variable {db : OrderTrieDb H} {it : IngestIteration} {s s' : IndexedNode H}

theorem Settled.release (h : s.Settled db) {phase : Orderbook × List TrieOp}
    (hphase : phase.1.indexKeys = (batchEffect phase.2).apply s.orderbook.indexKeys) :
    (s.release phase).Settled db := by
  refine ⟨h.readable, ?_⟩
  unfold IndexedNode.release
  dsimp only
  by_cases hempty : phase.2 = []
  · rw [if_pos hempty, hphase, hempty, h.settle]
    rfl
  · rw [if_neg hempty, Outbox.settle_push, hphase, h.settle]

theorem Settled.withStore (h : s.Settled db) {store : TrieStore H}
    (hstore : store.Readable db ∧ store.keys db = s.store.keys db) :
    ({ s with store := store } : IndexedNode H).Settled db := by
  refine ⟨hstore.1, ?_⟩
  dsimp only
  rw [hstore.2, h.settle]

theorem indexKeys_phaseOne {orderbook : Orderbook} {e : IndexEvent}
    (hok : Meets (performStep it.uuids) StepOk orderbook (e.steps it orderbook)) :
    (e.phaseOne it orderbook).1.indexKeys =
      (batchEffect (e.phaseOne it orderbook).2).apply orderbook.indexKeys := by
  obtain ⟨cancelled, keys, heq⟩ := e.phaseOne_eq it orderbook
  rw [heq]
  exact indexKeys_performAll hok

theorem indexKeys_removeTimedOut {orderbook : Orderbook} {timedOut : List Uuid × List String}
    (hall : ∀ pubkey ∈ timedOut.2, ∀ uuid, orderbook.owner uuid = some pubkey →
      uuid ∈ timedOut.1) :
    (removeTimedOut orderbook timedOut).1.indexKeys =
      (batchEffect (removeTimedOut orderbook timedOut).2).apply orderbook.indexKeys := by
  have hsteps : removeTimedOut orderbook timedOut = orderbook.performAll sortedSetIteration
      ((timedOut.1.map fun uuid => .op (.drop uuid)) ++ timedOut.2.map .forget) := by
    have hmap : (timedOut.1.map fun uuid => IndexStep.op (.drop uuid)) =
        (timedOut.1.map IndexOp.drop).map .op := by
      rw [List.map_map]
      rfl
    rw [performAll_append, hmap, performAll_map_op, performAll_forget, removeTimedOut,
      removeTimedOutUuids_eq]
  rw [hsteps]
  refine indexKeys_performAll (meets_drops (meets_forget fun pubkey hmem uuid howner => ?_))
  have hbefore := owner_of_owner_drops howner
  rw [owner, lookup_execAll_drops, if_pos (hall pubkey hmem uuid hbefore)] at howner
  cases howner

/-- An event in order keeps the tries behind the index by the waiting batches only. -/
theorem Settled.step (hfresh : db.FreshDefault) (h : s.Settled db) {e : NodeEvent H}
    (horder : s.InOrder it e) (hstep : s.step db it e = some s') : s'.Settled db := by
  cases e with
  | handler e =>
    have hhandler : s' = s.release (e.phaseOne it s.orderbook) := by
      cases e with
      | timedOutUuids uuids => cases hstep
      | _ => exact (Option.some.inj hstep).symm
    rw [hhandler]
    exact h.release (indexKeys_phaseOne horder)
  | timeoutCollected env =>
    obtain rfl := Option.some.inj hstep
    exact ⟨h.readable, h.settle⟩
  | timeoutRemoved =>
    obtain ⟨timedOut, hcollected, rfl⟩ := Option.map_eq_some_iff.mp hstep
    have hnode : ({ s with timedOut := none } : IndexedNode H).Settled db := ⟨h.readable, h.settle⟩
    exact hnode.release (indexKeys_removeTimedOut (horder timedOut hcollected))
  | sent i =>
    obtain ⟨outbox, hsend, rfl⟩ := Option.map_eq_some_iff.mp hstep
    exact ⟨h.readable, (Outbox.settle_send horder hsend).trans h.settle⟩
  | drained apply now =>
    simp only [IndexedNode.step] at hstep
    cases hqueue : s.outbox.queue with
    | nil =>
      rw [hqueue] at hstep
      cases hstep
    | cons batch queue =>
      rw [hqueue] at hstep
      obtain rfl := Option.some.inj hstep
      have hsafe : RegroupSafe batch := horder batch (by rw [hqueue]; rfl)
      obtain ⟨hreadable, hkeys⟩ := s.store.applyOps_spec hfresh h.readable apply now batch
      refine ⟨hreadable, ?_⟩
      dsimp only
      rw [hkeys, ← hsafe, Outbox.settle_drain hqueue]
      exact h.settle
  | keepAlive visit now fromPubkey trieRoots iAmRelay isSubscribed =>
    obtain rfl := Option.some.inj hstep
    exact h.withStore (TrieStore.prepareSyncRequest_sameRoots h.readable visit trieRoots iAmRelay
      isSubscribed)
  | diffsExpired pubkey albPair keep =>
    obtain rfl := Option.some.inj hstep
    exact h.withStore (TrieStore.modifyState_sameRoots h.readable
      (OrderbookPubkeyState.trieRoots_expireDiffs albPair keep))
  | historyExpired pubkey albPair =>
    obtain rfl := Option.some.inj hstep
    exact h.withStore (TrieStore.modifyState_sameRoots h.readable
      (OrderbookPubkeyState.trieRoots_expireHistory albPair))
  | expiredDropped pubkey =>
    obtain rfl := Option.some.inj hstep
    exact h.withStore (TrieStore.modifyState_sameRoots h.readable fun _ => rfl)

/-! ## Runs -/

theorem settled_init : ({} : IndexedNode H).Settled db := by
  constructor
  · intro pubkey state hlookup
    cases hlookup
  · ext ⟨name, pair, uuid⟩
    simp [Outbox.settle, deliver, TrieStore.keys, TrieStore.pairContent, mem_indexKeys,
      Finmap.notMem_empty]

theorem Settled.coherent (h : s.Settled db) (hquiescent : s.Quiescent) : s.Coherent db := by
  have hsettle := h.settle
  rw [Outbox.settle_empty hquiescent.1 hquiescent.2] at hsettle
  have hkeys : ∀ pubkey albPair uuid, uuid ∈ s.store.pairContent db pubkey albPair ↔
      ∃ order, s.orderbook.orderSet.lookup uuid = some order ∧ order.pubkey = pubkey ∧
        order.albPair = albPair := by
    intro pubkey albPair uuid
    exact Set.ext_iff.mp hsettle (pubkey, albPair, uuid)
  refine ⟨hkeys, fun uuid order hlookup => ?_⟩
  by_contra hnone
  have hmem := (hkeys order.pubkey order.albPair uuid).mpr ⟨order, hlookup, rfl, rfl⟩
  rw [TrieStore.pairContent, Finmap.lookup_eq_none.mpr hnone] at hmem
  exact Finmap.notMem_empty hmem

/-- In every run whose events are in order, the tries are coherent with the index whenever all
batches were sent and applied. -/
theorem coherent_of_run (hfresh : db.FreshDefault) {es : List (NodeEvent H)}
    (hrun : run (step db it) {} es = some s) (horder : Meets (step db it) (InOrder it) {} es)
    (hquiescent : s.Quiescent) : s.Coherent db := by
  have hsettled : s.Settled db := by
    refine invariant_run (I := Settled db) ?_ settled_init horder hrun
    intro s e s' hI hG hstep
    exact hI.step hfresh hG hstep
  exact hsettled.coherent hquiescent

/-! ### Runs over three batches -/

/-- Groups and public keys in increasing order. -/
def sortedApply : ApplyIteration where
  groups :=
    letI : LinearOrder GroupKey := LinearOrder.lift' toLex toLex.injective
    sortedIteration
  pubkeys := sortedSetIteration

/-- An order of alice is created and applied, then cancelled while another one is created; the
batches are sent in the order of the lock. -/
def testRun : List (NodeEvent (Option (HashMap Uuid Value))) :=
  [.handler (.insertOrUpdateOrder (testItem "alice" "KMD" "BTC" 1 1)), .sent 0,
    .drained sortedApply 0, .handler (.deleteMyOrder 1 none),
    .handler (.insertOrUpdateOrder (testItem "alice" "KMD" "BTC" 1 2)), .sent 0, .sent 0,
    .drained sortedApply 0, .drained sortedApply 0]

theorem coherent_testRun : ∃ s, run (step contentDb sortedIngest) {} testRun = some s ∧
    s.Quiescent ∧ s.Coherent contentDb := by
  have hfresh : contentDb.FreshDefault := fun content h => by cases h
  have hsend : ∀ {s : IndexedNode (Option (HashMap Uuid Value))} {es},
      (∀ t, s.step contentDb sortedIngest (.sent 0) = some t →
        Meets (step contentDb sortedIngest) (InOrder sortedIngest) t es) →
      Meets (step contentDb sortedIngest) (InOrder sortedIngest) s (.sent 0 :: es) := by
    intro s es hrest
    refine ⟨?_, hrest⟩
    intro batch _ earlier hearlier
    cases hearlier
  have horder : Meets (step contentDb sortedIngest) (InOrder sortedIngest) {} testRun := by
    refine ⟨⟨fun stored hlookup => ?_, fun _ _ => trivial⟩, fun s hs => ?_⟩
    · cases hlookup
    obtain rfl := Option.some.inj hs
    refine hsend fun s hs => ?_
    obtain rfl := Option.some.inj hs
    refine ⟨fun batch hbatch => ?_, fun s hs => ?_⟩
    · obtain rfl := Option.some.inj hbatch
      exact regroupSafe_singleton _
    obtain rfl := Option.some.inj hs
    refine ⟨⟨trivial, fun _ _ => trivial⟩, fun s hs => ?_⟩
    obtain rfl := Option.some.inj hs
    refine ⟨⟨fun stored hlookup => ?_, fun _ _ => trivial⟩, fun s hs => ?_⟩
    · cases hlookup
    obtain rfl := Option.some.inj hs
    refine hsend fun s hs => ?_
    obtain rfl := Option.some.inj hs
    refine hsend fun s hs => ?_
    obtain rfl := Option.some.inj hs
    refine ⟨fun batch hbatch => ?_, fun s hs => ?_⟩
    · obtain rfl := Option.some.inj hbatch
      exact regroupSafe_singleton _
    obtain rfl := Option.some.inj hs
    refine ⟨fun batch hbatch => ?_, fun _ _ => trivial⟩
    obtain rfl := Option.some.inj hbatch
    exact regroupSafe_singleton _
  exact ⟨_, rfl, ⟨rfl, rfl⟩, coherent_of_run hfresh rfl horder ⟨rfl, rfl⟩⟩

/-- The cancellation of an order is sent before its creation; and an order with the uuid of an
order of another public key takes its place in the index only. -/
theorem not_coherent_overtaken_or_taken :
    (¬∀ s, run (step contentDb sortedIngest) {}
      [.handler (.insertOrUpdateMyOrder (testItem "alice" "KMD" "BTC" 1 1) none),
        .handler (.deleteMyOrder 1 none), .sent 1, .sent 0, .drained sortedApply 0,
        .drained sortedApply 0] = some s → s.Quiescent → s.Coherent contentDb) ∧
    ¬∀ s, run (step contentDb sortedIngest) {}
      [.handler (.insertOrUpdateOrder (testItem "alice" "KMD" "BTC" 1 1)), .sent 0,
        .drained sortedApply 0, .handler (.insertOrUpdateOrder (testItem "bob" "KMD" "BTC" 1 1)),
        .sent 0, .drained sortedApply 0] = some s → s.Quiescent → s.Coherent contentDb := by
  constructor
  · intro h
    have hkeys := (h _ rfl ⟨rfl, rfl⟩).keys "alice" "BTC:KMD" 1
    obtain ⟨order, hlookup, _⟩ := hkeys.mp (by decide +kernel)
    exact absurd (Option.isSome_iff_exists.mpr ⟨order, hlookup⟩) (by decide +kernel)
  · intro h
    have hkeys := (h _ rfl ⟨rfl, rfl⟩).keys "alice" "BTC:KMD" 1
    obtain ⟨order, hlookup, hpubkey, _⟩ := hkeys.mp (by decide +kernel)
    obtain rfl := Option.some.inj hlookup
    exact absurd hpubkey (by decide)

end IndexedNode

end DeXFG.Ordermatch
