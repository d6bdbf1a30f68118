import DeXFG.Ordermatch.History

/-!
# Synchronization of the orders of a public key

A keep-alive announces the trie roots of a maker. The receiver asks for every
pair whose root differs from its own, and names the announced root in the
request; the responder answers with the delta that leads from this root to its
current one, or with all orders of the pair.
-/
namespace DeXFG.Ordermatch
open DeXFG.Library.FiniteMap DeXFG.Library.SetMap DeXFG.Library.KeyedWrites
open DeXFG.Library.LinkedMap DeXFG.Library.Serde NewProtocol

variable {H : Type} [DecidableEq H] (db : OrderTrieDb H)

/-! ## The request -/

/-- `OrdermatchRequest::SyncPubkeyOrderbookState`. -/
structure SyncPubkeyOrderbookStateReq (H : Type) where
  pubkey : String
  trieRoots : HashMap AlbOrderedOrderbookPair H

def orderbookTopicFromOrderedPair (pair : AlbOrderedOrderbookPair) : String := "orbk/" ++ pair

/-- One pair of the keep-alive: the root asked for is the announced one. -/
def requestStalePair (iAmRelay : Bool) (isSubscribed : String → Bool)
    (acc : OrderbookPubkeyState H × HashMap AlbOrderedOrderbookPair H)
    (entry : AlbOrderedOrderbookPair × H) :
    OrderbookPubkeyState H × HashMap AlbOrderedOrderbookPair H :=
  if !isSubscribed (orderbookTopicFromOrderedPair entry.1) && !iAmRelay then acc
  else if entry.2 = db.defaultRoot ∨ entry.2 = db.hashedNullNode then acc
  else
    let actualTrieRoot := acc.1.pairRoot db entry.1
    let state := acc.1.setPairRoot entry.1 actualTrieRoot
    if actualTrieRoot ≠ entry.2 then (state, acc.2.insert entry.1 entry.2) else (state, acc.2)

def prepareSyncRequestForKeepAlive (it : Iteration AlbOrderedOrderbookPair H)
    (store : TrieStore H) (now : ℕ) (fromPubkey : String)
    (trieRoots : HashMap AlbOrderedOrderbookPair H) (iAmRelay : Bool)
    (isSubscribed : String → Bool) : TrieStore H × Option (SyncPubkeyOrderbookStateReq H) :=
  let state := { store.pubkeyStateMut fromPubkey now with lastKeepAlive := now }
  let requested :=
    (it.toList trieRoots).foldl (requestStalePair db iAmRelay isSubscribed) (state, ∅)
  (store.setPubkeyState fromPubkey requested.1,
    if requested.2 = ∅ then none else some ⟨fromPubkey, requested.2⟩)

/-- What the receiver of a keep-alive checks before it asks for a pair. -/
structure Asked (iAmRelay : Bool) (isSubscribed : String → Bool) (actualTrieRoot : H)
    (entry : AlbOrderedOrderbookPair × H) : Prop where
  listened : isSubscribed (orderbookTopicFromOrderedPair entry.1) = true ∨ iAmRelay = true
  hasOrders : ¬(entry.2 = db.defaultRoot ∨ entry.2 = db.hashedNullNode)
  stale : actualTrieRoot ≠ entry.2

instance (iAmRelay : Bool) (isSubscribed : String → Bool) (actualTrieRoot : H)
    (entry : AlbOrderedOrderbookPair × H) :
    Decidable (Asked db iAmRelay isSubscribed actualTrieRoot entry) :=
  decidable_of_iff ((isSubscribed (orderbookTopicFromOrderedPair entry.1) = true ∨ iAmRelay = true) ∧
    ¬(entry.2 = db.defaultRoot ∨ entry.2 = db.hashedNullNode) ∧ actualTrieRoot ≠ entry.2)
    ⟨fun h => ⟨h.1, h.2.1, h.2.2⟩, fun h => ⟨h.1, h.2, h.3⟩⟩

section Request

variable {db} {iAmRelay : Bool} {isSubscribed : String → Bool}
  {acc : OrderbookPubkeyState H × HashMap AlbOrderedOrderbookPair H}
  {entry : AlbOrderedOrderbookPair × H}

/-- Reading the root of a pair may create its entry, but changes no root. -/
theorem pairRoot_requestStalePair (pair : AlbOrderedOrderbookPair) :
    (requestStalePair db iAmRelay isSubscribed acc entry).1.pairRoot db pair =
      acc.1.pairRoot db pair := by
  have hset : (acc.1.setPairRoot entry.1 (acc.1.pairRoot db entry.1)).pairRoot db pair =
      acc.1.pairRoot db pair := by
    unfold OrderbookPubkeyState.pairRoot OrderbookPubkeyState.setPairRoot
    by_cases hpair : pair = entry.1
    · rw [hpair, Finmap.lookup_insert, Option.getD_some]
    · rw [Finmap.lookup_insert_of_ne _ hpair]
  simp only [requestStalePair]
  split_ifs
  · rfl
  · rfl
  · exact hset
  · exact hset

theorem requestStalePair_snd :
    (requestStalePair db iAmRelay isSubscribed acc entry).2 =
      if Asked db iAmRelay isSubscribed (acc.1.pairRoot db entry.1) entry then
        acc.2.insert entry.1 entry.2
      else acc.2 := by
  unfold requestStalePair
  by_cases hlistened : isSubscribed (orderbookTopicFromOrderedPair entry.1) = true ∨ iAmRelay = true
  · have hdeaf : ¬(!isSubscribed (orderbookTopicFromOrderedPair entry.1) && !iAmRelay) = true := by
      rcases hlistened with h | h <;> simp [h]
    rw [if_neg hdeaf]
    by_cases hempty : entry.2 = db.defaultRoot ∨ entry.2 = db.hashedNullNode
    · rw [if_pos hempty, if_neg fun hasked => hasked.hasOrders hempty]
    · rw [if_neg hempty]
      dsimp only
      by_cases hstale : acc.1.pairRoot db entry.1 ≠ entry.2
      · have hasked : Asked db iAmRelay isSubscribed (acc.1.pairRoot db entry.1) entry :=
          ⟨hlistened, hempty, hstale⟩
        rw [if_pos hstale, if_pos hasked]
      · have hasked : ¬Asked db iAmRelay isSubscribed (acc.1.pairRoot db entry.1) entry :=
          fun hasked => hstale hasked.stale
        rw [if_neg hstale, if_neg hasked]
  · have hdeaf : (!isSubscribed (orderbookTopicFromOrderedPair entry.1) && !iAmRelay) = true := by
      simpa using hlistened
    rw [if_pos hdeaf, if_neg fun hasked => hlistened hasked.listened]

theorem foldl_requestStalePair (entries : List (AlbOrderedOrderbookPair × H)) :
    (entries.foldl (requestStalePair db iAmRelay isSubscribed) acc).2 =
      insertAll acc.2 (entries.filter fun entry =>
        Asked db iAmRelay isSubscribed (acc.1.pairRoot db entry.1) entry) := by
  induction entries generalizing acc with
  | nil => rfl
  | cons entry entries ih =>
    rw [List.foldl_cons, ih, requestStalePair_snd]
    simp only [pairRoot_requestStalePair]
    by_cases hasked : Asked db iAmRelay isSubscribed (acc.1.pairRoot db entry.1) entry
    · rw [if_pos hasked, List.filter_cons_of_pos (by simpa using hasked)]
      rfl
    · rw [if_neg hasked, List.filter_cons_of_neg (by simpa using hasked)]

/-- A request asks for the stale pairs and names the announced roots. -/
theorem prepareSyncRequest_eq_some {it : Iteration AlbOrderedOrderbookPair H}
    {store : TrieStore H} {now : ℕ} {fromPubkey : String}
    {trieRoots : HashMap AlbOrderedOrderbookPair H} {req : SyncPubkeyOrderbookStateReq H}
    (hreq : (prepareSyncRequestForKeepAlive db it store now fromPubkey trieRoots iAmRelay
      isSubscribed).2 = some req) :
    req.pubkey = fromPubkey ∧ ∀ pair root, req.trieRoots.lookup pair = some root ↔
      trieRoots.lookup pair = some root ∧ Asked db iAmRelay isSubscribed
        ((store.pubkeyStateMut fromPubkey now).pairRoot db pair) (pair, root) := by
  unfold prepareSyncRequestForKeepAlive at hreq
  dsimp only at hreq
  split_ifs at hreq
  obtain rfl := Option.some.inj hreq
  refine ⟨rfl, fun pair root => ?_⟩
  dsimp only
  rw [foldl_requestStalePair, lookup_insertAll_empty, List.mem_filter, it.mem_toList,
    decide_eq_true_eq]
  · rfl
  · exact (it.nodup_toList trieRoots).sublist (List.filter_sublist.map _)

end Request

/-! ## The response -/

inductive SyncError where
  /-- "No pair trie root for {pair}" -/
  | noPairTrieRoot (pair : AlbOrderedOrderbookPair)
  | trieDiffHistory (e : TrieDiffHistoryError)

/-- The answer may not end, fail, or be a value. -/
abbrev SyncM := ExceptT SyncError Option

/-- The iteration orders of the responder. -/
structure SyncIteration (H : Type) where
  roots : Iteration AlbOrderedOrderbookPair H
  pairs : Iteration AlbOrderedOrderbookPair (DeltaOrFullTrie Uuid OrderbookItem)
  delta : Iteration Uuid (Option OrderbookItem)

namespace DeltaOrFullTrie

variable {K V W : Type}

def mapTo (f : V → W) : DeltaOrFullTrie K V → DeltaOrFullTrie K W
  | delta d => delta (mapValues (Option.map f) d)
  | fullTrie trie => fullTrie (trie.map fun entry => (entry.1, f entry.2))

/-- The entries that `map_to` passes to `on_each`. -/
def visit [DecidableEq K] (it : Iteration K (Option V)) :
    DeltaOrFullTrie K V → List (K × Option V)
  | delta d => it.toList d
  | fullTrie trie => trie.map fun entry => (entry.1, some entry.2)

end DeltaOrFullTrie

/-- The closure of `process_sync_pubkey_orderbook_state` that collects the infos. -/
def OrderInfos.note (infos : OrderInfos) (entry : Uuid × Option OrderbookItem) : OrderInfos :=
  match entry.2 with
  | some o =>
    { protocolInfos := infos.protocolInfos.insert o.uuid ⟨o.baseProtocolInfo, o.relProtocolInfo⟩
      confInfos := match o.confSettings with
        | some info => infos.confInfos.insert o.uuid info
        | none => infos.confInfos }
  | none =>
    { protocolInfos := infos.protocolInfos.erase entry.1
      confInfos := infos.confInfos.erase entry.1 }

/-- The diff of one pair from the root named in the request. -/
def pairOrdersDiff (orderbook : Orderbook) (state : OrderbookPubkeyState H)
    (entry : AlbOrderedOrderbookPair × H) : SyncM (DeltaOrFullTrie Uuid OrderbookItem) :=
  match state.trieRoots.lookup entry.1 with
  | none => throw (.noPairTrieRoot entry.1)
  | some actualPairRoot =>
    let getter := fun uuid => orderbook.orderSet.lookup uuid
    let deltaResult :=
      match TimedMap.get state.orderPairsTrieStateHistory entry.1 with
      | some history => TrieDiffHistory.fromHistory db history (history.keys.card + 1) entry.2
          actualPairRoot getter
      | none => some ((TrieDiffHistory.getFullTrie db actualPairRoot getter).map .fullTrie)
    ExceptT.mk (deltaResult.map (Except.mapError .trieDiffHistory))

/-- `none` inside is the answer that the public key is unknown. -/
def processSyncPubkeyOrderbookState (it : SyncIteration H) (orderbook : Orderbook)
    (store : TrieStore H) (pubkey : String) (trieRoots : HashMap AlbOrderedOrderbookPair H) :
    SyncM (Option SyncPubkeyOrderbookStateRes) :=
  match store.pubkeysState.lookup pubkey with
  | none => pure none
  | some state => do
    let diffs ← (it.roots.toList trieRoots).mapM fun entry => do
      let diff ← pairOrdersDiff db orderbook state entry
      pure (entry.1, diff)
    let diffs := insertAll ∅ diffs
    let infos := (it.pairs.toList diffs).foldl
      (fun infos entry => (entry.2.visit it.delta).foldl OrderInfos.note infos) ⟨∅, ∅⟩
    pure (some ⟨mapValues (DeltaOrFullTrie.mapTo OrderbookItem.toP2p) diffs, infos⟩)

/-! ## The exchange -/

/-- The part of an order entry that the public key owns in the pair, as peers exchange it. -/
def ownEntry (pubkey : String) (pair : AlbOrderedOrderbookPair) (order : Option OrderbookItem) :
    Option OrderbookP2PItem :=
  (order.filter fun order => order.pubkey = pubkey ∧ order.albPair = pair).map OrderbookItem.toP2p

/-- The orders of a public key for a pair, by uuid. -/
def Orderbook.pubkeyOrders (orderbook : Orderbook) (pubkey : String)
    (pair : AlbOrderedOrderbookPair) (uuid : Uuid) : Option OrderbookP2PItem :=
  ownEntry pubkey pair (orderbook.orderSet.lookup uuid)

/-- The orderbook and the trie store of a node. -/
structure OrderbookNode (H : Type) where
  orderbook : Orderbook
  store : TrieStore H

/-- What a keep-alive is handled with. -/
structure KeepAliveEnv (H : Type) where
  ingest : IngestIteration
  announced : Iteration AlbOrderedOrderbookPair H
  sync : SyncIteration H
  now : ℕ
  iAmRelay : Bool
  isSubscribed : String → Bool

/-- A keep-alive of `pubkey` at the requester, with the responder's answer to the request: the
response and the requester afterwards. `none` when nothing is requested or no answer arrives. -/
def keepAliveExchange (env : KeepAliveEnv H) (requester responder : OrderbookNode H)
    (pubkey : String) (trieRoots : HashMap AlbOrderedOrderbookPair H) :
    Option (SyncPubkeyOrderbookStateRes × OrderbookNode H) :=
  let prepared := prepareSyncRequestForKeepAlive db env.announced requester.store env.now pubkey
    trieRoots env.iAmRelay env.isSubscribed
  match prepared.2 with
  | none => none
  | some req =>
    match (processSyncPubkeyOrderbookState db env.sync responder.orderbook responder.store
        req.pubkey req.trieRoots).run with
    | some (.ok (some response)) => some (response,
        ⟨(processSyncResponse env.ingest requester.orderbook pubkey response).1, prepared.1⟩)
    | _ => none

end DeXFG.Ordermatch
