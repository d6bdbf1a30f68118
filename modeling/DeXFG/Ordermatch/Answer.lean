import DeXFG.Library.KeyedLists
import DeXFG.Ordermatch.Placement
import DeXFG.Ordermatch.Sync

/-!
# What a sync response says

The answer for a pair is a delta exactly when the recorded diffs lead from the
requested root to the current one; it names the uuids of these diffs. A
responder whose roots and histories describe its orders answers every uuid it
names with its own order.
-/
namespace DeXFG.Ordermatch
open DeXFG.Library.FiniteMap DeXFG.Library.SetMap DeXFG.Library.KeyedWrites
open DeXFG.Library.LinkedMap DeXFG.Library.KeyedLists DeXFG.Library.Serde NewProtocol Orderbook

/-! ## The answer of the history -/

namespace TrieDiffHistory

variable {H Key Value B : Type} [DecidableEq H]

/-- The recorded diffs lead from the one root to the other and no further. -/
structure LeadsTo (history : TrieDiffHistory H Key Value) (fromHash actual : H) : Prop where
  recorded : history.lookup fromHash ≠ none
  path : Relation.ReflTransGen (Link TrieDiff.nextRoot history) fromHash actual
  ends : history.lookup actual = none

/-- A diff recorded on the way from the root names the key. -/
def Names (history : TrieDiffHistory H Key Value) (fromHash : H) (key : Key) : Prop :=
  ∃ root diff, Relation.ReflTransGen (Link TrieDiff.nextRoot history) fromHash root ∧
    history.lookup root = some diff ∧ key ∈ diff.delta.map Prod.fst

variable {history : TrieDiffHistory H Key Value} {fuel : ℕ} {fromHash actual : H}

theorem not_leadsTo_empty : ¬LeadsTo (∅ : TrieDiffHistory H Key Value) fromHash actual := by
  intro h
  exact h.recorded (Finmap.lookup_empty _)

variable [DecidableEq Key]

theorem lookup_insertAll_ne_none {total : HashMap Key (Option Value)} {key : Key}
    (delta : List (Key × Option Value)) :
    (insertAll total delta).lookup key ≠ none ↔
      total.lookup key ≠ none ∨ key ∈ delta.map Prod.fst := by
  have hwritten : lastWrite delta key = none ↔ key ∉ delta.map Prod.fst := by
    rw [lastWrite_eq_none]
    simp only [List.mem_map, not_exists, not_and]
  rw [lookup_insertAll, ne_eq, Option.or_eq_none_iff, hwritten]
  tauto

/-- The loop of `from_history` collects the keys that the diffs on the way name. -/
theorem collectDeltas_names {delta : TrieDiff H Key Value}
    {last : TrieDiff H Key Value × HashMap Key (Option Value)}
    (hdelta : history.lookup fromHash = some delta)
    (hcollect : collectDeltas history fuel delta = some last) (key : Key) :
    last.2.lookup key ≠ none ↔ history.Names fromHash key := by
  have hrecords := walk_records_iff (Q := fun total : HashMap Key (Option Value) =>
      total.lookup key ≠ none) (R := fun diff => key ∈ diff.delta.map Prod.fst)
    (fun total diff => lookup_insertAll_ne_none diff.delta) hcollect
  rw [hrecords, lookup_insertAll_ne_none, Finmap.lookup_empty]
  constructor
  · rintro ((hnone | hmem) | ⟨root, diff, hpath, hdiff, hmem⟩)
    · exact absurd rfl hnone
    · exact ⟨fromHash, delta, .refl, hdelta, hmem⟩
    · exact ⟨root, diff, hpath.head ⟨delta, hdelta, rfl⟩, hdiff, hmem⟩
  · rintro ⟨root, diff, hpath, hdiff, hmem⟩
    rcases hpath.cases_head with rfl | ⟨_, ⟨first, hfirst, rfl⟩, hrest⟩
    · rw [hdelta, Option.some.injEq] at hdiff
      exact Or.inl (Or.inr (hdiff ▸ hmem))
    · rw [hdelta, Option.some.injEq] at hfirst
      exact Or.inr ⟨root, diff, hfirst ▸ hrest, hdiff, hmem⟩

variable [LinearOrder Key] {db : TrieDb H Key B} {getter : Key → Option Value}

/-- A delta is answered exactly when the recorded diffs lead to the current root. -/
theorem fromHistory_eq_ok {answer : DeltaOrFullTrie Key Value}
    (h : fromHistory db history fuel fromHash actual getter = some (.ok answer)) :
    (history.LeadsTo fromHash actual ∧ ∃ total, answer = .delta total ∧
        ∀ key, total.lookup key ≠ none ↔ history.Names fromHash key) ∨
      (¬history.LeadsTo fromHash actual ∧ ∃ trie, answer = .fullTrie trie ∧
        getFullTrie db actual getter = .ok trie) := by
  have hfull : ∀ {r : Except TrieDiffHistoryError (List (Key × Value))},
      r.map DeltaOrFullTrie.fullTrie = .ok answer → ∃ trie, answer = .fullTrie trie ∧ r = .ok trie := by
    rintro (err | trie) heq
    · cases heq
    · exact ⟨trie, (Except.ok.inj heq).symm, rfl⟩
  unfold fromHistory at h
  cases hlookup : history.lookup fromHash with
  | none =>
    rw [hlookup] at h
    exact Or.inr ⟨fun hleads => hleads.recorded hlookup, hfull (Option.some.inj h)⟩
  | some delta =>
    rw [hlookup] at h
    obtain ⟨last, hcollect, heq⟩ := Option.map_eq_some_iff.mp h
    obtain ⟨hpath, hends⟩ := walk_end hcollect
    have hstart : Relation.ReflTransGen (Link TrieDiff.nextRoot history) fromHash last.1.nextRoot :=
      hpath.head ⟨delta, hlookup, rfl⟩
    by_cases hroot : last.1.nextRoot = actual
    · rw [if_pos hroot] at heq
      refine Or.inl ⟨⟨?_, hroot ▸ hstart, hroot ▸ hends⟩, last.2, (Except.ok.inj heq).symm,
        collectDeltas_names hlookup hcollect⟩
      rw [hlookup]
      exact Option.some_ne_none delta
    · rw [if_neg hroot] at heq
      refine Or.inr ⟨fun hleads => ?_, hfull heq⟩
      exact hroot (end_unique hstart hleads.path hends hleads.ends)

omit [DecidableEq H] in
/-- A full trie has the keys of the stored content and the orders of the getter. -/
theorem getFullTrie_eq_ok {trie : List (Key × Value)}
    (h : getFullTrie db actual getter = .ok trie) :
    ∃ content, db.root content = actual ∧ (trie.map Prod.fst).Nodup ∧
      (∀ key val, (key, val) ∈ trie → getter key = some val) ∧
        ∀ key, key ∈ trie.map Prod.fst ↔ content.lookup key ≠ none := by
  unfold getFullTrie at h
  cases hread : db.read actual with
  | none =>
    rw [hread] at h
    cases h
  | some content =>
    rw [hread] at h
    have hkeyed := Keyed.of_mapM_except (R := fun key _ val => getter key = some val) ?_ h
    · refine ⟨content, (db.read_eq_some _ _).mp hread, ?_, ?_, ?_⟩
      · rw [hkeyed.map_fst]
        exact sortedIteration.nodup_toList content
      · intro key val hmem
        obtain ⟨_, _, hgetter⟩ := hkeyed.exists_left hmem
        exact hgetter
      · intro key
        rw [hkeyed.map_fst, Option.ne_none_iff_exists']
        simp only [List.mem_map, Prod.exists, exists_and_right, exists_eq_right,
          sortedIteration.mem_toList]
    · rintro ⟨key, bytes⟩ ⟨key', val⟩ hentry
      cases hgetter : getter key with
      | none => simp [hgetter] at hentry
      | some val' =>
        simp only [hgetter, Except.ok.injEq, Prod.mk.injEq] at hentry
        exact ⟨hentry.1.symm, congrArg some hentry.2⟩

end TrieDiffHistory

/-! ## A responder that tells the truth -/

variable {H : Type} [DecidableEq H] {db : OrderTrieDb H}

namespace OrderbookItem

theorem toP2p_eq_of_trieStateBytes_eq {o o' : OrderbookItem}
    (h : o.trieStateBytes = o'.trieStateBytes) : o.toP2p = o'.toP2p := by
  simp only [trieStateBytes, Value.array.injEq, List.cons.injEq, and_true,
    (Codec.ser_injective _).eq_iff] at h
  simp only [toP2p, OrderbookP2PItem.mk.injEq]
  exact h

end OrderbookItem

namespace OrderbookPubkeyState

variable (state : OrderbookPubkeyState H) (pair : AlbOrderedOrderbookPair)

/-- The diffs of a pair, unless they have expired. -/
def pairHistory : TrieOrderHistory H :=
  (TimedMap.get state.orderPairsTrieStateHistory pair).getD ∅

variable {state pair}

theorem SoundHistories.pairHistory (h : state.SoundHistories db) :
    TrieDiffHistory.Sound db OrderbookItem.trieStateBytes (state.pairHistory pair) := by
  unfold OrderbookPubkeyState.pairHistory
  cases hget : TimedMap.get state.orderPairsTrieStateHistory pair with
  | none => exact TrieDiffHistory.sound_empty
  | some history =>
    obtain ⟨entry, hentry, rfl⟩ := Option.map_eq_some_iff.mp hget
    exact h pair entry (Option.filter_eq_some_iff.mp hentry).1

end OrderbookPubkeyState

/-- The order of the public key for the pair under a uuid. -/
def Orderbook.ownOrder (orderbook : Orderbook) (pubkey : String) (pair : AlbOrderedOrderbookPair)
    (uuid : Uuid) : Option OrderbookItem :=
  (orderbook.orderSet.lookup uuid).filter fun order => order.pubkey = pubkey ∧ order.albPair = pair

theorem Orderbook.pubkeyOrders_eq (orderbook : Orderbook) (pubkey : String)
    (pair : AlbOrderedOrderbookPair) (uuid : Uuid) :
    orderbook.pubkeyOrders pubkey pair uuid =
      (orderbook.ownOrder pubkey pair uuid).map OrderbookItem.toP2p := rfl

/-- The root recorded for the pair is the root of the orders of the public key. -/
def RootDescribes (db : OrderTrieDb H) (orderbook : Orderbook) (state : OrderbookPubkeyState H)
    (pubkey : String) (pair : AlbOrderedOrderbookPair) : Prop :=
  ∃ content, state.trieRoots.lookup pair = some (db.root content) ∧
    ∀ uuid, content.lookup uuid =
      (orderbook.ownOrder pubkey pair uuid).map OrderbookItem.trieStateBytes

/-- The diffs lead from the requested root to the current one. -/
def AnswersDelta (state : OrderbookPubkeyState H) (pair : AlbOrderedOrderbookPair) (root : H) :
    Prop :=
  ∃ actual, state.trieRoots.lookup pair = some actual ∧
    (state.pairHistory pair).LeadsTo root actual

/-- A truthful diff of a pair. -/
def TellsTruth (orderbook : Orderbook) (state : OrderbookPubkeyState H) (pubkey : String)
    (pair : AlbOrderedOrderbookPair) (root : H) : DeltaOrFullTrie Uuid OrderbookP2PItem → Prop
  | .delta delta => AnswersDelta state pair root ∧
      (∀ uuid, delta.lookup uuid ≠ none ↔ (state.pairHistory pair).Names root uuid) ∧
      ∀ uuid order, delta.lookup uuid = some order → order = orderbook.pubkeyOrders pubkey pair uuid
  | .fullTrie trie => ¬AnswersDelta state pair root ∧ (trie.map Prod.fst).Nodup ∧
      ∀ uuid order, (uuid, order) ∈ trie ↔ orderbook.pubkeyOrders pubkey pair uuid = some order

variable {orderbook : Orderbook} {state : OrderbookPubkeyState H} {pubkey : String}
  {pair : AlbOrderedOrderbookPair} {root : H}

/-- The loop and the lookups of the answer for one pair have ended. -/
theorem pairOrdersDiff_eq_ok {answer : DeltaOrFullTrie Uuid OrderbookItem}
    (h : (pairOrdersDiff db orderbook state (pair, root)).run = some (.ok answer)) :
    ∃ actual fuel, state.trieRoots.lookup pair = some actual ∧
      TrieDiffHistory.fromHistory db (state.pairHistory pair) fuel root actual
        (fun uuid => orderbook.orderSet.lookup uuid) = some (.ok answer) := by
  unfold pairOrdersDiff at h
  cases hactual : state.trieRoots.lookup pair with
  | none =>
    simp only [hactual] at h
    cases h
  | some actual =>
    have hmap : ∀ {r : Option (Except TrieDiffHistoryError (DeltaOrFullTrie Uuid OrderbookItem))},
        r.map (Except.mapError SyncError.trieDiffHistory) = some (.ok answer) →
          r = some (.ok answer) := by
      rintro (_ | err | value) heq
      · cases heq
      · cases heq
      · obtain rfl := Except.ok.inj (Option.some.inj heq)
        rfl
    simp only [hactual] at h
    unfold OrderbookPubkeyState.pairHistory
    cases hget : TimedMap.get state.orderPairsTrieStateHistory pair with
    | none =>
      rw [hget] at h
      exact ⟨actual, 0, rfl, hmap h⟩
    | some history =>
      rw [hget] at h
      exact ⟨actual, _, rfl, hmap h⟩

/-- The entries of a delta are the orders at the current root. -/
theorem delta_entry_eq (hsound : state.SoundHistories db)
    (hroot : RootDescribes db orderbook state pubkey pair) {actual : H} {fuel : ℕ}
    (hactual : state.trieRoots.lookup pair = some actual)
    {total : HashMap Uuid (Option OrderbookItem)} {getter : Uuid → Option OrderbookItem}
    (hanswer : TrieDiffHistory.fromHistory db (state.pairHistory pair) fuel root actual getter =
      some (.ok (.delta total))) {uuid : Uuid} {entry : Option OrderbookItem}
    (hentry : total.lookup uuid = some entry) :
    entry.map OrderbookItem.toP2p = orderbook.pubkeyOrders pubkey pair uuid := by
  obtain ⟨content', hcontent', hdescribes⟩ := hroot
  rw [hactual, Option.some.injEq] at hcontent'
  obtain ⟨delta, _, hdelta, _⟩ := TrieDiffHistory.fromHistory_eq_delta hanswer
  obtain ⟨content, hcontent, _⟩ := hsound.pairHistory.valid root delta hdelta
  have happly := hsound.pairHistory.fromHistory_delta hanswer hcontent hcontent'.symm
  have hbytes : entry.map OrderbookItem.trieStateBytes =
      (orderbook.ownOrder pubkey pair uuid).map OrderbookItem.trieStateBytes := by
    rw [← hdescribes uuid, ← happly, lookup_applyDelta, hentry]
    rfl
  rw [Orderbook.pubkeyOrders_eq]
  cases entry with
  | none =>
    rw [Option.map_none, eq_comm, Option.map_eq_none_iff] at hbytes
    rw [hbytes, Option.map_none]
  | some o =>
    obtain ⟨o', ho', hsame⟩ := Option.map_eq_some_iff.mp hbytes.symm
    rw [ho', Option.map_some, Option.map_some, OrderbookItem.toP2p_eq_of_trieStateBytes_eq hsame]

/-- A responder with sound histories and the root of its orders answers truthfully. -/
theorem pairOrdersDiff_truthful (hsound : state.SoundHistories db)
    (hroot : RootDescribes db orderbook state pubkey pair)
    {answer : DeltaOrFullTrie Uuid OrderbookItem}
    (h : (pairOrdersDiff db orderbook state (pair, root)).run = some (.ok answer)) :
    TellsTruth orderbook state pubkey pair root (answer.mapTo OrderbookItem.toP2p) := by
  obtain ⟨actual, fuel, hactual, hanswer⟩ := pairOrdersDiff_eq_ok h
  have hleads : AnswersDelta state pair root ↔ (state.pairHistory pair).LeadsTo root actual := by
    simp only [AnswersDelta, hactual, Option.some.injEq, exists_eq_left']
  rcases TrieDiffHistory.fromHistory_eq_ok hanswer with
    ⟨hpath, total, rfl, hnames⟩ | ⟨hpath, trie, rfl, hfull⟩
  · refine ⟨hleads.mpr hpath, fun uuid => ?_, fun uuid order horder => ?_⟩
    · rw [lookup_mapValues, ne_eq, Option.map_eq_none_iff]
      exact hnames uuid
    · rw [lookup_mapValues] at horder
      obtain ⟨entry, hentry, rfl⟩ := Option.map_eq_some_iff.mp horder
      exact delta_entry_eq hsound hroot hactual hanswer hentry
  · obtain ⟨content, hcontent, hnodup, hvalues, hkeys⟩ := TrieDiffHistory.getFullTrie_eq_ok hfull
    obtain ⟨content', hcontent', hdescribes⟩ := hroot
    rw [hactual, Option.some.injEq, ← hcontent] at hcontent'
    obtain rfl := db.root_injective hcontent'
    refine ⟨fun hdelta => hpath (hleads.mp hdelta), ?_, fun uuid order => ?_⟩
    · rw [List.map_map]
      exact hnodup
    · rw [Orderbook.pubkeyOrders_eq, Option.map_eq_some_iff]
      constructor
      · intro hmem
        obtain ⟨⟨key, o⟩, ho, heq⟩ := List.mem_map.mp hmem
        obtain ⟨rfl, rfl⟩ := Prod.mk.inj heq
        have hkey := (hkeys key).mp (List.mem_map.mpr ⟨_, ho, rfl⟩)
        rw [hdescribes, ne_eq, Option.map_eq_none_iff] at hkey
        obtain ⟨own, hown⟩ := Option.ne_none_iff_exists'.mp hkey
        have hstored := (Option.filter_eq_some_iff.mp hown).1
        rw [hvalues key o ho, Option.some.injEq] at hstored
        exact ⟨own, hown, by rw [hstored]⟩
      · rintro ⟨own, hown, rfl⟩
        have hstored := (Option.filter_eq_some_iff.mp hown).1
        have hkey : content.lookup uuid ≠ none := by
          rw [hdescribes, hown]
          exact Option.some_ne_none _
        obtain ⟨⟨key, o⟩, ho, rfl⟩ := List.mem_map.mp ((hkeys uuid).mpr hkey)
        rw [hvalues key o ho, Option.some.injEq] at hstored
        exact List.mem_map.mpr ⟨(key, o), ho, by rw [hstored]⟩

/-- The pairs and the diffs of a response. -/
theorem lookup_response {it : SyncIteration H} {store : TrieStore H}
    (hstate : store.pubkeysState.lookup pubkey = some state)
    {trieRoots : HashMap AlbOrderedOrderbookPair H} {response : SyncPubkeyOrderbookStateRes}
    (h : (processSyncPubkeyOrderbookState db it orderbook store pubkey trieRoots).run =
      some (.ok (some response))) :
    (∀ pair, response.pairOrdersDiff.lookup pair ≠ none ↔ trieRoots.lookup pair ≠ none) ∧
    ∀ pair diff, response.pairOrdersDiff.lookup pair = some diff → ∃ root answer,
      trieRoots.lookup pair = some root ∧ diff = answer.mapTo OrderbookItem.toP2p ∧
        (pairOrdersDiff db orderbook state (pair, root)).run = some (.ok answer) := by
  unfold processSyncPubkeyOrderbookState at h
  simp only [hstate] at h
  rw [ExceptT.run_bind] at h
  obtain ⟨_ | diffs, hdiffs, h⟩ := Option.bind_eq_some_iff.mp h
  · cases h
  obtain rfl := Option.some.inj (Except.ok.inj (Option.some.inj h))
  have hkeyed := Keyed.of_mapM_exceptT (R := fun pair root answer =>
    (pairOrdersDiff db orderbook state (pair, root)).run = some (.ok answer)) ?_ hdiffs
  · have hnodup : (diffs.map Prod.fst).Nodup := by
      rw [hkeyed.map_fst]
      exact it.roots.nodup_toList trieRoots
    constructor
    · intro pair
      rw [lookup_mapValues, ne_eq, Option.map_eq_none_iff, ← ne_eq, Option.ne_none_iff_exists',
        Option.ne_none_iff_exists']
      simp only [lookup_insertAll_empty hnodup]
      constructor
      · rintro ⟨answer, hmem⟩
        obtain ⟨root, hroot, _⟩ := hkeyed.exists_left hmem
        exact ⟨root, (it.roots.mem_toList _ _ _).mp hroot⟩
      · rintro ⟨root, hroot⟩
        obtain ⟨answer, hmem, _⟩ := hkeyed.exists_right ((it.roots.mem_toList _ _ _).mpr hroot)
        exact ⟨answer, hmem⟩
    · intro pair diff hdiff
      rw [lookup_mapValues] at hdiff
      obtain ⟨answer, hanswer, rfl⟩ := Option.map_eq_some_iff.mp hdiff
      rw [lookup_insertAll_empty hnodup] at hanswer
      obtain ⟨root, hroot, hrun⟩ := hkeyed.exists_left hanswer
      exact ⟨root, answer, (it.roots.mem_toList _ _ _).mp hroot, rfl, hrun⟩
  · rintro ⟨pair, root⟩ entry' hentry
    rw [ExceptT.run_bind] at hentry
    obtain ⟨_ | answer, hanswer, hrest⟩ := Option.bind_eq_some_iff.mp hentry
    · cases hrest
    · obtain rfl := Except.ok.inj (Option.some.inj hrest)
      exact ⟨rfl, hanswer⟩

end DeXFG.Ordermatch
