import DeXFG.Library.Runs
import DeXFG.Ordermatch.TrieStore

/-!
# Soundness of the trie history

Every stored diff turns the content at its key into the content at its next
root, and following the next roots never comes back. Both survive every trie
operation and every expiry, so a delta taken from the history leads from the
requested content to the current one.
-/
namespace DeXFG.Ordermatch
open DeXFG.Library.FiniteMap DeXFG.Library.KeyedWrites DeXFG.Library.LinkedMap DeXFG.Library.Runs
open DeXFG.Library.Serde NewProtocol

namespace TrieDiffHistory

variable {H Key Value B : Type} [DecidableEq H] [DecidableEq Key]

/-- The diff turns the content with root `k` into one with the next root. -/
def ValidDiff (db : TrieDb H Key B) (encode : Value → B) (k : H) (diff : TrieDiff H Key Value) :
    Prop :=
  ∃ content, db.root content = k ∧
    db.root (applyWrites content (diff.delta.map (encodeWrite encode))) = diff.nextRoot

structure Sound (db : TrieDb H Key B) (encode : Value → B) (history : TrieDiffHistory H Key Value) :
    Prop where
  acyclic : Acyclic TrieDiff.nextRoot history
  valid : ∀ k diff, history.lookup k = some diff → ValidDiff db encode k diff

variable {db : TrieDb H Key B} {encode : Value → B} {history history' : TrieDiffHistory H Key Value}
  {insertAt : H} {diff : TrieDiff H Key Value}

omit [DecidableEq H] in
theorem ValidDiff.root_eq {k : H} (h : ValidDiff db encode k diff) {content : HashMap Key B}
    (hcontent : db.root content = k) :
    db.root (applyWrites content (diff.delta.map (encodeWrite encode))) = diff.nextRoot := by
  obtain ⟨content', hroot, hnext⟩ := h
  rwa [db.root_injective (hcontent.trans hroot.symm)]

theorem sound_empty : Sound db encode (∅ : TrieDiffHistory H Key Value) where
  acyclic := acyclic_empty
  valid := by simp

theorem Sound.mono (h : Sound db encode history) (hsub : Submap history' history) :
    Sound db encode history' where
  acyclic := h.acyclic.mono hsub
  valid k diff hlookup := h.valid k diff (hsub k diff hlookup)

/-- Recording a change keeps the history sound: a diff is only stored in front of a root that
starts no other diff. -/
theorem Sound.insertNewDiff (h : Sound db encode history) (hdiff : ValidDiff db encode insertAt diff) :
    Sound db encode (insertNewDiff history insertAt diff) := by
  unfold TrieDiffHistory.insertNewDiff
  by_cases hsame : insertAt = diff.nextRoot
  · rw [if_pos hsame]
    exact h
  · rw [if_neg hsame]
    cases hnext : history.lookup diff.nextRoot with
    | some removed => exact h.mono ((submap_removeChain _ _ _).trans (submap_erase _ _))
    | none =>
      constructor
      · exact h.acyclic.insert hnext (Ne.symm hsame)
      · intro k stored hlookup
        by_cases hk : k = insertAt
        · subst hk
          rw [Finmap.lookup_insert, Option.some.injEq] at hlookup
          exact hlookup ▸ hdiff
        · rw [Finmap.lookup_insert_of_ne _ hk] at hlookup
          exact h.valid k stored hlookup

omit [DecidableEq Key] in
/-- The removal loop of `insert_new_diff` runs to its end. -/
theorem insertNewDiff_removal (history : TrieDiffHistory H Key Value) (k k' : H) {fuel : ℕ}
    (hfuel : history.keys.card ≤ fuel) :
    removeChain TrieDiff.nextRoot fuel (history.erase k) k' =
      removeChain TrieDiff.nextRoot history.keys.card (history.erase k) k' := by
  apply removeChain_of_le _ hfuel
  rw [Finmap.keys_erase]
  exact Finset.card_erase_le

/-- The loop of `from_history` ends. -/
theorem Sound.exists_collectDeltas (h : Sound db encode history) {fuel : ℕ}
    (hfuel : history.keys.card < fuel) (delta : TrieDiff H Key Value) :
    ∃ last, collectDeltas history fuel delta = some last :=
  exists_walk h.acyclic hfuel delta _

/-- The collected delta leads from the first root to the last one. -/
theorem Sound.collectDeltas (h : Sound db encode history) {fuel : ℕ} {fromHash : H}
    {delta : TrieDiff H Key Value} {last : TrieDiff H Key Value × HashMap Key (Option Value)}
    (hdelta : history.lookup fromHash = some delta)
    (hcollect : collectDeltas history fuel delta = some last) {content : HashMap Key B}
    (hcontent : db.root content = fromHash) :
    db.root (applyDelta encode content last.2) = last.1.nextRoot := by
  -- the collected map stands for the deltas of the visited diffs, in order
  have hwalk := walk_induction (P := fun diff total => ∃ writes : List (Write Key Value),
      total = insertAll ∅ writes ∧
        db.root (applyWrites content (writes.map (encodeWrite encode))) = diff.nextRoot)
    (m := history) ?_ ⟨delta.delta, rfl, (h.valid fromHash delta hdelta).root_eq hcontent⟩ hcollect
  · obtain ⟨⟨writes, htotal, hroot⟩, _⟩ := hwalk
    rw [htotal, applyDelta_insertAll]
    exact hroot
  · rintro diff total next ⟨writes, rfl, hroot⟩ hnext
    refine ⟨writes ++ next.delta, ?_, ?_⟩
    · exact (List.foldl_append).symm
    · rw [List.map_append, applyWrites_append]
      exact (h.valid diff.nextRoot next hnext).root_eq hroot

variable [LinearOrder Key]

theorem Sound.exists_fromHistory (h : Sound db encode history) {fuel : ℕ}
    (hfuel : history.keys.card < fuel) (fromHash actualTrieRoot : H) (getter : Key → Option Value) :
    ∃ r, fromHistory db history fuel fromHash actualTrieRoot getter = some r := by
  unfold fromHistory
  cases hlookup : history.lookup fromHash with
  | none => exact ⟨_, rfl⟩
  | some delta =>
    obtain ⟨last, hlast⟩ := h.exists_collectDeltas hfuel delta
    simp only [hlast]
    exact ⟨_, rfl⟩

/-- A delta is only answered when the chain ends at the current root. -/
theorem fromHistory_eq_delta {fuel : ℕ} {fromHash actualTrieRoot : H} {getter : Key → Option Value}
    {total : HashMap Key (Option Value)}
    (h : fromHistory db history fuel fromHash actualTrieRoot getter = some (.ok (.delta total))) :
    ∃ delta last, history.lookup fromHash = some delta ∧
      TrieDiffHistory.collectDeltas history fuel delta = some (last, total) ∧
        last.nextRoot = actualTrieRoot := by
  have hfull : ∀ r : Except TrieDiffHistoryError (List (Key × Value)),
      r.map DeltaOrFullTrie.fullTrie ≠ .ok (.delta total) := by
    rintro (err | trie) heq <;> cases heq
  unfold fromHistory at h
  cases hlookup : history.lookup fromHash with
  | none =>
    rw [hlookup] at h
    exact absurd (Option.some.inj h) (hfull _)
  | some delta =>
    rw [hlookup] at h
    obtain ⟨⟨last, total'⟩, hcollect, heq⟩ := Option.map_eq_some_iff.mp h
    by_cases hroot : last.nextRoot = actualTrieRoot
    · rw [if_pos hroot] at heq
      cases heq
      exact ⟨delta, last, rfl, hcollect, hroot⟩
    · rw [if_neg hroot] at heq
      exact absurd heq (hfull _)

theorem Sound.fromHistory_delta (h : Sound db encode history) {fuel : ℕ}
    {fromHash actualTrieRoot : H} {getter : Key → Option Value}
    {total : HashMap Key (Option Value)}
    (hanswer : fromHistory db history fuel fromHash actualTrieRoot getter =
      some (.ok (.delta total))) {content content' : HashMap Key B}
    (hcontent : db.root content = fromHash) (hcontent' : db.root content' = actualTrieRoot) :
    applyDelta encode content total = content' := by
  obtain ⟨delta, last, hdelta, hcollect, hroot⟩ := fromHistory_eq_delta hanswer
  apply db.root_injective
  rw [h.collectDeltas hdelta hcollect hcontent, hcontent', hroot]

end TrieDiffHistory

/-! ## Runs of the store -/

variable {H : Type} [DecidableEq H] (db : OrderTrieDb H)

/-- A trie operation at a time, the creation of a root entry by a keep-alive, or an expiry. -/
inductive TrieEvent (H : Type) where
  | op (now : ℕ) (op : TrieOp)
  | pairRootRead (now : ℕ) (pubkey : String) (albPair : AlbOrderedOrderbookPair)
  | diffsExpired (pubkey : String) (albPair : AlbOrderedOrderbookPair) (keep : H → Bool)
  | historyExpired (pubkey : String) (albPair : AlbOrderedOrderbookPair)
  | expiredDropped (pubkey : String)

namespace OrderbookPubkeyState

variable (state : OrderbookPubkeyState H)

/-- Some diffs of one history expire. -/
def expireDiffs (albPair : AlbOrderedOrderbookPair) (keep : H → Bool) : OrderbookPubkeyState H :=
  match state.orderPairsTrieStateHistory.lookup albPair with
  | none => state
  | some entry => { state with
      orderPairsTrieStateHistory := state.orderPairsTrieStateHistory.insert albPair
        { entry with value := retain (fun k _ => keep k) entry.value } }

/-- The history of one pair expires. -/
def expireHistory (albPair : AlbOrderedOrderbookPair) : OrderbookPubkeyState H :=
  match state.orderPairsTrieStateHistory.lookup albPair with
  | none => state
  | some entry => { state with
      orderPairsTrieStateHistory := state.orderPairsTrieStateHistory.insert albPair
        { entry with expired := true } }

/-- Expired histories are dropped. -/
def dropExpired : OrderbookPubkeyState H :=
  { state with
    orderPairsTrieStateHistory :=
      retain (fun _ entry => !entry.expired) state.orderPairsTrieStateHistory }

end OrderbookPubkeyState

namespace TrieStore

/-- Change the state of a public key that has one. -/
def modifyState (store : TrieStore H) (pubkey : String)
    (f : OrderbookPubkeyState H → OrderbookPubkeyState H) : TrieStore H :=
  match store.pubkeysState.lookup pubkey with
  | none => store
  | some state => store.setPubkeyState pubkey (f state)

end TrieStore

namespace TrieEvent

def handle (store : TrieStore H) : TrieEvent H → TrieStore H
  | .op now trieOp => store.applyOp db now trieOp
  | .pairRootRead now pubkey albPair =>
    let state := store.pubkeyStateMut pubkey now
    store.setPubkeyState pubkey (state.setPairRoot albPair (state.pairRoot db albPair))
  | .diffsExpired pubkey albPair keep =>
    store.modifyState pubkey fun state => state.expireDiffs albPair keep
  | .historyExpired pubkey albPair => store.modifyState pubkey fun state => state.expireHistory albPair
  | .expiredDropped pubkey => store.modifyState pubkey fun state => state.dropExpired

def step (store : TrieStore H) (e : TrieEvent H) : Option (TrieStore H) := some (handle db store e)

end TrieEvent

/-! ### The invariant -/

/-- Every history of the state is sound, also the expired ones. -/
def OrderbookPubkeyState.SoundHistories (state : OrderbookPubkeyState H) : Prop :=
  ∀ albPair entry, state.orderPairsTrieStateHistory.lookup albPair = some entry →
    TrieDiffHistory.Sound db OrderbookItem.trieStateBytes entry.value

def TrieStore.SoundHistories (store : TrieStore H) : Prop :=
  ∀ pubkey state, store.pubkeysState.lookup pubkey = some state → state.SoundHistories db

namespace OrderbookPubkeyState

variable {db} {state : OrderbookPubkeyState H} {albPair : AlbOrderedOrderbookPair}

theorem soundHistories_new (now : ℕ) : (new now : OrderbookPubkeyState H).SoundHistories db := by
  intro albPair entry hlookup
  simp [new] at hlookup

theorem SoundHistories.getUnchecked (h : state.SoundHistories db) {history : TrieOrderHistory H}
    (hget : TimedMap.getUnchecked state.orderPairsTrieStateHistory albPair = some history) :
    TrieDiffHistory.Sound db OrderbookItem.trieStateBytes history := by
  obtain ⟨entry, hlookup, rfl⟩ := Option.map_eq_some_iff.mp hget
  exact h albPair entry hlookup

theorem SoundHistories.of_histories_eq (h : state.SoundHistories db)
    {state' : OrderbookPubkeyState H}
    (heq : state'.orderPairsTrieStateHistory = state.orderPairsTrieStateHistory) :
    state'.SoundHistories db := by
  intro pair entry hlookup
  rw [heq] at hlookup
  exact h pair entry hlookup

theorem SoundHistories.of_insertExpirable (h : state.SoundHistories db)
    {state' : OrderbookPubkeyState H} {history : TrieOrderHistory H}
    (hhistory : TrieDiffHistory.Sound db OrderbookItem.trieStateBytes history)
    (heq : state'.orderPairsTrieStateHistory =
      TimedMap.insertExpirable state.orderPairsTrieStateHistory albPair history) :
    state'.SoundHistories db := by
  intro pair stored hlookup
  rw [heq, TimedMap.insertExpirable] at hlookup
  by_cases hpair : pair = albPair
  · subst hpair
    rw [Finmap.lookup_insert, Option.some.injEq] at hlookup
    exact hlookup ▸ hhistory
  · rw [Finmap.lookup_insert_of_ne _ hpair] at hlookup
    exact h pair stored hlookup

/-- The diff recorded by an insertion. -/
theorem validDiff_insert {uuid : Uuid} {order : OrderbookItem}
    (hread : getTrieMut db (state.pairRoot db albPair) ≠ none)
    (hroot : state.pairRoot db albPair ≠ db.defaultRoot) :
    TrieDiffHistory.ValidDiff db OrderbookItem.trieStateBytes (state.pairRoot db albPair)
      ⟨[(uuid, some order)], state.insertedRoot db albPair uuid order⟩ := by
  obtain ⟨content, hget⟩ := Option.ne_none_iff_exists'.mp hread
  refine ⟨content, ?_, ?_⟩
  · rwa [getTrieMut, if_neg hroot, db.read_eq_some] at hget
  · simp only [insertedRoot, hget]
    rfl

/-- The diff recorded by a removal. -/
theorem validDiff_remove {uuid : Uuid}
    (hroot : ¬(state.pairRoot db albPair = db.defaultRoot ∨
      state.pairRoot db albPair = db.hashedNullNode))
    (hread : ¬db.read (state.pairRoot db albPair) = none) :
    TrieDiffHistory.ValidDiff db OrderbookItem.trieStateBytes (state.pairRoot db albPair)
      ⟨[(uuid, none)], state.removedRoot db albPair uuid⟩ := by
  obtain ⟨content, hget⟩ := Option.ne_none_iff_exists'.mp hread
  refine ⟨content, ?_, ?_⟩
  · rwa [db.read_eq_some] at hget
  · simp only [removedRoot, if_neg hroot, hget]
    rfl

theorem SoundHistories.applyInsert (h : state.SoundHistories db) (uuid : Uuid)
    (order : OrderbookItem) : (state.applyInsert db albPair uuid order).SoundHistories db := by
  have heq := state.applyInsert_histories db albPair uuid order
  by_cases hskip : getTrieMut db (state.pairRoot db albPair) = none ∨
      state.pairRoot db albPair = db.defaultRoot
  · rw [if_pos hskip] at heq
    exact h.of_histories_eq heq
  · rw [if_neg hskip] at heq
    rw [not_or] at hskip
    refine h.of_insertExpirable ?_ heq
    apply TrieDiffHistory.Sound.insertNewDiff _ (validDiff_insert hskip.1 hskip.2)
    cases hget : TimedMap.getUnchecked state.orderPairsTrieStateHistory albPair with
    | none => exact TrieDiffHistory.sound_empty
    | some history => exact h.getUnchecked hget

theorem SoundHistories.applyRemove (h : state.SoundHistories db) (uuid : Uuid) :
    (state.applyRemove db albPair uuid).SoundHistories db := by
  have heq := state.applyRemove_histories db albPair uuid
  cases hget : TimedMap.getUnchecked state.orderPairsTrieStateHistory albPair with
  | none =>
    rw [hget] at heq
    exact h.of_histories_eq heq
  | some history =>
    simp only [hget] at heq
    by_cases hskip : (state.pairRoot db albPair = db.defaultRoot ∨
        state.pairRoot db albPair = db.hashedNullNode) ∨
        db.read (state.pairRoot db albPair) = none
    · rw [if_pos hskip] at heq
      exact h.of_histories_eq heq
    · rw [if_neg hskip] at heq
      rw [not_or] at hskip
      exact h.of_insertExpirable
        ((h.getUnchecked hget).insertNewDiff (validDiff_remove hskip.1 hskip.2)) heq

/-- Histories that were dropped or lost diffs are as sound as before. -/
theorem SoundHistories.mono (h : state.SoundHistories db) {state' : OrderbookPubkeyState H}
    (hsub : ∀ pair entry, state'.orderPairsTrieStateHistory.lookup pair = some entry →
      ∃ old, state.orderPairsTrieStateHistory.lookup pair = some old ∧
        Submap entry.value old.value) : state'.SoundHistories db := by
  intro pair entry hlookup
  obtain ⟨old, hold, hvalue⟩ := hsub pair entry hlookup
  exact (h pair old hold).mono hvalue

theorem SoundHistories.applyClearPair (h : state.SoundHistories db) :
    (state.applyClearPair albPair).SoundHistories db := by
  apply h.mono
  intro pair entry hlookup
  by_cases hpair : pair = albPair
  · subst hpair
    simp [OrderbookPubkeyState.applyClearPair] at hlookup
  · exact ⟨entry, by rwa [OrderbookPubkeyState.applyClearPair, Finmap.lookup_erase_ne hpair] at hlookup,
      Submap.refl _⟩

theorem SoundHistories.replace (h : state.SoundHistories db) {entry entry' : Timed (TrieOrderHistory H)}
    (hlookup : state.orderPairsTrieStateHistory.lookup albPair = some entry)
    (hvalue : Submap entry'.value entry.value) :
    SoundHistories db { state with
      orderPairsTrieStateHistory := state.orderPairsTrieStateHistory.insert albPair entry' } := by
  apply h.mono
  intro pair stored hstored
  by_cases hpair : pair = albPair
  · subst hpair
    simp only [Finmap.lookup_insert, Option.some.injEq] at hstored
    exact ⟨entry, hlookup, hstored ▸ hvalue⟩
  · simp only [Finmap.lookup_insert_of_ne _ hpair] at hstored
    exact ⟨stored, hstored, Submap.refl _⟩

theorem SoundHistories.expireDiffs (h : state.SoundHistories db) (keep : H → Bool) :
    (state.expireDiffs albPair keep).SoundHistories db := by
  unfold OrderbookPubkeyState.expireDiffs
  cases hlookup : state.orderPairsTrieStateHistory.lookup albPair with
  | none => exact h
  | some entry => exact h.replace hlookup (submap_retain _ _)

theorem SoundHistories.expireHistory (h : state.SoundHistories db) :
    (state.expireHistory albPair).SoundHistories db := by
  unfold OrderbookPubkeyState.expireHistory
  cases hlookup : state.orderPairsTrieStateHistory.lookup albPair with
  | none => exact h
  | some entry => exact h.replace hlookup (Submap.refl _)

theorem SoundHistories.dropExpired (h : state.SoundHistories db) :
    state.dropExpired.SoundHistories db := by
  apply h.mono
  intro pair entry hlookup
  rw [OrderbookPubkeyState.dropExpired, lookup_retain, Option.filter_eq_some_iff] at hlookup
  exact ⟨entry, hlookup.1, Submap.refl _⟩

end OrderbookPubkeyState

namespace TrieStore

variable {db} {store : TrieStore H} {pubkey : String}

theorem SoundHistories.setPubkeyState (h : store.SoundHistories db)
    {state : OrderbookPubkeyState H} (hstate : state.SoundHistories db) :
    (store.setPubkeyState pubkey state).SoundHistories db := by
  intro other stored hlookup
  by_cases hother : other = pubkey
  · subst hother
    rw [TrieStore.setPubkeyState, Finmap.lookup_insert, Option.some.injEq] at hlookup
    exact hlookup ▸ hstate
  · rw [TrieStore.setPubkeyState, Finmap.lookup_insert_of_ne _ hother] at hlookup
    exact h other stored hlookup

theorem SoundHistories.pubkeyStateMut (h : store.SoundHistories db) (now : ℕ) :
    (store.pubkeyStateMut pubkey now).SoundHistories db := by
  unfold TrieStore.pubkeyStateMut
  cases hlookup : store.pubkeysState.lookup pubkey with
  | none => exact OrderbookPubkeyState.soundHistories_new now
  | some state => exact h pubkey state hlookup

theorem SoundHistories.modifyState (h : store.SoundHistories db)
    {f : OrderbookPubkeyState H → OrderbookPubkeyState H}
    (hf : ∀ state, state.SoundHistories db → (f state).SoundHistories db) :
    (store.modifyState pubkey f).SoundHistories db := by
  unfold TrieStore.modifyState
  cases hlookup : store.pubkeysState.lookup pubkey with
  | none => exact h
  | some state => exact h.setPubkeyState (hf state (h pubkey state hlookup))

/-- Every trie operation keeps all histories sound. -/
theorem SoundHistories.applyOp (h : store.SoundHistories db) (now : ℕ) (op : TrieOp) :
    (store.applyOp db now op).SoundHistories db := by
  cases op with
  | clearPair pubkey albPair =>
    rw [TrieStore.applyOp, TrieStore.applyClearPair]
    cases hlookup : store.pubkeysState.lookup pubkey with
    | none => exact h
    | some state => exact h.setPubkeyState (h pubkey state hlookup).applyClearPair
  | insert pubkey albPair uuid order =>
    exact h.setPubkeyState ((h.pubkeyStateMut now).applyInsert uuid order)
  | remove pubkey albPair uuid =>
    exact h.setPubkeyState ((h.pubkeyStateMut now).applyRemove uuid)
  | removePubkey pubkey =>
    intro other state hlookup
    by_cases hother : other = pubkey
    · subst hother
      simp [TrieStore.applyOp] at hlookup
    · rw [TrieStore.applyOp, Finmap.lookup_erase_ne hother] at hlookup
      exact h other state hlookup

end TrieStore

namespace TrieEvent

variable {db}

theorem soundHistories_handle {store : TrieStore H} (h : store.SoundHistories db)
    (e : TrieEvent H) : (e.handle db store).SoundHistories db := by
  cases e with
  | op now trieOp => exact h.applyOp now trieOp
  | pairRootRead now pubkey albPair =>
    exact h.setPubkeyState ((h.pubkeyStateMut now).of_histories_eq rfl)
  | diffsExpired pubkey albPair keep =>
    exact h.modifyState fun state hstate => hstate.expireDiffs keep
  | historyExpired pubkey albPair => exact h.modifyState fun state hstate => hstate.expireHistory
  | expiredDropped pubkey => exact h.modifyState fun state hstate => hstate.dropExpired

theorem soundHistories_run {es : List (TrieEvent H)} {store : TrieStore H}
    (hrun : run (step db) {} es = some store) : store.SoundHistories db := by
  refine invariant_run (I := fun s => s.SoundHistories db) (G := fun _ _ => True) ?_ ?_
    (meets_of_forall fun _ _ => trivial) hrun
  · intro s e s' h _ hstep
    obtain rfl := Option.some.inj hstep
    exact soundHistories_handle h e
  · intro pubkey state hlookup
    simp at hlookup

/-- In every run of insertions, removals, clears and expirations, no history has a cycle of next
roots, the loop of `from_history` ends for every root, and a delta it answers turns the content at
the requested root into the content at the current one. -/
theorem history_sound {es : List (TrieEvent H)} {store : TrieStore H}
    (hrun : run (step db) {} es = some store) {pubkey : String} {state : OrderbookPubkeyState H}
    (hstate : store.pubkeysState.lookup pubkey = some state) {albPair : AlbOrderedOrderbookPair}
    {history : TrieOrderHistory H}
    (hhistory : TimedMap.getUnchecked state.orderPairsTrieStateHistory albPair = some history) :
    Acyclic TrieDiff.nextRoot history ∧
    ∀ (fromHash actualTrieRoot : H) (getter : Uuid → Option OrderbookItem) (fuel : ℕ),
      history.keys.card < fuel →
      (∃ r, TrieDiffHistory.fromHistory db history fuel fromHash actualTrieRoot getter = some r) ∧
      ∀ delta, TrieDiffHistory.fromHistory db history fuel fromHash actualTrieRoot getter =
          some (.ok (.delta delta)) →
        ∀ content content', db.root content = fromHash → db.root content' = actualTrieRoot →
          applyDelta OrderbookItem.trieStateBytes content delta = content' := by
  have hsound := (soundHistories_run hrun pubkey state hstate).getUnchecked hhistory
  refine ⟨hsound.acyclic, fun fromHash actualTrieRoot getter fuel hfuel => ⟨?_, ?_⟩⟩
  · exact hsound.exists_fromHistory hfuel fromHash actualTrieRoot getter
  · intro delta hanswer content content' hcontent hcontent'
    exact hsound.fromHistory_delta hanswer hcontent hcontent'

/-- Two insertions and the removal of the first order. -/
def testRun : List (TrieEvent (Option (HashMap Uuid Value))) :=
  [.op 0 (.insert "alice" "BTC:KMD" 1 (testItem "alice" "KMD" "BTC" 1 1)),
    .op 0 (.insert "alice" "BTC:KMD" 2 (testItem "alice" "KMD" "BTC" 2 2)),
    .op 0 (.remove "alice" "BTC:KMD" 1)]

theorem history_sound_testRun : ∃ store state history,
    run (step contentDb) {} testRun = some store ∧
    store.pubkeysState.lookup "alice" = some state ∧
    TimedMap.getUnchecked state.orderPairsTrieStateHistory "BTC:KMD" = some history ∧
    history.keys.card = 2 ∧ Acyclic TrieDiff.nextRoot history := by
  have hrun : run (step contentDb) {} testRun =
      some (testRun.foldl (handle contentDb) {}) := rfl
  have hany : (((testRun.foldl (handle contentDb) {}).pubkeysState.lookup "alice").bind
      fun state => TimedMap.getUnchecked state.orderPairsTrieStateHistory "BTC:KMD").any
        (fun history => history.keys.card = 2) = true := by decide +kernel
  obtain ⟨history, hsome, hcard⟩ := (Option.any_eq_true _ _).mp hany
  obtain ⟨state, hstate, hhistory⟩ := Option.bind_eq_some_iff.mp hsome
  exact ⟨_, state, history, hrun, hstate, hhistory, by simpa using hcard,
    (history_sound hrun hstate hhistory).1⟩

end TrieEvent

end DeXFG.Ordermatch
