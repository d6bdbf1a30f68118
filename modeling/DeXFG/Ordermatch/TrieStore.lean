import DeXFG.Library.LinkedMap
import DeXFG.Library.Serde
import DeXFG.Ordermatch.Ingest

/-!
# The trie store

The state kept per maker and pair: the root of the trie of the maker's orders
and the history of the changes that led from one root to the next. The trie
backend is a parameter; an entry of a timed map is either current or expired,
and expiry is an event of its own.
-/
namespace DeXFG.Ordermatch
open DeXFG.Library.FiniteMap DeXFG.Library.SetMap DeXFG.Library.KeyedWrites
open DeXFG.Library.LinkedMap DeXFG.Library.Serde NewProtocol

/-! ## Trie backend -/

/-- The trie database: every content has a root, from which it can be read again. No two contents
share a root. -/
structure TrieDb (H Key B : Type) [DecidableEq Key] where
  /-- `H64::default()`, the root of a trie that was not created yet. -/
  defaultRoot : H
  root : HashMap Key B → H
  read : H → Option (HashMap Key B)
  read_eq_some : ∀ r content, read r = some content ↔ root content = r

namespace TrieDb

variable {H Key B : Type} [DecidableEq Key]

theorem read_root (db : TrieDb H Key B) (content : HashMap Key B) :
    db.read (db.root content) = some content :=
  (db.read_eq_some _ _).mpr rfl

theorem root_injective (db : TrieDb H Key B) : Function.Injective db.root := by
  intro c c' h
  have hread := db.read_root c
  rw [h, db.read_root, Option.some.injEq] at hread
  exact hread.symm

/-- `hashed_null_node`. -/
def hashedNullNode (db : TrieDb H Key B) : H := db.root ∅

end TrieDb

/-! ## Diff history -/

structure TrieDiff (H Key Value : Type) where
  delta : List (Key × Option Value)
  nextRoot : H

/-- The entries that have not expired. -/
abbrev TrieDiffHistory (H Key Value : Type) := HashMap H (TrieDiff H Key Value)

inductive TrieDiffHistoryError where
  | trieDbError
  | getterNoneForKeyFromTrie
  deriving DecidableEq

namespace TrieDiffHistory

variable {H Key Value B : Type} [DecidableEq H]

/-- A diff that leads back to a known root removes the history from that root on and is not
stored. The number of entries bounds the removal loop. -/
def insertNewDiff (history : TrieDiffHistory H Key Value) (insertAt : H)
    (diff : TrieDiff H Key Value) : TrieDiffHistory H Key Value :=
  if insertAt = diff.nextRoot then history
  else
    match history.lookup diff.nextRoot with
    | some removed =>
      removeChain TrieDiff.nextRoot history.keys.card (history.erase diff.nextRoot)
        removed.nextRoot
    | none => history.insert insertAt diff

variable [DecidableEq Key]

def getFullTrie [LinearOrder Key] (db : TrieDb H Key B) (trieRoot : H)
    (getter : Key → Option Value) : Except TrieDiffHistoryError (List (Key × Value)) :=
  match db.read trieRoot with
  | none => .error .trieDbError
  | some trie => (sortedIteration.toList trie).mapM fun entry =>
      match getter entry.1 with
      | some val => .ok (entry.1, val)
      | none => .error .getterNoneForKeyFromTrie

/-- The loop of `from_history`: the last diff of the chain and the collected delta. -/
def collectDeltas (history : TrieDiffHistory H Key Value) (fuel : ℕ)
    (delta : TrieDiff H Key Value) : Option (TrieDiff H Key Value × HashMap Key (Option Value)) :=
  walk TrieDiff.nextRoot history (fun total diff => insertAll total diff.delta) fuel delta
    (insertAll ∅ delta.delta)

/-- `DeltaOrFullTrie::from_history`; `none` when the loop does not end within `fuel` rounds. -/
def fromHistory [LinearOrder Key] (db : TrieDb H Key B) (history : TrieDiffHistory H Key Value)
    (fuel : ℕ) (fromHash actualTrieRoot : H) (getter : Key → Option Value) :
    Option (Except TrieDiffHistoryError (DeltaOrFullTrie Key Value)) :=
  match history.lookup fromHash with
  | none => some ((getFullTrie db actualTrieRoot getter).map .fullTrie)
  | some delta => (collectDeltas history fuel delta).map fun last =>
      if last.1.nextRoot = actualTrieRoot then .ok (.delta last.2)
      else (getFullTrie db actualTrieRoot getter).map .fullTrie

end TrieDiffHistory

/-! ## Timed maps -/

/-- A value in a timed map. Expired values stay until they are dropped. -/
structure Timed (V : Type) where
  value : V
  expired : Bool

namespace TimedMap

variable {K V : Type} [DecidableEq K]

def get (m : HashMap K (Timed V)) (k : K) : Option V :=
  ((m.lookup k).filter fun entry => !entry.expired).map Timed.value

def getUnchecked (m : HashMap K (Timed V)) (k : K) : Option V := (m.lookup k).map Timed.value

/-- Also the change of a present value through `get_mut_unchecked`, after its expiration was
updated. -/
def insertExpirable (m : HashMap K (Timed V)) (k : K) (v : V) : HashMap K (Timed V) :=
  m.insert k ⟨v, false⟩

end TimedMap

/-! ## The store -/

abbrev TrieOrderHistory (H : Type) := TrieDiffHistory H Uuid OrderbookItem

structure OrderbookPubkeyState (H : Type) where
  lastKeepAlive : ℕ
  orderPairsTrieStateHistory : HashMap AlbOrderedOrderbookPair (Timed (TrieOrderHistory H)) := ∅
  ordersUuids : Finset (Uuid × AlbOrderedOrderbookPair) := ∅
  trieRoots : HashMap AlbOrderedOrderbookPair H := ∅

/-- `memory_db` is the trie backend. -/
structure TrieStore (H : Type) where
  pubkeysState : HashMap String (OrderbookPubkeyState H) := ∅

/-- `trie_state_bytes`. -/
def OrderbookItem.trieStateBytes (o : OrderbookItem) : Value :=
  .array [Codec.string.ser o.pubkey, Codec.string.ser o.base, Codec.string.ser o.rel,
    Codec.bigRational.ser o.price, Codec.bigRational.ser o.maxVolume,
    Codec.bigRational.ser o.minVolume, (Codec.binary 16).ser o.uuid, Codec.u64.ser o.createdAt]

abbrev OrderTrieDb (H : Type) := TrieDb H Uuid Value

/-- A backend whose roots are the contents themselves. -/
def contentDb : OrderTrieDb (Option (HashMap Uuid Value)) where
  defaultRoot := none
  root := some
  read root := root
  read_eq_some _ _ := eq_comm

variable {H : Type} [DecidableEq H] (db : OrderTrieDb H)

/-- `get_trie_mut`: a new trie for the default root. -/
def getTrieMut (root : H) : Option (HashMap Uuid Value) :=
  if root = db.defaultRoot then some ∅ else db.read root

namespace OrderbookPubkeyState

variable (state : OrderbookPubkeyState H) (albPair : AlbOrderedOrderbookPair)

/-- `OrderbookPubkeyState::new` at time `now`. -/
def new (now : ℕ) : OrderbookPubkeyState H := { lastKeepAlive := now }

/-- The root read by `order_pair_root_mut`. -/
def pairRoot : H := (state.trieRoots.lookup albPair).getD db.defaultRoot

def setPairRoot (root : H) : OrderbookPubkeyState H :=
  { state with trieRoots := state.trieRoots.insert albPair root }

/-- Record a diff in a history that is present. -/
def recordDiff (history : TrieOrderHistory H) (insertAt : H) (diff : TrieDiff H Uuid OrderbookItem) :
    OrderbookPubkeyState H :=
  { state with
    orderPairsTrieStateHistory := TimedMap.insertExpirable state.orderPairsTrieStateHistory albPair
      (history.insertNewDiff insertAt diff) }

def applyInsert (uuid : Uuid) (order : OrderbookItem) : OrderbookPubkeyState H :=
  let prevRoot := state.pairRoot db albPair
  let state := { state.setPairRoot albPair prevRoot with
    ordersUuids := insert (uuid, albPair) state.ordersUuids }
  match getTrieMut db prevRoot with
  | none => state
  | some pairTrie =>
    let pairRoot := db.root (pairTrie.insert uuid order.trieStateBytes)
    let state := state.setPairRoot albPair pairRoot
    if prevRoot ≠ db.defaultRoot then
      let history :=
        (TimedMap.getUnchecked state.orderPairsTrieStateHistory albPair).getD ∅
      state.recordDiff albPair history prevRoot ⟨[(uuid, some order)], pairRoot⟩
    else state

def applyRemove (uuid : Uuid) : OrderbookPubkeyState H :=
  let oldState := state.pairRoot db albPair
  let state := { state.setPairRoot albPair oldState with
    ordersUuids := state.ordersUuids.erase (uuid, albPair) }
  if oldState = db.defaultRoot ∨ oldState = db.hashedNullNode then state
  else
    match db.read oldState with
    | none => state
    | some pairTrie =>
      let pairRoot := db.root (pairTrie.erase uuid)
      let state := state.setPairRoot albPair pairRoot
      match TimedMap.getUnchecked state.orderPairsTrieStateHistory albPair with
      | some history => state.recordDiff albPair history oldState ⟨[(uuid, none)], pairRoot⟩
      | none => state

def applyClearPair : OrderbookPubkeyState H :=
  { state with
    orderPairsTrieStateHistory := state.orderPairsTrieStateHistory.erase albPair
    ordersUuids := state.ordersUuids.filter fun entry => entry.2 ≠ albPair
    trieRoots := state.trieRoots.erase albPair }

/-! ### What the operations do to each field -/

section Fields

variable (uuid : Uuid) (order : OrderbookItem)

/-- The root after an insertion; an unreadable root stays. -/
def insertedRoot : H :=
  match getTrieMut db (state.pairRoot db albPair) with
  | none => state.pairRoot db albPair
  | some pairTrie => db.root (pairTrie.insert uuid order.trieStateBytes)

/-- The root after a removal. -/
def removedRoot : H :=
  let oldState := state.pairRoot db albPair
  if oldState = db.defaultRoot ∨ oldState = db.hashedNullNode then oldState
  else
    match db.read oldState with
    | none => oldState
    | some pairTrie => db.root (pairTrie.erase uuid)

@[simp] theorem applyInsert_lastKeepAlive :
    (state.applyInsert db albPair uuid order).lastKeepAlive = state.lastKeepAlive := by
  simp only [applyInsert]
  cases getTrieMut db (state.pairRoot db albPair) with
  | none => rfl
  | some pairTrie => by_cases h : state.pairRoot db albPair = db.defaultRoot <;> simp [h] <;> rfl

@[simp] theorem applyInsert_ordersUuids :
    (state.applyInsert db albPair uuid order).ordersUuids =
      insert (uuid, albPair) state.ordersUuids := by
  simp only [applyInsert]
  cases getTrieMut db (state.pairRoot db albPair) with
  | none => rfl
  | some pairTrie => by_cases h : state.pairRoot db albPair = db.defaultRoot <;> simp [h] <;> rfl

theorem applyInsert_trieRoots :
    (state.applyInsert db albPair uuid order).trieRoots =
      state.trieRoots.insert albPair (state.insertedRoot db albPair uuid order) := by
  simp only [applyInsert, insertedRoot]
  cases getTrieMut db (state.pairRoot db albPair) with
  | none => rfl
  | some pairTrie =>
    by_cases h : state.pairRoot db albPair = db.defaultRoot <;>
      simp [h, recordDiff, setPairRoot, Finmap.insert_insert]

theorem applyInsert_histories :
    (state.applyInsert db albPair uuid order).orderPairsTrieStateHistory =
      if getTrieMut db (state.pairRoot db albPair) = none ∨
          state.pairRoot db albPair = db.defaultRoot then state.orderPairsTrieStateHistory
      else TimedMap.insertExpirable state.orderPairsTrieStateHistory albPair
        (((TimedMap.getUnchecked state.orderPairsTrieStateHistory albPair).getD ∅).insertNewDiff
          (state.pairRoot db albPair)
          ⟨[(uuid, some order)], state.insertedRoot db albPair uuid order⟩) := by
  simp only [applyInsert, insertedRoot]
  cases getTrieMut db (state.pairRoot db albPair) with
  | none => rfl
  | some pairTrie =>
    by_cases h : state.pairRoot db albPair = db.defaultRoot <;>
      simp [h, recordDiff, setPairRoot]

@[simp] theorem applyRemove_lastKeepAlive :
    (state.applyRemove db albPair uuid).lastKeepAlive = state.lastKeepAlive := by
  simp only [applyRemove]
  by_cases h : state.pairRoot db albPair = db.defaultRoot ∨
      state.pairRoot db albPair = db.hashedNullNode
  · rw [if_pos h]
    rfl
  · rw [if_neg h]
    cases db.read (state.pairRoot db albPair) with
    | none => rfl
    | some pairTrie =>
      cases hget : TimedMap.getUnchecked state.orderPairsTrieStateHistory albPair <;>
        simp [setPairRoot, recordDiff, hget]

@[simp] theorem applyRemove_ordersUuids :
    (state.applyRemove db albPair uuid).ordersUuids = state.ordersUuids.erase (uuid, albPair) := by
  simp only [applyRemove]
  by_cases h : state.pairRoot db albPair = db.defaultRoot ∨
      state.pairRoot db albPair = db.hashedNullNode
  · rw [if_pos h]
  · rw [if_neg h]
    cases db.read (state.pairRoot db albPair) with
    | none => rfl
    | some pairTrie =>
      cases hget : TimedMap.getUnchecked state.orderPairsTrieStateHistory albPair <;>
        simp [setPairRoot, recordDiff, hget]

theorem applyRemove_trieRoots :
    (state.applyRemove db albPair uuid).trieRoots =
      state.trieRoots.insert albPair (state.removedRoot db albPair uuid) := by
  simp only [applyRemove, removedRoot]
  by_cases h : state.pairRoot db albPair = db.defaultRoot ∨
      state.pairRoot db albPair = db.hashedNullNode
  · rw [if_pos h, if_pos h]
    rfl
  · rw [if_neg h, if_neg h]
    cases db.read (state.pairRoot db albPair) with
    | none => rfl
    | some pairTrie =>
      cases hget : TimedMap.getUnchecked state.orderPairsTrieStateHistory albPair <;>
        simp [setPairRoot, recordDiff, hget, Finmap.insert_insert]

theorem applyRemove_histories :
    (state.applyRemove db albPair uuid).orderPairsTrieStateHistory =
      match TimedMap.getUnchecked state.orderPairsTrieStateHistory albPair with
      | none => state.orderPairsTrieStateHistory
      | some history =>
        if (state.pairRoot db albPair = db.defaultRoot ∨
            state.pairRoot db albPair = db.hashedNullNode) ∨
            db.read (state.pairRoot db albPair) = none then state.orderPairsTrieStateHistory
        else TimedMap.insertExpirable state.orderPairsTrieStateHistory albPair
          (history.insertNewDiff (state.pairRoot db albPair)
            ⟨[(uuid, none)], state.removedRoot db albPair uuid⟩) := by
  simp only [applyRemove, removedRoot]
  by_cases h : state.pairRoot db albPair = db.defaultRoot ∨
      state.pairRoot db albPair = db.hashedNullNode
  · cases hget : TimedMap.getUnchecked state.orderPairsTrieStateHistory albPair <;>
      simp [h, setPairRoot]
  · rw [if_neg h]
    cases hread : db.read (state.pairRoot db albPair) <;>
      cases hget : TimedMap.getUnchecked state.orderPairsTrieStateHistory albPair <;>
        simp [h, hget, setPairRoot, recordDiff]

end Fields

end OrderbookPubkeyState

namespace TrieStore

variable (store : TrieStore H) (pubkey : String) (albPair : AlbOrderedOrderbookPair)

/-- The state read by `pubkey_state_mut`. -/
def pubkeyStateMut (now : ℕ) : OrderbookPubkeyState H :=
  (store.pubkeysState.lookup pubkey).getD (.new now)

def setPubkeyState (state : OrderbookPubkeyState H) : TrieStore H :=
  { store with pubkeysState := store.pubkeysState.insert pubkey state }

def applyInsert (now : ℕ) (uuid : Uuid) (order : OrderbookItem) : TrieStore H :=
  store.setPubkeyState pubkey
    ((store.pubkeyStateMut pubkey now).applyInsert db albPair uuid order)

def applyRemove (now : ℕ) (uuid : Uuid) : TrieStore H :=
  store.setPubkeyState pubkey ((store.pubkeyStateMut pubkey now).applyRemove db albPair uuid)

def applyClearPair : TrieStore H :=
  match store.pubkeysState.lookup pubkey with
  | some state => store.setPubkeyState pubkey (state.applyClearPair albPair)
  | none => store

/-- One trie operation. -/
def applyOp (now : ℕ) (store : TrieStore H) : TrieOp → TrieStore H
  | .clearPair pubkey albPair => store.applyClearPair pubkey albPair
  | .insert pubkey albPair uuid order => store.applyInsert db pubkey albPair now uuid order
  | .remove pubkey albPair uuid => store.applyRemove db pubkey albPair now uuid
  | .removePubkey pubkey => { store with pubkeysState := store.pubkeysState.erase pubkey }

end TrieStore

end DeXFG.Ordermatch
