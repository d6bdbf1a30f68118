import DeXFG.Library.Runs
import DeXFG.Ordermatch.Ingest

/-!
# Consistency of the orderbook indices

The indices agree with `order_set` as long as no insertion moves a stored order
to another pair and no handler leaves a pair without orders. The first is an
invariant of single changes, the second is asked of each handler as a whole,
since a full trie first removes the orders it brings again.
-/
namespace DeXFG.Ordermatch
open DeXFG.Library.FiniteMap DeXFG.Library.SetMap DeXFG.Library.KeyedWrites DeXFG.Library.Runs
open NewProtocol

/-! ## Handlers as events -/

/-- A handler, or the expiry of recently cancelled orders. -/
inductive IndexEvent where
  | insertOrUpdateOrder (item : OrderbookItem)
  | insertOrUpdateMyOrder (item : OrderbookItem) (p2pPubkey : Option String)
  | deleteMyOrder (uuid : Uuid) (p2pPubkey : Option String)
  | makerOrderUpdated (fromPubkey : String) (msg : MakerOrderUpdated)
  | myMakerOrderUpdated (msg : MakerOrderUpdated)
  | makerOrderCancelled (fromPubkey : String) (msg : MakerOrderCancelled)
  | syncResponse (fromPubkey : String) (response : SyncPubkeyOrderbookStateRes)
  | fillOrderbook (env : FillEnv) (base rel : String) (response : GetOrderbookRes)
  | timedOutUuids (uuids : List Uuid)
  | cancelledExpired (keep : Uuid → Bool)

namespace IndexEvent

variable (it : IngestIteration)

def handle (orderbook : Orderbook) : IndexEvent → Orderbook
  | insertOrUpdateOrder item => (orderbook.indexInsertOrUpdate item).1
  | insertOrUpdateMyOrder item key => (Ordermatch.insertOrUpdateMyOrder orderbook item key).1
  | deleteMyOrder uuid key => (Ordermatch.deleteMyOrder orderbook uuid key).1
  | makerOrderUpdated fromPubkey msg =>
    ((processMakerOrderUpdated orderbook fromPubkey msg).map Prod.fst).getD orderbook
  | myMakerOrderUpdated msg => (processMyMakerOrderUpdated orderbook msg).1
  | makerOrderCancelled fromPubkey msg => (processMakerOrderCancelled orderbook fromPubkey msg).1
  | syncResponse fromPubkey response => (processSyncResponse it orderbook fromPubkey response).1
  | fillOrderbook env base rel response =>
    (Ordermatch.fillOrderbook it env orderbook base rel response).1
  | timedOutUuids uuids => (removeTimedOutUuids orderbook uuids).1
  | cancelledExpired keep =>
    { orderbook with recentlyCancelled := retain (fun u _ => keep u) orderbook.recentlyCancelled }

/-- The changes of the index that the handler makes. -/
def ops (orderbook : Orderbook) : IndexEvent → List IndexOp
  | insertOrUpdateOrder item => insertOps orderbook.recentlyCancelled item
  | insertOrUpdateMyOrder item _ => insertOps orderbook.recentlyCancelled item
  | deleteMyOrder uuid _ => [.drop uuid]
  | makerOrderUpdated fromPubkey msg =>
    updateOps orderbook (orderbook.findOrderByUuidAndPubkey msg.uuid fromPubkey) msg
  | myMakerOrderUpdated msg => updateOps orderbook (orderbook.findOrderByUuid msg.uuid) msg
  | makerOrderCancelled fromPubkey msg =>
    cancelOps orderbook fromPubkey msg.uuid
  | syncResponse fromPubkey response => syncResponseOps it orderbook fromPubkey response
  | fillOrderbook env base rel response => fillOrderbookOps it env orderbook base rel response
  | timedOutUuids uuids => uuids.map .drop
  | cancelledExpired _ => []

def step (orderbook : Orderbook) (e : IndexEvent) : Option Orderbook := some (e.handle it orderbook)

end IndexEvent

namespace Orderbook

/-! ## Consistency -/

/-- The uuid occurs in both order indices under this pair and price, and nowhere else. -/
structure OccursOnlyAt (orderbook : Orderbook) (uuid : Uuid) (pair : String × String)
    (price : MmNumber) : Prop where
  ordered : ⟨price, uuid⟩ ∈ valuesAt orderbook.ordered pair
  unordered : uuid ∈ valuesAt orderbook.unordered pair
  ordered_only : ∀ pair' price', ⟨price', uuid⟩ ∈ valuesAt orderbook.ordered pair' →
    pair' = pair ∧ price' = price
  unordered_only : ∀ pair', uuid ∈ valuesAt orderbook.unordered pair' → pair' = pair

/-- The indices describe exactly the orders of `order_set`. -/
structure Consistent (orderbook : Orderbook) : Prop where
  located : ∀ uuid pair price,
    (∃ order, orderbook.orderSet.lookup uuid = some order ∧ order.baseRel = pair ∧
      order.price = price) ↔ orderbook.OccursOnlyAt uuid pair price
  pairsForBase : ∀ base rel, rel ∈ valuesAt orderbook.pairsExistingForBase base ↔
    (valuesAt orderbook.unordered (base, rel)).Nonempty
  pairsForRel : ∀ base rel, base ∈ valuesAt orderbook.pairsExistingForRel rel ↔
    (valuesAt orderbook.unordered (base, rel)).Nonempty

/-- Some order of the map belongs to the pair. -/
def HasOrders (orders : HashMap Uuid OrderbookItem) (pair : String × String) : Prop :=
  ∃ uuid order, orders.lookup uuid = some order ∧ order.baseRel = pair

/-- The change does not move a stored order to another pair. -/
def KeepsPair (orderbook : Orderbook) : IndexOp → Prop
  | .put order => ∀ stored, orderbook.orderSet.lookup order.uuid = some stored →
      stored.baseRel = order.baseRel
  | .drop _ => True

/-- Every pair that has an order before the changes, or gets one by them, has one after them. -/
structure KeepsPairsAlive (orders : HashMap Uuid OrderbookItem) (ops : List IndexOp) : Prop where
  stored : ∀ uuid order, orders.lookup uuid = some order →
    HasOrders (applyWrites orders (ops.map IndexOp.write)) order.baseRel
  put : ∀ op ∈ ops, ∀ order, op = .put order →
    HasOrders (applyWrites orders (ops.map IndexOp.write)) order.baseRel

instance (orders : HashMap Uuid OrderbookItem) (pair : String × String) :
    Decidable (HasOrders orders pair) :=
  decidable_of_iff (anyValue (fun order => order.baseRel = pair) orders = true) <| by
    simp [anyValue_eq_true, HasOrders]

instance (orderbook : Orderbook) (op : IndexOp) : Decidable (orderbook.KeepsPair op) :=
  match op with
  | .put order => decidable_of_iff
      ((orderbook.orderSet.lookup order.uuid).all (fun stored => stored.baseRel = order.baseRel)) <|
        by cases h : orderbook.orderSet.lookup order.uuid <;> simp [KeepsPair, h]
  | .drop _ => isTrue trivial

instance (orders : HashMap Uuid OrderbookItem) (ops : List IndexOp) :
    Decidable (KeepsPairsAlive orders ops) :=
  decidable_of_iff
    ((∀ e ∈ orders.entries,
        HasOrders (applyWrites orders (ops.map IndexOp.write)) e.2.baseRel) ∧
      ∀ op ∈ ops, ∀ order ∈ op.write.2,
        HasOrders (applyWrites orders (ops.map IndexOp.write)) order.baseRel) <| by
    have hentries := forall_entries_iff (fun order : OrderbookItem =>
      HasOrders (applyWrites orders (ops.map IndexOp.write)) order.baseRel) orders
    rw [hentries]
    constructor
    · rintro ⟨hstored, hput⟩
      refine ⟨hstored, ?_⟩
      rintro op hop order rfl
      exact hput _ hop order rfl
    · rintro ⟨hstored, hput⟩
      refine ⟨hstored, ?_⟩
      rintro (order | uuid) hop order' horder
      · cases horder
        exact hput _ hop order rfl
      · cases horder

/-- Everything about the indices that survives a handler which empties a pair. -/
structure IndexInv (orderbook : Orderbook) : Prop where
  uuid_eq : ∀ uuid order, orderbook.orderSet.lookup uuid = some order → order.uuid = uuid
  ordered : ∀ pair entry, entry ∈ valuesAt orderbook.ordered pair ↔
    ∃ order, orderbook.orderSet.lookup entry.uuid = some order ∧ order.baseRel = pair ∧
      order.price = entry.price
  unordered : ∀ pair uuid, uuid ∈ valuesAt orderbook.unordered pair ↔
    ∃ order, orderbook.orderSet.lookup uuid = some order ∧ order.baseRel = pair
  pairs_symm : ∀ base rel, base ∈ valuesAt orderbook.pairsExistingForRel rel ↔
    rel ∈ valuesAt orderbook.pairsExistingForBase base
  pairs_known : ∀ uuid order, orderbook.orderSet.lookup uuid = some order →
    order.rel ∈ valuesAt orderbook.pairsExistingForBase order.base

theorem indexInv_empty : IndexInv {} := by
  constructor <;> simp

variable {orderbook orderbook' : Orderbook} {op : IndexOp} {ops : List IndexOp}

theorem IndexInv.occursOnlyAt_iff (h : orderbook.IndexInv) {uuid : Uuid} {pair : String × String}
    {price : MmNumber} :
    orderbook.OccursOnlyAt uuid pair price ↔
      ∃ order, orderbook.orderSet.lookup uuid = some order ∧ order.baseRel = pair ∧
        order.price = price := by
  constructor
  · intro hoccurs
    exact (h.ordered pair ⟨price, uuid⟩).mp hoccurs.ordered
  · rintro ⟨order, hlookup, hpair, hprice⟩
    constructor
    · exact (h.ordered pair ⟨price, uuid⟩).mpr ⟨order, hlookup, hpair, hprice⟩
    · exact (h.unordered pair uuid).mpr ⟨order, hlookup, hpair⟩
    · intro pair' price' hmem
      obtain ⟨order', hlookup', hpair', hprice'⟩ := (h.ordered pair' ⟨price', uuid⟩).mp hmem
      rw [hlookup, Option.some.injEq] at hlookup'
      subst hlookup'
      exact ⟨hpair'.symm.trans hpair, hprice'.symm.trans hprice⟩
    · intro pair' hmem
      obtain ⟨order', hlookup', hpair'⟩ := (h.unordered pair' uuid).mp hmem
      rw [hlookup, Option.some.injEq] at hlookup'
      subst hlookup'
      exact hpair'.symm.trans hpair

theorem IndexInv.nonempty_iff (h : orderbook.IndexInv) {pair : String × String} :
    (valuesAt orderbook.unordered pair).Nonempty ↔ HasOrders orderbook.orderSet pair := by
  simp only [Finset.Nonempty, h.unordered, HasOrders]

/-- What is missing for consistency: every known pair has an order. -/
theorem IndexInv.consistent_iff (h : orderbook.IndexInv) :
    orderbook.Consistent ↔ ∀ base rel, rel ∈ valuesAt orderbook.pairsExistingForBase base →
      HasOrders orderbook.orderSet (base, rel) := by
  have hknown : ∀ base rel, HasOrders orderbook.orderSet (base, rel) →
      rel ∈ valuesAt orderbook.pairsExistingForBase base := by
    rintro base rel ⟨uuid, order, hlookup, hpair⟩
    obtain ⟨rfl, rfl⟩ := Prod.mk.inj hpair
    exact h.pairs_known uuid order hlookup
  constructor
  · intro hconsistent base rel hmem
    rw [← h.nonempty_iff]
    exact (hconsistent.pairsForBase base rel).mp hmem
  · intro hall
    constructor
    · intro uuid pair price
      exact h.occursOnlyAt_iff.symm
    · intro base rel
      rw [h.nonempty_iff]
      exact ⟨hall base rel, hknown base rel⟩
    · intro base rel
      rw [h.nonempty_iff, h.pairs_symm]
      exact ⟨hall base rel, hknown base rel⟩

/-! ## One change -/

/-- The pairs known after a change. -/
theorem mem_pairsExistingForBase_exec {base rel : String} :
    rel ∈ valuesAt (orderbook.exec op).1.pairsExistingForBase base ↔
      rel ∈ valuesAt orderbook.pairsExistingForBase base ∨
        ∃ order, op = .put order ∧ order.baseRel = (base, rel) := by
  cases op with
  | put order =>
    change rel ∈ valuesAt (addTo orderbook.pairsExistingForBase order.base order.rel) base ↔ _
    simp [mem_valuesAt_addTo, OrderbookItem.baseRel, or_comm, eq_comm]
  | drop uuid =>
    cases h : orderbook.orderSet.lookup uuid with
    | none => simp [exec_drop_of_none h]
    | some order => simp [exec_drop_of_some h]

theorem mem_pairsExistingForRel_exec {base rel : String} :
    base ∈ valuesAt (orderbook.exec op).1.pairsExistingForRel rel ↔
      base ∈ valuesAt orderbook.pairsExistingForRel rel ∨
        ∃ order, op = .put order ∧ order.baseRel = (base, rel) := by
  cases op with
  | put order =>
    change base ∈ valuesAt (addTo orderbook.pairsExistingForRel order.rel order.base) rel ↔ _
    simp [mem_valuesAt_addTo, OrderbookItem.baseRel, or_comm, and_comm, eq_comm]
  | drop uuid =>
    cases h : orderbook.orderSet.lookup uuid with
    | none => simp [exec_drop_of_none h]
    | some order => simp [exec_drop_of_some h]

/-- The entries left when a uuid has at most one of them. -/
theorem mem_removeExisting {ordered : Finset OrderedByPriceOrder} {uuid : Uuid}
    {entry : OrderedByPriceOrder}
    (hunique : ∀ price price', ⟨price, uuid⟩ ∈ ordered → ⟨price', uuid⟩ ∈ ordered →
      price = price') :
    entry ∈ removeExisting ordered uuid ↔ entry ∈ ordered ∧ entry.uuid ≠ uuid := by
  unfold removeExisting
  cases hfirst : firstWhere (fun maybeExisting => maybeExisting.uuid = uuid) ordered with
  | none =>
    have hnone := firstWhere_eq_none.mp hfirst
    constructor
    · intro hmem
      exact ⟨hmem, by simpa using hnone entry hmem⟩
    · exact And.left
  | some found =>
    obtain ⟨hfound, huuid⟩ := mem_of_firstWhere hfirst
    rw [decide_eq_true_eq] at huuid
    change entry ∈ ordered.erase found ↔ _
    rw [Finset.mem_erase, and_comm]
    apply and_congr_right
    intro hmem
    rw [not_iff_not]
    constructor
    · rintro rfl
      exact huuid
    · intro hentry
      obtain ⟨price, uuid'⟩ := entry
      obtain ⟨price', uuid''⟩ := found
      simp only at hentry huuid
      subst hentry huuid
      rw [hunique price price' hmem hfound]

theorem mem_ordered_put {order : OrderbookItem} {pair : String × String}
    {entry : OrderedByPriceOrder}
    (hunique : ∀ price price', ⟨price, order.uuid⟩ ∈ valuesAt orderbook.ordered order.baseRel →
      ⟨price', order.uuid⟩ ∈ valuesAt orderbook.ordered order.baseRel → price = price') :
    entry ∈ valuesAt (orderbook.exec (.put order)).1.ordered pair ↔
      (pair = order.baseRel ∧ entry = ⟨order.price, order.uuid⟩) ∨
        (entry ∈ valuesAt orderbook.ordered pair ∧
          ¬(pair = order.baseRel ∧ entry.uuid = order.uuid)) := by
  change entry ∈ valuesAt (orderbook.ordered.insert order.baseRel (insert _
    (removeExisting (valuesAt orderbook.ordered order.baseRel) order.uuid))) pair ↔ _
  by_cases hpair : pair = order.baseRel
  · subst hpair
    rw [valuesAt_insert_self, Finset.mem_insert, mem_removeExisting hunique]
    simp
  · rw [valuesAt_insert_of_ne hpair]
    simp [hpair]

theorem IndexInv.put (h : orderbook.IndexInv) {order : OrderbookItem}
    (hkeeps : orderbook.KeepsPair (.put order)) : (orderbook.exec (.put order)).1.IndexInv := by
  have hset : ∀ u, (orderbook.exec (.put order)).1.orderSet.lookup u =
      if order.uuid = u then some order else orderbook.orderSet.lookup u := by
    intro u
    rw [orderSet_exec, lookup_applyWrite]
    rfl
  have hstored : ∀ pair, pair ≠ order.baseRel → ∀ stored,
      orderbook.orderSet.lookup order.uuid = some stored → stored.baseRel ≠ pair := by
    intro pair hpair stored hlookup heq
    exact hpair (heq.symm.trans (hkeeps stored hlookup))
  constructor
  · intro u stored hlookup
    rw [hset] at hlookup
    by_cases hu : order.uuid = u
    · rw [if_pos hu, Option.some.injEq] at hlookup
      rw [← hlookup, hu]
    · rw [if_neg hu] at hlookup
      exact h.uuid_eq u stored hlookup
  · rintro pair ⟨price, u⟩
    rw [mem_ordered_put, hset]
    · by_cases hu : order.uuid = u
      · subst hu
        by_cases hpair : pair = order.baseRel
        · simp [hpair, eq_comm]
        · rw [h.ordered]
          have hnone : ¬∃ stored, orderbook.orderSet.lookup order.uuid = some stored ∧
              stored.baseRel = pair ∧ stored.price = price := by
            rintro ⟨stored, hlookup, heq, _⟩
            exact hstored pair hpair stored hlookup heq
          simp [hpair, hnone, Ne.symm hpair]
      · have hne : u ≠ order.uuid := Ne.symm hu
        simp [hu, hne, h.ordered]
    · intro price price' hmem hmem'
      obtain ⟨stored, hlookup, _, hprice⟩ := (h.ordered _ _).mp hmem
      obtain ⟨stored', hlookup', _, hprice'⟩ := (h.ordered _ _).mp hmem'
      rw [hlookup, Option.some.injEq] at hlookup'
      exact hprice.symm.trans (hlookup' ▸ hprice')
  · intro pair u
    change _ ∈ valuesAt (addTo orderbook.unordered order.baseRel order.uuid) pair ↔ _
    rw [mem_valuesAt_addTo, hset]
    by_cases hu : order.uuid = u
    · subst hu
      by_cases hpair : pair = order.baseRel
      · simp [hpair]
      · have hnone : order.uuid ∉ valuesAt orderbook.unordered pair := by
          rw [h.unordered]
          rintro ⟨stored, hlookup, heq⟩
          exact hstored pair hpair stored hlookup heq
        simp [hpair, hnone, Ne.symm hpair]
    · have hne : u ≠ order.uuid := Ne.symm hu
      simp [hu, hne, h.unordered]
  · intro base rel
    rw [mem_pairsExistingForBase_exec, mem_pairsExistingForRel_exec, h.pairs_symm]
  · intro u stored hlookup
    rw [mem_pairsExistingForBase_exec]
    rw [hset] at hlookup
    by_cases hu : order.uuid = u
    · rw [if_pos hu, Option.some.injEq] at hlookup
      exact Or.inr ⟨order, rfl, by rw [hlookup]; rfl⟩
    · rw [if_neg hu] at hlookup
      exact Or.inl (h.pairs_known u stored hlookup)

theorem IndexInv.drop (h : orderbook.IndexInv) (uuid : Uuid) :
    (orderbook.exec (.drop uuid)).1.IndexInv := by
  cases hlookup : orderbook.orderSet.lookup uuid with
  | none =>
    rw [exec_drop_of_none hlookup]
    exact h
  | some order =>
    have hset : ∀ u stored, (orderbook.orderSet.erase uuid).lookup u = some stored ↔
        u ≠ uuid ∧ orderbook.orderSet.lookup u = some stored := by
      intro u stored
      by_cases hu : u = uuid
      · subst hu
        simp
      · simp [hu, Finmap.lookup_erase_ne hu]
    rw [exec_drop_of_some hlookup]
    constructor
    · intro u stored hstored
      exact h.uuid_eq u stored ((hset u stored).mp hstored).2
    · rintro pair ⟨price, u⟩
      simp only [hset, mem_valuesAt_dropFrom, h.ordered]
      constructor
      · rintro ⟨⟨stored, hstored, hpair, hprice⟩, hnot⟩
        refine ⟨stored, ⟨?_, hstored⟩, hpair, hprice⟩
        rintro rfl
        rw [hlookup, Option.some.injEq] at hstored
        subst hstored
        exact hnot ⟨hpair.symm, by rw [hprice]⟩
      · rintro ⟨stored, ⟨hu, hstored⟩, hpair, hprice⟩
        refine ⟨⟨stored, hstored, hpair, hprice⟩, ?_⟩
        rintro ⟨_, heq⟩
        exact hu (congrArg OrderedByPriceOrder.uuid heq)
    · intro pair u
      simp only [hset, mem_valuesAt_dropFrom, h.unordered]
      constructor
      · rintro ⟨⟨stored, hstored, hpair⟩, hnot⟩
        refine ⟨stored, ⟨?_, hstored⟩, hpair⟩
        rintro rfl
        rw [hlookup, Option.some.injEq] at hstored
        subst hstored
        exact hnot ⟨hpair.symm, rfl⟩
      · rintro ⟨stored, ⟨hu, hstored⟩, hpair⟩
        exact ⟨⟨stored, hstored, hpair⟩, fun hand => hu hand.2⟩
    · exact h.pairs_symm
    · intro u stored hstored
      exact h.pairs_known u stored ((hset u stored).mp hstored).2

theorem IndexInv.exec (h : orderbook.IndexInv) (hkeeps : orderbook.KeepsPair op) :
    (orderbook.exec op).1.IndexInv := by
  cases op with
  | put order => exact h.put hkeeps
  | drop uuid => exact h.drop uuid

/-! ## Sequences of changes -/

def execStep (orderbook : Orderbook) (op : IndexOp) : Option Orderbook :=
  some (orderbook.exec op).1

theorem run_execStep (orderbook : Orderbook) (ops : List IndexOp) :
    run execStep orderbook ops = some (orderbook.execAll ops).1 := by
  induction ops generalizing orderbook with
  | nil => rfl
  | cons op ops ih =>
    rw [run_cons_eq_some]
    exact ⟨(orderbook.exec op).1, rfl, ih _⟩

theorem IndexInv.execAll (h : orderbook.IndexInv) (hkeeps : Meets execStep KeepsPair orderbook ops) :
    (orderbook.execAll ops).1.IndexInv := by
  apply invariant_run (I := IndexInv) _ h hkeeps (run_execStep orderbook ops)
  rintro s op s' hinv hop hstep
  obtain rfl := Option.some.inj hstep
  exact hinv.exec hop

theorem mem_pairsExistingForBase_execAll {base rel : String} :
    rel ∈ valuesAt (orderbook.execAll ops).1.pairsExistingForBase base ↔
      rel ∈ valuesAt orderbook.pairsExistingForBase base ∨
        ∃ op ∈ ops, ∃ order, op = .put order ∧ order.baseRel = (base, rel) := by
  induction ops generalizing orderbook with
  | nil => simp
  | cons op ops ih =>
    rw [execAll_cons, ih, mem_pairsExistingForBase_exec, or_assoc, List.exists_mem_cons_iff]

/-- Changes that move no order and leave no pair without orders keep the indices consistent. -/
theorem Consistent.execAll (hconsistent : orderbook.Consistent) (h : orderbook.IndexInv)
    (hkeeps : Meets execStep KeepsPair orderbook ops)
    (halive : KeepsPairsAlive orderbook.orderSet ops) :
    (orderbook.execAll ops).1.Consistent := by
  rw [(h.execAll hkeeps).consistent_iff]
  intro base rel hmem
  rw [orderSet_execAll]
  rcases mem_pairsExistingForBase_execAll.mp hmem with hknown | ⟨op, hop, order, hput, hpair⟩
  · obtain ⟨uuid, order, hlookup, hpair⟩ := h.consistent_iff.mp hconsistent base rel hknown
    rw [← hpair]
    exact halive.stored uuid order hlookup
  · rw [← hpair]
    exact halive.put op hop order hput

/-- What a single change must not do. -/
def SafeOp (orderbook : Orderbook) (op : IndexOp) : Prop :=
  orderbook.KeepsPair op ∧ KeepsPairsAlive orderbook.orderSet [op]

/-- From a consistent orderbook a single change leads to a consistent one exactly when it moves
no order to another pair and does not take the last order of a pair. -/
theorem consistent_exec_iff (h : orderbook.IndexInv) (hconsistent : orderbook.Consistent) :
    (orderbook.exec op).1.Consistent ↔ orderbook.SafeOp op := by
  constructor
  · intro hafter
    have hkeeps : orderbook.KeepsPair op := by
      cases op with
      | drop uuid => trivial
      | put order =>
        intro stored hlookup
        have hput : (orderbook.exec (.put order)).1.orderSet.lookup order.uuid = some order := by
          simp [orderSet_exec, lookup_applyWrite, IndexOp.write]
        have honly := ((hafter.located order.uuid order.baseRel order.price).mp
          ⟨order, hput, rfl, rfl⟩).unordered_only
        apply honly
        change _ ∈ valuesAt (addTo orderbook.unordered order.baseRel order.uuid) _
        exact mem_valuesAt_addTo.mpr (Or.inr ((h.unordered _ _).mpr ⟨stored, hlookup, rfl⟩))
    have hall := (h.exec hkeeps).consistent_iff.mp hafter
    have hset : (orderbook.exec op).1.orderSet =
        applyWrites orderbook.orderSet ([op].map IndexOp.write) := by
      rw [orderSet_exec]
      rfl
    rw [hset] at hall
    refine ⟨hkeeps, ?_, ?_⟩
    · intro uuid order hlookup
      apply hall
      exact mem_pairsExistingForBase_exec.mpr (Or.inl (h.pairs_known uuid order hlookup))
    · intro op' hop' order hput
      rw [List.mem_singleton] at hop'
      apply hall
      exact mem_pairsExistingForBase_exec.mpr (Or.inr ⟨order, hop' ▸ hput, rfl⟩)
  · rintro ⟨hkeeps, halive⟩
    have hmeets : Meets execStep KeepsPair orderbook [op] := ⟨hkeeps, fun _ _ => trivial⟩
    have hresult := hconsistent.execAll h hmeets halive
    rwa [execAll_singleton] at hresult

theorem consistent_empty : Consistent {} := by
  rw [indexInv_empty.consistent_iff]
  simp

/-- The indices are consistent after every prefix of a sequence of changes exactly when every
change moves no order and takes no last order. -/
theorem consistent_along_iff (ops : List IndexOp) :
    (∀ pre, pre <+: ops → (execAll {} pre).1.Consistent) ↔ Meets execStep SafeOp {} ops := by
  have hexact : ∀ s op s', IndexInv s → Consistent s → execStep s op = some s' →
      (Consistent s' ↔ SafeOp s op) := by
    intro s op s' hinv hconsistent hstep
    obtain rfl := Option.some.inj hstep
    exact consistent_exec_iff hinv hconsistent
  have hstep : ∀ s op s', IndexInv s → SafeOp s op → execStep s op = some s' → IndexInv s' := by
    intro s op s' hinv hsafe hstep
    obtain rfl := Option.some.inj hstep
    exact hinv.exec hsafe.1
  have htotal : ∀ s op, ∃ s', execStep s op = some s' := fun s op => ⟨(s.exec op).1, rfl⟩
  rw [meets_iff_forall_append htotal hexact hstep indexInv_empty consistent_empty]
  simp only [run_execStep, Option.some.injEq, forall_eq']

/-! ## Runs of handlers -/

variable {cancelled : HashMap Uuid String} {keys : Finset String}

theorem IndexInv.withMemory (h : orderbook.IndexInv) :
    (orderbook.withMemory cancelled keys).IndexInv :=
  ⟨h.uuid_eq, h.ordered, h.unordered, h.pairs_symm, h.pairs_known⟩

theorem Consistent.withMemory (h : orderbook.Consistent) :
    (orderbook.withMemory cancelled keys).Consistent where
  located uuid pair price := by
    refine (h.located uuid pair price).trans ⟨?_, ?_⟩
    · rintro ⟨h₁, h₂, h₃, h₄⟩
      exact ⟨h₁, h₂, h₃, h₄⟩
    · rintro ⟨h₁, h₂, h₃, h₄⟩
      exact ⟨h₁, h₂, h₃, h₄⟩
  pairsForBase := h.pairsForBase
  pairsForRel := h.pairsForRel

end Orderbook

namespace IndexEvent
open Orderbook

variable (it : IngestIteration)

/-- Every handler makes its changes of the index, and may change the expiring data and the own
keys. -/
theorem handle_eq (orderbook : Orderbook) (e : IndexEvent) :
    ∃ cancelled keys, e.handle it orderbook =
      (orderbook.execAll (e.ops it orderbook)).1.withMemory cancelled keys := by
  have hupdate : ∀ found msg, ((found.map fun order : OrderbookItem =>
      orderbook.indexInsertOrUpdate (order.applyUpdated msg)).map Prod.fst).getD orderbook =
        (orderbook.execAll (updateOps orderbook found msg)).1 := by
    rintro (_ | order) msg
    · rfl
    · simp only [updateOps, indexInsertOrUpdate_eq, Option.map_some, Option.getD_some]
  cases e with
  | insertOrUpdateOrder item =>
    exact ⟨_, _, congrArg Prod.fst (indexInsertOrUpdate_eq orderbook item)⟩
  | insertOrUpdateMyOrder item key =>
    cases key with
    | none => exact ⟨_, _, congrArg Prod.fst (indexInsertOrUpdate_eq orderbook item)⟩
    | some key =>
      refine ⟨orderbook.recentlyCancelled, insert key orderbook.myP2pPubkeys, ?_⟩
      simp [handle, ops, Ordermatch.insertOrUpdateMyOrder, indexInsertOrUpdate_eq, withMemory]
  | deleteMyOrder uuid key =>
    cases key with
    | none => exact ⟨_, _, rfl⟩
    | some key =>
      refine ⟨orderbook.recentlyCancelled, orderbook.myP2pPubkeys.erase key, ?_⟩
      have hcancelled : (orderbook.exec (.drop uuid)).1.recentlyCancelled =
          orderbook.recentlyCancelled := recentlyCancelled_exec
      have hkeys : (orderbook.exec (.drop uuid)).1.myP2pPubkeys = orderbook.myP2pPubkeys :=
        myP2pPubkeys_exec
      simp only [exec] at hcancelled hkeys
      simp [handle, ops, Ordermatch.deleteMyOrder, execAll_singleton, exec, withMemory, hcancelled,
        hkeys]
  | makerOrderUpdated fromPubkey msg => exact ⟨_, _, hupdate _ msg⟩
  | myMakerOrderUpdated msg =>
    refine ⟨_, _, Eq.trans ?_ (hupdate (orderbook.findOrderByUuid msg.uuid) msg)⟩
    simp only [handle, processMyMakerOrderUpdated]
    cases orderbook.findOrderByUuid msg.uuid <;> rfl
  | makerOrderCancelled fromPubkey msg =>
    refine ⟨orderbook.recentlyCancelled.insert msg.uuid fromPubkey, orderbook.myP2pPubkeys, ?_⟩
    exact congrArg Prod.fst (processMakerOrderCancelled_eq orderbook fromPubkey msg)
  | syncResponse fromPubkey response =>
    exact ⟨_, _, processSyncResponse_fst it orderbook fromPubkey response⟩
  | fillOrderbook env base rel response =>
    exact ⟨_, _, fillOrderbook_fst it env orderbook base rel response⟩
  | timedOutUuids uuids =>
    exact ⟨_, _, congrArg Prod.fst (removeTimedOutUuids_eq orderbook uuids)⟩
  | cancelledExpired keep => exact ⟨_, orderbook.myP2pPubkeys, rfl⟩

/-- What a handler must not do: move a stored order to another pair, or leave a pair that had an
order without any. -/
structure Safe (orderbook : Orderbook) (e : IndexEvent) : Prop where
  keepsPair : Meets execStep KeepsPair orderbook (e.ops it orderbook)
  keepsPairsAlive : KeepsPairsAlive orderbook.orderSet (e.ops it orderbook)

instance (orderbook : Orderbook) (e : IndexEvent) : Decidable (e.Safe it orderbook) :=
  decidable_of_iff (Meets execStep KeepsPair orderbook (e.ops it orderbook) ∧
    KeepsPairsAlive orderbook.orderSet (e.ops it orderbook)) ⟨fun h => ⟨h.1, h.2⟩,
      fun h => ⟨h.1, h.2⟩⟩

theorem consistent_handle {orderbook : Orderbook} {e : IndexEvent}
    (h : orderbook.IndexInv ∧ orderbook.Consistent) (hsafe : e.Safe it orderbook) :
    (e.handle it orderbook).IndexInv ∧ (e.handle it orderbook).Consistent := by
  obtain ⟨cancelled, keys, heq⟩ := handle_eq it orderbook e
  rw [heq]
  exact ⟨(h.1.execAll hsafe.keepsPair).withMemory,
    (h.2.execAll h.1 hsafe.keepsPair hsafe.keepsPairsAlive).withMemory⟩

/-- In every run of handlers that neither move an order to another pair nor take the last order
of a pair, every state reached has consistent indices. -/
theorem consistent_of_run {es : List IndexEvent} {orderbook : Orderbook}
    (hsafe : Meets (step it) (fun s e => e.Safe it s) {} es)
    (hrun : run (step it) {} es = some orderbook) : orderbook.Consistent := by
  refine (invariant_run (I := fun s => s.IndexInv ∧ s.Consistent) ?_
    ⟨indexInv_empty, consistent_empty⟩ hsafe hrun).2
  intro s e s' h hsafe hstep
  obtain rfl := Option.some.inj hstep
  exact consistent_handle it h hsafe

/-- Two orders of one pair, a new price for the first and the removal of the second. -/
def testRun : List IndexEvent :=
  [.insertOrUpdateOrder (testItem "alice" "KMD" "BTC" 1 1),
    .insertOrUpdateOrder (testItem "bob" "KMD" "BTC" 2 2),
    .insertOrUpdateOrder (testItem "alice" "KMD" "BTC" 3 1), .deleteMyOrder 2 none]

theorem consistent_testRun : ∃ orderbook, run (step sortedIngest) {} testRun = some orderbook ∧
    orderbook.Consistent := by
  have hsafe : Meets (step sortedIngest) (fun s e => e.Safe sortedIngest s) {} testRun := by
    decide +kernel
  exact ⟨_, rfl, consistent_of_run sortedIngest hsafe rfl⟩

/-- A second message with the uuid of an order moves it to another pair; and the removal of the
only order of a pair leaves the pair among the existing ones. -/
theorem not_consistent_moved_or_emptied :
    (¬∀ orderbook, run (step sortedIngest) {}
      [.insertOrUpdateOrder (testItem "alice" "KMD" "BTC" 1 1),
        .insertOrUpdateOrder (testItem "alice" "KMD" "LTC" 1 1)] = some orderbook →
      orderbook.Consistent) ∧
    ¬∀ orderbook, run (step sortedIngest) {}
      [.insertOrUpdateOrder (testItem "alice" "KMD" "BTC" 1 1), .deleteMyOrder 1 none] =
        some orderbook → orderbook.Consistent := by
  constructor
  · intro h
    have hlocated := ((h _ rfl).located 1 ("KMD", "LTC") 1).mp (by decide +kernel)
    have hmoved := hlocated.unordered_only ("KMD", "BTC") (by decide +kernel)
    exact absurd hmoved (by decide)
  · intro h
    have hpairs := ((h _ rfl).pairsForBase "KMD" "BTC").mp (by decide +kernel)
    exact absurd hpairs (by decide +kernel)

end IndexEvent

end DeXFG.Ordermatch
