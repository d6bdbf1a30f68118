import DeXFG.Library.Runs
import DeXFG.Ordermatch.SingleSwap

/-!
# Cancelling own orders

`cancel_order` checks and removes a maker order under the lock of the order.
`cancel_orders_by` checks the orders of a snapshot one after the other, lets
each of them go, and removes the ones it found free at the end, whatever has
happened to them in between.
-/
namespace DeXFG.Ordermatch
open DeXFG.Library.FiniteMap DeXFG.Library.Runs MakerOrder

inductive CancelBy where
  /-- All orders of current node. -/
  | all
  /-- All orders of specific pair. -/
  | pair (base rel : String)
  /-- All orders using the coin ticker as base or rel. -/
  | coin (ticker : String)
  deriving DecidableEq

namespace CancelBy

def covers (c : CancelBy) (base rel : String) : Bool :=
  match c with
  | .all => true
  | .pair b r => base == b && rel == r
  | .coin ticker => base == ticker || rel == ticker

end CancelBy

namespace TakerOrder

def isCancellable (t : TakerOrder) : Bool := decide (t.orderMatches = ∅)

end TakerOrder

/-- A call of `cancel_orders_by` in progress. -/
structure CancelOrdersBy where
  cancelBy : CancelBy
  /-- The part of the snapshot that is still to be visited. -/
  toVisit : List Uuid
  /-- Maker orders found cancellable; they are `to_remove`. -/
  cancelled : List Uuid
  currentlyMatching : List Uuid
  deriving DecidableEq

/-- An order as it was when it was removed. -/
inductive RemovedOrder where
  | maker (uuid : Uuid) (order : MakerOrder)
  | taker (uuid : Uuid) (order : TakerOrder)
  deriving DecidableEq

namespace RemovedOrder

def uuid : RemovedOrder → Uuid
  | .maker uuid _ => uuid
  | .taker uuid _ => uuid

def isMaker : RemovedOrder → Bool
  | .maker _ _ => true
  | .taker _ _ => false

/-- The order had no ongoing match. -/
def isCancellable : RemovedOrder → Bool
  | .maker _ order => !order.hasOngoingMatches
  | .taker _ order => order.isCancellable

end RemovedOrder

/-- What a call says of an order it finds in an ongoing match. -/
inductive MatchingReport where
  | currentlyMatching
  | uuidNotFound
  deriving DecidableEq

/-- What the cancelling calls have done and said. -/
structure CancelRecord where
  removed : List RemovedOrder
  /-- Orders that a caller was told are cancelled. -/
  reported : List Uuid
  /-- Orders a `MakerOrderCancelled` message was broadcast for. -/
  broadcast : List Uuid
  matching : List (Uuid × MatchingReport)
  /-- Answers of `cancel_orders_by`: the cancelled and the currently matching orders. -/
  answers : List (List Uuid × List Uuid)
  deriving DecidableEq

structure CancelNode where
  node : OrderNode
  /-- Calls of `cancel_order` that wait for the lock of a maker order. -/
  lockingMaker : List Uuid
  /-- Calls of `cancel_order` that found no maker order and wait for the taker orders. -/
  lockingTaker : List Uuid
  calls : List CancelOrdersBy
  record : CancelRecord
  deriving DecidableEq

inductive CancelEvent where
  /-- A message, a timer, or an RPC that cancels nothing. -/
  | node (e : OrderNodeEvent)
  | cancelOrder (uuid : Uuid)
  | makerLocked (index : ℕ)
  | takerLocked (index : ℕ)
  | cancelOrdersBy (cancelBy : CancelBy) (it : Iteration Uuid OwnOrder)
  /-- A call locks the next order of its snapshot. -/
  | visited (index : ℕ)
  /-- A call that has visited its snapshot removes the orders. -/
  | finished (index : ℕ) (it : Iteration Uuid TakerOrder)

namespace OrderNode

/-- The uuid is in `maker_orders_ctx.orders`. -/
def IsListed (s : OrderNode) (uuid : Uuid) : Prop :=
  ∃ o, s.makerOrders.lookup uuid = some o ∧ o.listed = true

instance (s : OrderNode) (uuid : Uuid) : Decidable (s.IsListed uuid) :=
  decidable_of_iff ((s.makerOrders.lookup uuid).any fun o => o.listed) <| by
    simp [IsListed, Option.any_eq_true]

end OrderNode

namespace CancelNode

variable (ourPublicId : H256)

/-- `MakerOrdersContext::remove_order`, recorded when there is an order to remove. -/
def removeMaker (s : CancelNode) (uuid : Uuid) : CancelNode :=
  match s.node.makerOrders.lookup uuid with
  | none => s
  | some o =>
    if o.listed then
      { s with
        node :=
          { s.node with
            makerOrders := s.node.makerOrders.insert uuid { o with listed := false } }
        record := { s.record with removed := s.record.removed ++ [.maker uuid o.order] } }
    else s

/-- `cancel_order` with the lock of the maker order. -/
def makerLocked (s : CancelNode) (uuid : Uuid) : CancelNode :=
  match s.node.makerOrders.lookup uuid with
  | none => s
  | some o =>
    if o.order.hasOngoingMatches then
      { s with
        record := { s.record with
          matching := s.record.matching ++ [(uuid, .currentlyMatching)] } }
    else
      let s' := s.removeMaker uuid
      { s' with
        record := { s'.record with
          -- only if the order hasn't been removed by another process
          broadcast := if o.listed then s'.record.broadcast ++ [uuid] else s'.record.broadcast
          reported := s'.record.reported ++ [uuid] } }

/-- `cancel_order` with the lock of the taker orders. -/
def takerLocked (s : CancelNode) (uuid : Uuid) : CancelNode :=
  match s.node.taker.myTakerOrders.lookup uuid with
  | none => s
  | some order =>
    if order.isCancellable then
      { s with
        node :=
          { s.node with
            taker :=
              { s.node.taker with myTakerOrders := s.node.taker.myTakerOrders.erase uuid } }
        record := { s.record with
          removed := s.record.removed ++ [.taker uuid order]
          reported := s.record.reported ++ [uuid] } }
    else
      { s with
        record := { s.record with matching := s.record.matching ++ [(uuid, .uuidNotFound)] } }

/-- `cancel_maker_if_true` on the next order of the snapshot. -/
def visited (s : CancelNode) (index : ℕ) (call : CancelOrdersBy) : CancelNode :=
  match call.toVisit with
  | [] => s
  | uuid :: toVisit =>
    match s.node.makerOrders.lookup uuid with
    | none => s
    | some o =>
      if call.cancelBy.covers o.order.base o.order.rel then
        if o.order.hasOngoingMatches then
          { s with
            calls := s.calls.set index { call with
              toVisit := toVisit
              currentlyMatching := call.currentlyMatching ++ [uuid] }
            record := { s.record with
              matching := s.record.matching ++ [(uuid, .currentlyMatching)] } }
        else
          { s with
            calls := s.calls.set index { call with
              toVisit := toVisit
              cancelled := call.cancelled ++ [uuid] } }
      else { s with calls := s.calls.set index { call with toVisit := toVisit } }

/-- The taker orders of a call, by whether they can be cancelled. -/
def coveredTakers (s : CancelNode) (cancelBy : CancelBy) (it : Iteration Uuid TakerOrder)
    (cancellable : Bool) : List (Uuid × TakerOrder) :=
  (it.toList s.node.taker.myTakerOrders).filter fun e =>
    cancelBy.covers e.2.request.base e.2.request.rel && e.2.isCancellable == cancellable

/-- The end of `cancel_orders_by`. -/
def finished (s : CancelNode) (call : CancelOrdersBy) (it : Iteration Uuid TakerOrder) :
    CancelNode :=
  let takers := s.coveredTakers call.cancelBy it true
  let matchingTakers := (s.coveredTakers call.cancelBy it false).map Prod.fst
  let s' := call.cancelled.foldl removeMaker s
  { s' with
    node :=
      { s'.node with
        taker :=
          { s'.node.taker with
            myTakerOrders := retain (fun _ order =>
              !(call.cancelBy.covers order.request.base order.request.rel && order.isCancellable))
              s'.node.taker.myTakerOrders } }
    record :=
      { removed := s'.record.removed ++ takers.map fun e => .taker e.1 e.2
        reported := s'.record.reported ++ (call.cancelled ++ takers.map Prod.fst)
        broadcast := s'.record.broadcast ++ call.cancelled
        matching := s'.record.matching ++ matchingTakers.map fun uuid => (uuid, .currentlyMatching)
        answers := s'.record.answers ++ [(call.cancelled ++ takers.map Prod.fst,
          call.currentlyMatching ++ matchingTakers)] } }

def step (s : CancelNode) : CancelEvent → CancelNode
  | .node e => { s with node := s.node.step ourPublicId e }
  | .cancelOrder uuid =>
    if s.node.IsListed uuid then { s with lockingMaker := s.lockingMaker ++ [uuid] }
    else { s with lockingTaker := s.lockingTaker ++ [uuid] }
  | .makerLocked index =>
    match s.lockingMaker[index]? with
    | none => s
    | some uuid => { s with lockingMaker := s.lockingMaker.eraseIdx index }.makerLocked uuid
  | .takerLocked index =>
    match s.lockingTaker[index]? with
    | none => s
    | some uuid => { s with lockingTaker := s.lockingTaker.eraseIdx index }.takerLocked uuid
  | .cancelOrdersBy cancelBy it =>
    { s with
      calls := s.calls ++
        [{ cancelBy := cancelBy
           toVisit := ((it.toList s.node.makerOrders).filter fun e => e.2.listed).map Prod.fst
           cancelled := []
           currentlyMatching := [] }] }
  | .visited index =>
    match s.calls[index]? with
    | none => s
    | some call => s.visited index call
  | .finished index it =>
    match s.calls[index]? with
    | none => s
    | some call =>
      if call.toVisit = [] then { s with calls := s.calls.eraseIdx index }.finished call it
      else s

end CancelNode

/-! ## Orders that are gone -/

namespace TakerSide

theorem uuids_step {ourPublicId : H256} (s : TakerSide) (e : TakerEvent) :
    s.uuids ⊆ (s.step ourPublicId e).uuids := by
  cases e with
  | newOrder builder env =>
    rw [TakerSide.step]
    split
    · rw [TakerSide.insertOrder]
      split
      · exact Finset.Subset.refl _
      · exact Finset.subset_insert _ _
    · exact Finset.Subset.refl _
  | removed uuid => exact Finset.Subset.refl _
  | makerReserved fromPubkey msg =>
    rw [TakerSide.step, checkReserved]
    repeat' split
    all_goals exact Finset.Subset.refl _
  | stored index =>
    rw [TakerSide.step]
    split <;> exact Finset.Subset.refl _
  | drained index env =>
    rw [TakerSide.step]
    split
    · exact Finset.Subset.refl _
    rw [drainReserved]
    repeat' split
    any_goals exact Finset.Subset.refl _
    rw [TakerSide.processPending]
    split <;> exact Finset.Subset.refl _
  | makerConnected fromPubkey msg =>
    rw [TakerSide.step, TakerSide.processMakerConnected]
    repeat' split
    all_goals exact Finset.Subset.refl _

end TakerSide

namespace OrderNode

variable {ourPublicId : H256} {s : OrderNode} {uuid : Uuid}

/-- No order has the uuid any more, and none will. -/
structure Gone (s : OrderNode) (uuid : Uuid) : Prop where
  unlisted : ¬ s.IsListed uuid
  taker : uuid ∉ s.taker.myTakerOrders
  used : ¬ s.Unused uuid

theorem IsListed.mem (h : s.IsListed uuid) : uuid ∈ s.makerOrders := by
  obtain ⟨o, ho, -⟩ := h
  exact Finmap.mem_of_lookup_eq_some ho

theorem isListed_setMaker {s' : OrderNode} {uuid' : Uuid} {o o' : OwnOrder}
    (ho : s.makerOrders.lookup uuid' = some o) (hlisted : o.listed = false → o'.listed = false)
    (hmakers : s'.makerOrders = s.makerOrders.insert uuid' o') (h : s'.IsListed uuid) :
    s.IsListed uuid := by
  obtain ⟨o₀, ho₀, hlisted₀⟩ := h
  rw [hmakers] at ho₀
  rcases lookup_insert_eq_some.mp ho₀ with ⟨rfl, rfl⟩ | ⟨-, hold⟩
  · refine ⟨o, ho, ?_⟩
    by_contra hnot
    simp [hlisted (by simpa using hnot)] at hlisted₀
  · exact ⟨o₀, hold, hlisted₀⟩

theorem Gone.setMaker {s' : OrderNode} (h : s.Gone uuid) {uuid' : Uuid} {o o' : OwnOrder}
    (ho : s.makerOrders.lookup uuid' = some o)
    (hmakers : s'.makerOrders = s.makerOrders.insert uuid' o') (htaker : s'.taker = s.taker)
    (hlisted : o.listed = false → o'.listed = false) : s'.Gone uuid where
  unlisted hmem := h.unlisted (isListed_setMaker ho hlisted hmakers hmem)
  taker := htaker ▸ h.taker
  used hunused := h.used
    ⟨fun hmem => hunused.1 (hmakers ▸ Finmap.mem_insert.mpr (.inr hmem)), htaker ▸ hunused.2⟩

theorem Gone.insertMaker (h : s.Gone uuid) {order : MakerOrder} (hne : uuid ≠ order.uuid) :
    (s.insertMaker order).Gone uuid where
  unlisted := by
    rintro ⟨o, ho, hlisted⟩
    rcases lookup_insert_eq_some.mp ho with ⟨heq, -⟩ | ⟨-, hold⟩
    · exact hne heq
    · exact h.unlisted ⟨o, hold, hlisted⟩
  taker := h.taker
  used hunused := h.used ⟨fun hmem => hunused.1 (Finmap.mem_insert.mpr (.inr hmem)), hunused.2⟩

theorem Gone.taker_step (h : s.Gone uuid) {e : TakerEvent}
    (hnew : ∀ builder env, e = .newOrder builder env → uuid ≠ env.newUuid) :
    { s with taker := s.taker.step ourPublicId e }.Gone uuid where
  unlisted := h.unlisted
  taker hmem := by
    rcases TakerSide.mem_step hmem with hold | ⟨builder, env, he, heq⟩
    · exact h.taker hold
    · exact hnew builder env he heq
  used hunused := h.used ⟨hunused.1, fun hmem => hunused.2 (TakerSide.uuids_step _ _ hmem)⟩

theorem Gone.perform (hrec : s.Recorded) (h : s.Gone uuid) {e : OrderNodeEvent}
    (hdrawn : drawn e ≠ some uuid) : (s.perform ourPublicId e).Gone uuid := by
  cases e with
  | newMakerOrder builder env =>
    rw [OrderNode.perform]
    split
    · rename_i order hbuild
      obtain ⟨minVol, rfl, -⟩ := MakerOrderBuilder.build_eq_ok hbuild
      exact h.insertMaker fun heq => hdrawn (congrArg some heq.symm)
    · exact h
  | taker e =>
    refine h.taker_step ?_
    rintro builder env rfl heq
    exact hdrawn (congrArg some heq.symm)
  | timedOutTakerOrder uuid' nowMs =>
    rw [OrderNode.perform, OrderNode.timedOutTakerOrder]
    split
    · exact h
    rename_i order horder
    split
    · exact h
    have hremoved : { s with taker := s.taker.step ourPublicId (.removed uuid') }.Gone uuid :=
      h.taker_step fun builder env he => by simp at he
    simp only
    split
    · exact hremoved
    split
    · exact hremoved
    rename_i makerOrder hmaker
    refine hremoved.insertMaker fun heq => h.taker ?_
    rw [heq, (ofTakerOrder_uuid hmaker).1, (hrec.taker.keyed uuid' order horder).1]
    exact Finmap.mem_of_lookup_eq_some horder
  | takerRequest makerOrderUuid coins nowMs fromPubkey msg =>
    rw [OrderNode.perform, OrderNode.processTakerRequest]
    split
    · exact h
    rename_i o ho
    split
    · exact h
    · exact h.setMaker ho rfl rfl id
  | takerConnect senderPubkey msg =>
    rw [OrderNode.perform, OrderNode.processTakerConnect]
    split
    · exact h
    · rename_i o ho
      exact h.setMaker ho rfl rfl id
  | makerOrder uuid' e =>
    rw [OrderNode.perform]
    split
    · exact h
    rename_i o ho
    split
    · exact h
    · refine h.setMaker ho rfl rfl fun hlisted => ?_
      cases hstep : o.step e with
      | none => exact hlisted
      | some o' => exact OwnOrder.step_listed hstep hlisted

theorem Gone.step (hrec : s.Recorded) (h : s.Gone uuid) (e : OrderNodeEvent) :
    (s.step ourPublicId e).Gone uuid := by
  rw [OrderNode.step]
  split
  · rename_i hdrawn
    exact h.perform hrec (by simp [hdrawn])
  · rename_i uuid' hdrawn
    split
    · rename_i hunused
      refine h.perform hrec fun heq => h.used ?_
      rwa [← Option.some.inj (hdrawn.symm.trans heq)]
    · exact h

theorem mem_makerOrders_insert {uuid' : Uuid} {o : OwnOrder} (h : uuid ∈ s.makerOrders) :
    uuid ∈ s.makerOrders.insert uuid' o := Finmap.mem_insert.mpr (.inr h)

/-- Maker orders stay known. -/
theorem mem_makerOrders_step (h : uuid ∈ s.makerOrders) (e : OrderNodeEvent) :
    uuid ∈ (s.step ourPublicId e).makerOrders := by
  have hperform : uuid ∈ (s.perform ourPublicId e).makerOrders := by
    cases e with
    | newMakerOrder builder env =>
      rw [OrderNode.perform]
      split
      · exact mem_makerOrders_insert h
      · exact h
    | taker e => exact h
    | timedOutTakerOrder uuid' nowMs =>
      rw [OrderNode.perform, OrderNode.timedOutTakerOrder]
      repeat' split
      any_goals exact h
      exact mem_makerOrders_insert h
    | takerRequest makerOrderUuid coins nowMs fromPubkey msg =>
      rw [OrderNode.perform, OrderNode.processTakerRequest]
      repeat' split
      any_goals exact h
      all_goals exact mem_makerOrders_insert h
    | takerConnect senderPubkey msg =>
      rw [OrderNode.perform, OrderNode.processTakerConnect]
      split
      · exact h
      · exact mem_makerOrders_insert h
    | makerOrder uuid' e =>
      rw [OrderNode.perform]
      repeat' split
      any_goals exact h
      exact mem_makerOrders_insert h
  rw [OrderNode.step]
  split
  · exact hperform
  · split
    · exact hperform
    · exact h

end OrderNode

end DeXFG.Ordermatch
