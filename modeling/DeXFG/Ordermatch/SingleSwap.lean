import DeXFG.Ordermatch.OwnOrder
import DeXFG.Ordermatch.Reservations

/-!
# One swap for each match

The orders of a node under all messages, timers and RPCs in any order. A match
of a maker order is connected once and stays, a taker order accepts one
reservation and is removed when its swap starts, so no pair of orders starts a
swap twice, and only the pubkey whose message was accepted starts it.
-/
namespace DeXFG.Ordermatch
open DeXFG.Library.FiniteMap MakerOrder

/-! ## The taker's side -/

namespace TakerSide

variable {ourPublicId : H256} {s s' : TakerSide}

/-- What the record tells of the orders that are there. -/
structure Recorded (s : TakerSide) : Prop where
  keyed : ∀ uuid t, s.myTakerOrders.lookup uuid = some t → t.request.uuid = uuid ∧ uuid ∈ s.uuids
  matched : ∀ uuid t k m, s.myTakerOrders.lookup uuid = some t → t.orderMatches.lookup k = some m →
    m.reserved ∈ s.record.accepted ∧ m.reserved.takerOrderUuid = uuid
  pending : ∀ uuid messages, s.pendingMakerReserved.lookup uuid = some messages →
    ∀ r ∈ messages, r.takerOrderUuid = uuid
  accepted : ∀ r ∈ s.record.accepted, r.takerOrderUuid ∈ s.uuids ∧
    ∀ t, s.myTakerOrders.lookup r.takerOrderUuid = some t → t.orderMatches ≠ ∅
  once : (s.record.accepted.map MakerReserved.takerOrderUuid).Nodup

/-- A started order is gone for good, and its swap is with the maker it accepted. -/
structure StartsOnce (s : TakerSide) : Prop where
  gone : ∀ a ∈ s.record.aliceStarts,
    a.takerOrder.request.uuid ∈ s.uuids ∧ a.takerOrder.request.uuid ∉ s.myTakerOrders
  once : (s.record.aliceStarts.map fun a => a.takerOrder.request.uuid).Nodup
  sender : ∀ a ∈ s.record.aliceStarts, a.takerMatch.reserved ∈ s.record.accepted ∧
    a.takerMatch.reserved.takerOrderUuid = a.takerOrder.request.uuid ∧
    a.fromPubkey = a.takerMatch.reserved.senderPubkey

/-- Handlers come and go without the orders. -/
theorem Recorded.of_pending (h : s.Recorded) (horders : s'.myTakerOrders = s.myTakerOrders)
    (huuids : s'.uuids = s.uuids) (haccepted : s'.record.accepted = s.record.accepted)
    (hpending : ∀ uuid messages, s'.pendingMakerReserved.lookup uuid = some messages →
      ∀ r ∈ messages, r.takerOrderUuid = uuid) : s'.Recorded where
  keyed := by
    rw [horders, huuids]
    exact h.keyed
  matched := by
    rw [horders, haccepted]
    exact h.matched
  pending := hpending
  accepted := by
    rw [horders, huuids, haccepted]
    exact h.accepted
  once := haccepted ▸ h.once

theorem StartsOnce.congr (h : s.StartsOnce) (horders : s'.myTakerOrders = s.myTakerOrders)
    (huuids : s'.uuids = s.uuids) (haccepted : s'.record.accepted = s.record.accepted)
    (hstarts : s'.record.aliceStarts = s.record.aliceStarts) : s'.StartsOnce where
  gone := by
    rw [horders, huuids, hstarts]
    exact h.gone
  once := hstarts ▸ h.once
  sender := by
    rw [haccepted, hstarts]
    exact h.sender

/-! ### Orders come and go -/

/-- Some of the orders are gone. -/
theorem Recorded.subset (h : s.Recorded) {orders : HashMap Uuid TakerOrder}
    (hsub : ∀ uuid t, orders.lookup uuid = some t → s.myTakerOrders.lookup uuid = some t) :
    { s with myTakerOrders := orders }.Recorded where
  keyed uuid t ht := h.keyed uuid t (hsub uuid t ht)
  matched uuid t k m ht := h.matched uuid t k m (hsub uuid t ht)
  pending := h.pending
  accepted r hr := ⟨(h.accepted r hr).1, fun t ht => (h.accepted r hr).2 t (hsub _ t ht)⟩
  once := h.once

theorem StartsOnce.subset (h : s.StartsOnce) {orders : HashMap Uuid TakerOrder}
    (hsub : ∀ uuid t, orders.lookup uuid = some t → s.myTakerOrders.lookup uuid = some t) :
    { s with myTakerOrders := orders }.StartsOnce where
  gone a ha := by
    refine ⟨(h.gone a ha).1, fun hmem => (h.gone a ha).2 ?_⟩
    obtain ⟨t, ht⟩ := Finmap.mem_iff.mp hmem
    exact Finmap.mem_of_lookup_eq_some (hsub _ t ht)
  once := h.once
  sender := h.sender

theorem Recorded.removed (h : s.Recorded) (uuid : Uuid) :
    { s with myTakerOrders := s.myTakerOrders.erase uuid }.Recorded :=
  h.subset fun _ _ => lookup_of_erase

theorem StartsOnce.removed (h : s.StartsOnce) (uuid : Uuid) :
    { s with myTakerOrders := s.myTakerOrders.erase uuid }.StartsOnce :=
  h.subset fun _ _ => lookup_of_erase

theorem Recorded.insertOrder (h : s.Recorded) {order : TakerOrder}
    (hempty : order.orderMatches = ∅) : (s.insertOrder order).Recorded := by
  rw [TakerSide.insertOrder]
  split
  · exact h
  rename_i hnew
  exact
    { keyed := by
        intro uuid t ht
        rcases lookup_insert_eq_some.mp ht with ⟨rfl, rfl⟩ | ⟨-, hold⟩
        · exact ⟨rfl, Finset.mem_insert_self _ _⟩
        · exact ⟨(h.keyed uuid t hold).1, Finset.mem_insert_of_mem (h.keyed uuid t hold).2⟩
      matched := by
        intro uuid t k m ht hm
        rcases lookup_insert_eq_some.mp ht with ⟨rfl, rfl⟩ | ⟨-, hold⟩
        · simp [hempty] at hm
        · exact h.matched uuid t k m hold hm
      pending := h.pending
      accepted := by
        intro r hr
        obtain ⟨hdrawn, hmatched⟩ := h.accepted r hr
        refine ⟨Finset.mem_insert_of_mem hdrawn, fun t ht => ?_⟩
        rcases lookup_insert_eq_some.mp ht with ⟨heq, -⟩ | ⟨-, hold⟩
        · exact absurd (heq ▸ hdrawn) hnew
        · exact hmatched t hold
      once := h.once }

theorem StartsOnce.insertOrder (h : s.StartsOnce) (order : TakerOrder) :
    (s.insertOrder order).StartsOnce := by
  rw [TakerSide.insertOrder]
  split
  · exact h
  rename_i hnew
  refine { once := h.once, sender := h.sender, gone := fun a ha => ?_ }
  obtain ⟨hdrawn, hgone⟩ := h.gone a ha
  refine ⟨Finset.mem_insert_of_mem hdrawn, fun hmem => ?_⟩
  rcases Finmap.mem_insert.mp hmem with heq | hmem
  · exact hnew (heq ▸ hdrawn)
  · exact hgone hmem

/-! ### Accepting a reservation -/

section Accept

variable {uuid : Uuid} {myOrder : TakerOrder} {baseCoin relCoin : MmCoin} {nowMs : ℕ}
  {sorted : List MakerReserved}

theorem Recorded.processPending (h : s.Recorded) (horder : s.myTakerOrders.lookup uuid = some myOrder)
    (hkeyed : ∀ r ∈ sorted, r.takerOrderUuid = uuid) :
    (s.processPending ourPublicId uuid myOrder baseCoin relCoin nowMs sorted).Recorded := by
  rw [TakerSide.processPending]
  split
  · exact h.of_pending rfl rfl rfl h.pending
  rename_i reserved hfind
  obtain rfl := hkeyed reserved (List.mem_of_find?_eq_some hfind)
  have hempty := (TakerOrder.canConnect_matches (List.find?_some hfind)).2
  exact
    { keyed := by
        intro uuid' t ht
        rcases lookup_insert_eq_some.mp ht with ⟨rfl, rfl⟩ | ⟨-, hold⟩
        · exact h.keyed _ myOrder horder
        · exact h.keyed uuid' t hold
      matched := by
        intro uuid' t k m ht hm
        rcases lookup_insert_eq_some.mp ht with ⟨rfl, rfl⟩ | ⟨-, hold⟩
        · -- the order had no match, so this is the accepted one
          rw [TakerOrder.connect, hempty] at hm
          rcases lookup_insert_eq_some.mp hm with ⟨-, rfl⟩ | ⟨-, hm⟩
          · exact ⟨List.mem_append_right _ (List.mem_singleton.mpr rfl), rfl⟩
          · simp at hm
        · obtain ⟨hmem, hid⟩ := h.matched uuid' t k m hold hm
          exact ⟨List.mem_append_left _ hmem, hid⟩
      pending := h.pending
      accepted := by
        intro r hr
        rcases List.mem_append.mp hr with hr | hr
        · refine ⟨(h.accepted r hr).1, fun t ht => ?_⟩
          rcases lookup_insert_eq_some.mp ht with ⟨heq, -⟩ | ⟨-, hold⟩
          · exact absurd hempty ((h.accepted r hr).2 myOrder (heq ▸ horder))
          · exact (h.accepted r hr).2 t hold
        · obtain rfl := List.mem_singleton.mp hr
          refine ⟨(h.keyed _ myOrder horder).2, fun t ht => ?_⟩
          rw [Finmap.lookup_insert, Option.some.injEq] at ht
          rw [← ht]
          exact myOrder.orderMatches_connect ourPublicId nowMs r
      once := by
        rw [List.map_append]
        refine List.nodup_append.mpr ⟨h.once, List.nodup_singleton _, ?_⟩
        rintro _ ha _ hb rfl
        obtain ⟨r, hr, heq⟩ := List.mem_map.mp ha
        rw [List.map_singleton, List.mem_singleton] at hb
        exact (h.accepted r hr).2 myOrder (heq.trans hb ▸ horder) hempty }

theorem StartsOnce.processPending (h : s.StartsOnce)
    (horder : s.myTakerOrders.lookup uuid = some myOrder) :
    (s.processPending ourPublicId uuid myOrder baseCoin relCoin nowMs sorted).StartsOnce := by
  rw [TakerSide.processPending]
  split
  · exact h.congr rfl rfl rfl rfl
  refine { once := h.once, gone := fun a ha => ⟨(h.gone a ha).1, fun hmem => ?_⟩,
           sender := fun a ha => ?_ }
  · rcases Finmap.mem_insert.mp hmem with heq | hmem
    · exact (h.gone a ha).2 (heq ▸ Finmap.mem_of_lookup_eq_some horder)
    · exact (h.gone a ha).2 hmem
  · obtain ⟨haccepted, hrest⟩ := h.sender a ha
    exact ⟨List.mem_append_left _ haccepted, hrest⟩

theorem recorded_drainReserved (h : s.Recorded) (uuid : Uuid) (env : DrainEnv) :
    (s.drainReserved ourPublicId uuid env).Recorded := by
  rw [drainReserved]
  split
  · exact h
  rename_i myOrder horder
  split
  · exact h
  split
  · exact h
  rename_i messages hmessages
  have herased : { s with
      pendingMakerReserved := s.pendingMakerReserved.erase uuid }.Recorded :=
    h.of_pending rfl rfl rfl fun uuid' messages' hlookup =>
      h.pending uuid' messages' (lookup_of_erase hlookup)
  split
  · exact herased
  rename_i sorted hsorted
  refine herased.processPending horder fun r hr => h.pending uuid messages hmessages r ?_
  rw [PriceSort.sortByPrice] at hsorted
  split at hsorted
  · rw [← Option.some.inj hsorted] at hr
    exact (env.sort.perm messages).mem_iff.mp hr
  · simp at hsorted

theorem startsOnce_drainReserved (h : s.StartsOnce) (uuid : Uuid) (env : DrainEnv) :
    (s.drainReserved ourPublicId uuid env).StartsOnce := by
  rw [drainReserved]
  split
  · exact h
  rename_i myOrder horder
  split
  · exact h
  split
  · exact h
  have herased : { s with
      pendingMakerReserved := s.pendingMakerReserved.erase uuid }.StartsOnce :=
    h.congr rfl rfl rfl rfl
  split
  · exact herased
  · exact herased.processPending horder

end Accept

/-! ### Starting the swap -/

theorem StartsOnce.processMakerConnected (hrec : s.Recorded) (h : s.StartsOnce)
    (fromPubkey : H256) (connected : MakerConnected) :
    (s.processMakerConnected ourPublicId fromPubkey connected).StartsOnce := by
  rw [TakerSide.processMakerConnected]
  split
  · exact h
  split
  · exact h
  rename_i myOrder horder
  split
  · exact h
  rename_i orderMatch hmatch
  split
  · exact h
  rename_i hsender
  obtain ⟨hkey, hdrawn⟩ := hrec.keyed _ myOrder horder
  have hmem := Finmap.mem_of_lookup_eq_some horder
  have hremoved := h.removed connected.takerOrderUuid
  exact
    { gone := by
        intro a ha
        rcases List.mem_append.mp ha with ha | ha
        · exact hremoved.gone a ha
        · obtain rfl := List.mem_singleton.mp ha
          exact ⟨hkey ▸ hdrawn, fun hstill => (Finmap.mem_erase.mp hstill).1 hkey⟩
      once := by
        rw [List.map_append]
        refine List.nodup_append.mpr ⟨h.once, List.nodup_singleton _, ?_⟩
        rintro _ ha _ hb rfl
        obtain ⟨a, ha, heq⟩ := List.mem_map.mp ha
        rw [List.map_singleton, List.mem_singleton] at hb
        exact (h.gone a ha).2 (heq.trans (hb.trans hkey) ▸ hmem)
      sender := by
        intro a ha
        rcases List.mem_append.mp ha with ha | ha
        · exact h.sender a ha
        · obtain rfl := List.mem_singleton.mp ha
          obtain ⟨haccepted, hid⟩ := hrec.matched _ myOrder _ orderMatch horder hmatch
          exact ⟨haccepted, hid.trans hkey.symm, (not_not.mp hsender).symm⟩ }

theorem Recorded.processMakerConnected (h : s.Recorded) (fromPubkey : H256)
    (connected : MakerConnected) :
    (s.processMakerConnected ourPublicId fromPubkey connected).Recorded := by
  rw [TakerSide.processMakerConnected]
  split
  · exact h
  split
  · exact h
  split
  · exact h
  split
  · exact h
  · have hremoved := h.removed connected.takerOrderUuid
    exact hremoved.of_pending rfl rfl rfl hremoved.pending

theorem Recorded.step (h : s.Recorded) (e : TakerEvent) : (s.step ourPublicId e).Recorded := by
  cases e with
  | newOrder builder env =>
    rw [TakerSide.step]
    split
    · rename_i order hbuild
      obtain ⟨minVolume, rfl, -⟩ := TakerOrderBuilder.build_eq_ok hbuild
      exact h.insertOrder rfl
    · exact h
  | removed uuid => exact h.removed uuid
  | makerReserved fromPubkey msg =>
    rw [TakerSide.step, checkReserved]
    split
    · exact h
    split
    · exact h
    · exact h.of_pending rfl rfl rfl h.pending
  | stored index =>
    rw [TakerSide.step]
    split
    · exact h
    · rename_i reservedMsg hindex
      refine h.of_pending rfl rfl rfl fun uuid messages hlookup r hr => ?_
      rcases lookup_insert_eq_some.mp hlookup with ⟨rfl, rfl⟩ | ⟨-, hold⟩
      · rcases List.mem_append.mp hr with hr | hr
        · cases hentry : s.pendingMakerReserved.lookup reservedMsg.takerOrderUuid with
          | none => simp [hentry] at hr
          | some old => exact h.pending _ old hentry r (by simpa [hentry] using hr)
        · rw [List.mem_singleton.mp hr]
      · exact h.pending uuid messages hold r hr
  | drained index env =>
    rw [TakerSide.step]
    split
    · exact h
    · have hawake : { s with sleeping := s.sleeping.eraseIdx index }.Recorded :=
        h.of_pending rfl rfl rfl h.pending
      exact recorded_drainReserved hawake _ env
  | makerConnected fromPubkey msg => exact h.processMakerConnected fromPubkey _

theorem StartsOnce.step (hrec : s.Recorded) (h : s.StartsOnce) (e : TakerEvent) :
    (s.step ourPublicId e).StartsOnce := by
  cases e with
  | newOrder builder env =>
    rw [TakerSide.step]
    split
    · exact h.insertOrder _
    · exact h
  | removed uuid => exact h.removed uuid
  | makerReserved fromPubkey msg =>
    rw [TakerSide.step, checkReserved]
    split
    · exact h
    split
    · exact h
    · exact h.congr rfl rfl rfl rfl
  | stored index =>
    rw [TakerSide.step]
    split
    · exact h
    · exact h.congr rfl rfl rfl rfl
  | drained index env =>
    rw [TakerSide.step]
    split
    · exact h
    · have hawake : { s with sleeping := s.sleeping.eraseIdx index }.StartsOnce :=
        h.congr rfl rfl rfl rfl
      exact startsOnce_drainReserved hawake _ env
  | makerConnected fromPubkey msg => exact h.processMakerConnected hrec fromPubkey _

/-- Only a new order adds to the orders. -/
theorem mem_step {e : TakerEvent} {uuid : Uuid}
    (h : uuid ∈ (s.step ourPublicId e).myTakerOrders) :
    uuid ∈ s.myTakerOrders ∨ ∃ builder env, e = .newOrder builder env ∧ uuid = env.newUuid := by
  cases e with
  | newOrder builder env =>
    rw [TakerSide.step] at h
    split at h
    · rename_i order hbuild
      rw [TakerSide.insertOrder] at h
      split at h
      · exact .inl h
      · obtain ⟨minVolume, rfl, -⟩ := TakerOrderBuilder.build_eq_ok hbuild
        rcases Finmap.mem_insert.mp h with rfl | h
        · exact .inr ⟨builder, env, rfl, rfl⟩
        · exact .inl h
    · exact .inl h
  | removed uuid' => exact .inl (Finmap.mem_erase.mp h).2
  | makerReserved fromPubkey msg =>
    rw [TakerSide.step, checkReserved] at h
    split at h
    · exact .inl h
    split at h <;> exact .inl h
  | stored index =>
    rw [TakerSide.step] at h
    split at h <;> exact .inl h
  | drained index env =>
    rw [TakerSide.step] at h
    split at h
    · exact .inl h
    rw [drainReserved] at h
    split at h
    · exact .inl h
    rename_i myOrder horder
    split at h
    · exact .inl h
    split at h
    · exact .inl h
    split at h
    · exact .inl h
    rw [TakerSide.processPending] at h
    split at h
    · exact .inl h
    · rcases Finmap.mem_insert.mp h with rfl | h
      · exact .inl (Finmap.mem_of_lookup_eq_some horder)
      · exact .inl h
  | makerConnected fromPubkey msg =>
    rw [TakerSide.step, TakerSide.processMakerConnected] at h
    split at h
    · exact .inl h
    split at h
    · exact .inl h
    split at h
    · exact .inl h
    split at h
    · exact .inl h
    · exact .inl (Finmap.mem_erase.mp h).2

end TakerSide

/-! ## All orders of the node -/

/-- A swap started by `lp_connect_start_bob`. -/
structure BobStart where
  makerOrderUuid : Uuid
  takerOrderUuid : Uuid
  makerMatch : MakerMatch
  senderPubkey : H256
  deriving DecidableEq

structure OrderNode where
  /-- Every maker order there has been; a removed one may still be in the hands of a handler. -/
  makerOrders : HashMap Uuid OwnOrder
  taker : TakerSide
  /-- Requests that were answered by a reservation, with the maker order they were matched with. -/
  reservations : List (Uuid × TakerRequest)
  bobStarts : List BobStart
  deriving DecidableEq

inductive OrderNodeEvent where
  /-- `create_maker_order`. -/
  | newMakerOrder (builder : MakerOrderBuilder) (env : BuildEnv)
  | taker (e : TakerEvent)
  /-- `handle_timed_out_taker_orders` on one order. -/
  | timedOutTakerOrder (uuid : Uuid) (nowMs : ℕ)
  /-- The handler of a request takes up one of the maker orders. -/
  | takerRequest (makerOrderUuid : Uuid) (coins : Option (MmCoin × MmCoin)) (nowMs : ℕ)
      (fromPubkey : H256) (msg : NewProtocol.TakerRequest)
  | takerConnect (senderPubkey : H256) (msg : NewProtocol.TakerConnect)
  /-- Timers, balance events, updates and the removal of a maker order. -/
  | makerOrder (uuid : Uuid) (e : OwnOrderEvent)

/-- The operation is the handling of a message. -/
def OwnOrderEvent.isMessage : OwnOrderEvent → Bool
  | .takerRequest .. => true
  | .takerConnect .. => true
  | _ => false

namespace OrderNode

variable (ourPublicId : H256)

def insertMaker (s : OrderNode) (order : MakerOrder) : OrderNode :=
  { s with
    makerOrders := s.makerOrders.insert order.uuid { order := order, listed := true, pending := [] } }

/-- A timed out order is deleted, or becomes a maker order when it is unmatched and good till
cancelled. -/
def timedOutTakerOrder (s : OrderNode) (uuid : Uuid) (nowMs : ℕ) : OrderNode :=
  match s.taker.myTakerOrders.lookup uuid with
  | none => s
  | some order =>
    if order.createdAt + order.timeout * 1000 ≥ nowMs then s
    else
      let s' := { s with taker := s.taker.step ourPublicId (.removed uuid) }
      if order.orderMatches ≠ ∅ ∨ order.orderType ≠ .goodTillCancelled then s'
      else
        match MakerOrder.ofTakerOrder order nowMs with
        | none => s'
        | some makerOrder => s'.insertMaker makerOrder

def processTakerRequest (s : OrderNode) (makerOrderUuid : Uuid) (env : RequestEnv)
    (fromPubkey : H256) (request : TakerRequest) : OrderNode :=
  match s.makerOrders.lookup makerOrderUuid with
  | none => s
  | some o =>
    match o.order.processTakerRequest env fromPubkey request with
    | none => s
    | some (order, reply) =>
      { s with
        makerOrders := s.makerOrders.insert makerOrderUuid { o with order := order }
        reservations :=
          if reply.isSome then s.reservations ++ [(makerOrderUuid, request)] else s.reservations }

def processTakerConnect (s : OrderNode) (senderPubkey : H256) (msg : TakerConnect) : OrderNode :=
  match s.makerOrders.lookup msg.makerOrderUuid with
  | none => s
  | some o =>
    let r := o.order.processTakerConnect ourPublicId senderPubkey msg
    { s with
      makerOrders := s.makerOrders.insert msg.makerOrderUuid { o with order := r.1 }
      bobStarts := s.bobStarts ++ r.2.toList.map fun makerMatch =>
        ⟨msg.makerOrderUuid, msg.takerOrderUuid, makerMatch, senderPubkey⟩ }

def perform (s : OrderNode) : OrderNodeEvent → OrderNode
  | .newMakerOrder builder env =>
    match builder.build env with
    | some (.ok order) => s.insertMaker order
    | _ => s
  | .taker e => { s with taker := s.taker.step ourPublicId e }
  | .timedOutTakerOrder uuid nowMs => s.timedOutTakerOrder ourPublicId uuid nowMs
  | .takerRequest makerOrderUuid coins nowMs fromPubkey msg =>
    s.processTakerRequest makerOrderUuid ⟨ourPublicId, coins, nowMs⟩ fromPubkey
      (.fromNewProtoAndPubkey msg fromPubkey)
  | .takerConnect senderPubkey msg =>
    s.processTakerConnect ourPublicId senderPubkey (.ofNewProto msg)
  | .makerOrder uuid e =>
    match s.makerOrders.lookup uuid with
    | none => s
    | some o =>
      if e.isMessage then s
      else { s with makerOrders := s.makerOrders.insert uuid ((o.step e).getD o) }

/-- The uuid drawn for a new order. -/
def drawn : OrderNodeEvent → Option Uuid
  | .newMakerOrder _ env => some env.newUuid
  | .taker (.newOrder _ env) => some env.newUuid
  | _ => none

/-- No order has had the uuid. -/
def Unused (s : OrderNode) (uuid : Uuid) : Prop := uuid ∉ s.makerOrders ∧ uuid ∉ s.taker.uuids

instance (s : OrderNode) (uuid : Uuid) : Decidable (s.Unused uuid) :=
  inferInstanceAs (Decidable (_ ∧ _))

/-- One event; a uuid is drawn for one order only. -/
def step (s : OrderNode) (e : OrderNodeEvent) : OrderNode :=
  match drawn e with
  | none => s.perform ourPublicId e
  | some uuid => if s.Unused uuid then s.perform ourPublicId e else s

/-! ### The record and the starts -/

variable {ourPublicId} {s : OrderNode}

/-- The record covers what the orders hold; this is so for orders loaded at the start, whose
matches were recorded before. -/
structure Recorded (s : OrderNode) : Prop where
  taker : s.taker.Recorded
  disjoint : ∀ uuid ∈ s.taker.myTakerOrders, uuid ∉ s.makerOrders
  reserved : ∀ uuid o k m, s.makerOrders.lookup uuid = some o →
    o.order.orderMatches.lookup k = some m →
      (uuid, m.request) ∈ s.reservations ∧ m.request.uuid = k

/-- The matches of started swaps are there and connected. -/
structure StartsOnce (s : OrderNode) : Prop where
  alice : s.taker.StartsOnce
  connected : ∀ b ∈ s.bobStarts, ∃ o m, s.makerOrders.lookup b.makerOrderUuid = some o ∧
    o.order.orderMatches.lookup b.takerOrderUuid = some m ∧ m.connected.isSome = true
  once : (s.bobStarts.map fun b => (b.makerOrderUuid, b.takerOrderUuid)).Nodup
  sender : ∀ b ∈ s.bobStarts, b.makerMatch.request.uuid = b.takerOrderUuid ∧
    b.senderPubkey = b.makerMatch.request.senderPubkey ∧
    (b.makerOrderUuid, b.makerMatch.request) ∈ s.reservations

/-- Connected matches stay, and no match is new. -/
structure KeepsMatches (o o' : MakerOrder) : Prop where
  request : ∀ k m', o'.orderMatches.lookup k = some m' →
    ∃ m, o.orderMatches.lookup k = some m ∧ m'.request = m.request
  connected : ∀ k m, o.orderMatches.lookup k = some m → m.connected.isSome = true →
    ∃ m', o'.orderMatches.lookup k = some m' ∧ m'.connected.isSome = true

theorem KeepsMatches.of_eq {o o' : MakerOrder} (h : o'.orderMatches = o.orderMatches) :
    KeepsMatches o o' where
  request _ m' hm' := ⟨m', h ▸ hm', rfl⟩
  connected _ m hm hsome := ⟨m, h ▸ hm, hsome⟩

/-- Only the timeout removes matches, and it keeps the connected ones. -/
theorem keepsMatches_step {o o' : OwnOrder} {e : OwnOrderEvent} (he : e.isMessage = false)
    (h : o.step e = some o') : KeepsMatches o.order o'.order := by
  cases e with
  | takerRequest env fromPubkey request => simp [OwnOrderEvent.isMessage] at he
  | takerConnect ourPublicId senderPubkey msg => simp [OwnOrderEvent.isMessage] at he
  | timedOutMatches now =>
    obtain rfl := Option.some.inj h
    refine { request := fun _ m' hm' => ⟨m', lookup_handleTimedOutMatches hm', rfl⟩,
             connected := fun _ m hm hsome => ⟨m, ?_, hsome⟩ }
    rw [handleTimedOutMatches, lookup_retain, hm, Option.filter_some, if_pos]
    simp [hsome]
  | checkBalance =>
    obtain rfl := Option.some.inj h
    exact .of_eq rfl
  | balanceUpdated newVolume =>
    obtain rfl := Option.some.inj h
    rw [OwnOrder.balanceUpdated]
    split
    · exact .of_eq rfl
    · exact .of_eq (orderMatches_rebaseVolume _ _)
  | kickstart maxVol =>
    obtain rfl := Option.some.inj h
    exact .of_eq (orderMatches_rebaseVolume _ _)
  | updateBegin req env =>
    rw [OwnOrder.step] at h
    split at h
    · obtain ⟨result, -, rfl⟩ := Option.map_eq_some_iff.mp h
      cases result <;> exact .of_eq rfl
    · obtain rfl := Option.some.inj h
      exact .of_eq rfl
  | updateCommit index saved nowMs =>
    obtain ⟨p, -, rfl⟩ := Option.map_eq_some_iff.mp h
    simp only
    split
    · split
      · exact .of_eq rfl
      · rename_i order hcommit
        exact .of_eq (orderMatches_commitUpdate hcommit)
    · exact .of_eq rfl
  | removed =>
    obtain rfl := Option.some.inj h
    exact .of_eq rfl

/-! ### Replacing a maker order -/

section SetMaker

variable {uuid : Uuid} {o o' : OwnOrder}

theorem Recorded.setMaker (h : s.Recorded) (ho : s.makerOrders.lookup uuid = some o)
    (hreserved : ∀ k m, o'.order.orderMatches.lookup k = some m →
      (uuid, m.request) ∈ s.reservations ∧ m.request.uuid = k) :
    { s with makerOrders := s.makerOrders.insert uuid o' }.Recorded where
  taker := h.taker
  disjoint uuid' htaker hmem := by
    rcases Finmap.mem_insert.mp hmem with rfl | hmem
    · exact h.disjoint _ htaker (Finmap.mem_of_lookup_eq_some ho)
    · exact h.disjoint _ htaker hmem
  reserved uuid' o'' k m hlookup hm := by
    rcases lookup_insert_eq_some.mp hlookup with ⟨rfl, rfl⟩ | ⟨-, hold⟩
    · exact hreserved k m hm
    · exact h.reserved uuid' o'' k m hold hm

theorem StartsOnce.setMaker (h : s.StartsOnce) (ho : s.makerOrders.lookup uuid = some o)
    (hconnected : ∀ k m, o.order.orderMatches.lookup k = some m → m.connected.isSome = true →
      ∃ m', o'.order.orderMatches.lookup k = some m' ∧ m'.connected.isSome = true) :
    { s with makerOrders := s.makerOrders.insert uuid o' }.StartsOnce where
  alice := h.alice
  connected b hb := by
    obtain ⟨o₀, m, ho₀, hm, hsome⟩ := h.connected b hb
    rcases eq_or_ne b.makerOrderUuid uuid with heq | hne
    · obtain rfl := Option.some.inj (ho₀.symm.trans (heq ▸ ho))
      obtain ⟨m', hm', hsome'⟩ := hconnected _ m hm hsome
      exact ⟨o', m', lookup_insert_eq_some.mpr (.inl ⟨heq, rfl⟩), hm', hsome'⟩
    · exact ⟨o₀, m, lookup_insert_eq_some.mpr (.inr ⟨hne, ho₀⟩), hm, hsome⟩
  once := h.once
  sender := h.sender

theorem Recorded.keepsMatches (h : s.Recorded) (ho : s.makerOrders.lookup uuid = some o)
    (hkeeps : KeepsMatches o.order o'.order) :
    { s with makerOrders := s.makerOrders.insert uuid o' }.Recorded :=
  h.setMaker ho fun k m hm => by
    obtain ⟨m₀, hm₀, hrequest⟩ := hkeeps.request k m hm
    rw [hrequest]
    exact h.reserved uuid o k m₀ ho hm₀

theorem Recorded.reserve (h : s.Recorded) (entry : Uuid × TakerRequest) :
    { s with reservations := s.reservations ++ [entry] }.Recorded where
  taker := h.taker
  disjoint := h.disjoint
  reserved uuid o k m ho hm :=
    ⟨List.mem_append_left _ (h.reserved uuid o k m ho hm).1, (h.reserved uuid o k m ho hm).2⟩

theorem StartsOnce.reserve (h : s.StartsOnce) (entry : Uuid × TakerRequest) :
    { s with reservations := s.reservations ++ [entry] }.StartsOnce where
  alice := h.alice
  connected := h.connected
  once := h.once
  sender b hb :=
    ⟨(h.sender b hb).1, (h.sender b hb).2.1, List.mem_append_left _ (h.sender b hb).2.2⟩

end SetMaker

/-- A new maker order has no matches and a uuid that neither side uses. -/
theorem Recorded.insertMaker (h : s.Recorded) {order : MakerOrder}
    (hempty : order.orderMatches = ∅) (hunused : order.uuid ∉ s.taker.myTakerOrders) :
    (s.insertMaker order).Recorded where
  taker := h.taker
  disjoint uuid htaker hmem := by
    rcases Finmap.mem_insert.mp hmem with rfl | hmem
    · exact hunused htaker
    · exact h.disjoint uuid htaker hmem
  reserved uuid o k m hlookup hm := by
    rcases lookup_insert_eq_some.mp hlookup with ⟨rfl, rfl⟩ | ⟨-, hold⟩
    · simp [hempty] at hm
    · exact h.reserved uuid o k m hold hm

theorem StartsOnce.insertMaker (h : s.StartsOnce) {order : MakerOrder}
    (hunused : order.uuid ∉ s.makerOrders) : (s.insertMaker order).StartsOnce where
  alice := h.alice
  connected b hb := by
    obtain ⟨o, m, ho, hm, hsome⟩ := h.connected b hb
    refine ⟨o, m, lookup_insert_eq_some.mpr (.inr ⟨fun heq => ?_, ho⟩), hm, hsome⟩
    exact hunused (heq ▸ Finmap.mem_of_lookup_eq_some ho)
  once := h.once
  sender := h.sender

/-! ### Preservation -/

theorem processTakerRequest_inv (h : s.Recorded) (hs : s.StartsOnce) (uuid : Uuid)
    (env : RequestEnv) (fromPubkey : H256) (request : TakerRequest) :
    (s.processTakerRequest uuid env fromPubkey request).Recorded ∧
      (s.processTakerRequest uuid env fromPubkey request).StartsOnce := by
  rw [OrderNode.processTakerRequest]
  split
  · exact ⟨h, hs⟩
  rename_i o ho
  split
  · exact ⟨h, hs⟩
  rename_i order reply hprocess
  rcases processTakerRequest_cases hprocess with
    ⟨rfl, rfl⟩ | ⟨base, rel, baseCoin, relCoin, -, -, -, -, hnew, rfl, rfl⟩
  · exact ⟨h.keepsMatches ho (.of_eq rfl), hs.setMaker ho fun k m hm hsome => ⟨m, hm, hsome⟩⟩
  · have hreserve := h.reserve (uuid, request)
    refine ⟨hreserve.setMaker ho fun k m hm => ?_,
      (hs.reserve (uuid, request)).setMaker ho fun k m hm hsome => ⟨m, ?_, hsome⟩⟩
    · rcases lookup_insert_eq_some.mp hm with ⟨rfl, rfl⟩ | ⟨-, hold⟩
      · exact ⟨List.mem_append_right _ (List.mem_singleton.mpr rfl), rfl⟩
      · exact hreserve.reserved uuid o k m ho hold
    · refine lookup_insert_eq_some.mpr (.inr ⟨fun heq => ?_, hm⟩)
      exact hnew (heq ▸ Finmap.mem_of_lookup_eq_some hm)

/-- The match that is connected was open, so its pair has not started a swap. -/
theorem processTakerConnect_inv (h : s.Recorded) (hs : s.StartsOnce) (senderPubkey : H256)
    (msg : TakerConnect) :
    (s.processTakerConnect ourPublicId senderPubkey msg).Recorded ∧
      (s.processTakerConnect ourPublicId senderPubkey msg).StartsOnce := by
  rw [OrderNode.processTakerConnect]
  split
  · exact ⟨h, hs⟩
  rename_i o ho
  rcases processTakerConnect_start o.order ourPublicId senderPubkey msg with
    hsame | ⟨m, connected, hm, hsender, hopen, -, hstart⟩
  · simp only [hsame, Option.toList_none, List.map_nil, List.append_nil]
    exact ⟨h.keepsMatches ho (.of_eq rfl), hs.setMaker ho fun k m hm hsome => ⟨m, hm, hsome⟩⟩
  · simp only [hstart, Option.toList_some, List.map_singleton]
    obtain ⟨hreserved, hid⟩ := h.reserved _ o _ m ho hm
    have hrecorded : { s with
        makerOrders := s.makerOrders.insert msg.makerOrderUuid { o with
          order := o.order.connectMatch msg.takerOrderUuid m msg connected } }.Recorded :=
      h.setMaker ho fun k m' hm' => by
        rcases lookup_insert_eq_some.mp hm' with ⟨rfl, rfl⟩ | ⟨-, hold⟩
        · exact ⟨hreserved, hid⟩
        · exact h.reserved _ o k m' ho hold
    have hstarts : { s with
        makerOrders := s.makerOrders.insert msg.makerOrderUuid { o with
          order := o.order.connectMatch msg.takerOrderUuid m msg connected } }.StartsOnce :=
      hs.setMaker ho fun k m' hm' hsome => by
        rcases eq_or_ne k msg.takerOrderUuid with rfl | hne
        · exact ⟨_, Finmap.lookup_insert _, rfl⟩
        · exact ⟨m', lookup_insert_eq_some.mpr (.inr ⟨hne, hm'⟩), hsome⟩
    refine ⟨{ hrecorded with }, ?_⟩
    exact
      { alice := hs.alice
        connected := by
          intro b hb
          rcases List.mem_append.mp hb with hb | hb
          · exact hstarts.connected b hb
          · obtain rfl := List.mem_singleton.mp hb
            exact ⟨_, _, Finmap.lookup_insert _, Finmap.lookup_insert _, rfl⟩
        once := by
          rw [List.map_append]
          refine List.nodup_append.mpr ⟨hs.once, List.nodup_singleton _, ?_⟩
          rintro _ ha _ hb rfl
          obtain ⟨b, hb', heq⟩ := List.mem_map.mp ha
          rw [List.map_singleton, List.mem_singleton] at hb
          obtain ⟨hmaker, htaker⟩ := Prod.mk.inj (heq.trans hb)
          obtain ⟨o₀, m₀, ho₀, hm₀, hsome⟩ := hs.connected b hb'
          obtain rfl := Option.some.inj (ho.symm.trans (hmaker ▸ ho₀))
          obtain rfl := Option.some.inj (hm.symm.trans (htaker ▸ hm₀))
          simp [hopen] at hsome
        sender := by
          intro b hb
          rcases List.mem_append.mp hb with hb | hb
          · exact hs.sender b hb
          · obtain rfl := List.mem_singleton.mp hb
            exact ⟨hid, hsender.symm, hreserved⟩ }

theorem timedOutTakerOrder_inv (h : s.Recorded) (hs : s.StartsOnce) (uuid : Uuid) (nowMs : ℕ) :
    (s.timedOutTakerOrder ourPublicId uuid nowMs).Recorded ∧
      (s.timedOutTakerOrder ourPublicId uuid nowMs).StartsOnce := by
  rw [OrderNode.timedOutTakerOrder]
  split
  · exact ⟨h, hs⟩
  rename_i order horder
  split
  · exact ⟨h, hs⟩
  have hrecorded : { s with taker := s.taker.step ourPublicId (.removed uuid) }.Recorded :=
    { taker := h.taker.removed uuid
      disjoint := fun uuid' hmem => h.disjoint uuid' (Finmap.mem_erase.mp hmem).2
      reserved := h.reserved }
  have hstarts : { s with taker := s.taker.step ourPublicId (.removed uuid) }.StartsOnce :=
    { alice := hs.alice.removed uuid
      connected := hs.connected
      once := hs.once
      sender := hs.sender }
  simp only
  split
  · exact ⟨hrecorded, hstarts⟩
  split
  · exact ⟨hrecorded, hstarts⟩
  rename_i makerOrder hmaker
  obtain ⟨hid, hempty⟩ := ofTakerOrder_uuid hmaker
  rw [(h.taker.keyed uuid order horder).1] at hid
  refine ⟨hrecorded.insertMaker hempty ?_, hstarts.insertMaker ?_⟩
  · exact fun hmem => (Finmap.mem_erase.mp hmem).1 hid
  · exact hid ▸ h.disjoint uuid (Finmap.mem_of_lookup_eq_some horder)

theorem perform_inv (h : s.Recorded) (hs : s.StartsOnce) {e : OrderNodeEvent}
    (hunused : ∀ uuid, drawn e = some uuid → s.Unused uuid) :
    (s.perform ourPublicId e).Recorded ∧ (s.perform ourPublicId e).StartsOnce := by
  cases e with
  | newMakerOrder builder env =>
    rw [OrderNode.perform]
    split
    · rename_i order hbuild
      obtain ⟨minVol, rfl, -⟩ := MakerOrderBuilder.build_eq_ok hbuild
      obtain ⟨hmaker, htaker⟩ := hunused env.newUuid rfl
      refine ⟨h.insertMaker rfl fun hmem => ?_, hs.insertMaker hmaker⟩
      obtain ⟨t, ht⟩ := Finmap.mem_iff.mp hmem
      exact htaker (h.taker.keyed _ t ht).2
    · exact ⟨h, hs⟩
  | taker e =>
    refine ⟨{ taker := h.taker.step e, disjoint := fun uuid hmem => ?_, reserved := h.reserved },
      { alice := hs.alice.step h.taker e, connected := hs.connected, once := hs.once,
        sender := hs.sender }⟩
    rcases TakerSide.mem_step hmem with hold | ⟨builder, env, rfl, rfl⟩
    · exact h.disjoint uuid hold
    · exact (hunused env.newUuid rfl).1
  | timedOutTakerOrder uuid nowMs => exact timedOutTakerOrder_inv h hs uuid nowMs
  | takerRequest uuid coins nowMs fromPubkey msg => exact processTakerRequest_inv h hs uuid _ _ _
  | takerConnect senderPubkey msg => exact processTakerConnect_inv h hs senderPubkey _
  | makerOrder uuid e =>
    rw [OrderNode.perform]
    split
    · exact ⟨h, hs⟩
    rename_i o ho
    split
    · exact ⟨h, hs⟩
    rename_i hlocal
    have hkeeps : KeepsMatches o.order ((o.step e).getD o).order := by
      cases hstep : o.step e with
      | none => exact .of_eq rfl
      | some o' => exact keepsMatches_step (by simpa using hlocal) hstep
    exact ⟨h.keepsMatches ho hkeeps, hs.setMaker ho hkeeps.connected⟩

theorem step_inv (h : s.Recorded) (hs : s.StartsOnce) (e : OrderNodeEvent) :
    (s.step ourPublicId e).Recorded ∧ (s.step ourPublicId e).StartsOnce := by
  rw [OrderNode.step]
  split
  · rename_i hdrawn
    exact perform_inv h hs fun uuid huuid => by simp [hdrawn] at huuid
  · rename_i uuid hdrawn
    split
    · rename_i hunused
      refine perform_inv h hs fun uuid' huuid => ?_
      rwa [← Option.some.inj (hdrawn.symm.trans huuid)]
    · exact ⟨h, hs⟩

/-- No swap has been started; the orders may be those of an earlier session. -/
structure Initial (s : OrderNode) : Prop where
  recorded : s.Recorded
  bobStarts : s.bobStarts = []
  aliceStarts : s.taker.record.aliceStarts = []

/-- The maker starts one swap for a pair of orders, with the sender of the request it reserved; the
taker accepts one reservation and starts one swap for an order, with its sender. -/
structure SingleSwap (s : OrderNode) : Prop where
  bob_once : (s.bobStarts.map fun b => (b.makerOrderUuid, b.takerOrderUuid)).Nodup
  bob_sender : ∀ b ∈ s.bobStarts, b.makerMatch.request.uuid = b.takerOrderUuid ∧
    b.senderPubkey = b.makerMatch.request.senderPubkey ∧
    (b.makerOrderUuid, b.makerMatch.request) ∈ s.reservations
  alice_once : (s.taker.record.aliceStarts.map fun a => a.takerOrder.request.uuid).Nodup
  alice_sender : ∀ a ∈ s.taker.record.aliceStarts, ∃ r ∈ s.taker.record.accepted,
    r.takerOrderUuid = a.takerOrder.request.uuid ∧ a.fromPubkey = r.senderPubkey
  accepted_once : (s.taker.record.accepted.map MakerReserved.takerOrderUuid).Nodup

theorem singleSwap_of_inv (h : s.Recorded) (hs : s.StartsOnce) : s.SingleSwap where
  bob_once := hs.once
  bob_sender := hs.sender
  alice_once := hs.alice.once
  alice_sender a ha := ⟨a.takerMatch.reserved, hs.alice.sender a ha⟩
  accepted_once := h.taker.once

/-- Whatever messages the node receives, in any order and from anyone, a match starts one swap. -/
theorem singleSwap_of_run (hinit : s.Initial) (es : List OrderNodeEvent) :
    (es.foldl (step ourPublicId) s).SingleSwap := by
  have hstarts : s.StartsOnce :=
    { alice :=
        { gone := by simp [hinit.aliceStarts]
          once := by simp [hinit.aliceStarts]
          sender := by simp [hinit.aliceStarts] }
      connected := by simp [hinit.bobStarts]
      once := by simp [hinit.bobStarts]
      sender := by simp [hinit.bobStarts] }
  have hinv := List.foldlRecOn es (step ourPublicId)
    (motive := fun s => s.Recorded ∧ s.StartsOnce) ⟨hinit.recorded, hstarts⟩
    fun s hs e _ => step_inv hs.1 hs.2 e
  exact singleSwap_of_inv hinv.1 hinv.2

/-! ### Duplicates and strangers -/

/-- A node without orders. -/
def emptyNode : OrderNode where
  makerOrders := ∅
  taker := { myTakerOrders := ∅, pendingMakerReserved := ∅, checked := [], sleeping := [],
             uuids := ∅, record := ⟨[], [], [], []⟩ }
  reservations := []
  bobStarts := []

theorem initial_emptyNode : emptyNode.Initial where
  recorded :=
    { taker :=
        { keyed := fun uuid t ht => by simp [emptyNode] at ht
          matched := fun uuid t k m ht => by simp [emptyNode] at ht
          pending := fun uuid messages hlookup => by simp [emptyNode] at hlookup
          accepted := by simp [emptyNode]
          once := List.nodup_nil }
      disjoint := fun uuid hmem => absurd hmem Finmap.notMem_empty
      reserved := fun uuid o k m ho => by simp [emptyNode] at ho }
  bobStarts := rfl
  aliceStarts := rfl

/-- A maker order is requested by 2 and connected by 2, 2 and 3; a taker order is reserved by 5 and
connected by 6, 5 and 5. -/
def repeatedMessages : List OrderNodeEvent :=
  [.newMakerOrder (testMakerBuilder OwnOrder.rick OwnOrder.morty) ⟨0, 1, ⟨1⟩⟩,
    .takerRequest 1 (some (OwnOrder.rick, OwnOrder.morty)) 0 2
      (((testTakerBuilder OwnOrder.rick OwnOrder.morty).assemble ⟨0, 8, ⟨2⟩⟩ 1).message
        testConfSettings),
    .takerConnect 3 ⟨8, 1⟩, .takerConnect 2 ⟨8, 1⟩, .takerConnect 2 ⟨8, 1⟩,
    .taker (.newOrder (testTakerBuilder OwnOrder.rick OwnOrder.morty) ⟨0, 2, ⟨2⟩⟩),
    .taker (.makerReserved 5 ⟨"RICK", "MORTY", 4, 4, 2, 15, testConfSettings, none, none,
      .default⟩),
    .taker (.stored 0), .taker (.drained 0 ⟨some (OwnOrder.rick, OwnOrder.morty), .insertion, 0⟩),
    .taker (.makerConnected 6 ⟨2, 15⟩), .taker (.makerConnected 5 ⟨2, 15⟩),
    .taker (.makerConnected 5 ⟨2, 15⟩)]

/-- Both swaps are started, by 2 and with 5. -/
example : ((repeatedMessages.foldl (step 9) emptyNode).bobStarts.map BobStart.senderPubkey,
    (repeatedMessages.foldl (step 9) emptyNode).taker.record.aliceStarts.map
      AliceStart.fromPubkey) = ([2], [5]) := by decide +kernel

theorem singleSwap_repeatedMessages :
    (repeatedMessages.foldl (step 9) emptyNode).SingleSwap :=
  singleSwap_of_run initial_emptyNode repeatedMessages

end OrderNode

end DeXFG.Ordermatch
