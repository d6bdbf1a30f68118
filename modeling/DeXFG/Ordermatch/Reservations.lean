import DeXFG.Library.Runs
import DeXFG.Ordermatch.Matching
import DeXFG.Ordermatch.Settings

/-!
# Reservations received by a taker

Every `MakerReserved` message gets a handler of its own. The first one for an
order leaves its message in `pending_maker_reserved`, sleeps, and then takes
the whole entry; the later ones only append. The cheapest message that fits is
taken up with a connect message, and the maker's answer starts the swap.
-/
namespace DeXFG.Ordermatch
open DeXFG.Library.FiniteMap DeXFG.Library.Runs

namespace TakerConnect

def ofNewProto (message : NewProtocol.TakerConnect) : TakerConnect where
  takerOrderUuid := message.takerOrderUuid
  makerOrderUuid := message.makerOrderUuid
  senderPubkey := 0
  destPubKey := 0

end TakerConnect

namespace MakerConnected

def ofNewProto (message : NewProtocol.MakerConnected) : MakerConnected where
  takerOrderUuid := message.takerOrderUuid
  makerOrderUuid := message.makerOrderUuid
  method := ""
  senderPubkey := 0
  destPubKey := 0

end MakerConnected

/-! ## Choosing among the pending messages -/

def MakerReserved.price (r : MakerReserved) : MmNumber := r.relAmount / r.baseAmount

/-- What `sort_unstable_by_key` may return: messages of one price come in any order. -/
structure PriceSort where
  sort : List MakerReserved → List MakerReserved
  perm : ∀ messages, (sort messages).Perm messages
  sorted : ∀ messages, (sort messages).Pairwise fun a b => a.price ≤ b.price

/-- Equal prices stay in the order of arrival. -/
def PriceSort.insertion : PriceSort where
  sort := List.insertionSort fun a b => a.price ≤ b.price
  perm := List.perm_insertionSort _
  sorted := by
    have : IsTrans MakerReserved fun a b => a.price ≤ b.price := ⟨fun _ _ _ => le_trans⟩
    have : Std.Total fun a b : MakerReserved => a.price ≤ b.price := ⟨fun _ _ => le_total _ _⟩
    exact List.pairwise_insertionSort _

/-- A price that is compared divides by the base amount. -/
def Sortable (messages : List MakerReserved) : Prop :=
  messages.length ≤ 1 ∨ ∀ r ∈ messages, r.baseAmount ≠ 0

instance (messages : List MakerReserved) : Decidable (Sortable messages) :=
  inferInstanceAs (Decidable (_ ∨ _))

/-- The messages by ascending price; `none` is the panic of a division by zero. -/
def PriceSort.sortByPrice (S : PriceSort) (messages : List MakerReserved) :
    Option (List MakerReserved) :=
  if Sortable messages then some (S.sort messages) else none

namespace TakerOrder

variable (t : TakerOrder)

def lockTime (reserved : MakerReserved) (baseCoin relCoin : MmCoin) : ℕ :=
  let myConfSettings :=
    chooseMakerConfsAndNotas reserved.confSettings t.request baseCoin relCoin
  let otherConfSettings :=
    chooseTakerConfsAndNotas t.request reserved.confSettings baseCoin relCoin
  lpAtomicLocktime t.makerOrderbookTicker t.takerOrderbookTicker
    (.v2 myConfSettings otherConfSettings)

/-- The reservation fits the order, which is not reserved by someone else, and both coins support
the protocols it names. -/
def canConnect (baseCoin relCoin : MmCoin) (reserved : MakerReserved) : Bool :=
  let lockTime := t.lockTime reserved baseCoin relCoin
  decide (t.matchReserved reserved = .matched) && decide (t.orderMatches = ∅)
    && baseCoin.isCoinProtocolSupported reserved.baseProtocolInfo none lockTime false
    && relCoin.isCoinProtocolSupported reserved.relProtocolInfo (some reserved.relAmount)
        lockTime false

def takerConnect (ourPublicId : H256) (reserved : MakerReserved) : TakerConnect where
  senderPubkey := ourPublicId
  destPubKey := reserved.senderPubkey
  takerOrderUuid := reserved.takerOrderUuid
  makerOrderUuid := reserved.makerOrderUuid

def takerMatch (ourPublicId : H256) (nowMs : ℕ) (reserved : MakerReserved) : TakerMatch where
  reserved := reserved
  connect := takerConnect ourPublicId reserved
  connected := none
  lastUpdated := nowMs

/-- The order once a reservation is taken up. -/
def connect (ourPublicId : H256) (nowMs : ℕ) (reserved : MakerReserved) : TakerOrder :=
  { t with
    orderMatches :=
      t.orderMatches.insert reserved.makerOrderUuid (takerMatch ourPublicId nowMs reserved) }

@[simp] theorem request_connect (ourPublicId : H256) (nowMs : ℕ) (reserved : MakerReserved) :
    (t.connect ourPublicId nowMs reserved).request = t.request := rfl

theorem orderMatches_connect (ourPublicId : H256) (nowMs : ℕ) (reserved : MakerReserved) :
    (t.connect ourPublicId nowMs reserved).orderMatches ≠ ∅ := by
  intro hempty
  have hmem : reserved.makerOrderUuid ∈ (t.connect ourPublicId nowMs reserved).orderMatches :=
    Finmap.mem_insert.mpr (.inl rfl)
  exact Finmap.notMem_empty (hempty ▸ hmem)

theorem canConnect_matches {t : TakerOrder} {baseCoin relCoin : MmCoin} {reserved : MakerReserved}
    (h : t.canConnect baseCoin relCoin reserved = true) :
    t.matchReserved reserved = .matched ∧ t.orderMatches = ∅ := by
  simp only [canConnect, Bool.and_eq_true, decide_eq_true_eq] at h
  exact h.1.1

/-- The message taken up is the cheapest of those that fit. -/
theorem find_canConnect_cheapest {t : TakerOrder} {S : PriceSort} {baseCoin relCoin : MmCoin}
    {messages sorted : List MakerReserved} {reserved : MakerReserved}
    (hsort : S.sortByPrice messages = some sorted)
    (h : sorted.find? (t.canConnect baseCoin relCoin) = some reserved) :
    reserved ∈ messages ∧ ∀ r ∈ messages, t.canConnect baseCoin relCoin r = true →
      reserved.price ≤ r.price := by
  unfold PriceSort.sortByPrice at hsort
  split at hsort
  · obtain rfl := Option.some.inj hsort
    refine ⟨(S.perm messages).mem_iff.mp (List.mem_of_find?_eq_some h), fun r hr hfits => ?_⟩
    obtain ⟨-, before, after, hsplit, hbefore⟩ := List.find?_eq_some_iff_append.mp h
    have hmem : r ∈ before ++ reserved :: after := hsplit ▸ (S.perm messages).mem_iff.mpr hr
    have hsorted := S.sorted messages
    rw [hsplit, List.pairwise_append] at hsorted
    rcases List.mem_append.mp hmem with hr | hr
    · exact absurd hfits (by simpa using hbefore r hr)
    · rcases List.mem_cons.mp hr with rfl | hr
      · exact le_rfl
      · exact (List.pairwise_cons.mp hsorted.2.1).1 r hr
  · simp at hsort

end TakerOrder

/-! ## The node's taker orders -/

/-- A swap started by `lp_connected_alice`. -/
structure AliceStart where
  takerOrder : TakerOrder
  takerMatch : TakerMatch
  fromPubkey : H256
  deriving DecidableEq

/-- What is recorded of the messages. -/
structure TakerRecord where
  /-- Reservations that entered `pending_maker_reserved`. -/
  received : List MakerReserved
  /-- Reservations that were compared by price and with the order. -/
  considered : List MakerReserved
  /-- Reservations answered by a connect message. -/
  accepted : List MakerReserved
  aliceStarts : List AliceStart
  deriving DecidableEq

structure TakerSide where
  myTakerOrders : HashMap Uuid TakerOrder
  pendingMakerReserved : HashMap Uuid (List MakerReserved)
  /-- Handlers that have found the order and have not stored their message yet. -/
  checked : List MakerReserved
  /-- Handlers that will drain the entry of an order, by its uuid. -/
  sleeping : List Uuid
  /-- Uuids drawn for taker orders so far. -/
  uuids : Finset Uuid
  record : TakerRecord
  deriving DecidableEq

/-- What a handler reads when it wakes up. -/
structure DrainEnv where
  /-- Result of `find_pair`: the activated coins of the maker's and of the taker's side. -/
  coins : Option (MmCoin × MmCoin)
  sort : PriceSort
  nowMs : ℕ

inductive TakerEvent where
  /-- `lp_auto_buy`. -/
  | newOrder (builder : TakerOrderBuilder) (env : BuildEnv)
  /-- The order is cancelled, or times out and is deleted or becomes a maker order. -/
  | removed (uuid : Uuid)
  | makerReserved (fromPubkey : H256) (msg : NewProtocol.MakerReserved)
  | stored (index : ℕ)
  | drained (index : ℕ) (env : DrainEnv)
  | makerConnected (fromPubkey : H256) (msg : NewProtocol.MakerConnected)

namespace TakerSide

variable (ourPublicId : H256)

/-- `process_maker_reserved` until it has checked that the order exists. -/
def checkReserved (s : TakerSide) (fromPubkey : H256) (reservedMsg : MakerReserved) : TakerSide :=
  if reservedMsg.takerOrderUuid ∉ s.myTakerOrders then s
  else if ourPublicId = fromPubkey then s
  else { s with checked := s.checked ++ [reservedMsg] }

/-- The message joins the entry of its order. Only the first one stays to process them. -/
def storeReserved (s : TakerSide) (reservedMsg : MakerReserved) : TakerSide :=
  let uuid := reservedMsg.takerOrderUuid
  let pendingForOrder := (s.pendingMakerReserved.lookup uuid).getD [] ++ [reservedMsg]
  { s with
    pendingMakerReserved := s.pendingMakerReserved.insert uuid pendingForOrder
    sleeping := if pendingForOrder.length > 1 then s.sleeping else s.sleeping ++ [uuid]
    record := { s.record with received := s.record.received ++ [reservedMsg] } }

/-- The taken entry is sorted and searched for a reservation that fits. -/
def processPending (s : TakerSide) (uuid : Uuid) (myOrder : TakerOrder)
    (baseCoin relCoin : MmCoin) (nowMs : ℕ) (sorted : List MakerReserved) : TakerSide :=
  let s := { s with record := { s.record with considered := s.record.considered ++ sorted } }
  match sorted.find? (myOrder.canConnect baseCoin relCoin) with
  | none => s
  | some reserved =>
    { s with
      myTakerOrders := s.myTakerOrders.insert uuid (myOrder.connect ourPublicId nowMs reserved)
      record := { s.record with accepted := s.record.accepted ++ [reserved] } }

/-- `process_maker_reserved` after the sleep. -/
def drainReserved (s : TakerSide) (uuid : Uuid) (env : DrainEnv) : TakerSide :=
  match s.myTakerOrders.lookup uuid with
  | none => s
  | some myOrder =>
    match env.coins with
    -- attempt to match with deactivated coin
    | none => s
    | some (baseCoin, relCoin) =>
      match s.pendingMakerReserved.lookup uuid with
      | none => s
      | some messages =>
        let s := { s with pendingMakerReserved := s.pendingMakerReserved.erase uuid }
        match env.sort.sortByPrice messages with
        | none => s
        | some sorted => s.processPending ourPublicId uuid myOrder baseCoin relCoin env.nowMs sorted

/-- `process_maker_connected`: the swap is started and the order removed. -/
def processMakerConnected (s : TakerSide) (fromPubkey : H256) (connected : MakerConnected) :
    TakerSide :=
  if ourPublicId = fromPubkey then s
  else
    match s.myTakerOrders.lookup connected.takerOrderUuid with
    | none => s
    | some myOrder =>
      match myOrder.orderMatches.lookup connected.makerOrderUuid with
      | none => s
      | some orderMatch =>
        if orderMatch.reserved.senderPubkey ≠ fromPubkey then s
        else
          { s with
            myTakerOrders := s.myTakerOrders.erase connected.takerOrderUuid
            record :=
              { s.record with
                aliceStarts := s.record.aliceStarts ++ [⟨myOrder, orderMatch, fromPubkey⟩] } }

/-- A new order is stored under the uuid drawn for it, which no order had before. -/
def insertOrder (s : TakerSide) (order : TakerOrder) : TakerSide :=
  if order.request.uuid ∈ s.uuids then s
  else
    { s with
      myTakerOrders := s.myTakerOrders.insert order.request.uuid order
      uuids := insert order.request.uuid s.uuids }

/-- One handler step or RPC; an index without a handler changes nothing. -/
def step (s : TakerSide) : TakerEvent → TakerSide
  | .newOrder builder env =>
    match builder.build env with
    | some (.ok order) => s.insertOrder order
    | _ => s
  | .removed uuid => { s with myTakerOrders := s.myTakerOrders.erase uuid }
  | .makerReserved fromPubkey msg =>
    s.checkReserved ourPublicId fromPubkey (.fromNewProtoAndPubkey msg fromPubkey)
  | .stored index =>
    match s.checked[index]? with
    | none => s
    | some reservedMsg =>
      { s with checked := s.checked.eraseIdx index }.storeReserved reservedMsg
  | .drained index env =>
    match s.sleeping[index]? with
    | none => s
    | some uuid =>
      { s with sleeping := s.sleeping.eraseIdx index }.drainReserved ourPublicId uuid env
  | .makerConnected fromPubkey msg =>
    s.processMakerConnected ourPublicId fromPubkey (.ofNewProto msg)

end TakerSide

end DeXFG.Ordermatch
