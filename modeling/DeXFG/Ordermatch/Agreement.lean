import DeXFG.Ordermatch.OwnOrder

/-!
# Agreement of maker and taker on a match

A taker order is broadcast as a request, a maker order answers it with a
reservation, and the taker checks the reservation that comes back. Messages are
received as they were sent, and each carries the public key that signed it: the
key of the order when the order has one, the key of the node otherwise.
-/
namespace DeXFG.Ordermatch
open DeXFG.Library.FiniteMap DeXFG.Library.Runs MakerOrder

/-- The key that signs a broadcast: `p2p_private_and_peer_id_to_broadcast`. -/
def broadcastPubkey (p2pPrivkey : Option KeyPair) (ourPublicId : H256) : H256 :=
  (p2pPrivkey.map KeyPair.publicUnprefixed).getD ourPublicId

/-- The tickers of a reservation are those of the request, from the maker's side. -/
def SameTickers (requestMsg : NewProtocol.TakerRequest) (reserved : MakerReserved) : Prop :=
  match requestMsg.action with
  | .buy => reserved.base = requestMsg.base ∧ reserved.rel = requestMsg.rel
  | .sell => reserved.base = requestMsg.rel ∧ reserved.rel = requestMsg.base

namespace TakerRequest

/-- The amount the taker is ready to pay. -/
def offeredAmount (r : TakerRequest) : MmNumber :=
  match r.action with
  | .buy => r.relAmount
  | .sell => r.baseAmount

/-- The amount the taker asks to receive. -/
def requestedAmount (r : TakerRequest) : MmNumber :=
  match r.action with
  | .buy => r.baseAmount
  | .sell => r.relAmount

end TakerRequest

/-- A match of amounts within the limits of both orders. -/
structure WithinLimits (maker : MakerOrder) (taker : TakerOrder) (baseAmount relAmount : MmNumber) :
    Prop where
  available : baseAmount ≤ maker.availableAmount
  min_le : maker.minBaseVol ≤ baseAmount
  price_eq : relAmount / baseAmount = maker.price
  pays : relAmount ≤ taker.request.offeredAmount
  receives : taker.request.requestedAmount ≤ baseAmount

section Match

variable {o : MakerOrder} {t : TakerOrder} {requestMsg : NewProtocol.TakerRequest}
  {takerPubkey : H256} {baseAmount relAmount : MmNumber}

/-- The broadcast request differs from the order's own only in tickers, keys and settings. -/
theorem toNewProto_request (h : t.toNewProto = some requestMsg) :
    requestMsg.action = t.request.action ∧ requestMsg.baseAmount = t.request.baseAmount ∧
      requestMsg.relAmount = t.request.relAmount ∧ requestMsg.matchBy = t.request.matchBy ∧
      requestMsg.base = t.baseOrderbookTicker ∧ requestMsg.rel = t.relOrderbookTicker := by
  obtain ⟨conf, -, rfl⟩ := Option.map_eq_some_iff.mp h
  exact ⟨rfl, rfl, rfl, rfl, rfl, rfl⟩

theorem MakerOrder.Fills.withinLimits (h : t.toNewProto = some requestMsg)
    (hfills : o.Fills (.fromNewProtoAndPubkey requestMsg takerPubkey) baseAmount relAmount) :
    WithinLimits o t baseAmount relAmount := by
  obtain ⟨haction, hbase, hrel, -⟩ := toNewProto_request h
  have hprice : relAmount / baseAmount = o.price := by
    rw [hfills.at_price, mul_div_cancel_left₀ _ hfills.base_pos.ne']
  cases ht : t.request.action with
  | buy =>
    obtain ⟨hfull, hpay⟩ := hfills.buy (haction.trans ht)
    exact
      { available := hfills.available
        min_le := hfills.min_le
        price_eq := hprice
        pays := by
          rw [TakerRequest.offeredAmount, ht, ← hrel]
          exact hpay
        receives := by
          rw [TakerRequest.requestedAmount, ht, ← hbase]
          exact hfull.ge }
  | sell =>
    obtain ⟨hfull, hreceive⟩ := hfills.sell (haction.trans ht)
    exact
      { available := hfills.available
        min_le := hfills.min_le
        price_eq := hprice
        pays := by
          rw [TakerRequest.offeredAmount, ht, ← hbase]
          exact hfull.le
        receives := by
          rw [TakerRequest.requestedAmount, ht, ← hrel]
          exact hreceive }

end Match

namespace TakerOrder

/-- An own ticker, or the orderbook ticker standing for it, is recognised. -/
theorem ticker_matches (ticker : String) (orderbookTicker : Option String) :
    ticker = orderbookTicker.getD ticker ∨ orderbookTicker = some (orderbookTicker.getD ticker) := by
  cases orderbookTicker <;> simp

/-- With the tickers it was asked for and amounts within its limits, a reservation is accepted
exactly when its maker is. -/
theorem matchReserved_iff {t : TakerOrder} {requestMsg : NewProtocol.TakerRequest}
    {reserved : MakerReserved} (h : t.toNewProto = some requestMsg)
    (htickers : SameTickers requestMsg reserved)
    (hbuy : t.request.action = .buy →
      t.request.baseAmount = reserved.baseAmount ∧ reserved.relAmount ≤ t.request.relAmount)
    (hsell : t.request.action = .sell →
      t.request.baseAmount = reserved.relAmount ∧ t.request.relAmount ≤ reserved.baseAmount) :
    t.matchReserved reserved = .matched ↔ t.acceptsMaker reserved = true := by
  obtain ⟨haction, -, -, -, hbase, hrel⟩ := toNewProto_request h
  rw [SameTickers, haction] at htickers
  unfold matchReserved
  cases hmaker : t.acceptsMaker reserved with
  | false => simp
  | true =>
    have hown := ticker_matches t.request.base t.baseOrderbookTickerOpt
    have hother := ticker_matches t.request.rel t.relOrderbookTickerOpt
    cases ht : t.request.action with
    | buy =>
      rw [ht] at htickers
      simp only [Bool.true_eq_false, if_false]
      rw [if_pos]
      · simp
      · rw [htickers.1, htickers.2, hbase, hrel]
        exact ⟨⟨hown, hother⟩, hbuy ht⟩
    | sell =>
      rw [ht] at htickers
      simp only [Bool.true_eq_false, if_false]
      rw [if_pos]
      · simp
      · rw [htickers.1, htickers.2, hbase, hrel]
        exact ⟨⟨hown, hother⟩, hsell ht⟩

end TakerOrder

/-- The reservation as the taker receives it, signed by the maker. -/
def receivedReserved (o : MakerOrder) (ourPublicId : H256)
    (reservedMsg : NewProtocol.MakerReserved) : MakerReserved :=
  .fromNewProtoAndPubkey reservedMsg (broadcastPubkey o.p2pPrivkey ourPublicId)

/-- What a reservation that was made and sent consists of. -/
theorem reserved_cases {o o' : MakerOrder} {env : RequestEnv} {fromPubkey : H256}
    {request : TakerRequest} {reserved : MakerReserved} {reservedMsg : NewProtocol.MakerReserved}
    (hanswer : o.processTakerRequest env fromPubkey request = some (o', some reserved))
    (hreply : reserved.toNewProto = some reservedMsg) :
    ∃ baseAmount relAmount baseCoin relCoin,
      o.matchWithRequest request = some (.matched baseAmount relAmount) ∧
      env.coins = some (baseCoin, relCoin) ∧
      request.canMatchWithMakerPubkey env.ourPublicId = true ∧
      request.canMatchWithUuid o.uuid = true ∧
      reserved = o.makerReserved env.ourPublicId request baseAmount relAmount baseCoin relCoin ∧
      receivedReserved o env.ourPublicId reservedMsg =
        { reserved with
          senderPubkey := broadcastPubkey o.p2pPrivkey env.ourPublicId, destPubKey := 0 } := by
  rcases processTakerRequest_cases hanswer with ⟨-, hnone⟩ |
    ⟨baseAmount, relAmount, baseCoin, relCoin, hmatch, hcoins, hpub, huuid, -, hreserved, -⟩
  · simp at hnone
  · obtain ⟨conf, hconf, rfl⟩ := Option.map_eq_some_iff.mp hreply
    refine ⟨baseAmount, relAmount, baseCoin, relCoin, hmatch, hcoins, hpub, huuid,
      Option.some.inj hreserved, ?_⟩
    rw [receivedReserved, MakerReserved.fromNewProtoAndPubkey, MakerReserved.message, ← hconf]

/-- A match of a maker order with the request of a taker order is within the limits of both, and
the reservation made for it is accepted by the taker exactly when the taker does not choose
makers by public key, or chose the key the reservation is signed with. -/
theorem match_agreement {t : TakerOrder} {requestMsg : NewProtocol.TakerRequest}
    {takerPubkey : H256} {s : OwnOrder} {baseAmount relAmount : MmNumber}
    (hs : s.Reached) (hsent : t.toNewProto = some requestMsg)
    (hmatch : s.order.matchWithRequest (.fromNewProtoAndPubkey requestMsg takerPubkey) =
      some (.matched baseAmount relAmount)) :
    WithinLimits s.order t baseAmount relAmount ∧
      ∀ (env : RequestEnv) (o' : MakerOrder) (reserved : MakerReserved)
        (reservedMsg : NewProtocol.MakerReserved),
        s.order.processTakerRequest env takerPubkey
          (.fromNewProtoAndPubkey requestMsg takerPubkey) = some (o', some reserved) →
        reserved.toNewProto = some reservedMsg →
        SameTickers requestMsg (receivedReserved s.order env.ourPublicId reservedMsg) →
        (t.matchReserved (receivedReserved s.order env.ourPublicId reservedMsg) = .matched ↔
          ∀ pubkeys, t.request.matchBy = .pubkeys pubkeys →
            broadcastPubkey s.order.p2pPrivkey env.ourPublicId ∈ pubkeys) := by
  have hfills := matchWithRequest_fills hs.inv.sound.price_pos hmatch
  refine ⟨hfills.withinLimits hsent, ?_⟩
  intro env o' reserved reservedMsg hanswer hreply htickers
  obtain ⟨base', rel', baseCoin, relCoin, hmatch', -, -, huuid, hreserved, hreceived⟩ :=
    reserved_cases hanswer hreply
  obtain ⟨rfl, rfl⟩ :=
    OrderMatchResult.matched.inj (Option.some.inj (hmatch.symm.trans hmatch'))
  obtain ⟨haction, hbase, hrel, hmatchBy, -, -⟩ := toNewProto_request hsent
  rw [TakerOrder.matchReserved_iff hsent htickers]
  · rw [TakerOrder.acceptsMaker, hreceived]
    cases hby : t.request.matchBy with
    | any => simp
    | orders uuids =>
      -- the maker has already checked that its order is among the chosen ones
      simp only [TakerRequest.canMatchWithUuid, TakerRequest.fromNewProtoAndPubkey, hmatchBy, hby]
        at huuid
      simpa [hreserved, makerReserved] using huuid
    | pubkeys pubkeys => simp
  · intro hbuy
    obtain ⟨hfull, hpay⟩ := hfills.buy (haction.trans hbuy)
    rw [hreceived, hreserved]
    exact ⟨hbase.symm.trans hfull.symm, hpay.trans hrel.le⟩
  · intro hsell
    obtain ⟨hfull, hreceive⟩ := hfills.sell (haction.trans hsell)
    rw [hreceived, hreserved]
    exact ⟨hbase.symm.trans hfull.symm, hrel.symm.le.trans hreceive⟩

/-! ### A privacy coin order and a taker choosing the maker's node -/

def arrr : MmCoin := testCoin "ARRR" .zCoin true

def testRequestEnv (baseCoin relCoin : MmCoin) : RequestEnv := ⟨1, some (baseCoin, relCoin), 0⟩

/-- A new order selling ten ARRR, under its own key 7. -/
def sellingArrr : OwnOrder where
  order := (testMakerBuilder arrr OwnOrder.morty).assemble ⟨0, 1, ⟨7⟩⟩ (777 / 100000)
  listed := true
  pending := []

/-- A taker order for four ARRR. -/
def buyingArrr (matchBy : MatchBy) : TakerOrder :=
  { testTakerBuilder arrr OwnOrder.morty with matchBy := matchBy }.assemble ⟨0, 2, ⟨8⟩⟩
    (777 / 100000)

def buyingArrrMsg (matchBy : MatchBy) : NewProtocol.TakerRequest :=
  (buyingArrr matchBy).message testConfSettings

/-- The reservation of the order for the request, made by node 1. -/
def reservedArrr (matchBy : MatchBy) : MakerReserved :=
  sellingArrr.order.makerReserved 1 (.fromNewProtoAndPubkey (buyingArrrMsg matchBy) 2) 4 4 arrr
    OwnOrder.morty

/-- The order after that reservation. -/
def reservingArrr (matchBy : MatchBy) : MakerOrder :=
  sellingArrr.order.addMatch 2 (newMatch (.fromNewProtoAndPubkey (buyingArrrMsg matchBy) 2)
    (reservedArrr matchBy) 0)

theorem reached_sellingArrr : sellingArrr.Reached :=
  .of_init ⟨.inl ⟨testMakerBuilder arrr OwnOrder.morty, ⟨0, 1, ⟨7⟩⟩, by decide +kernel⟩, rfl, rfl⟩

/-- Any maker will do: the reservation is accepted. -/
theorem match_agreement_arrr :
    WithinLimits sellingArrr.order (buyingArrr .any) 4 4 ∧
      (buyingArrr .any).matchReserved
        (receivedReserved sellingArrr.order 1 ((reservedArrr .any).message testConfSettings)) =
          .matched := by
  have hsent : (buyingArrr .any).toNewProto = some (buyingArrrMsg .any) := rfl
  have hmatch : sellingArrr.order.matchWithRequest
      (.fromNewProtoAndPubkey (buyingArrrMsg .any) 2) = some (.matched 4 4) := by decide +kernel
  obtain ⟨hlimits, hreserved⟩ := match_agreement reached_sellingArrr hsent hmatch
  have hany : ∀ pubkeys, (buyingArrr .any).request.matchBy = .pubkeys pubkeys →
      broadcastPubkey sellingArrr.order.p2pPrivkey 1 ∈ pubkeys := fun _ h => by
    simp [buyingArrr, TakerOrderBuilder.assemble] at h
  exact ⟨hlimits, (hreserved (testRequestEnv arrr OwnOrder.morty) (reservingArrr .any)
    (reservedArrr .any) _ (by decide +kernel) rfl ⟨rfl, rfl⟩).mpr hany⟩

/-- The taker chooses node 1. The node reserves, but its answer is signed by the order's key and
the taker rejects it. -/
theorem not_matchReserved_arrr :
    sellingArrr.Reached ∧
      ({ testTakerBuilder arrr OwnOrder.morty with matchBy := .pubkeys {1} } :
        TakerOrderBuilder).build ⟨0, 2, ⟨8⟩⟩ = some (.ok (buyingArrr (.pubkeys {1}))) ∧
      (buyingArrr (.pubkeys {1})).toNewProto = some (buyingArrrMsg (.pubkeys {1})) ∧
      sellingArrr.order.processTakerRequest (testRequestEnv arrr OwnOrder.morty) 2
          (.fromNewProtoAndPubkey (buyingArrrMsg (.pubkeys {1})) 2) =
        some (reservingArrr (.pubkeys {1}), some (reservedArrr (.pubkeys {1}))) ∧
      SameTickers (buyingArrrMsg (.pubkeys {1}))
        (receivedReserved sellingArrr.order 1
          ((reservedArrr (.pubkeys {1})).message testConfSettings)) ∧
      (buyingArrr (.pubkeys {1})).matchReserved
        (receivedReserved sellingArrr.order 1
          ((reservedArrr (.pubkeys {1})).message testConfSettings)) = .notMatched := by
  exact ⟨reached_sellingArrr, by decide +kernel, rfl, by decide +kernel, ⟨rfl, rfl⟩,
    by decide +kernel⟩

end DeXFG.Ordermatch
