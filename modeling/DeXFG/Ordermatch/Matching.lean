import DeXFG.Ordermatch.Orders

/-!
# Matching of maker orders with taker requests

A maker order offers `max_base_vol` less what its matches reserve. The maker
decides on a request by `matchWithRequest`, the taker on the reservation that
comes back by `matchReserved`; a timed out taker order becomes a maker order.
-/
namespace DeXFG.Ordermatch
open DeXFG.Library.FiniteMap

inductive OrderMatchResult where
  | matched (baseAmount relAmount : MmNumber)
  | notMatched
  deriving DecidableEq

inductive MatchReservedResult where
  | matched
  | notMatched
  deriving DecidableEq

namespace MakerOrder

variable (o : MakerOrder)

def reservedAmount : MmNumber := sum (fun m => m.reserved.baseAmount) o.orderMatches

def availableAmount : MmNumber := o.maxBaseVol - o.reservedAmount

/-- There is a match that has not been connected yet. -/
def hasOngoingMatches : Bool :=
  anyValue (fun m => m.connected.isNone && m.connect.isNone) o.orderMatches

def baseOrderbookTicker : String := o.baseOrderbookTickerOpt.getD o.base

def relOrderbookTicker : String := o.relOrderbookTickerOpt.getD o.rel

def matchWithRequest (taker : TakerRequest) : Option OrderMatchResult :=
  if taker.baseAmount ≤ 0 ∨ taker.relAmount ≤ 0 then some .notMatched
  else
    match taker.action with
    | .buy =>
      let tickerMatch := (o.base = taker.base ∨ o.baseOrderbookTickerOpt = some taker.base)
        ∧ (o.rel = taker.rel ∨ o.relOrderbookTickerOpt = some taker.rel)
      (MmNumber.div? taker.relAmount taker.baseAmount).map fun takerPrice =>
        if tickerMatch ∧ taker.baseAmount ≤ o.availableAmount ∧ taker.baseAmount ≥ o.minBaseVol
            ∧ takerPrice ≥ o.price then
          .matched taker.baseAmount (taker.baseAmount * o.price)
        else .notMatched
    | .sell =>
      let tickerMatch := (o.base = taker.rel ∨ o.baseOrderbookTickerOpt = some taker.rel)
        ∧ (o.rel = taker.base ∨ o.relOrderbookTickerOpt = some taker.base)
      (MmNumber.div? taker.baseAmount taker.relAmount).bind fun takerPrice =>
      -- the amount is computed with the maker's price, not the taker's
      (MmNumber.div? taker.baseAmount o.price).map fun matchedBaseAmount =>
        if tickerMatch ∧ matchedBaseAmount ≤ o.availableAmount ∧ matchedBaseAmount ≥ o.minBaseVol
            ∧ takerPrice ≥ o.price then
          .matched matchedBaseAmount taker.baseAmount
        else .notMatched

/-- The pair is the order's, each coin under its own or its orderbook ticker. -/
def Trades (base rel : String) : Prop :=
  (o.base = base ∨ o.baseOrderbookTickerOpt = some base) ∧
    (o.rel = rel ∨ o.relOrderbookTickerOpt = some rel)

/-- A match is one of two combinations: the request buys the order's base coin, or sells its rel
coin. -/
theorem matchWithRequest_cases {o : MakerOrder} {taker : TakerRequest}
    {baseAmount relAmount : MmNumber}
    (h : o.matchWithRequest taker = some (.matched baseAmount relAmount)) :
    (0 < taker.baseAmount ∧ 0 < taker.relAmount) ∧
    (baseAmount ≤ o.availableAmount ∧ o.minBaseVol ≤ baseAmount) ∧
    ((taker.action = .buy ∧ o.Trades taker.base taker.rel ∧ baseAmount = taker.baseAmount ∧
        relAmount = taker.baseAmount * o.price ∧
        o.price ≤ taker.relAmount / taker.baseAmount) ∨
      (taker.action = .sell ∧ o.Trades taker.rel taker.base ∧
        baseAmount = taker.baseAmount / o.price ∧ relAmount = taker.baseAmount ∧
        o.price ≤ taker.baseAmount / taker.relAmount)) := by
  unfold matchWithRequest at h
  split at h
  · simp at h
  rename_i hzero
  rw [not_or, not_le, not_le] at hzero
  refine ⟨hzero, ?_⟩
  cases haction : taker.action with
  | buy =>
    simp only [haction] at h
    obtain ⟨takerPrice, hdiv, h⟩ := Option.map_eq_some_iff.mp h
    obtain ⟨-, rfl⟩ := MmNumber.div?_eq_some.mp hdiv
    split at h
    · rename_i hmatch
      obtain ⟨htickers, havail, hmin, hlimit⟩ := hmatch
      obtain ⟨rfl, rfl⟩ := OrderMatchResult.matched.inj h
      exact ⟨⟨havail, hmin⟩, .inl ⟨rfl, htickers, rfl, rfl, hlimit⟩⟩
    · simp at h
  | sell =>
    simp only [haction] at h
    obtain ⟨takerPrice, hdiv, h⟩ := Option.bind_eq_some_iff.mp h
    obtain ⟨-, rfl⟩ := MmNumber.div?_eq_some.mp hdiv
    obtain ⟨matchedBase, hdiv, h⟩ := Option.map_eq_some_iff.mp h
    obtain ⟨-, rfl⟩ := MmNumber.div?_eq_some.mp hdiv
    split at h
    · rename_i hmatch
      obtain ⟨htickers, havail, hmin, hlimit⟩ := hmatch
      obtain ⟨rfl, rfl⟩ := OrderMatchResult.matched.inj h
      exact ⟨⟨havail, hmin⟩, .inr ⟨rfl, htickers, rfl, rfl, hlimit⟩⟩
    · simp at h

/-- What a match guarantees: the volume is available, the maker's price is met exactly and the
taker's limits hold. -/
structure Fills (taker : TakerRequest) (baseAmount relAmount : MmNumber) : Prop where
  base_pos : 0 < baseAmount
  rel_pos : 0 < relAmount
  available : baseAmount ≤ o.availableAmount
  min_le : o.minBaseVol ≤ baseAmount
  at_price : relAmount = baseAmount * o.price
  buy : taker.action = .buy → baseAmount = taker.baseAmount ∧ relAmount ≤ taker.relAmount
  sell : taker.action = .sell → relAmount = taker.baseAmount ∧ taker.relAmount ≤ baseAmount

theorem matchWithRequest_fills {o : MakerOrder} {taker : TakerRequest}
    {baseAmount relAmount : MmNumber} (hprice : 0 < o.price)
    (h : o.matchWithRequest taker = some (.matched baseAmount relAmount)) :
    o.Fills taker baseAmount relAmount := by
  obtain ⟨⟨hbase, hrel⟩, ⟨havail, hmin⟩, hcase⟩ := matchWithRequest_cases h
  rcases hcase with ⟨haction, -, rfl, rfl, hlimit⟩ | ⟨haction, -, rfl, rfl, hlimit⟩
  · have hpay : taker.baseAmount * o.price ≤ taker.relAmount := by
      rwa [le_div_iff₀ hbase, mul_comm] at hlimit
    exact
      { base_pos := hbase
        rel_pos := mul_pos hbase hprice
        available := havail
        min_le := hmin
        at_price := rfl
        buy := fun _ => ⟨rfl, hpay⟩
        sell := fun hsell => by simp [haction] at hsell }
  · have hreceive : taker.relAmount ≤ taker.baseAmount / o.price := by
      rw [le_div_iff₀ hprice, mul_comm]
      rwa [le_div_iff₀ hrel] at hlimit
    exact
      { base_pos := div_pos hbase hprice
        rel_pos := hbase
        available := havail
        min_le := hmin
        at_price := (div_mul_cancel₀ _ hprice.ne').symm
        buy := fun hbuy => by simp [haction] at hbuy
        sell := fun _ => ⟨rfl, hreceive⟩ }

def applyUpdated (msg : NewProtocol.MakerOrderUpdated) (nowMs : ℕ) : MakerOrder :=
  { o with
    price := msg.newPrice.getD o.price
    maxBaseVol := msg.newMaxVolume.getD o.maxBaseVol
    minBaseVol := msg.newMinVolume.getD o.minBaseVol
    confSettings := msg.newConfSettings.or o.confSettings
    updatedAt := some nowMs }

/-- `From<TakerOrder> for MakerOrder`: a buy order is recreated with the reversed pair. -/
def ofTakerOrder (t : TakerOrder) (nowMs : ℕ) : Option MakerOrder :=
  match t.request.action with
  | .sell =>
    (MmNumber.div? t.request.relAmount t.request.baseAmount).map fun price =>
      { price := price
        maxBaseVol := t.request.baseAmount
        minBaseVol := t.minVolume
        createdAt := nowMs
        updatedAt := some nowMs
        base := t.request.base
        rel := t.request.rel
        orderMatches := ∅
        startedSwaps := []
        uuid := t.request.uuid
        confSettings := t.request.confSettings
        saveInHistory := t.saveInHistory
        baseOrderbookTickerOpt := t.baseOrderbookTickerOpt
        relOrderbookTickerOpt := t.relOrderbookTickerOpt
        p2pPrivkey := t.p2pPrivkey
        swapVersion := t.request.swapVersion
        swapMethod := t.request.swapMethod
        timeoutInMinutes := none }
  | .buy =>
    (MmNumber.div? t.request.baseAmount t.request.relAmount).bind fun price =>
    (MmNumber.div? t.minVolume price).map fun minBaseVol =>
      { price := price
        maxBaseVol := t.request.relAmount
        minBaseVol := minBaseVol
        createdAt := nowMs
        updatedAt := some nowMs
        base := t.request.rel
        rel := t.request.base
        orderMatches := ∅
        startedSwaps := []
        uuid := t.request.uuid
        confSettings := t.request.confSettings.map OrderConfirmationsSettings.reversed
        saveInHistory := t.saveInHistory
        baseOrderbookTickerOpt := t.relOrderbookTickerOpt
        relOrderbookTickerOpt := t.baseOrderbookTickerOpt
        p2pPrivkey := t.p2pPrivkey
        swapVersion := t.request.swapVersion
        swapMethod := t.request.swapMethod
        timeoutInMinutes := none }

/-- The maker order keeps the uuid and starts without matches. -/
theorem ofTakerOrder_uuid {t : TakerOrder} {nowMs : ℕ} {o : MakerOrder}
    (h : ofTakerOrder t nowMs = some o) : o.uuid = t.request.uuid ∧ o.orderMatches = ∅ := by
  unfold ofTakerOrder at h
  split at h
  · obtain ⟨price, -, rfl⟩ := Option.map_eq_some_iff.mp h
    exact ⟨rfl, rfl⟩
  · obtain ⟨price, -, h⟩ := Option.bind_eq_some_iff.mp h
    obtain ⟨minBaseVol, -, rfl⟩ := Option.map_eq_some_iff.mp h
    exact ⟨rfl, rfl⟩

end MakerOrder

namespace TakerOrder

variable (t : TakerOrder)

/-- The order's restriction on the maker of a reservation. -/
def acceptsMaker (reserved : MakerReserved) : Bool :=
  match t.request.matchBy with
  | .any => true
  | .orders uuids => decide (reserved.makerOrderUuid ∈ uuids)
  | .pubkeys pubkeys => decide (reserved.senderPubkey ∈ pubkeys)

def matchReserved (reserved : MakerReserved) : MatchReservedResult :=
  if t.acceptsMaker reserved = false then .notMatched
  else
    match t.request.action with
    | .buy =>
      let matchTicker :=
        (t.request.base = reserved.base ∨ t.baseOrderbookTickerOpt = some reserved.base)
        ∧ (t.request.rel = reserved.rel ∨ t.relOrderbookTickerOpt = some reserved.rel)
      if matchTicker ∧ t.request.baseAmount = reserved.baseAmount
          ∧ reserved.relAmount ≤ t.request.relAmount then .matched else .notMatched
    | .sell =>
      let matchTicker :=
        (t.request.base = reserved.rel ∨ t.baseOrderbookTickerOpt = some reserved.rel)
        ∧ (t.request.rel = reserved.base ∨ t.relOrderbookTickerOpt = some reserved.base)
      if matchTicker ∧ t.request.baseAmount = reserved.relAmount
          ∧ t.request.relAmount ≤ reserved.baseAmount then .matched else .notMatched

/-- The pair is the taker's, each coin under its own or its orderbook ticker. -/
def Trades (base rel : String) : Prop :=
  (t.request.base = base ∨ t.baseOrderbookTickerOpt = some base) ∧
    (t.request.rel = rel ∨ t.relOrderbookTickerOpt = some rel)

/-- An accepted reservation names the taker's coins. -/
theorem matchReserved_trades {t : TakerOrder} {reserved : MakerReserved}
    (h : t.matchReserved reserved = .matched) :
    (t.request.action = .buy ∧ t.Trades reserved.base reserved.rel) ∨
      (t.request.action = .sell ∧ t.Trades reserved.rel reserved.base) := by
  unfold matchReserved at h
  split at h
  · simp at h
  cases haction : t.request.action with
  | buy =>
    simp only [haction] at h
    split at h
    · rename_i hmatch
      exact .inl ⟨rfl, hmatch.1⟩
    · simp at h
  | sell =>
    simp only [haction] at h
    split at h
    · rename_i hmatch
      exact .inr ⟨rfl, hmatch.1⟩
    · simp at h

end TakerOrder

end DeXFG.Ordermatch
