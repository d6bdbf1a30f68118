import DeXFG.Ordermatch.Draining

/-!
# Selection among the pending reservations

The handler that takes an entry of `pending_maker_reserved` sorts its messages
by price before it checks any of them, and connects to the first that fits. A
message of another maker can therefore stop it: a base amount of zero makes the
comparison of prices panic.
-/
namespace DeXFG.Ordermatch
open DeXFG.Library.FiniteMap

namespace TakerOrder

variable (t : TakerOrder) (S : PriceSort) (baseCoin relCoin : MmCoin)

/-- The message taken up among those of an entry; the outer `none` is the panic of the sort. -/
def selectReserved (messages : List MakerReserved) : Option (Option MakerReserved) :=
  (S.sortByPrice messages).map fun sorted => sorted.find? (t.canConnect baseCoin relCoin)

/-- The message fits, and no other one that fits is cheaper for the taker. -/
structure Cheapest (messages : List MakerReserved) (reserved : MakerReserved) : Prop where
  mem : reserved ∈ messages
  fits : t.canConnect baseCoin relCoin reserved = true
  price_le : ∀ r ∈ messages, t.canConnect baseCoin relCoin r = true → reserved.price ≤ r.price

variable {t S baseCoin relCoin} {messages : List MakerReserved}

theorem selectReserved_eq_none :
    t.selectReserved S baseCoin relCoin messages = none ↔ ¬ Sortable messages := by
  rw [selectReserved, PriceSort.sortByPrice]
  split <;> simp_all

theorem selectReserved_of_sortable (h : Sortable messages) :
    t.selectReserved S baseCoin relCoin messages =
      some ((S.sort messages).find? (t.canConnect baseCoin relCoin)) := by
  rw [selectReserved, PriceSort.sortByPrice, if_pos h]
  rfl

/-- Without a panic a message is selected whenever one fits, and the selected one is the
cheapest. -/
theorem exists_cheapest (hsort : Sortable messages)
    (hfits : ∃ r ∈ messages, t.canConnect baseCoin relCoin r = true) :
    ∃ reserved, t.selectReserved S baseCoin relCoin messages = some (some reserved) ∧
      t.Cheapest baseCoin relCoin messages reserved := by
  have hsorted : S.sortByPrice messages = some (S.sort messages) := by
    rw [PriceSort.sortByPrice, if_pos hsort]
  cases hfind : (S.sort messages).find? (t.canConnect baseCoin relCoin) with
  | none =>
    obtain ⟨r, hr, hfit⟩ := hfits
    have hmem : r ∈ S.sort messages := (S.perm messages).mem_iff.mpr hr
    exact absurd hfit (List.find?_eq_none.mp hfind r hmem)
  | some reserved =>
    obtain ⟨hmem, hle⟩ := find_canConnect_cheapest hsorted hfind
    refine ⟨reserved, by rw [selectReserved_of_sortable hsort, hfind], ?_⟩
    exact { mem := hmem, fits := List.find?_some hfind, price_le := hle }

end TakerOrder

namespace TakerSide

variable {s : TakerSide} (ourPublicId : H256) {uuid : Uuid} {t : TakerOrder} (env : DrainEnv)
  {baseCoin relCoin : MmCoin} {messages : List MakerReserved}

/-- The order is connected to the message: the match is stored and the connect message sent. -/
structure ConnectedTo (s' : TakerSide) (ourPublicId : H256) (uuid : Uuid) (t : TakerOrder)
    (nowMs : ℕ) (s : TakerSide) (reserved : MakerReserved) : Prop where
  order : s'.myTakerOrders.lookup uuid = some (t.connect ourPublicId nowMs reserved)
  accepted : s'.record.accepted = s.record.accepted ++ [reserved]

/-- What the handler that wakes up does with the selected message. -/
theorem drainReserved_selected (horder : s.myTakerOrders.lookup uuid = some t)
    (hcoins : env.coins = some (baseCoin, relCoin))
    (hpending : s.pendingMakerReserved.lookup uuid = some messages) {reserved : MakerReserved}
    (h : t.selectReserved env.sort baseCoin relCoin messages = some (some reserved)) :
    (s.drainReserved ourPublicId uuid env).ConnectedTo ourPublicId uuid t env.nowMs s reserved := by
  obtain ⟨sorted, hsorted, hfind⟩ := Option.map_eq_some_iff.mp h
  rw [drainReserved, horder, hcoins, hpending]
  simp only [hsorted, processPending, hfind]
  exact { order := Finmap.lookup_insert .., accepted := rfl }

/-- The handler of an entry does not panic, and if a message fits it connects to a cheapest one,
exactly when the messages can be compared by price. -/
theorem drainReserved_cheapest_iff (horder : s.myTakerOrders.lookup uuid = some t)
    (hcoins : env.coins = some (baseCoin, relCoin))
    (hpending : s.pendingMakerReserved.lookup uuid = some messages) :
    (t.selectReserved env.sort baseCoin relCoin messages ≠ none ∧
      ((∃ r ∈ messages, t.canConnect baseCoin relCoin r = true) →
        ∃ reserved, t.Cheapest baseCoin relCoin messages reserved ∧
          (s.drainReserved ourPublicId uuid env).ConnectedTo ourPublicId uuid t env.nowMs s
            reserved)) ↔
      messages.length ≤ 1 ∨ ∀ r ∈ messages, r.baseAmount ≠ 0 := by
  change _ ↔ Sortable messages
  constructor
  · intro h
    by_contra hsort
    exact h.1 (TakerOrder.selectReserved_eq_none.mpr hsort)
  · intro hsort
    refine ⟨fun hnone => TakerOrder.selectReserved_eq_none.mp hnone hsort, fun hfits => ?_⟩
    obtain ⟨reserved, hselected, hcheapest⟩ := TakerOrder.exists_cheapest hsort hfits
    exact ⟨reserved, hcheapest,
      drainReserved_selected ourPublicId env horder hcoins hpending hselected⟩

/-! ### Reservations for an order of 4 RICK -/

def orderOfFour : TakerOrder :=
  (testTakerBuilder OwnOrder.rick OwnOrder.morty).assemble ⟨0, 2, ⟨2⟩⟩ 1

/-- The order waits, and the messages have come for it. -/
def waitingWith (messages : List MakerReserved) : TakerSide :=
  { waitingForFour with
    pendingMakerReserved :=
      (∅ : HashMap Uuid (List MakerReserved)).insert 2 messages }

def reservation (makerOrderUuid : Uuid) (baseAmount relAmount : MmNumber) : MakerReserved :=
  { MakerReserved.fromNewProtoAndPubkey (reservedFour makerOrderUuid relAmount) 5 with
    baseAmount := baseAmount }

/-- Of the prices 1 and 3/4 the lower one is taken. -/
theorem cheapest_of_two :
    (orderOfFour.canConnect OwnOrder.rick OwnOrder.morty (reservation 16 4 3) = true) ∧
    ∃ reserved, orderOfFour.Cheapest OwnOrder.rick OwnOrder.morty
        [reservation 15 4 4, reservation 16 4 3] reserved ∧
      ((waitingWith [reservation 15 4 4, reservation 16 4 3]).drainReserved 1 2
        ⟨some (OwnOrder.rick, OwnOrder.morty), .insertion, 0⟩).ConnectedTo 1 2 orderOfFour 0
          (waitingWith [reservation 15 4 4, reservation 16 4 3]) reserved := by
  have hfits : orderOfFour.canConnect OwnOrder.rick OwnOrder.morty (reservation 16 4 3) = true := by
    decide +kernel
  have horder : (waitingWith [reservation 15 4 4, reservation 16 4 3]).myTakerOrders.lookup 2 =
      some orderOfFour := by decide +kernel
  have hpending : (waitingWith [reservation 15 4 4, reservation 16 4 3]).pendingMakerReserved.lookup
      2 = some [reservation 15 4 4, reservation 16 4 3] := by decide +kernel
  have hiff := drainReserved_cheapest_iff 1 ⟨some (OwnOrder.rick, OwnOrder.morty), .insertion, 0⟩
    horder rfl hpending
  exact ⟨hfits, (hiff.mpr (.inr (by decide +kernel))).2 ⟨reservation 16 4 3, by simp, hfits⟩⟩

/-- A message without base amount makes the handler panic although the other one fits. -/
theorem panics_on_zero :
    orderOfFour.canConnect OwnOrder.rick OwnOrder.morty (reservation 15 4 4) = true ∧
    ¬ (orderOfFour.selectReserved .insertion OwnOrder.rick OwnOrder.morty
        [reservation 15 4 4, reservation 16 0 3] ≠ none ∧
      ((∃ r ∈ [reservation 15 4 4, reservation 16 0 3],
          orderOfFour.canConnect OwnOrder.rick OwnOrder.morty r = true) →
        ∃ reserved, orderOfFour.Cheapest OwnOrder.rick OwnOrder.morty
            [reservation 15 4 4, reservation 16 0 3] reserved ∧
          ((waitingWith [reservation 15 4 4, reservation 16 0 3]).drainReserved 1 2
            ⟨some (OwnOrder.rick, OwnOrder.morty), .insertion, 0⟩).ConnectedTo 1 2 orderOfFour 0
              (waitingWith [reservation 15 4 4, reservation 16 0 3]) reserved)) := by
  refine ⟨by decide +kernel, fun h => h.1 ?_⟩
  exact TakerOrder.selectReserved_eq_none.mpr (by decide +kernel)

end TakerSide

end DeXFG.Ordermatch
