import DeXFG.Library.ShortestPrefix
import DeXFG.Ordermatch.Ingest

/-!
# The best orders for a volume

A relay answers a request for the best orders of a coin with one list for each
ticker the coin is traded for: it goes through the orders of the pair by price
and stops when the collected volume reaches the required one.
-/
namespace DeXFG.Ordermatch
open DeXFG.Library.FiniteMap DeXFG.Library.SetMap DeXFG.Library.ShortestPrefix

inductive BestOrdersAction where
  | buy
  | sell
  deriving DecidableEq, Repr

namespace BestOrdersAction

/-- The coin is the base of the orders to buy from, and the rel of the orders to sell to. -/
def pair (action : BestOrdersAction) (coin ticker : String) : String × String :=
  match action with
  | buy => (coin, ticker)
  | sell => (ticker, coin)

def searchPairsIn (action : BestOrdersAction) (orderbook : Orderbook) :
    HashMap String (Finset String) :=
  match action with
  | buy => orderbook.pairsExistingForBase
  | sell => orderbook.pairsExistingForRel

/-- The minimal volume of an order in units of the requested coin. -/
def minVolume (action : BestOrdersAction) (o : OrderbookItem) : MmNumber :=
  match action with
  | buy => o.minVolume
  | sell => o.minVolume * o.price

/-- The maximal volume of an order in units of the requested coin. -/
def maxVolume (action : BestOrdersAction) (o : OrderbookItem) : MmNumber :=
  match action with
  | buy => o.maxVolume
  | sell => o.maxVolume * o.price

end BestOrdersAction

structure BestOrdersP2PRes where
  orders : HashMap String (List OrderbookP2PItem)
  infos : OrderInfos

namespace OrderInfos

/-- The protocol and confirmation infos of an order that is answered. -/
def addInfos (infos : OrderInfos) (o : OrderbookItem) : OrderInfos where
  protocolInfos := infos.protocolInfos.insert o.uuid ⟨o.baseProtocolInfo, o.relProtocolInfo⟩
  confInfos := o.confSettings.elim infos.confInfos (infos.confInfos.insert o.uuid)

end OrderInfos

namespace Orderbook

variable (orderbook : Orderbook) (action : BestOrdersAction) (requiredVolume : MmNumber)

/-- The loop over the orders of a pair, with the orders and the volume collected so far. -/
def collectBestOrders (bestOrders : List OrderbookItem) (collectedVolume : MmNumber) :
    List OrderedByPriceOrder → List OrderbookItem
  | [] => bestOrders
  | ordered :: orders =>
    match orderbook.orderSet.lookup ordered.uuid with
    | none => collectBestOrders bestOrders collectedVolume orders
    | some o =>
      if action.minVolume o > requiredVolume then
        collectBestOrders bestOrders collectedVolume orders
      else
        let bestOrders := bestOrders ++ [o]
        let collectedVolume := collectedVolume + action.maxVolume o
        if collectedVolume ≥ requiredVolume then bestOrders
        else collectBestOrders bestOrders collectedVolume orders

/-- The best orders for one ticker join the answer. -/
def addBestOrders (coin : String) (res : BestOrdersP2PRes) (ticker : String) : BestOrdersP2PRes :=
  match orderbook.ordered.lookup (action.pair coin ticker) with
  | none => res
  | some orders =>
    let bestOrders :=
      orderbook.collectBestOrders action requiredVolume [] 0 (orders.sort (· ≤ ·))
    { orders := res.orders.insert ticker (bestOrders.map OrderbookItem.toP2p)
      infos := bestOrders.foldl OrderInfos.addInfos res.infos }

/-- `process_best_orders_p2p_request`; a coin without pairs is not answered. -/
def processBestOrdersP2pRequest (it : SetIteration String) (coin : String) :
    Option BestOrdersP2PRes :=
  ((action.searchPairsIn orderbook).lookup coin).map fun tickers =>
    (it.toList tickers).foldl (orderbook.addBestOrders action requiredVolume coin) ⟨∅, ∅, ∅⟩

/-! ## What is answered -/

/-- The orders that the price index lists for a pair and that may be traded for the volume, in the
order of the index. -/
def eligible (pair : String × String) : List OrderbookItem :=
  (((valuesAt orderbook.ordered pair).sort (· ≤ ·)).filterMap
    fun ordered => orderbook.orderSet.lookup ordered.uuid).filter
      fun o => action.minVolume o ≤ requiredVolume

/-- The orders are stored with the prices under which the index of the pair lists them. -/
def PricesAgree (pair : String × String) : Prop :=
  ∀ ordered ∈ valuesAt orderbook.ordered pair, ∀ o,
    orderbook.orderSet.lookup ordered.uuid = some o → o.price = ordered.price

/-- At least one order is taken, and the orders taken reach the volume. -/
def Reaches (taken : List OrderbookItem) : Prop :=
  taken ≠ [] ∧ requiredVolume ≤ (taken.map action.maxVolume).sum

instance : DecidablePred (Reaches action requiredVolume) := fun _ =>
  inferInstanceAs (Decidable (_ ∧ _))

/-- The loop takes orders until they reach the volume. -/
theorem collectBestOrders_eq (bestOrders : List OrderbookItem)
    (orders : List OrderedByPriceOrder) :
    orderbook.collectBestOrders action requiredVolume bestOrders
        (bestOrders.map action.maxVolume).sum orders =
      takeUntil (Reaches action requiredVolume) bestOrders
        ((orders.filterMap fun ordered => orderbook.orderSet.lookup ordered.uuid).filter
          fun o => action.minVolume o ≤ requiredVolume) := by
  induction orders generalizing bestOrders with
  | nil => rfl
  | cons ordered orders ih =>
    rw [collectBestOrders]
    cases hlookup : orderbook.orderSet.lookup ordered.uuid with
    | none => simp [hlookup, ih]
    | some o =>
      by_cases hmin : action.minVolume o > requiredVolume
      · have hnot : ¬ action.minVolume o ≤ requiredVolume := not_le.mpr hmin
        simp [hlookup, hmin, hnot, ih]
      · have hle : action.minVolume o ≤ requiredVolume := not_lt.mp hmin
        have hsum : (bestOrders.map action.maxVolume).sum + action.maxVolume o =
            ((bestOrders ++ [o]).map action.maxVolume).sum := by simp
        have hreaches : Reaches action requiredVolume (bestOrders ++ [o]) ↔
            requiredVolume ≤ ((bestOrders ++ [o]).map action.maxVolume).sum :=
          and_iff_right (by simp)
        simp only [List.filterMap_cons, hlookup, List.filter_cons, hle, decide_true, if_true,
          if_neg hmin, takeUntil, hsum, hreaches, ih, ge_iff_le]

theorem collectBestOrders_isShortest (pair : String × String) :
    IsShortest (Reaches action requiredVolume) (orderbook.eligible action requiredVolume pair)
      (orderbook.collectBestOrders action requiredVolume [] 0
        ((valuesAt orderbook.ordered pair).sort (· ≤ ·))) := by
  have hloop := collectBestOrders_eq orderbook action requiredVolume []
    ((valuesAt orderbook.ordered pair).sort (· ≤ ·))
  rw [List.map_nil, List.sum_nil] at hloop
  rw [hloop]
  have hnone : ∀ p, p <+: [] → ¬ Reaches action requiredVolume p := fun p hp hreaches =>
    hreaches.1 (List.prefix_nil.mp hp)
  exact takeUntil_isShortest hnone

/-- The orders of the index that are stored, in the order of the index, have ascending prices. -/
theorem eligible_sorted (pair : String × String) (hagree : orderbook.PricesAgree pair) :
    (orderbook.eligible action requiredVolume pair).Pairwise fun a b => a.price ≤ b.price := by
  apply List.Pairwise.filter
  rw [List.pairwise_filterMap]
  have hsorted : ((valuesAt orderbook.ordered pair).sort (· ≤ ·)).Pairwise (· ≤ ·) :=
    Finset.pairwise_sort _ _
  refine hsorted.imp_of_mem fun {a b} ha hb hle o ho o' ho' => ?_
  rw [hagree a ((Finset.mem_sort _).mp ha) o ho, hagree b ((Finset.mem_sort _).mp hb) o' ho']
  have hkey : a.key ≤ b.key := hle
  rcases Prod.Lex.le_iff.mp hkey with hlt | ⟨heq, -⟩
  · exact hlt.le
  · exact heq.le

/-- The list answered for a ticker. -/
def answerFor (coin ticker : String) : Option (List OrderbookItem) :=
  (orderbook.ordered.lookup (action.pair coin ticker)).map fun orders =>
    orderbook.collectBestOrders action requiredVolume [] 0 (orders.sort (· ≤ ·))

/-- Each ticker has its own list, whatever the order in which the tickers are visited. -/
theorem lookup_foldl_addBestOrders (coin ticker : String) (tickers : List String)
    (res : BestOrdersP2PRes) :
    (tickers.foldl (orderbook.addBestOrders action requiredVolume coin) res).orders.lookup ticker =
      if ticker ∈ tickers then
        ((orderbook.answerFor action requiredVolume coin ticker).map
          (List.map OrderbookItem.toP2p)).or (res.orders.lookup ticker)
      else res.orders.lookup ticker := by
  have hstep (res : BestOrdersP2PRes) (visited : String) :
      (orderbook.addBestOrders action requiredVolume coin res visited).orders.lookup ticker =
        if ticker = visited then
          ((orderbook.answerFor action requiredVolume coin ticker).map
            (List.map OrderbookItem.toP2p)).or (res.orders.lookup ticker)
        else res.orders.lookup ticker := by
    unfold addBestOrders answerFor
    by_cases hticker : ticker = visited
    · subst hticker
      cases orderbook.ordered.lookup (action.pair coin ticker) <;> simp
    · cases orderbook.ordered.lookup (action.pair coin visited) <;>
        simp [hticker, Finmap.lookup_insert_of_ne]
  induction tickers generalizing res with
  | nil => simp
  | cons visited tickers ih =>
    rw [List.foldl_cons, ih, hstep]
    by_cases hvisited : ticker = visited
    · cases hanswer : orderbook.answerFor action requiredVolume coin ticker <;> simp [hvisited]
    · simp [hvisited]

/-- The lists of an answer. -/
theorem processBestOrders_lookup (it : SetIteration String) {coin : String}
    {tickers : Finset String} (h : (action.searchPairsIn orderbook).lookup coin = some tickers) :
    ∃ res, orderbook.processBestOrdersP2pRequest action requiredVolume it coin = some res ∧
      ∀ ticker, res.orders.lookup ticker =
        if ticker ∈ tickers then
          (orderbook.answerFor action requiredVolume coin ticker).map (List.map OrderbookItem.toP2p)
        else none := by
  refine ⟨_, by rw [processBestOrdersP2pRequest, h]; rfl, fun ticker => ?_⟩
  simp [lookup_foldl_addBestOrders, it.mem_toList]

/-- An answer has a list for exactly those tickers of the coin whose pair has a price index. The
list is the shortest nonempty beginning of the eligible orders, in the order of the index, that
reaches the required volume, or all of them if none does; it is sorted by price when the index
agrees with the stored orders. -/
theorem processBestOrders_shortest (it : SetIteration String) (coin : String) :
    match orderbook.processBestOrdersP2pRequest action requiredVolume it coin with
    | none => (action.searchPairsIn orderbook).lookup coin = none
    | some res => ∀ ticker,
        (ticker ∈ res.orders ↔ ticker ∈ valuesAt (action.searchPairsIn orderbook) coin ∧
          action.pair coin ticker ∈ orderbook.ordered) ∧
        ∀ best, res.orders.lookup ticker = some best → ∃ items,
          best = items.map OrderbookItem.toP2p ∧
          IsShortest (Reaches action requiredVolume)
            (orderbook.eligible action requiredVolume (action.pair coin ticker)) items ∧
          (orderbook.PricesAgree (action.pair coin ticker) →
            items.Pairwise fun a b => a.price ≤ b.price) := by
  cases htickers : (action.searchPairsIn orderbook).lookup coin with
  | none =>
    rw [processBestOrdersP2pRequest, htickers]
    rfl
  | some tickers =>
    obtain ⟨res, hres, hlookup⟩ :=
      processBestOrders_lookup orderbook action requiredVolume it htickers
    rw [hres]
    intro ticker
    have hlist := hlookup ticker
    rw [valuesAt_of_lookup htickers]
    cases horders : orderbook.ordered.lookup (action.pair coin ticker) with
    | none =>
      have hnone : action.pair coin ticker ∉ orderbook.ordered := Finmap.lookup_eq_none.mp horders
      simp only [answerFor, horders, Option.map_none, ite_self] at hlist
      simp [hlist, hnone, ← Finmap.lookup_isSome]
    | some orders =>
      have hmem : action.pair coin ticker ∈ orderbook.ordered :=
        Finmap.mem_of_lookup_eq_some horders
      have hshortest := collectBestOrders_isShortest orderbook action requiredVolume
        (action.pair coin ticker)
      rw [valuesAt_of_lookup horders] at hshortest
      simp only [answerFor, horders, Option.map_some] at hlist
      constructor
      · by_cases hticker : ticker ∈ tickers <;>
          simp [hlist, hmem, hticker, ← Finmap.lookup_isSome]
      · intro best hbest
        rw [hlist, Option.ite_none_right_eq_some, Option.some.injEq] at hbest
        refine ⟨_, hbest.2.symm, hshortest, fun hagree => ?_⟩
        exact (eligible_sorted orderbook action requiredVolume _ hagree).sublist
          hshortest.isPrefix.sublist

/-! ### Orders of RICK -/

/-- Two orders sell RICK for MORTY at the prices 1 and 2. -/
def twoSellers : Orderbook where
  ordered := (∅ : HashMap (String × String) (Finset OrderedByPriceOrder)).insert ("RICK", "MORTY")
    {⟨1, 1⟩, ⟨2, 2⟩}
  pairsExistingForBase := (∅ : HashMap String (Finset String)).insert "RICK" {"MORTY"}
  pairsExistingForRel := (∅ : HashMap String (Finset String)).insert "MORTY" {"RICK"}
  unordered := (∅ : HashMap (String × String) (Finset Uuid)).insert ("RICK", "MORTY") {1, 2}
  orderSet := ((∅ : HashMap Uuid OrderbookItem).insert 1
    (testItem "alice" "RICK" "MORTY" 1 1)).insert 2 (testItem "alice" "RICK" "MORTY" 2 2)

/-- The first of them is sent again for another pair at the price 5. -/
def movedSeller : Orderbook :=
  (twoSellers.indexInsertOrUpdate (testItem "alice" "RICK" "KMD" 5 1)).1

theorem sort_twoSellers : ({⟨1, 1⟩, ⟨2, 2⟩} : Finset OrderedByPriceOrder).sort (· ≤ ·) =
    [⟨1, 1⟩, ⟨2, 2⟩] := by
  rw [Finset.sort_insert, Finset.sort_singleton]
  · decide +kernel
  · decide +kernel

theorem lookup_twoSellers :
    twoSellers.ordered.lookup ("RICK", "MORTY") = some {⟨1, 1⟩, ⟨2, 2⟩} ∧
      twoSellers.orderSet.lookup 1 = some (testItem "alice" "RICK" "MORTY" 1 1) ∧
      twoSellers.orderSet.lookup 2 = some (testItem "alice" "RICK" "MORTY" 2 2) := by
  decide +kernel

/-- The pair it left still lists it at the old price. -/
theorem lookup_movedSeller :
    movedSeller.ordered.lookup ("RICK", "MORTY") = some {⟨1, 1⟩, ⟨2, 2⟩} ∧
      movedSeller.orderSet.lookup 1 = some (testItem "alice" "RICK" "KMD" 5 1) ∧
      movedSeller.orderSet.lookup 2 = some (testItem "alice" "RICK" "MORTY" 2 2) := by
  decide +kernel

/-- The index of RICK and MORTY agrees with the two orders, and the answer for RICK has a list for
MORTY. -/
theorem processBestOrders_twoSellers :
    ∃ res best items,
      twoSellers.processBestOrdersP2pRequest .buy 1 sortedSetIteration "RICK" = some res ∧
      res.orders.lookup "MORTY" = some best ∧ best = items.map OrderbookItem.toP2p ∧
      IsShortest (Reaches .buy 1) (twoSellers.eligible .buy 1 ("RICK", "MORTY")) items ∧
      items.Pairwise fun a b => a.price ≤ b.price := by
  have hanswer := processBestOrders_shortest twoSellers .buy 1 sortedSetIteration "RICK"
  have htickers : twoSellers.pairsExistingForBase.lookup "RICK" = some {"MORTY"} := by
    decide +kernel
  have hagree : twoSellers.PricesAgree ("RICK", "MORTY") := by
    obtain ⟨hvalues, hfirst, hsecond⟩ := lookup_twoSellers
    intro ordered hordered o ho
    rw [valuesAt_of_lookup hvalues, Finset.mem_insert, Finset.mem_singleton] at hordered
    rcases hordered with rfl | rfl
    · exact Option.some.inj (hfirst.symm.trans ho) ▸ rfl
    · exact Option.some.inj (hsecond.symm.trans ho) ▸ rfl
  obtain ⟨res, hres, -⟩ := processBestOrders_lookup twoSellers .buy 1 sortedSetIteration htickers
  rw [hres] at hanswer
  obtain ⟨hmem, hlists⟩ := hanswer "MORTY"
  have hticker : "MORTY" ∈ res.orders := hmem.mpr (by decide +kernel)
  obtain ⟨best, hbest⟩ := Finmap.mem_iff.mp hticker
  obtain ⟨items, hitems, hshortest, hsorted⟩ := hlists best hbest
  exact ⟨res, best, items, hres, hbest, hitems, hshortest, hsorted hagree⟩

/-- The list answered for RICK and MORTY when the index lists the two orders. -/
theorem answerFor_two {orderbook : Orderbook} {o₁ o₂ : OrderbookItem} (requiredVolume : MmNumber)
    (hordered : orderbook.ordered.lookup ("RICK", "MORTY") = some {⟨1, 1⟩, ⟨2, 2⟩})
    (h₁ : orderbook.orderSet.lookup 1 = some o₁) (h₂ : orderbook.orderSet.lookup 2 = some o₂)
    (hmin : o₁.minVolume ≤ requiredVolume ∧ o₂.minVolume ≤ requiredVolume) :
    orderbook.answerFor .buy requiredVolume "RICK" "MORTY" =
      some (if requiredVolume ≤ o₁.maxVolume then [o₁] else [o₁, o₂]) := by
  have hpair : BestOrdersAction.buy.pair "RICK" "MORTY" = ("RICK", "MORTY") := rfl
  rw [answerFor, hpair, hordered, Option.map_some, sort_twoSellers]
  simp only [collectBestOrders, h₁, h₂, BestOrdersAction.minVolume, BestOrdersAction.maxVolume,
    not_lt.mpr hmin.1, not_lt.mpr hmin.2, ge_iff_le, if_false, zero_add, List.nil_append,
    List.singleton_append, ite_self]

/-- An order is answered for the volume zero, which no order reaches already; and the order that
was sent again for another pair is answered before a cheaper one. -/
theorem not_shortest_or_sorted :
    (∃ res, twoSellers.processBestOrdersP2pRequest .buy 0 sortedSetIteration "RICK" = some res ∧
      ¬ ∃ items, res.orders.lookup "MORTY" = some (items.map OrderbookItem.toP2p) ∧
        IsShortest (fun p => 0 ≤ (p.map BestOrdersAction.buy.maxVolume).sum)
          (twoSellers.eligible .buy 0 ("RICK", "MORTY")) items) ∧
    ∃ res best, movedSeller.processBestOrdersP2pRequest .buy 2 sortedSetIteration "RICK" =
        some res ∧ res.orders.lookup "MORTY" = some best ∧
      ¬ best.Pairwise fun a b => a.price ≤ b.price := by
  constructor
  · have htickers : twoSellers.pairsExistingForBase.lookup "RICK" = some {"MORTY"} := by
      decide +kernel
    obtain ⟨res, hres, hlookup⟩ :=
      processBestOrders_lookup twoSellers .buy 0 sortedSetIteration htickers
    refine ⟨res, hres, ?_⟩
    rintro ⟨items, hitems, hshortest⟩
    obtain ⟨hordered, hfirst, hsecond⟩ := lookup_twoSellers
    have hanswer := answerFor_two 0 hordered hfirst hsecond (by decide +kernel)
    rw [hlookup, hanswer] at hitems
    have hne : items ≠ [] := by
      rintro rfl
      revert hitems
      decide +kernel
    exact hshortest.shorter [] List.nil_prefix hne.symm (by simp)
  · have htickers : movedSeller.pairsExistingForBase.lookup "RICK" = some {"MORTY", "KMD"} := by
      decide +kernel
    obtain ⟨res, hres, hlookup⟩ :=
      processBestOrders_lookup movedSeller .buy 2 sortedSetIteration htickers
    obtain ⟨hordered, hfirst, hsecond⟩ := lookup_movedSeller
    have hanswer := answerFor_two 2 hordered hfirst hsecond (by decide +kernel)
    refine ⟨res, _, hres, by rw [hlookup, hanswer]; rfl, ?_⟩
    decide +kernel

end Orderbook

end DeXFG.Ordermatch
