import DeXFG.Ordermatch.Validity

/-!
# Taker orders that become maker orders

A taker order that found no maker is offered as a maker order: a sell order for
its own pair, a buy order for the reversed pair at the inverse price. Until its
owner updates it, the maker order trades at the rate of the request, gives at
most what the taker offered, and asks the confirmations of the same coins.
-/
namespace DeXFG.Ordermatch
open DeXFG.Library.FiniteMap DeXFG.Library.Runs MakerOrder

/-! ## What a taker asked for -/

/-- The confirmations and the notarization that the settings of a pair ask of a coin. -/
def confsOf (base rel : String) (settings : Option OrderConfirmationsSettings) (coin : String) :
    Option (UInt64 × Bool) :=
  settings.bind fun s =>
    if coin = base then some (s.baseConfs, s.baseNota)
    else if coin = rel then some (s.relConfs, s.relNota)
    else none

/-- The reversed pair asks the same of each coin. -/
theorem confsOf_reversed {base rel : String} (hne : base ≠ rel)
    (settings : Option OrderConfirmationsSettings) (coin : String) :
    confsOf rel base (settings.map OrderConfirmationsSettings.reversed) coin =
      confsOf base rel settings coin := by
  cases settings with
  | none => rfl
  | some s =>
    simp only [confsOf, Option.map_some, Option.bind_some, OrderConfirmationsSettings.reversed]
    by_cases hbase : coin = base
    · subst hbase
      rw [if_neg hne, if_pos rfl, if_pos rfl]
    · rw [if_neg hbase, if_neg hbase]

namespace TakerOrder

variable (t : TakerOrder)

/-- The amount the taker gives. -/
def givenAmount : MmNumber :=
  match t.request.action with
  | .buy => t.request.relAmount
  | .sell => t.request.baseAmount

/-- The amount the taker asks for it. -/
def askedAmount : MmNumber :=
  match t.request.action with
  | .buy => t.request.baseAmount
  | .sell => t.request.relAmount

/-- What the taker asks per unit of the coin it gives. -/
def rate : MmNumber := t.askedAmount / t.givenAmount

/-- What the settings of the request ask of a coin. -/
def confs (coin : String) : Option (UInt64 × Bool) :=
  confsOf t.request.base t.request.rel t.request.confSettings coin

end TakerOrder

namespace MakerOrder

variable {o o' : MakerOrder} {t : TakerOrder}

/-- The order stands for the request: it gives at most what the taker offered, at the taker's
rate, and asks the same confirmations of each coin. -/
structure StandsFor (t : TakerOrder) (o : MakerOrder) : Prop where
  base : o.base = t.takerCoinTicker
  rel : o.rel = t.makerCoinTicker
  price : o.price = t.rate
  maxBaseVol_le : o.maxBaseVol ≤ t.givenAmount
  confs : ∀ coin, confsOf o.base o.rel o.confSettings coin = t.confs coin

/-- An order of the same pair, price and settings that does not offer more. -/
theorem StandsFor.of_le (h : o.StandsFor t) (hterms : OwnOrder.SameTerms o o')
    (hprice : o'.price = o.price) (hmax : o'.maxBaseVol ≤ o.maxBaseVol) : o'.StandsFor t where
  base := hterms.base.trans h.base
  rel := hterms.rel.trans h.rel
  price := hprice.trans h.price
  maxBaseVol_le := hmax.trans h.maxBaseVol_le
  confs coin := by rw [hterms.base, hterms.rel, hterms.confSettings, h.confs]

/-- An accepted taker order can be converted, and the maker order stands for its request. -/
theorem ofTakerOrder_standsFor {b : TakerOrderBuilder} {env : BuildEnv}
    (h : b.build env = some (.ok t)) (nowMs : ℕ) :
    ∃ o, ofTakerOrder t nowMs = some o ∧ o.StandsFor t := by
  obtain ⟨minVolume, rfl, hb⟩ := TakerOrderBuilder.build_eq_ok h
  have hbase : b.baseAmount ≠ 0 := hb.baseAmount_pos.ne'
  have hrel : b.relAmount ≠ 0 := hb.relAmount_pos.ne'
  cases haction : b.action with
  | sell =>
    refine ⟨_, by
      simp only [ofTakerOrder, TakerOrderBuilder.assemble, haction, MmNumber.div?_of_ne hbase]
      rfl, ?_⟩
    exact
      { base := by simp [TakerOrder.takerCoinTicker, TakerOrderBuilder.assemble, haction]
        rel := by simp [TakerOrder.makerCoinTicker, TakerOrderBuilder.assemble, haction]
        price := by
          simp [TakerOrder.rate, TakerOrder.askedAmount, TakerOrder.givenAmount,
            TakerOrderBuilder.assemble, haction]
        maxBaseVol_le := by simp [TakerOrder.givenAmount, TakerOrderBuilder.assemble, haction]
        confs := fun coin => rfl }
  | buy =>
    have hprice : b.baseAmount / b.relAmount ≠ 0 := div_ne_zero hbase hrel
    refine ⟨_, by
      simp only [ofTakerOrder, TakerOrderBuilder.assemble, haction, MmNumber.div?_of_ne hrel,
        Option.bind_some, MmNumber.div?_of_ne hprice]
      rfl, ?_⟩
    exact
      { base := by simp [TakerOrder.takerCoinTicker, TakerOrderBuilder.assemble, haction]
        rel := by simp [TakerOrder.makerCoinTicker, TakerOrderBuilder.assemble, haction]
        price := by
          simp [TakerOrder.rate, TakerOrder.askedAmount, TakerOrder.givenAmount,
            TakerOrderBuilder.assemble, haction]
        maxBaseVol_le := by simp [TakerOrder.givenAmount, TakerOrderBuilder.assemble, haction]
        confs := fun coin => confsOf_reversed hb.tickers b.confSettings coin }

/-- A match gives the taker at least its rate, and with all that is reserved the order spends at
most the taker's amount. -/
theorem StandsFor.matched (h : o.StandsFor t) (hpos : 0 < o.price) {request : TakerRequest}
    {baseAmount relAmount : MmNumber}
    (hmatch : o.matchWithRequest request = some (.matched baseAmount relAmount)) :
    t.rate ≤ relAmount / baseAmount ∧ o.reservedAmount + baseAmount ≤ t.givenAmount := by
  have hfills := matchWithRequest_fills hpos hmatch
  constructor
  · rw [hfills.at_price, mul_div_cancel_left₀ _ hfills.base_pos.ne', h.price]
  · have havailable := hfills.available
    have hmax := h.maxBaseVol_le
    rw [availableAmount] at havailable
    linarith

end MakerOrder

/-! ## Runs without updates -/

/-- The first phase of `update_maker_order`, which asks for other terms. -/
def OwnOrderEvent.IsUpdate : OwnOrderEvent → Prop
  | .updateBegin _ _ => True
  | _ => False

namespace OwnOrder

variable {s s' : OwnOrder} {t : TakerOrder} {e : OwnOrderEvent}

theorem step_pending_nil (hpending : s.pending = []) (he : ¬ e.IsUpdate)
    (h : step s e = some s') : s'.pending = [] := by
  cases e with
  | takerRequest env fromPubkey request =>
    obtain ⟨r, -, rfl⟩ := Option.map_eq_some_iff.mp h
    exact hpending
  | updateBegin req env => exact absurd trivial he
  | updateCommit index saved nowMs =>
    obtain ⟨p, hp, -⟩ := Option.map_eq_some_iff.mp h
    simp [hpending] at hp
  | balanceUpdated newVolume =>
    obtain rfl := Option.some.inj h
    unfold OwnOrder.balanceUpdated
    split <;> exact hpending
  | takerConnect | timedOutMatches | checkBalance | kickstart | removed =>
    obtain rfl := Option.some.inj h
    exact hpending

theorem rebaseVolume_le (o : MakerOrder) (newVolume : MmNumber) :
    (o.rebaseVolume newVolume).maxBaseVol ≤ o.maxBaseVol := by
  unfold MakerOrder.rebaseVolume
  split
  next hlt =>
    rw [availableAmount] at hlt
    change o.reservedAmount + newVolume ≤ o.maxBaseVol
    linarith
  · exact le_rfl

/-- No change of the order but an update replaces what it stands for. -/
theorem OrderChange.standsFor {o' : MakerOrder} (hpending : s.pending = [])
    (hs : s.order.StandsFor t) (h : OrderChange s e o') : o'.StandsFor t := by
  cases h with
  | same h => exact h ▸ hs
  | reserve k m _ _ _ _ h =>
    exact h ▸ hs.of_le { SameTerms.refl s.order with } rfl le_rfl
  | connect k m msg connected _ _ h =>
    exact h ▸ hs.of_le { SameTerms.refl s.order with } rfl le_rfl
  | timedOut now h => exact h ▸ hs.of_le { SameTerms.refl s.order with } rfl le_rfl
  | rebase newVolume _ h =>
    have hle := rebaseVolume_le s.order newVolume
    rw [← h] at hle
    apply hs.of_le _ _ hle
    · rw [h, rebaseVolume]
      split
      · exact { SameTerms.refl s.order with }
      · exact SameTerms.refl s.order
    · rw [h, rebaseVolume]
      split <;> rfl
  | update index saved nowMs p _ hp _ _ => simp [hpending] at hp

/-- Until it is updated, the order stands for the request in every state. -/
theorem run_standsFor {es : List OwnOrderEvent} (hs : s.Inv) (hpending : s.pending = [])
    (hstands : s.order.StandsFor t) (hes : ∀ e ∈ es, ¬ e.IsUpdate)
    (hrun : run step s es = some s') : s'.Inv ∧ s'.order.StandsFor t := by
  have hend : s'.Inv ∧ s'.pending = [] ∧ s'.order.StandsFor t := by
    refine invariant_run (I := fun u => u.Inv ∧ u.pending = [] ∧ u.order.StandsFor t)
      (fun u e u' hu he hstep => ?_) ⟨hs, hpending, hstands⟩ (meets_of_forall hes) hrun
    exact ⟨hu.1.step hstep, step_pending_nil hu.2.1 he hstep,
      (step_orderChange hu.1 hstep).standsFor hu.2.1 hu.2.2⟩
  exact ⟨hend.1, hend.2.2⟩

/-- An accepted taker order becomes a maker order with a valid price and a minimal volume that can
be traded. It asks the same confirmations of each coin, and whatever happens to it until it is
updated, each request it matches gives the former taker at least the rate of its request, and never
more than its amount is spent. -/
theorem ofTakerOrder_matches {b : TakerOrderBuilder} {env : BuildEnv}
    (h : b.build env = some (.ok t)) (nowMs : ℕ) :
    ∃ o, ofTakerOrder t nowMs = some o ∧ validatePrice o.price = .ok () ∧
      o.minBaseVol ≤ o.maxBaseVol ∧
      (∀ coin, confsOf o.base o.rel o.confSettings coin = t.confs coin) ∧
      ∀ es s, (∀ e ∈ es, ¬ e.IsUpdate) → run step ⟨o, true, []⟩ es = some s →
        (∀ coin, confsOf s.order.base s.order.rel s.order.confSettings coin = t.confs coin) ∧
        ∀ request baseAmount relAmount,
          s.order.matchWithRequest request = some (.matched baseAmount relAmount) →
          t.rate ≤ relAmount / baseAmount ∧
            s.order.reservedAmount + baseAmount ≤ t.givenAmount := by
  obtain ⟨o, ho, hstands⟩ := ofTakerOrder_standsFor h nowMs
  have hinitial : Initial ⟨o, true, []⟩ := ⟨.inr ⟨b, env, t, nowMs, h, ho⟩, rfl, rfl⟩
  have hmatches := (ofTakerOrder_uuid ho).2
  have hmin : o.minBaseVol ≤ o.maxBaseVol := by
    have hvalid := Valid.of_takerOrder h ho
    have hle : o.minBaseVol ≤ o.maxBaseVol - o.reservedAmount := by
      cases haction : b.action with
      | sell =>
        rw [haction] at hvalid
        exact hvalid.min_le
      | buy =>
        rw [haction] at hvalid
        exact hvalid.min_le
    rwa [reservedAmount, hmatches, sum_empty, sub_zero] at hle
  have hpos := (Inv.of_initial hinitial).sound.price_pos
  refine ⟨o, ho, ?_, hmin, hstands.confs, fun es s hes hrun => ?_⟩
  · simp [validatePrice, not_le.mpr hpos]
  · obtain ⟨hinv, hstands'⟩ := run_standsFor (Inv.of_initial hinitial) rfl hstands hes hrun
    exact ⟨hstands'.confs, fun request baseAmount relAmount hmatch =>
      hstands'.matched hinv.sound.price_pos hmatch⟩

/-- The order to buy 4 RICK for 4 MORTY sells the 4 MORTY. -/
theorem ofTakerOrder_buyingFour :
    (testTakerBuilder rick morty).build testBuildEnv =
        some (.ok ((testTakerBuilder rick morty).assemble testBuildEnv (777 / 100000))) ∧
      ∃ o, ofTakerOrder ((testTakerBuilder rick morty).assemble testBuildEnv (777 / 100000)) 7 =
          some o ∧ o.minBaseVol ≤ o.maxBaseVol := by
  have hbuild : (testTakerBuilder rick morty).build testBuildEnv =
      some (.ok ((testTakerBuilder rick morty).assemble testBuildEnv (777 / 100000))) := by
    decide +kernel
  obtain ⟨o, ho, -, hmin, -⟩ := ofTakerOrder_matches hbuild 7
  exact ⟨hbuild, o, ho, hmin⟩

end OwnOrder

end DeXFG.Ordermatch
