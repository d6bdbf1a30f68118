import DeXFG.Ordermatch.Propagation

/-!
# Validity of maker orders

A maker order is valid when its price is positive and its minimal volume lies
between the trading minima of both coins and what the order has available. The
builders establish this, and so does an update that names a minimal volume. An
update that keeps the minimal volume is not checked against it.
-/
namespace DeXFG.Ordermatch
open DeXFG.Library.FiniteMap DeXFG.Library.Runs MakerOrder

/-! ## Valid orders -/

/-- The price is positive and the minimal volume reaches the trading minima of both coins. -/
structure MakerOrder.HasMinimums (baseCoin relCoin : MmCoin) (o : MakerOrder) : Prop where
  price_pos : 0 < o.price
  base : baseCoin.minTradingVol ≤ o.minBaseVol
  rel : relCoin.minTradingVol ≤ o.minBaseVol * o.price

/-- The minimal volume can also be traded. -/
structure MakerOrder.Valid (baseCoin relCoin : MmCoin) (o : MakerOrder) : Prop
    extends o.HasMinimums baseCoin relCoin where
  min_le : o.minBaseVol ≤ o.maxBaseVol - o.reservedAmount

/-- Orders as the node creates them, with the coins they trade. -/
def CreatedWith (baseCoin relCoin : MmCoin) (o : MakerOrder) : Prop :=
  (∃ (b : MakerOrderBuilder) (env : BuildEnv), b.build env = some (.ok o) ∧
    b.baseCoin = baseCoin ∧ b.relCoin = relCoin) ∨
  ∃ (b : TakerOrderBuilder) (env : BuildEnv) (t : TakerOrder) (nowMs : ℕ),
    b.build env = some (.ok t) ∧ MakerOrder.ofTakerOrder t nowMs = some o ∧
      match b.action with
      | .sell => b.baseCoin = baseCoin ∧ b.relCoin = relCoin
      | .buy => b.relCoin = baseCoin ∧ b.baseCoin = relCoin

variable {baseCoin relCoin : MmCoin} {o : MakerOrder}

theorem CreatedWith.created (h : CreatedWith baseCoin relCoin o) : OwnOrder.Created o := by
  rcases h with ⟨b, env, hb, -, -⟩ | ⟨b, env, t, nowMs, hb, ht, -⟩
  · exact .inl ⟨b, env, hb⟩
  · exact .inr ⟨b, env, t, nowMs, hb, ht⟩

theorem Valid.of_build {b : MakerOrderBuilder} {env : BuildEnv} (h : b.build env = some (.ok o)) :
    o.Valid b.baseCoin b.relCoin := by
  have hmin := MakerOrderBuilder.build_minBaseVol_le h
  obtain ⟨minVol, rfl, hb⟩ := MakerOrderBuilder.build_eq_ok h
  exact
    { price_pos := hb.price_pos
      base := hb.minBaseVol_base
      rel := (div_le_iff₀ hb.price_pos).mp hb.minBaseVol_rel
      min_le := by
        rw [reservedAmount]
        simpa [MakerOrderBuilder.assemble] using hmin }

/-- A sell order keeps its pair, a buy order is turned around. -/
theorem Valid.of_takerOrder {b : TakerOrderBuilder} {env : BuildEnv} {t : TakerOrder} {nowMs : ℕ}
    (ht : b.build env = some (.ok t)) (h : ofTakerOrder t nowMs = some o) :
    match b.action with
    | .sell => o.Valid b.baseCoin b.relCoin
    | .buy => o.Valid b.relCoin b.baseCoin := by
  obtain ⟨minVol, rfl, hb⟩ := TakerOrderBuilder.build_eq_ok ht
  have hprice : 0 < b.relAmount / b.baseAmount := div_pos hb.relAmount_pos hb.baseAmount_pos
  have hrel : b.relCoin.minTradingVol ≤ minVol * (b.relAmount / b.baseAmount) :=
    (div_le_iff₀ hprice).mp hb.minVolume_rel
  cases haction : b.action with
  | sell =>
    simp only [ofTakerOrder, TakerOrderBuilder.assemble, haction] at h
    obtain ⟨price, hdiv, rfl⟩ := Option.map_eq_some_iff.mp h
    obtain ⟨-, rfl⟩ := MmNumber.div?_eq_some.mp hdiv
    exact
      { price_pos := hprice
        base := hb.minVolume_base
        rel := hrel
        min_le := by
          rw [reservedAmount]
          simpa using hb.minVolume_le }
  | buy =>
    simp only [ofTakerOrder, TakerOrderBuilder.assemble, haction] at h
    obtain ⟨price, hdiv, h⟩ := Option.bind_eq_some_iff.mp h
    obtain ⟨-, rfl⟩ := MmNumber.div?_eq_some.mp hdiv
    obtain ⟨minBaseVol, hmin, rfl⟩ := Option.map_eq_some_iff.mp h
    obtain ⟨-, rfl⟩ := MmNumber.div?_eq_some.mp hmin
    have hinverse : minVol / (b.baseAmount / b.relAmount) = minVol * (b.relAmount / b.baseAmount) := by
      rw [div_div_eq_mul_div, mul_div_assoc]
    have hpos : 0 < b.baseAmount / b.relAmount := div_pos hb.baseAmount_pos hb.relAmount_pos
    exact
      { price_pos := hpos
        base := by
          rw [hinverse]
          exact hrel
        rel := by
          rw [div_mul_cancel₀ _ hpos.ne']
          exact hb.minVolume_base
        min_le := by
          rw [reservedAmount, sum_empty, sub_zero, div_le_iff₀ hpos,
            mul_div_cancel₀ _ hb.relAmount_pos.ne']
          exact hb.minVolume_le }

theorem Valid.of_created (h : CreatedWith baseCoin relCoin o) : o.Valid baseCoin relCoin := by
  rcases h with ⟨b, env, hb, rfl, rfl⟩ | ⟨b, env, t, nowMs, hb, ht, hcoins⟩
  · exact Valid.of_build hb
  · have hvalid := Valid.of_takerOrder hb ht
    cases haction : b.action with
    | sell =>
      rw [haction] at hvalid hcoins
      obtain ⟨rfl, rfl⟩ := hcoins
      exact hvalid
    | buy =>
      rw [haction] at hvalid hcoins
      obtain ⟨rfl, rfl⟩ := hcoins
      exact hvalid

/-! ## One update -/

namespace MakerOrder

/-- The volume an update leaves beyond the reserved amount. -/
def availableAfter (o : MakerOrder) (req : MakerOrderUpdateReq) (env : UpdateEnv) : MmNumber :=
  if req.max.getD false then env.spendable.getD 0 else o.availableAmount + req.volumeDelta.getD 0

/-- The update names a minimal volume, or the present one fits the new price and volume. -/
def KeepsMinimum (relCoin : MmCoin) (o : MakerOrder) (req : MakerOrderUpdateReq)
    (env : UpdateEnv) : Prop :=
  req.minVolume.isSome = true ∨
    (relCoin.minTradingVol ≤ o.minBaseVol * req.newPrice.getD o.price ∧
      o.minBaseVol ≤ o.availableAfter req env)

theorem availableAfter_eq {req : MakerOrderUpdateReq} {env : UpdateEnv}
    {volume : Option (MmNumber × MmNumber)} (h : o.updatedVolume req env = .ok volume) :
    (volume.map Prod.fst).getD o.maxBaseVol - o.reservedAmount = o.availableAfter req env := by
  unfold updatedVolume at h
  unfold availableAfter
  split at h
  · rename_i hmax
    rw [if_pos hmax]
    split at h
    · simp at h
    · rename_i spendable hspendable
      rw [← Except.ok.inj h, hspendable]
      simp
  · rename_i hmax
    rw [if_neg hmax, availableAmount]
    split at h
    · rename_i hdelta
      rw [← Except.ok.inj h, hdelta]
      simp
    · rename_i delta hdelta
      simp only at h
      split at h
      · simp at h
      split at h
      · simp at h
      split at h
      · rw [← Except.ok.inj h, hdelta]
        simp only [Option.map_some, Option.getD_some]
        ring
      · simp at h

/-- An accepted update of an order with its minima leads to a valid order exactly when it names a
minimal volume or keeps one that fits. -/
theorem valid_applyUpdated_iff {req : MakerOrderUpdateReq} {env : UpdateEnv} {p : PendingUpdate}
    (hmin : o.HasMinimums baseCoin relCoin) (hcoins : env.coins = some (baseCoin, relCoin))
    (h : o.beginUpdate req env = some (.ok p)) (nowMs : ℕ) :
    (o.applyUpdated p.updateMsg nowMs).Valid baseCoin relCoin ↔
      KeepsMinimum relCoin o req env := by
  obtain ⟨base, rel, original, newPrice, minVolume, volume, hpair, -, -, hprice, hminVolume,
    hvolume, -, hmax, rfl⟩ := beginUpdate_cases h
  obtain ⟨rfl, rfl⟩ := Prod.mk.inj (Option.some.inj (hcoins.symm.trans hpair))
  obtain ⟨hpos, hnewPrice⟩ := updatedPrice_pos hmin.price_pos hprice
  have havailable := availableAfter_eq hvolume
  have hafter : ∀ msg : NewProtocol.MakerOrderUpdated, (o.applyUpdated msg nowMs).reservedAmount =
      o.reservedAmount := fun _ => rfl
  have hvalid : ∀ o' : MakerOrder, o'.price = newPrice →
      o'.minBaseVol = minVolume.getD o.minBaseVol →
      o'.maxBaseVol - o'.reservedAmount = o.availableAfter req env →
      (o'.Valid baseCoin relCoin ↔ KeepsMinimum relCoin o req env) := by
    intro o' hprice' hmin' havailable'
    cases hgiven : req.minVolume with
    | some min =>
      simp only [updatedMinVolume, hgiven] at hminVolume
      obtain ⟨checked, hchecked, hresult⟩ := Option.map_eq_some_iff.mp hminVolume
      cases checked with
      | error e => cases hresult
      | ok vol =>
        obtain rfl := Except.ok.inj hresult
        obtain ⟨rfl, hbase, hrel⟩ := validateAndGetMinVol_cases hchecked
        refine iff_of_true ?_ (.inl (by rw [hgiven]; rfl))
        exact
          { price_pos := hprice' ▸ hpos
            base := hmin' ▸ hbase
            rel := by
              rw [hmin', hprice']
              exact (div_le_iff₀ hpos).mp hrel
            min_le := by
              rw [hmin', havailable', ← havailable]
              exact (validateMaxVol_eq_ok hmax).2.2 _ hgiven }
    | none =>
      simp only [updatedMinVolume, hgiven] at hminVolume
      obtain rfl := Except.ok.inj (Option.some.inj hminVolume)
      rw [Option.getD_none] at hmin'
      have hnone : ¬req.minVolume.isSome = true := by simp [hgiven]
      rw [KeepsMinimum, or_iff_right hnone, hnewPrice]
      constructor
      · intro h
        refine ⟨?_, ?_⟩
        · rw [← hmin', ← hprice']
          exact h.rel
        · rw [← hmin', ← havailable']
          exact h.min_le
      · rintro ⟨hrel, hle⟩
        exact
          { price_pos := hprice' ▸ hpos
            base := hmin' ▸ hmin.base
            rel := by rwa [hmin', hprice']
            min_le := by rwa [hmin', havailable'] }
  refine hvalid _ ?_ ?_ ?_
  · simp [applyUpdated, hnewPrice]
  · simp [applyUpdated]
  · rw [hafter, ← havailable]
    simp [applyUpdated]

end MakerOrder

/-! ## Runs -/

/-- An update is made with the coins that the order trades. -/
def OwnOrderEvent.UsesCoins (baseCoin relCoin : MmCoin) : OwnOrderEvent → Prop
  | .updateBegin _ env => ∀ coins, env.coins = some coins → coins = (baseCoin, relCoin)
  | _ => True

namespace OwnOrder

variable {s s' : OwnOrder}

/-- A request that passes the checks names a minimal volume or keeps one that fits. -/
def KeepsMinimums (relCoin : MmCoin) (s : OwnOrder) : OwnOrderEvent → Prop
  | .updateBegin req env => ∀ p, s.order.beginUpdate req env = some (.ok p) →
      KeepsMinimum relCoin s.order req env
  | _ => True

/-- The event replaces the order by an updated one. -/
def AcceptsUpdate (s : OwnOrder) (e : OwnOrderEvent) : Prop :=
  ∃ index nowMs p, e = .updateCommit index true nowMs ∧ s.listed = true ∧
    s.pending[index]? = some p ∧ s.order = p.orderBeforeUpdate

/-- The order has its minima, and each pending update leads to a valid order. -/
structure KeepsValid (baseCoin relCoin : MmCoin) (s : OwnOrder) : Prop where
  inv : s.Inv
  minimums : s.order.HasMinimums baseCoin relCoin
  pending : ∀ p ∈ s.pending, ∀ nowMs,
    (p.orderBeforeUpdate.applyUpdated p.updateMsg nowMs).Valid baseCoin relCoin

theorem OrderChange.minimums {e : OwnOrderEvent} {o' : MakerOrder}
    (hs : s.KeepsValid baseCoin relCoin) (h : OrderChange s e o') :
    o'.HasMinimums baseCoin relCoin := by
  have hmin := hs.minimums
  cases h with
  | same h => exact h ▸ hmin
  | reserve k m _ _ _ _ h => exact h ▸ ⟨hmin.price_pos, hmin.base, hmin.rel⟩
  | connect k m msg connected _ _ h => exact h ▸ ⟨hmin.price_pos, hmin.base, hmin.rel⟩
  | timedOut now h => exact h ▸ ⟨hmin.price_pos, hmin.base, hmin.rel⟩
  | rebase newVolume _ h =>
    rw [h, rebaseVolume]
    split
    · exact ⟨hmin.price_pos, hmin.base, hmin.rel⟩
    · exact hmin
  | update index saved nowMs p _ hp hbefore h =>
    have hvalid := hs.pending p (List.mem_of_getElem? hp) nowMs
    rw [hbefore] at hvalid
    exact h ▸ hvalid.toHasMinimums

theorem KeepsValid.step {e : OwnOrderEvent} (hs : s.KeepsValid baseCoin relCoin)
    (hcoins : e.UsesCoins baseCoin relCoin) (hkeeps : s.KeepsMinimums relCoin e)
    (h : OwnOrder.step s e = some s') : s'.KeepsValid baseCoin relCoin := by
  refine ⟨hs.inv.step h, (step_orderChange hs.inv h).minimums hs, ?_⟩
  cases e with
  | takerRequest env fromPubkey request =>
    obtain ⟨r, -, rfl⟩ := Option.map_eq_some_iff.mp h
    exact hs.pending
  | updateBegin req env =>
    simp only [OwnOrder.step] at h
    split at h
    · obtain ⟨result, hresult, rfl⟩ := Option.map_eq_some_iff.mp h
      cases result with
      | error err => exact hs.pending
      | ok p =>
        intro q hq nowMs
        rcases List.mem_append.mp hq with hold | hnew
        · exact hs.pending q hold nowMs
        · obtain rfl := List.mem_singleton.mp hnew
          obtain ⟨base, rel, _, _, _, _, hpair, _, _, _, _, _, _, _, hq⟩ := beginUpdate_cases hresult
          have hcoins' : env.coins = some (baseCoin, relCoin) := by
            rw [hpair, hcoins _ hpair]
          have hbefore : q.orderBeforeUpdate = s.order := by rw [hq]
          rw [hbefore]
          exact (valid_applyUpdated_iff hs.minimums hcoins' hresult nowMs).mpr (hkeeps q hresult)
    · obtain rfl := Option.some.inj h
      exact hs.pending
  | updateCommit index saved nowMs =>
    obtain ⟨p, -, rfl⟩ := Option.map_eq_some_iff.mp h
    have herase : ∀ q ∈ s.pending.eraseIdx index, ∀ nowMs,
        (q.orderBeforeUpdate.applyUpdated q.updateMsg nowMs).Valid baseCoin relCoin :=
      fun q hq => hs.pending q (List.mem_of_mem_eraseIdx hq)
    simp only
    split
    · split <;> exact herase
    · exact herase
  | balanceUpdated newVolume =>
    obtain rfl := Option.some.inj h
    unfold OwnOrder.balanceUpdated
    split <;> exact hs.pending
  | takerConnect | timedOutMatches | checkBalance | kickstart | removed =>
    obtain rfl := Option.some.inj h
    exact hs.pending

/-- An order is valid when it is created. In every run in which the accepted updates name a
minimal volume or keep one that fits, it keeps its minima, and it is valid after every update. -/
theorem valid_of_run {es : List OwnOrderEvent} (hcreated : CreatedWith baseCoin relCoin s.order)
    (hlisted : s.listed = true) (hpending : s.pending = [])
    (hcoins : ∀ e ∈ es, e.UsesCoins baseCoin relCoin)
    (hkeeps : Meets OwnOrder.step (KeepsMinimums relCoin) s es)
    (hrun : run OwnOrder.step s es = some s') :
    s.order.Valid baseCoin relCoin ∧ s'.order.HasMinimums baseCoin relCoin ∧
      ∀ e s'', s'.AcceptsUpdate e → OwnOrder.step s' e = some s'' →
        s''.order.Valid baseCoin relCoin := by
  have hvalid := Valid.of_created hcreated
  have hstart : s.KeepsValid baseCoin relCoin := by
    refine ⟨Inv.of_initial ⟨hcreated.created, hlisted, hpending⟩, hvalid.toHasMinimums, ?_⟩
    intro p hp
    rw [hpending] at hp
    cases hp
  have hend : s'.KeepsValid baseCoin relCoin :=
    invariant_run (fun t e t' ht hG hstep => ht.step hG.2 hG.1 hstep) hstart
      (hkeeps.and (meets_of_forall hcoins)) hrun
  refine ⟨hvalid, hend.minimums, ?_⟩
  rintro e s'' ⟨index, nowMs, p, rfl, hlisted', hp, hsame⟩ hstep
  obtain ⟨q, hq, rfl⟩ := Option.map_eq_some_iff.mp hstep
  obtain rfl := Option.some.inj (hp.symm.trans hq)
  have hcommit : s'.order.commitUpdate p true nowMs = .ok (s'.order.applyUpdated p.updateMsg nowMs) := by
    simp [commitUpdate, hsame]
  simp only [hlisted', if_true, hcommit]
  rw [hsame]
  exact hend.pending p (List.mem_of_getElem? hp) nowMs

/-! ### Updates of an order of 10 RICK -/

/-- The order of 10 RICK with a minimal volume of 5. -/
def sellingAtLeastFive : OwnOrder where
  order := (testMakerBuilder rick morty).assemble testBuildEnv 5
  listed := true
  pending := []

theorem createdWith_sellingAtLeastFive : CreatedWith rick morty sellingAtLeastFive.order :=
  .inl ⟨{ testMakerBuilder rick morty with minBaseVol := some 5 }, testBuildEnv, by decide +kernel,
    rfl, rfl⟩

/-- A request that is checked and applied without anything in between. -/
def updateAtOnce (req : MakerOrderUpdateReq) : List OwnOrderEvent :=
  [.updateBegin req testUpdateEnv, .updateCommit 0 true 1]

/-- The order with another price and volume. -/
def withTerms (price maxBaseVol : MmNumber) : OwnOrder :=
  { sellingAtLeastFive with
    order := { sellingAtLeastFive.order with
      price := price, maxBaseVol := maxBaseVol, updatedAt := some 1 } }

/-- The price is doubled and the volume lowered to 7. -/
theorem valid_sevenAtTwo :
    sellingAtLeastFive.order.Valid rick morty ∧ (withTerms 2 7).order.HasMinimums rick morty ∧
      ∀ e s'', (withTerms 2 7).AcceptsUpdate e → OwnOrder.step (withTerms 2 7) e = some s'' →
        s''.order.Valid rick morty := by
  have hkeeps : Meets OwnOrder.step (KeepsMinimums morty) sellingAtLeastFive
      (updateAtOnce { emptyUpdateReq with newPrice := some 2, volumeDelta := some (-3) }) := by
    refine ⟨fun p _ => .inr ⟨?_, ?_⟩, fun _ _ => ⟨trivial, fun _ _ => trivial⟩⟩ <;> decide +kernel
  refine valid_of_run createdWith_sellingAtLeastFive rfl rfl ?_ hkeeps (by decide +kernel)
  intro e he
  rcases List.mem_cons.mp he with rfl | he
  · intro coins hcoins
    exact (Option.some.inj hcoins).symm
  · obtain rfl := List.mem_singleton.mp he
    trivial

/-- The price is lowered so far that 5 RICK are worth less than the minimum of MORTY; and the
volume is lowered below the minimal volume of 5. -/
theorem not_valid_lowered :
    (¬∀ s', run OwnOrder.step sellingAtLeastFive
      (updateAtOnce { emptyUpdateReq with newPrice := some (1 / 1000) }) = some s' →
        s'.order.Valid rick morty) ∧
    ¬∀ s', run OwnOrder.step sellingAtLeastFive
      (updateAtOnce { emptyUpdateReq with volumeDelta := some (-6) }) = some s' →
        s'.order.Valid rick morty := by
  constructor
  · intro h
    have hrel := (h (withTerms (1 / 1000) 10) (by decide +kernel)).rel
    revert hrel
    decide +kernel
  · intro h
    have hmin := (h (withTerms 1 4) (by decide +kernel)).min_le
    revert hmin
    decide +kernel

end OwnOrder

end DeXFG.Ordermatch
