import DeXFG.Ordermatch.OwnOrder
import DeXFG.Ordermatch.Orderbook

/-!
# Propagation of order updates

The owner applies the message of an accepted update to its maker order, every
subscriber applies the broadcast message to the item it keeps of the order. The
broadcast differs from the owner's message in the volume: it names what is
available, where the owner's message names what is offered in total.
-/
namespace DeXFG.Ordermatch
open DeXFG.Library.FiniteMap MakerOrder

/-! ## Messages of the owner -/

namespace MakerOrder

/-- The announcement of `maker_order_created_p2p_notify`; the settings are unwrapped. -/
def createdMsg (o : MakerOrder) (nowSec : UInt64) (baseProtocolInfo relProtocolInfo : List UInt8) :
    Option NewProtocol.MakerOrderCreated :=
  o.confSettings.map fun confSettings =>
    { uuid := o.uuid
      base := o.baseOrderbookTicker
      rel := o.relOrderbookTicker
      price := o.price
      maxVolume := o.availableAmount
      minVolume := o.minBaseVol
      createdAt := nowSec
      confSettings := confSettings
      timestamp := nowSec
      pairTrieRoot := 0
      baseProtocolInfo := baseProtocolInfo
      relProtocolInfo := relProtocolInfo }

/-- The message broadcast after an update, with the new volume less the reserved amount. -/
def PendingUpdate.notifyMsg (p : PendingUpdate) : NewProtocol.MakerOrderUpdated :=
  let newVolume := p.updateMsg.newMaxVolume.getD p.orderBeforeUpdate.maxBaseVol
  p.updateMsg.withNewMaxVolume (newVolume - p.orderBeforeUpdate.reservedAmount)

/-- `update_maker_order`: the updated order and the broadcast. `current` is the order found under
the uuid after the checks. -/
def updateMakerOrder (o : MakerOrder) (req : MakerOrderUpdateReq) (env : UpdateEnv)
    (current : Option MakerOrder) (saved : Bool) (nowMs : ℕ) :
    Option (Except UpdateMakerOrderError (MakerOrder × NewProtocol.MakerOrderUpdated)) :=
  (o.beginUpdate req env).map fun begun => do
    let p ← begun
    match current with
    | none => .error .deleted
    | some order =>
      let order ← order.commitUpdate p saved nowMs
      .ok (order, p.notifyMsg)

theorem commitUpdate_eq_ok {o o' : MakerOrder} {p : PendingUpdate} {saved : Bool} {nowMs : ℕ}
    (h : o.commitUpdate p saved nowMs = .ok o') :
    p.orderBeforeUpdate = o ∧ saved = true ∧ o' = o.applyUpdated p.updateMsg nowMs := by
  unfold commitUpdate at h
  split at h
  · cases h
  rename_i hsame
  split at h
  · rename_i hsaved
    exact ⟨(not_not.mp hsame).symm, hsaved, (Except.ok.inj h).symm⟩
  · cases h

/-- An accepted update is the application of its message to the order that was checked. -/
theorem updateMakerOrder_eq_ok {o o' : MakerOrder} {req : MakerOrderUpdateReq} {env : UpdateEnv}
    {current : Option MakerOrder} {saved : Bool} {nowMs : ℕ} {msg : NewProtocol.MakerOrderUpdated}
    (h : o.updateMakerOrder req env current saved nowMs = some (.ok (o', msg))) :
    ∃ p, o.beginUpdate req env = some (.ok p) ∧ p.orderBeforeUpdate = o ∧ current = some o ∧
      o' = o.applyUpdated p.updateMsg nowMs ∧ msg = p.notifyMsg := by
  obtain ⟨begun, hbegun, hresult⟩ := Option.map_eq_some_iff.mp h
  cases begun with
  | error e => cases hresult
  | ok p =>
    have hbefore : p.orderBeforeUpdate = o := by
      obtain ⟨_, _, _, _, _, _, _, _, _, _, _, _, _, _, rfl⟩ := beginUpdate_cases hbegun
      rfl
    cases current with
    | none => cases hresult
    | some order =>
      cases hcommit : order.commitUpdate p saved nowMs with
      | error e => simp [bind, Except.bind, hcommit] at hresult
      | ok updated =>
        obtain ⟨hsame, -, hupdated⟩ := commitUpdate_eq_ok hcommit
        simp only [bind, Except.bind, hcommit, Except.ok.injEq, Prod.mk.injEq] at hresult
        obtain rfl := hsame.symm.trans hbefore
        exact ⟨p, hbegun, hbefore, rfl, hresult.1 ▸ hupdated, hresult.2.symm⟩

end MakerOrder

/-! ## Items of the subscribers -/

/-- The item of a subscriber and the order of the owner have the same terms. -/
structure Agrees (o : MakerOrder) (item : OrderbookItem) : Prop where
  price : item.price = o.price
  minVolume : item.minVolume = o.minBaseVol
  maxVolume : item.maxVolume = o.availableAmount
  confSettings : item.confSettings = o.confSettings

/-- The item belongs to the order and shows its price and minimal volume. -/
structure Shows (o : MakerOrder) (item : OrderbookItem) : Prop where
  uuid : item.uuid = o.uuid
  price : item.price = o.price
  minVolume : item.minVolume = o.minBaseVol

theorem Agrees.of_created {o : MakerOrder} {nowSec : UInt64} {baseInfo relInfo : List UInt8}
    {msg : NewProtocol.MakerOrderCreated} (h : o.createdMsg nowSec baseInfo relInfo = some msg)
    (pubkey : String) :
    Agrees o (.ofMakerOrderCreated msg pubkey) ∧ Shows o (.ofMakerOrderCreated msg pubkey) := by
  obtain ⟨confSettings, hconf, rfl⟩ := Option.map_eq_some_iff.mp h
  exact ⟨⟨rfl, rfl, rfl, hconf.symm⟩, ⟨rfl, rfl, rfl⟩⟩

section Update

variable {o o' : MakerOrder} {req : MakerOrderUpdateReq} {env : UpdateEnv}
  {current : Option MakerOrder} {saved : Bool} {nowMs : ℕ} {msg : NewProtocol.MakerOrderUpdated}
  {item : OrderbookItem}

/-- After an update both sides have the same price and volumes; the item keeps its settings. -/
theorem shows_updated (h : o.updateMakerOrder req env current saved nowMs = some (.ok (o', msg)))
    (hitem : Shows o item) :
    Shows o' (item.applyUpdated msg) ∧ (item.applyUpdated msg).maxVolume = o'.availableAmount ∧
      ∃ original, o.confSettings = some original ∧
        o'.confSettings = some (updatedConfSettings req original) := by
  obtain ⟨p, hbegin, -, -, rfl, rfl⟩ := updateMakerOrder_eq_ok h
  obtain ⟨_, _, original, _, minVolume, volume, -, horiginal, -, -, -, -, -, -, rfl⟩ :=
    beginUpdate_cases hbegin
  refine ⟨⟨hitem.uuid, ?_, ?_⟩, ?_, original, horiginal, ?_⟩
  · simp [OrderbookItem.applyUpdated, PendingUpdate.notifyMsg, applyUpdated, hitem.price]
  · simp [OrderbookItem.applyUpdated, PendingUpdate.notifyMsg, applyUpdated, hitem.minVolume]
  · simp [OrderbookItem.applyUpdated, PendingUpdate.notifyMsg, applyUpdated, availableAmount,
      reservedAmount]
  · simp [applyUpdated]

/-- After an update owner and subscriber agree exactly when the item already has the settings that
the update leaves the order with. -/
theorem agrees_updated_iff
    (h : o.updateMakerOrder req env current saved nowMs = some (.ok (o', msg)))
    (hitem : Shows o item) :
    Agrees o' (item.applyUpdated msg) ↔
      ∃ original, o.confSettings = some original ∧
        item.confSettings = some (updatedConfSettings req original) := by
  obtain ⟨hshows, hvolume, original, horiginal, hconf⟩ := shows_updated h hitem
  constructor
  · intro hagrees
    exact ⟨original, horiginal, hagrees.confSettings.trans hconf⟩
  · rintro ⟨original', horiginal', hsettings⟩
    obtain rfl := Option.some.inj (horiginal.symm.trans horiginal')
    exact ⟨hshows.price, hshows.minVolume, hvolume, hsettings.trans hconf.symm⟩

end Update

/-! ### Updates of an order of 10 RICK -/

/-- A request that asks for nothing. -/
def emptyUpdateReq : MakerOrderUpdateReq :=
  ⟨none, none, none, none, none, none, none, none⟩

def testUpdateEnv : UpdateEnv := ⟨some (OwnOrder.rick, OwnOrder.morty), some 20, 0⟩

/-- The order of 10 RICK as its announcement shows it. -/
def sellingTenItem : OrderbookItem where
  pubkey := "alice"
  base := "RICK"
  rel := "MORTY"
  price := 1
  maxVolume := 10
  minVolume := 777 / 100000
  uuid := 1
  createdAt := 0
  baseProtocolInfo := []
  relProtocolInfo := []
  confSettings := some testConfSettings

/-- Price and volume are changed, the settings are not. -/
theorem agrees_newPrice : ∃ o' msg,
    OwnOrder.sellingTen.order.updateMakerOrder
      { emptyUpdateReq with newPrice := some 2, volumeDelta := some 5 } testUpdateEnv
      (some OwnOrder.sellingTen.order) true 1 = some (.ok (o', msg)) ∧
    Agrees o' (sellingTenItem.applyUpdated msg) := by
  have hshows : Shows OwnOrder.sellingTen.order sellingTenItem := ⟨rfl, rfl, rfl⟩
  have hupdate : OwnOrder.sellingTen.order.updateMakerOrder
      { emptyUpdateReq with newPrice := some 2, volumeDelta := some 5 } testUpdateEnv
      (some OwnOrder.sellingTen.order) true 1 =
        some (.ok ({ OwnOrder.sellingTen.order with
          price := 2, maxBaseVol := 15, updatedAt := some 1 },
          .v2 ⟨1, some 2, some 15, none, 0, 0, some testConfSettings⟩)) := by
    decide +kernel
  exact ⟨_, _, hupdate, (agrees_updated_iff hupdate hshows).mpr ⟨testConfSettings, rfl, rfl⟩⟩

/-- Two confirmations are asked for instead of one, and the item keeps the one. -/
theorem not_agrees_newConfs :
    ¬∀ o' msg, OwnOrder.sellingTen.order.updateMakerOrder { emptyUpdateReq with baseConfs := some 2 }
      testUpdateEnv (some OwnOrder.sellingTen.order) true 1 = some (.ok (o', msg)) →
        Agrees o' (sellingTenItem.applyUpdated msg) := by
  intro h
  have hupdate : OwnOrder.sellingTen.order.updateMakerOrder
      { emptyUpdateReq with baseConfs := some 2 } testUpdateEnv
      (some OwnOrder.sellingTen.order) true 1 =
        some (.ok ({ OwnOrder.sellingTen.order with
          updatedAt := some 1, confSettings := some ⟨2, false, 1, false⟩ },
          .v2 ⟨1, none, some 10, none, 0, 0, some ⟨2, false, 1, false⟩⟩)) := by
    decide +kernel
  have hconf := (h _ _ hupdate).confSettings
  revert hconf
  decide

end DeXFG.Ordermatch
