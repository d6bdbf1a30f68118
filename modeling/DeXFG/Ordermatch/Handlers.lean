import DeXFG.Ordermatch.Matching
import DeXFG.Ordermatch.Settings

/-!
# Operations on one own maker order

What each message handler, timer and RPC does to a maker order whose lock it
holds. Values read from the outside (activated coins, balances, the clock, the
result of saving to the database) are arguments.
-/
namespace DeXFG.Ordermatch
open DeXFG.Library.FiniteMap

/-- `ORDER_MATCH_TIMEOUT`, in seconds. -/
def orderMatchTimeout : ℕ := 30

namespace MakerOrder

variable (o : MakerOrder)

/-! ## Taker request and connect -/

/-- What `process_taker_request` reads beside the request and the order. -/
structure RequestEnv where
  ourPublicId : H256
  /-- Result of `find_pair`: the activated base and rel coin. -/
  coins : Option (MmCoin × MmCoin)
  nowMs : ℕ

/-- The reservation sent back for a matched request. -/
def makerReserved (ourPublicId : H256) (request : TakerRequest) (baseAmount relAmount : MmNumber)
    (baseCoin relCoin : MmCoin) : MakerReserved where
  destPubKey := request.senderPubkey
  senderPubkey := ourPublicId
  base := o.baseOrderbookTicker
  baseAmount := baseAmount
  relAmount := relAmount
  rel := o.relOrderbookTicker
  takerOrderUuid := request.uuid
  makerOrderUuid := o.uuid
  confSettings := o.confSettings.or (some (coinConfSettings baseCoin relCoin))
  baseProtocolInfo := some (baseCoin.coinProtocolInfo none)
  relProtocolInfo := some (relCoin.coinProtocolInfo (some relAmount))
  swapVersion := o.swapVersion

/-- The match added for a request. -/
def newMatch (request : TakerRequest) (reserved : MakerReserved) (nowMs : ℕ) : MakerMatch :=
  { request := request, reserved := reserved, connect := none, connected := none,
    lastUpdated := nowMs }

/-- The maker's payment lock duration for the request. -/
def makerLockDuration (request : TakerRequest) (baseCoin relCoin : MmCoin) : ℕ :=
  let myConfSettings := chooseMakerConfsAndNotas o.confSettings request baseCoin relCoin
  let otherConfSettings := chooseTakerConfsAndNotas request o.confSettings baseCoin relCoin
  let lockTime := lpAtomicLocktime o.baseOrderbookTicker o.relOrderbookTicker
    (.v2 myConfSettings otherConfSettings)
  ⌈(lockTime : ℚ) * relCoin.makerLocktimeMultiplier⌉.toNat

/-- `process_taker_request` on one order: the order after it, and the reservation when one is
made. `none` is the panic of a division by a zero price. -/
def processTakerRequest (env : RequestEnv) (fromPubkey : H256) (request : TakerRequest) :
    Option (MakerOrder × Option MakerReserved) :=
  if env.ourPublicId = fromPubkey then some (o, none)
  else if request.canMatchWithMakerPubkey env.ourPublicId = false then some (o, none)
  else if request.canMatchWithUuid o.uuid = false then some (o, none)
  else
    (o.matchWithRequest request).map fun
      | .notMatched => (o, none)
      | .matched baseAmount relAmount =>
        match env.coins with
        | none => (o, none)
        | some (baseCoin, relCoin) =>
          let makerLockDuration := o.makerLockDuration request baseCoin relCoin
          if request.uuid ∉ o.orderMatches
              ∧ baseCoin.isCoinProtocolSupported request.baseProtocolInfoForMaker (some baseAmount)
                  makerLockDuration true
              ∧ relCoin.isCoinProtocolSupported request.relProtocolInfoForMaker none
                  makerLockDuration true then
            let reserved :=
              o.makerReserved env.ourPublicId request baseAmount relAmount baseCoin relCoin
            let makerMatch := newMatch request reserved env.nowMs
            ({ o with orderMatches := o.orderMatches.insert request.uuid makerMatch },
              some reserved)
          else (o, none)

/-- `process_taker_connect` on the order named by the message: the order after it, and the match
whose swap is started. -/
def processTakerConnect (ourPublicId senderPubkey : H256) (msg : TakerConnect) :
    MakerOrder × Option MakerMatch :=
  if ourPublicId = senderPubkey then (o, none)
  else
    match o.orderMatches.lookup msg.takerOrderUuid with
    | none => (o, none)
    | some orderMatch =>
      if orderMatch.request.senderPubkey ≠ senderPubkey then (o, none)
      else if orderMatch.connected.isNone ∧ orderMatch.connect.isNone then
        let connected : MakerConnected :=
          { senderPubkey := ourPublicId, destPubKey := msg.senderPubkey,
            takerOrderUuid := msg.takerOrderUuid, makerOrderUuid := msg.makerOrderUuid,
            method := "connected" }
        let orderMatch' := { orderMatch with connect := some msg, connected := some connected }
        ({ o with
            orderMatches := o.orderMatches.insert msg.takerOrderUuid orderMatch'
            startedSwaps := o.startedSwaps ++ [orderMatch.request.uuid] }, some orderMatch')
      else (o, none)

/-! ## Timers and balance events -/

/-- `handle_timed_out_maker_matches` on one order. -/
def handleTimedOutMatches (now : ℕ) : MakerOrder :=
  { o with
    orderMatches := retain (fun _ orderMatch =>
      decide (orderMatch.lastUpdated + orderMatchTimeout * 1000 > now)
        || orderMatch.connected.isSome) o.orderMatches }

/-- The test of `check_balance_for_maker_orders` that removes the order. -/
def isOutOfBalance : Bool :=
  decide (o.availableAmount < o.minBaseVol) && !o.hasOngoingMatches

/-- The volume is re-based on a reported balance that covers less than what is available. -/
def rebaseVolume (newVolume : MmNumber) : MakerOrder :=
  if newVolume < o.availableAmount then { o with maxBaseVol := o.reservedAmount + newVolume }
  else o

/-! ## Update request -/

structure MakerOrderUpdateReq where
  newPrice : Option MmNumber
  max : Option Bool
  volumeDelta : Option MmNumber
  minVolume : Option MmNumber
  baseConfs : Option UInt64
  baseNota : Option Bool
  relConfs : Option UInt64
  relNota : Option Bool

/-- What `update_maker_order` reads beside the request and the order. -/
structure UpdateEnv where
  coins : Option (MmCoin × MmCoin)
  /-- The largest volume the wallet can trade according to the balance check; `none` when the
  check itself fails. -/
  spendable : Option MmNumber
  timestamp : UInt64

inductive UpdateMakerOrderError where
  | noOrder
  | ongoingMatches
  | coinsNotActivated
  | validation (e : MakerOrderBuildError)
  | balanceCheck
  | volumeNotPositive
  | volumeNotAboveReserved
  | deleted
  | stateChanged
  | notSaved
  deriving DecidableEq

/-- A validated update that waits to be applied. -/
structure PendingUpdate where
  orderBeforeUpdate : MakerOrder
  updateMsg : NewProtocol.MakerOrderUpdated
  /-- The balance figure the new volume was checked against, when there is a new volume. -/
  balance : Option MmNumber
  deriving DecidableEq

/-- The new volume of an update, with the balance figure it was checked against. -/
def updatedVolume (req : MakerOrderUpdateReq) (env : UpdateEnv) :
    Except UpdateMakerOrderError (Option (MmNumber × MmNumber)) :=
  if req.max.getD false then
    match env.spendable with
    | none => .error .balanceCheck
    | some volume => .ok (some (volume + o.reservedAmount, volume))
  else
    match req.volumeDelta with
    | none => .ok none
    | some volumeDelta =>
      let volume := o.maxBaseVol + volumeDelta
      if volume ≤ 0 then .error .volumeNotPositive
      else
        match env.spendable with
        | none => .error .balanceCheck
        | some spendable =>
          if volume ≤ spendable then .ok (some (volume, spendable)) else .error .balanceCheck

/-- The settings an update keeps or replaces, field by field. -/
def updatedConfSettings (req : MakerOrderUpdateReq) (original : OrderConfirmationsSettings) :
    OrderConfirmationsSettings where
  baseConfs := req.baseConfs.getD original.baseConfs
  baseNota := req.baseNota.getD original.baseNota
  relConfs := req.relConfs.getD original.relConfs
  relNota := req.relNota.getD original.relNota

def updatedPrice (req : MakerOrderUpdateReq) : Except MakerOrderBuildError MmNumber :=
  match req.newPrice with
  | some newPrice => (validatePrice newPrice).map fun _ => newPrice
  | none => .ok o.price

def updatedMinVolume (req : MakerOrderUpdateReq)
    (minBaseAmount minRelAmount newPrice : MmNumber) :
    Option (Except MakerOrderBuildError (Option MmNumber)) :=
  match req.minVolume with
  | some minVolume =>
    (validateAndGetMinVol minBaseAmount minRelAmount (some minVolume) newPrice).map
      (Except.map some)
  | none => some (.ok none)

/-- The message an update collects: only what the request names is set. -/
def updateMsg (req : MakerOrderUpdateReq) (timestamp : UInt64)
    (confSettings : OrderConfirmationsSettings) (minVolume newMaxVolume : Option MmNumber) :
    NewProtocol.MakerOrderUpdated :=
  let msg := (NewProtocol.MakerOrderUpdated.new o.uuid timestamp).withNewConfSettings confSettings
  let msg := req.newPrice.elim msg msg.withNewPrice
  let msg := minVolume.elim msg msg.withNewMinVolume
  newMaxVolume.elim msg msg.withNewMaxVolume

/-- First phase of `update_maker_order`: every check is made on a copy of the order. `none` is a
panic (settings absent, or a zero price). -/
def beginUpdate (req : MakerOrderUpdateReq) (env : UpdateEnv) :
    Option (Except UpdateMakerOrderError PendingUpdate) :=
  if o.hasOngoingMatches then some (.error .ongoingMatches)
  else
    match env.coins with
    | none => some (.error .coinsNotActivated)
    | some (baseCoin, relCoin) =>
      o.confSettings.bind fun original =>
        match o.updatedPrice req with
        | .error e => some (.error (.validation e))
        | .ok newPrice =>
          (updatedMinVolume req baseCoin.minTradingVol relCoin.minTradingVol newPrice).map fun
            | .error e => .error (.validation e)
            | .ok minVolume =>
              match o.updatedVolume req env with
              | .error e => .error e
              | .ok volume =>
                let newVolume := (volume.map Prod.fst).getD o.maxBaseVol
                if newVolume ≤ o.reservedAmount then .error .volumeNotAboveReserved
                else
                  match validateMaxVol baseCoin.minTradingVol relCoin.minTradingVol
                      (newVolume - o.reservedAmount) req.minVolume newPrice with
                  | .error e => .error (.validation e)
                  | .ok () =>
                    .ok
                      { orderBeforeUpdate := o
                        updateMsg := o.updateMsg req env.timestamp
                          (updatedConfSettings req original) minVolume (volume.map Prod.fst)
                        balance := volume.map Prod.snd }

/-- Second phase: the order is replaced only if it is still the copy that was checked. -/
def commitUpdate (p : PendingUpdate) (saved : Bool) (nowMs : ℕ) :
    Except UpdateMakerOrderError MakerOrder :=
  if o ≠ p.orderBeforeUpdate then .error .stateChanged
  else if saved then .ok (o.applyUpdated p.updateMsg nowMs)
  else .error .notSaved

/-! ## What each operation can do -/

/-- A request leaves the order alone or adds the match it is answered with. -/
theorem processTakerRequest_cases {o o' : MakerOrder} {env : RequestEnv} {fromPubkey : H256}
    {request : TakerRequest} {reply : Option MakerReserved}
    (h : o.processTakerRequest env fromPubkey request = some (o', reply)) :
    (o' = o ∧ reply = none) ∨
      ∃ baseAmount relAmount baseCoin relCoin,
        o.matchWithRequest request = some (.matched baseAmount relAmount) ∧
        env.coins = some (baseCoin, relCoin) ∧
        request.canMatchWithMakerPubkey env.ourPublicId = true ∧
        request.canMatchWithUuid o.uuid = true ∧
        request.uuid ∉ o.orderMatches ∧
        reply = some
          (o.makerReserved env.ourPublicId request baseAmount relAmount baseCoin relCoin) ∧
        o' = { o with orderMatches := o.orderMatches.insert request.uuid (newMatch request
          (o.makerReserved env.ourPublicId request baseAmount relAmount baseCoin relCoin)
          env.nowMs) } := by
  have hsame {r : MakerOrder × Option MakerReserved} (h : r = (o', reply)) (hr : r = (o, none)) :
      o' = o ∧ reply = none := by
    subst hr
    exact ⟨(Prod.mk.inj h).1.symm, (Prod.mk.inj h).2.symm⟩
  unfold processTakerRequest at h
  split at h
  · exact .inl (hsame (Option.some.inj h) rfl)
  split at h
  · exact .inl (hsame (Option.some.inj h) rfl)
  split at h
  · exact .inl (hsame (Option.some.inj h) rfl)
  rename_i hpub huuid
  obtain ⟨result, hresult, h⟩ := Option.map_eq_some_iff.mp h
  cases result with
  | notMatched => exact .inl (hsame h rfl)
  | matched baseAmount relAmount =>
    cases hcoins : env.coins with
    | none =>
      rw [hcoins] at h
      exact .inl (hsame h rfl)
    | some coins =>
      obtain ⟨baseCoin, relCoin⟩ := coins
      rw [hcoins] at h
      simp only at h
      split at h
      · rename_i hnew
        refine .inr ⟨baseAmount, relAmount, baseCoin, relCoin, hresult, rfl,
          by simpa using hpub, by simpa using huuid, hnew.1, (Prod.mk.inj h).2.symm,
          (Prod.mk.inj h).1.symm⟩
      · exact .inl (hsame h rfl)

/-- A connect message leaves the order alone, or connects a match that was open and comes from the
sender of its request. -/
theorem processTakerConnect_start (o : MakerOrder) (ourPublicId senderPubkey : H256)
    (msg : TakerConnect) :
    o.processTakerConnect ourPublicId senderPubkey msg = (o, none) ∨
      ∃ m connected, o.orderMatches.lookup msg.takerOrderUuid = some m ∧
        m.request.senderPubkey = senderPubkey ∧ m.connected = none ∧ m.connect = none ∧
        o.processTakerConnect ourPublicId senderPubkey msg =
          ({ o with
              orderMatches := o.orderMatches.insert msg.takerOrderUuid
                { m with connect := some msg, connected := some connected }
              startedSwaps := o.startedSwaps ++ [m.request.uuid] },
            some { m with connect := some msg, connected := some connected }) := by
  unfold processTakerConnect
  split
  · exact .inl rfl
  split
  · exact .inl rfl
  rename_i m hm
  split
  · exact .inl rfl
  rename_i hsender
  split
  · rename_i hopen
    exact .inr ⟨m, _, hm, not_not.mp hsender, by simpa using hopen.1, by simpa using hopen.2, rfl⟩
  · exact .inl rfl

/-- A connect message leaves the order alone or connects one match that was open. -/
theorem processTakerConnect_cases (o : MakerOrder) (ourPublicId senderPubkey : H256)
    (msg : TakerConnect) :
    (o.processTakerConnect ourPublicId senderPubkey msg).1 = o ∨
      ∃ m connected, o.orderMatches.lookup msg.takerOrderUuid = some m ∧
        m.connected = none ∧ m.connect = none ∧
        (o.processTakerConnect ourPublicId senderPubkey msg).1 =
          { o with
            orderMatches := o.orderMatches.insert msg.takerOrderUuid
              { m with connect := some msg, connected := some connected }
            startedSwaps := o.startedSwaps ++ [m.request.uuid] } := by
  rcases processTakerConnect_start o ourPublicId senderPubkey msg with
    hsame | ⟨m, connected, hm, -, hconnected, hconnect, hstart⟩
  · exact .inl (congrArg Prod.fst hsame)
  · exact .inr ⟨m, connected, hm, hconnected, hconnect, congrArg Prod.fst hstart⟩

theorem updatedVolume_eq_ok {o : MakerOrder} {req : MakerOrderUpdateReq} {env : UpdateEnv}
    {volume : MmNumber × MmNumber} (hreserved : 0 ≤ o.reservedAmount)
    (h : o.updatedVolume req env = .ok (some volume)) :
    volume.1 ≤ volume.2 + o.reservedAmount := by
  unfold updatedVolume at h
  split at h
  · split at h
    · simp at h
    · rw [← Option.some.inj (Except.ok.inj h)]
  · split at h
    · simp at h
    · simp only at h
      split at h
      · simp at h
      split at h
      · simp at h
      split at h
      · rename_i hle
        rw [← Option.some.inj (Except.ok.inj h)]
        exact hle.trans (le_add_of_nonneg_right hreserved)
      · simp at h

theorem updatedPrice_pos {o : MakerOrder} {req : MakerOrderUpdateReq} {newPrice : MmNumber}
    (hprice : 0 < o.price) (h : o.updatedPrice req = .ok newPrice) :
    0 < newPrice ∧ req.newPrice.getD o.price = newPrice := by
  unfold updatedPrice at h
  split at h
  · rename_i p hp
    cases hv : validatePrice p with
    | error e => simp [hv, Except.map] at h
    | ok u =>
      simp only [hv, Except.map, Except.ok.injEq] at h
      exact ⟨h ▸ validatePrice_eq_ok hv, by simpa [hp] using h⟩
  · rename_i hnone
    rw [← Except.ok.inj h]
    exact ⟨hprice, by simp [hnone]⟩

@[simp] theorem newPrice_updateMsg (o : MakerOrder) (req : MakerOrderUpdateReq)
    (timestamp : UInt64) (conf : OrderConfirmationsSettings) (minVolume newMaxVolume) :
    (o.updateMsg req timestamp conf minVolume newMaxVolume).newPrice = req.newPrice := by
  unfold updateMsg
  cases req.newPrice <;> cases minVolume <;> cases newMaxVolume <;> simp

@[simp] theorem newMaxVolume_updateMsg (o : MakerOrder) (req : MakerOrderUpdateReq)
    (timestamp : UInt64) (conf : OrderConfirmationsSettings) (minVolume newMaxVolume) :
    (o.updateMsg req timestamp conf minVolume newMaxVolume).newMaxVolume = newMaxVolume := by
  unfold updateMsg
  cases req.newPrice <;> cases minVolume <;> cases newMaxVolume <;> simp

@[simp] theorem newMinVolume_updateMsg (o : MakerOrder) (req : MakerOrderUpdateReq)
    (timestamp : UInt64) (conf : OrderConfirmationsSettings) (minVolume newMaxVolume) :
    (o.updateMsg req timestamp conf minVolume newMaxVolume).newMinVolume = minVolume := by
  unfold updateMsg
  cases req.newPrice <;> cases minVolume <;> cases newMaxVolume <;> simp

@[simp] theorem newConfSettings_updateMsg (o : MakerOrder) (req : MakerOrderUpdateReq)
    (timestamp : UInt64) (conf : OrderConfirmationsSettings) (minVolume newMaxVolume) :
    (o.updateMsg req timestamp conf minVolume newMaxVolume).newConfSettings = some conf := by
  unfold updateMsg
  cases req.newPrice <;> cases minVolume <;> cases newMaxVolume <;> simp

/-- An update that passes the checks, with the values they are made on. -/
theorem beginUpdate_cases {o : MakerOrder} {req : MakerOrderUpdateReq} {env : UpdateEnv}
    {p : PendingUpdate} (h : o.beginUpdate req env = some (.ok p)) :
    ∃ baseCoin relCoin original newPrice minVolume volume,
      env.coins = some (baseCoin, relCoin) ∧ o.confSettings = some original ∧
      o.hasOngoingMatches = false ∧ o.updatedPrice req = .ok newPrice ∧
      updatedMinVolume req baseCoin.minTradingVol relCoin.minTradingVol newPrice =
        some (.ok minVolume) ∧
      o.updatedVolume req env = .ok volume ∧
      o.reservedAmount < (volume.map Prod.fst).getD o.maxBaseVol ∧
      validateMaxVol baseCoin.minTradingVol relCoin.minTradingVol
        ((volume.map Prod.fst).getD o.maxBaseVol - o.reservedAmount) req.minVolume newPrice =
          .ok () ∧
      p = { orderBeforeUpdate := o
            updateMsg := o.updateMsg req env.timestamp (updatedConfSettings req original) minVolume
              (volume.map Prod.fst)
            balance := volume.map Prod.snd } := by
  unfold beginUpdate at h
  split at h
  · simp at h
  rename_i hongoing
  split at h
  · simp at h
  rename_i baseCoin relCoin hcoins
  obtain ⟨original, horiginal, h⟩ := Option.bind_eq_some_iff.mp h
  split at h
  · simp at h
  rename_i newPrice hnewPrice
  obtain ⟨minVolume, hminVolume, h⟩ := Option.map_eq_some_iff.mp h
  split at h
  · simp at h
  split at h
  · simp at h
  rename_i volume hvolume
  simp only at h
  split at h
  · simp at h
  rename_i habove
  split at h
  · simp at h
  rename_i hmax
  exact ⟨baseCoin, relCoin, original, newPrice, _, volume, hcoins, horiginal, by simpa using hongoing,
    hnewPrice, hminVolume, hvolume, not_le.mp habove, hmax, (Except.ok.inj h).symm⟩

@[simp] theorem orderMatches_rebaseVolume (o : MakerOrder) (newVolume : MmNumber) :
    (o.rebaseVolume newVolume).orderMatches = o.orderMatches := by
  unfold rebaseVolume
  split <;> rfl

theorem orderMatches_commitUpdate {o o' : MakerOrder} {p : PendingUpdate} {saved : Bool}
    {nowMs : ℕ} (h : o.commitUpdate p saved nowMs = .ok o') : o'.orderMatches = o.orderMatches := by
  unfold commitUpdate at h
  split at h
  · simp at h
  split at h
  · rw [← Except.ok.inj h]
    rfl
  · simp at h

/-- What the checks of an update establish of the copy they were made on. -/
structure PendingUpdate.Checked (p : PendingUpdate) : Prop where
  settled : p.orderBeforeUpdate.hasOngoingMatches = false
  price_pos : 0 < p.updateMsg.newPrice.getD p.orderBeforeUpdate.price
  above_reserved : p.orderBeforeUpdate.reservedAmount <
    p.updateMsg.newMaxVolume.getD p.orderBeforeUpdate.maxBaseVol
  covered : ∀ volume ∈ p.updateMsg.newMaxVolume, ∃ balance ∈ p.balance,
    volume ≤ balance + p.orderBeforeUpdate.reservedAmount
  conf : (p.updateMsg.newConfSettings.or p.orderBeforeUpdate.confSettings).isSome

theorem beginUpdate_eq_ok {o : MakerOrder} {req : MakerOrderUpdateReq} {env : UpdateEnv}
    {p : PendingUpdate} (hprice : 0 < o.price) (hreserved : 0 ≤ o.reservedAmount)
    (h : o.beginUpdate req env = some (.ok p)) : p.orderBeforeUpdate = o ∧ p.Checked := by
  obtain ⟨baseCoin, relCoin, original, newPrice, minVolume, volume, -, horiginal, hongoing,
    hnewPrice, -, hvolume, habove, -, rfl⟩ := beginUpdate_cases h
  obtain ⟨hnewPos, hnewPrice⟩ := updatedPrice_pos hprice hnewPrice
  refine ⟨rfl, ?_⟩
  exact
    { settled := hongoing
      price_pos := by simpa [hnewPrice] using hnewPos
      above_reserved := by simpa using habove
      covered := by
        intro newVolume hmem
        rw [newMaxVolume_updateMsg, Option.mem_def, Option.map_eq_some_iff] at hmem
        obtain ⟨v, rfl, rfl⟩ := hmem
        exact ⟨v.2, rfl, updatedVolume_eq_ok hreserved hvolume⟩
      conf := by simp [horiginal] }

end MakerOrder

end DeXFG.Ordermatch
