import DeXFG.Ordermatch.NewProtocol

/-!
# Taker and maker orders

The node's own orders, the requests and matches they hold, and the builders
that validate them. A builder's result is `none` where the source panics on a
division by zero, and otherwise the built order or the validation error.
-/
namespace DeXFG.Ordermatch
open DeXFG.Library.FiniteMap

/-- Values a builder draws from its environment. -/
structure BuildEnv where
  nowMs : ℕ
  newUuid : Uuid
  randomKey : KeyPair

structure TakerRequest where
  base : String
  rel : String
  baseAmount : MmNumber
  relAmount : MmNumber
  action : TakerAction
  uuid : Uuid
  senderPubkey : H256
  destPubKey : H256
  matchBy : MatchBy
  confSettings : Option OrderConfirmationsSettings
  baseProtocolInfo : Option (List UInt8)
  relProtocolInfo : Option (List UInt8)
  swapVersion : SwapVersion
  swapMethod : String
  deriving DecidableEq

namespace TakerRequest

def fromNewProtoAndPubkey (message : NewProtocol.TakerRequest) (senderPubkey : H256) :
    TakerRequest where
  base := message.base
  rel := message.rel
  baseAmount := message.baseAmount
  relAmount := message.relAmount
  action := message.action
  uuid := message.uuid
  senderPubkey := senderPubkey
  destPubKey := 0
  matchBy := message.matchBy
  confSettings := some message.confSettings
  baseProtocolInfo := message.baseProtocolInfo
  relProtocolInfo := message.relProtocolInfo
  swapVersion := message.swapVersion
  swapMethod := message.swapMethod

def canMatchWithMakerPubkey (r : TakerRequest) (makerPubkey : H256) : Bool :=
  match r.matchBy with
  | .pubkeys pubkeys => decide (makerPubkey ∈ pubkeys)
  | _ => true

def canMatchWithUuid (r : TakerRequest) (uuid : Uuid) : Bool :=
  match r.matchBy with
  | .orders uuids => decide (uuid ∈ uuids)
  | _ => true

def baseProtocolInfoForMaker (r : TakerRequest) : Option (List UInt8) :=
  match r.action with
  | .buy => r.baseProtocolInfo
  | .sell => r.relProtocolInfo

def relProtocolInfoForMaker (r : TakerRequest) : Option (List UInt8) :=
  match r.action with
  | .buy => r.relProtocolInfo
  | .sell => r.baseProtocolInfo

end TakerRequest

structure MakerReserved where
  base : String
  rel : String
  baseAmount : MmNumber
  relAmount : MmNumber
  takerOrderUuid : Uuid
  makerOrderUuid : Uuid
  senderPubkey : H256
  destPubKey : H256
  confSettings : Option OrderConfirmationsSettings
  baseProtocolInfo : Option (List UInt8)
  relProtocolInfo : Option (List UInt8)
  swapVersion : SwapVersion
  deriving DecidableEq

namespace MakerReserved

def fromNewProtoAndPubkey (message : NewProtocol.MakerReserved) (senderPubkey : H256) :
    MakerReserved where
  base := message.base
  rel := message.rel
  baseAmount := message.baseAmount
  relAmount := message.relAmount
  takerOrderUuid := message.takerOrderUuid
  makerOrderUuid := message.makerOrderUuid
  senderPubkey := senderPubkey
  destPubKey := 0
  confSettings := some message.confSettings
  baseProtocolInfo := message.baseProtocolInfo
  relProtocolInfo := message.relProtocolInfo
  swapVersion := message.swapVersion

/-- The message of a reservation under its settings. -/
def message (r : MakerReserved) (confSettings : OrderConfirmationsSettings) :
    NewProtocol.MakerReserved where
  base := r.base
  rel := r.rel
  baseAmount := r.baseAmount
  relAmount := r.relAmount
  takerOrderUuid := r.takerOrderUuid
  makerOrderUuid := r.makerOrderUuid
  confSettings := confSettings
  baseProtocolInfo := r.baseProtocolInfo
  relProtocolInfo := r.relProtocolInfo
  swapVersion := r.swapVersion

/-- `From<MakerReserved> for OrdermatchMessage`; the settings are unwrapped. -/
def toNewProto (r : MakerReserved) : Option NewProtocol.MakerReserved := r.confSettings.map r.message

end MakerReserved

structure TakerConnect where
  takerOrderUuid : Uuid
  makerOrderUuid : Uuid
  senderPubkey : H256
  destPubKey : H256
  deriving DecidableEq

structure MakerConnected where
  takerOrderUuid : Uuid
  makerOrderUuid : Uuid
  method : String
  senderPubkey : H256
  destPubKey : H256
  deriving DecidableEq

structure MakerMatch where
  request : TakerRequest
  reserved : MakerReserved
  connect : Option TakerConnect
  connected : Option MakerConnected
  lastUpdated : ℕ
  deriving DecidableEq

structure TakerMatch where
  reserved : MakerReserved
  connect : TakerConnect
  connected : Option MakerConnected
  lastUpdated : ℕ
  deriving DecidableEq

/-! ## Taker orders -/

structure TakerOrder where
  createdAt : ℕ
  request : TakerRequest
  orderMatches : HashMap Uuid TakerMatch
  minVolume : MmNumber
  orderType : OrderType
  timeout : ℕ
  saveInHistory : Bool
  baseOrderbookTickerOpt : Option String
  relOrderbookTickerOpt : Option String
  p2pPrivkey : Option KeyPair
  deriving DecidableEq

namespace TakerOrder

def takerCoinTicker (o : TakerOrder) : String :=
  match o.request.action with
  | .buy => o.request.rel
  | .sell => o.request.base

def makerCoinTicker (o : TakerOrder) : String :=
  match o.request.action with
  | .buy => o.request.base
  | .sell => o.request.rel

def baseOrderbookTicker (o : TakerOrder) : String := o.baseOrderbookTickerOpt.getD o.request.base

def relOrderbookTicker (o : TakerOrder) : String := o.relOrderbookTickerOpt.getD o.request.rel

def takerOrderbookTicker (o : TakerOrder) : String :=
  match o.request.action with
  | .buy => o.relOrderbookTicker
  | .sell => o.baseOrderbookTicker

def makerOrderbookTicker (o : TakerOrder) : String :=
  match o.request.action with
  | .buy => o.baseOrderbookTicker
  | .sell => o.relOrderbookTicker

/-- The request as it is broadcast, under the orderbook tickers. -/
def message (o : TakerOrder) (confSettings : OrderConfirmationsSettings) :
    NewProtocol.TakerRequest where
  base := o.baseOrderbookTicker
  rel := o.relOrderbookTicker
  baseAmount := o.request.baseAmount
  relAmount := o.request.relAmount
  action := o.request.action
  uuid := o.request.uuid
  matchBy := o.request.matchBy
  confSettings := confSettings
  baseProtocolInfo := o.request.baseProtocolInfo
  relProtocolInfo := o.request.relProtocolInfo
  swapVersion := o.request.swapVersion
  swapMethod := o.request.swapMethod

/-- `From<TakerOrder> for OrdermatchMessage`; the settings are unwrapped. -/
def toNewProto (o : TakerOrder) : Option NewProtocol.TakerRequest :=
  o.request.confSettings.map o.message

end TakerOrder

inductive TakerOrderBuildError where
  | baseEqualRel
  | baseAmountTooLow (actual threshold : MmNumber)
  | relAmountTooLow (actual threshold : MmNumber)
  | minVolumeTooLow (actual threshold : MmNumber)
  | maxBaseVolBelowMinBaseVol (max min : MmNumber)
  | senderPubkeyIsZero
  | confsSettingsNotSet
  deriving DecidableEq

structure TakerOrderBuilder where
  baseCoin : MmCoin
  relCoin : MmCoin
  baseOrderbookTicker : Option String
  relOrderbookTicker : Option String
  baseAmount : MmNumber
  relAmount : MmNumber
  senderPubkey : H256
  action : TakerAction
  matchBy : MatchBy
  orderType : OrderType
  confSettings : Option OrderConfirmationsSettings
  minVolume : Option MmNumber
  timeout : ℕ
  saveInHistory : Bool
  swapVersion : UInt8
  swapMethod : String

namespace TakerOrderBuilder

variable (b : TakerOrderBuilder) (env : BuildEnv)

/-- The coin the taker sends. -/
def myCoin : MmCoin :=
  match b.action with
  | .buy => b.relCoin
  | .sell => b.baseCoin

def baseProtocolInfo : List UInt8 :=
  match b.action with
  | .buy => b.baseCoin.coinProtocolInfo (some b.baseAmount)
  | .sell => b.baseCoin.coinProtocolInfo none

def relProtocolInfo : List UInt8 :=
  match b.action with
  | .buy => b.relCoin.coinProtocolInfo none
  | .sell => b.relCoin.coinProtocolInfo (some b.relAmount)

/-- The order assembled at the end of `build`. -/
def assemble (minVolume : MmNumber) : TakerOrder where
  createdAt := env.nowMs
  request :=
    { base := b.baseCoin.ticker
      rel := b.relCoin.ticker
      baseAmount := b.baseAmount
      relAmount := b.relAmount
      action := b.action
      uuid := env.newUuid
      senderPubkey := b.senderPubkey
      destPubKey := 0
      matchBy := b.matchBy
      confSettings := b.confSettings
      baseProtocolInfo := some b.baseProtocolInfo
      relProtocolInfo := some b.relProtocolInfo
      swapVersion := ⟨b.swapVersion⟩
      swapMethod := b.swapMethod }
  orderMatches := ∅
  minVolume := minVolume
  orderType := b.orderType
  timeout := b.timeout
  saveInHistory := b.saveInHistory
  baseOrderbookTickerOpt := b.baseOrderbookTicker
  relOrderbookTickerOpt := b.relOrderbookTicker
  p2pPrivkey := if b.myCoin.isPrivacy then some env.randomKey else none

/-- Validate fields and build. -/
def build : Option (Except TakerOrderBuildError TakerOrder) :=
  let minBaseAmount := b.baseCoin.minTradingVol
  let minRelAmount := b.relCoin.minTradingVol
  if b.baseCoin.ticker = b.relCoin.ticker then some (.error .baseEqualRel)
  else if b.baseAmount < minBaseAmount then
    some (.error (.baseAmountTooLow b.baseAmount minBaseAmount))
  else if b.relAmount < minRelAmount then
    some (.error (.relAmountTooLow b.relAmount minRelAmount))
  else if b.senderPubkey = 0 then some (.error .senderPubkeyIsZero)
  else if b.confSettings.isNone then some (.error .confsSettingsNotSet)
  else
    (MmNumber.div? b.relAmount b.baseAmount).bind fun price =>
    (MmNumber.div? minRelAmount price).bind fun baseMinByRel =>
      let baseMinVolThreshold := max minBaseAmount baseMinByRel
      let minVolume := b.minVolume.getD baseMinVolThreshold
      if minVolume < baseMinVolThreshold then
        some (.error (.minVolumeTooLow minVolume baseMinVolThreshold))
      else if b.baseAmount < minVolume then
        some (.error (.maxBaseVolBelowMinBaseVol b.baseAmount minVolume))
      else some (.ok (b.assemble env minVolume))

/-- What an accepted builder guarantees, beside the assembled order. -/
structure Accepts (minVolume : MmNumber) : Prop where
  tickers : b.baseCoin.ticker ≠ b.relCoin.ticker
  baseAmount_pos : 0 < b.baseAmount
  relAmount_pos : 0 < b.relAmount
  baseAmount_min : b.baseCoin.minTradingVol ≤ b.baseAmount
  relAmount_min : b.relCoin.minTradingVol ≤ b.relAmount
  sender : b.senderPubkey ≠ 0
  confs : b.confSettings.isSome
  minVolume_base : b.baseCoin.minTradingVol ≤ minVolume
  minVolume_rel : b.relCoin.minTradingVol / (b.relAmount / b.baseAmount) ≤ minVolume
  minVolume_le : minVolume ≤ b.baseAmount

theorem build_eq_ok {b : TakerOrderBuilder} {env : BuildEnv} {o : TakerOrder}
    (h : b.build env = some (.ok o)) :
    ∃ minVolume, o = b.assemble env minVolume ∧ b.Accepts minVolume := by
  unfold build at h
  simp only at h
  split at h
  · simp at h
  split at h
  · simp at h
  split at h
  · simp at h
  split at h
  · simp at h
  split at h
  · simp at h
  rename_i htickers hbase hrel hsender hconfs
  obtain ⟨price, hprice, h⟩ := Option.bind_eq_some_iff.mp h
  obtain ⟨byRel, hbyRel, h⟩ := Option.bind_eq_some_iff.mp h
  obtain ⟨hbase0, rfl⟩ := MmNumber.div?_eq_some.mp hprice
  obtain ⟨hprice0, rfl⟩ := MmNumber.div?_eq_some.mp hbyRel
  split at h
  · simp at h
  split at h
  · simp at h
  rename_i hmin hmax
  rw [not_lt] at hbase hrel hmin hmax
  have hrel0 : b.relAmount ≠ 0 := fun h0 => hprice0 (by rw [h0, zero_div])
  have hbasePos := lt_of_le_of_ne (b.baseCoin.minTradingVol_nonneg.trans hbase) (Ne.symm hbase0)
  have hrelPos := lt_of_le_of_ne (b.relCoin.minTradingVol_nonneg.trans hrel) (Ne.symm hrel0)
  refine ⟨_, (Except.ok.inj (Option.some.inj h)).symm, ?_⟩
  exact
    { tickers := htickers
      baseAmount_pos := hbasePos
      relAmount_pos := hrelPos
      baseAmount_min := hbase
      relAmount_min := hrel
      sender := hsender
      confs := by simpa [Option.isSome_iff_ne_none] using hconfs
      minVolume_base := (le_max_left _ _).trans hmin
      minVolume_rel := (le_max_right _ _).trans hmin
      minVolume_le := hmax }

end TakerOrderBuilder

/-! ## Maker orders -/

structure MakerOrder where
  maxBaseVol : MmNumber
  minBaseVol : MmNumber
  price : MmNumber
  createdAt : ℕ
  updatedAt : Option ℕ
  base : String
  rel : String
  orderMatches : HashMap Uuid MakerMatch
  startedSwaps : List Uuid
  uuid : Uuid
  confSettings : Option OrderConfirmationsSettings
  saveInHistory : Bool
  baseOrderbookTickerOpt : Option String
  relOrderbookTickerOpt : Option String
  p2pPrivkey : Option KeyPair
  swapVersion : SwapVersion
  swapMethod : String
  timeoutInMinutes : Option UInt16
  deriving DecidableEq

inductive MakerOrderBuildError where
  | baseEqualRel
  | maxBaseVolTooLow (actual threshold : MmNumber)
  | minBaseVolTooLow (actual threshold : MmNumber)
  | priceTooLow (actual threshold : MmNumber)
  | relVolTooLow (actual threshold : MmNumber)
  | confSettingsNotSet
  | maxBaseVolBelowMinBaseVol (min max : MmNumber)
  deriving DecidableEq

def validatePrice (price : MmNumber) : Except MakerOrderBuildError Unit :=
  let minPrice : MmNumber := 0
  if price ≤ minPrice then .error (.priceTooLow price minPrice) else .ok ()

def validateAndGetMinVol (minBaseAmount minRelAmount : MmNumber) (minBaseVol : Option MmNumber)
    (price : MmNumber) : Option (Except MakerOrderBuildError MmNumber) :=
  (MmNumber.div? minRelAmount price).map fun baseMinByRel =>
    let baseMinVolThreshold := max minBaseAmount baseMinByRel
    let actualMinBaseVol := minBaseVol.getD baseMinVolThreshold
    if actualMinBaseVol < baseMinVolThreshold then
      .error (.minBaseVolTooLow actualMinBaseVol baseMinVolThreshold)
    else .ok actualMinBaseVol

def validateMaxVol (minBaseAmount minRelAmount maxBaseVol : MmNumber)
    (minBaseVol : Option MmNumber) (price : MmNumber) : Except MakerOrderBuildError Unit :=
  let belowMin := minBaseVol.filter fun min => decide (maxBaseVol < min)
  match belowMin with
  | some min => .error (.maxBaseVolBelowMinBaseVol min maxBaseVol)
  | none =>
    if maxBaseVol < minBaseAmount then .error (.maxBaseVolTooLow maxBaseVol minBaseAmount)
    else
      let relVol := maxBaseVol * price
      if relVol < minRelAmount then .error (.relVolTooLow relVol minRelAmount) else .ok ()

theorem validatePrice_eq_ok {price : MmNumber} (h : validatePrice price = .ok ()) : 0 < price := by
  unfold validatePrice at h
  simp only at h
  split at h
  · simp at h
  · rename_i hprice
    exact not_le.mp hprice

theorem validateAndGetMinVol_cases {minBaseAmount minRelAmount price vol : MmNumber}
    {minBaseVol : Option MmNumber}
    (h : validateAndGetMinVol minBaseAmount minRelAmount minBaseVol price = some (.ok vol)) :
    vol = minBaseVol.getD (max minBaseAmount (minRelAmount / price)) ∧
      minBaseAmount ≤ vol ∧ minRelAmount / price ≤ vol := by
  obtain ⟨byRel, hbyRel, h⟩ := Option.map_eq_some_iff.mp h
  obtain ⟨-, rfl⟩ := MmNumber.div?_eq_some.mp hbyRel
  simp only at h
  split at h
  · simp at h
  rename_i hmin
  rw [Except.ok.inj h, not_lt] at hmin
  exact ⟨(Except.ok.inj h).symm, (le_max_left _ _).trans hmin, (le_max_right _ _).trans hmin⟩

theorem validateAndGetMinVol_eq_ok {minBaseAmount minRelAmount price vol : MmNumber}
    {minBaseVol : Option MmNumber}
    (h : validateAndGetMinVol minBaseAmount minRelAmount minBaseVol price = some (.ok vol)) :
    minBaseAmount ≤ vol ∧ minRelAmount / price ≤ vol :=
  (validateAndGetMinVol_cases h).2

theorem validateMaxVol_eq_ok {minBaseAmount minRelAmount maxBaseVol price : MmNumber}
    {minBaseVol : Option MmNumber}
    (h : validateMaxVol minBaseAmount minRelAmount maxBaseVol minBaseVol price = .ok ()) :
    minBaseAmount ≤ maxBaseVol ∧ minRelAmount ≤ maxBaseVol * price ∧
      ∀ min ∈ minBaseVol, min ≤ maxBaseVol := by
  unfold validateMaxVol at h
  simp only at h
  split at h
  · simp at h
  rename_i hnone
  split at h
  · simp at h
  rename_i hbase
  split at h
  · simp at h
  rename_i hrel
  refine ⟨not_lt.mp hbase, not_lt.mp hrel, fun min hmin => ?_⟩
  rw [Option.mem_def.mp hmin] at hnone
  simpa [Option.filter] using hnone

structure MakerOrderBuilder where
  maxBaseVol : MmNumber
  minBaseVol : Option MmNumber
  price : MmNumber
  baseCoin : MmCoin
  relCoin : MmCoin
  baseOrderbookTicker : Option String
  relOrderbookTicker : Option String
  confSettings : Option OrderConfirmationsSettings
  saveInHistory : Bool
  swapVersion : UInt8
  swapMethod : String
  timeoutInMinutes : Option UInt16

namespace MakerOrderBuilder

variable (b : MakerOrderBuilder) (env : BuildEnv)

/-- The order assembled at the end of `build`. -/
def assemble (actualMinBaseVol : MmNumber) : MakerOrder where
  base := b.baseCoin.ticker
  rel := b.relCoin.ticker
  createdAt := env.nowMs
  updatedAt := some env.nowMs
  maxBaseVol := b.maxBaseVol
  minBaseVol := actualMinBaseVol
  price := b.price
  orderMatches := ∅
  startedSwaps := []
  uuid := env.newUuid
  confSettings := b.confSettings
  saveInHistory := b.saveInHistory
  baseOrderbookTickerOpt := b.baseOrderbookTicker
  relOrderbookTickerOpt := b.relOrderbookTicker
  p2pPrivkey := if b.baseCoin.isPrivacy then some env.randomKey else none
  swapVersion := ⟨b.swapVersion⟩
  swapMethod := b.swapMethod
  timeoutInMinutes := b.timeoutInMinutes

/-- Build a maker order. -/
def build : Option (Except MakerOrderBuildError MakerOrder) :=
  if b.baseCoin.ticker = b.relCoin.ticker then some (.error .baseEqualRel)
  else if b.confSettings.isNone then some (.error .confSettingsNotSet)
  else
    let minBaseAmount := b.baseCoin.minTradingVol
    let minRelAmount := b.relCoin.minTradingVol
    match validatePrice b.price with
    | .error e => some (.error e)
    | .ok () =>
      (validateAndGetMinVol minBaseAmount minRelAmount b.minBaseVol b.price).map fun
        | .error e => .error e
        | .ok actualMinBaseVol =>
          match validateMaxVol minBaseAmount minRelAmount b.maxBaseVol b.minBaseVol b.price with
          | .error e => .error e
          | .ok () => .ok (b.assemble env actualMinBaseVol)

/-- What an accepted builder guarantees, beside the assembled order. -/
structure Accepts (actualMinBaseVol : MmNumber) : Prop where
  tickers : b.baseCoin.ticker ≠ b.relCoin.ticker
  confs : b.confSettings.isSome
  price_pos : 0 < b.price
  minBaseVol_base : b.baseCoin.minTradingVol ≤ actualMinBaseVol
  minBaseVol_rel : b.relCoin.minTradingVol / b.price ≤ actualMinBaseVol
  maxBaseVol_base : b.baseCoin.minTradingVol ≤ b.maxBaseVol

/-- The checks that an accepted builder passes. -/
theorem build_cases {b : MakerOrderBuilder} {env : BuildEnv} {o : MakerOrder}
    (h : b.build env = some (.ok o)) :
    b.baseCoin.ticker ≠ b.relCoin.ticker ∧ b.confSettings.isSome ∧ validatePrice b.price = .ok () ∧
      ∃ actualMinBaseVol, o = b.assemble env actualMinBaseVol ∧
        validateAndGetMinVol b.baseCoin.minTradingVol b.relCoin.minTradingVol b.minBaseVol b.price =
          some (.ok actualMinBaseVol) ∧
        validateMaxVol b.baseCoin.minTradingVol b.relCoin.minTradingVol b.maxBaseVol b.minBaseVol
          b.price = .ok () := by
  unfold build at h
  split at h
  · simp at h
  split at h
  · simp at h
  rename_i htickers hconfs
  simp only at h
  split at h
  · simp at h
  rename_i hprice
  obtain ⟨minVol, hminVol, h⟩ := Option.map_eq_some_iff.mp h
  split at h
  · simp at h
  split at h
  · simp at h
  rename_i vol _ hmax
  exact ⟨htickers, by simpa [Option.isSome_iff_ne_none] using hconfs, hprice, vol,
    (Except.ok.inj h).symm, hminVol, hmax⟩

theorem build_eq_ok {b : MakerOrderBuilder} {env : BuildEnv} {o : MakerOrder}
    (h : b.build env = some (.ok o)) :
    ∃ actualMinBaseVol, o = b.assemble env actualMinBaseVol ∧ b.Accepts actualMinBaseVol := by
  obtain ⟨htickers, hconfs, hprice, vol, ho, hminVol, hmax⟩ := build_cases h
  obtain ⟨hbase, hrel⟩ := validateAndGetMinVol_eq_ok hminVol
  obtain ⟨hmaxBase, -, -⟩ := validateMaxVol_eq_ok hmax
  refine ⟨vol, ho, ?_⟩
  exact
    { tickers := htickers
      confs := hconfs
      price_pos := validatePrice_eq_ok hprice
      minBaseVol_base := hbase
      minBaseVol_rel := hrel
      maxBaseVol_base := hmaxBase }

/-- The minimal volume is the one asked for, or the smallest allowed one. -/
theorem build_minBaseVol_le {b : MakerOrderBuilder} {env : BuildEnv} {o : MakerOrder}
    (h : b.build env = some (.ok o)) : o.minBaseVol ≤ o.maxBaseVol := by
  obtain ⟨-, -, hprice, vol, rfl, hminVol, hmax⟩ := build_cases h
  have hpos := validatePrice_eq_ok hprice
  obtain ⟨hbase, hrel, hmin⟩ := validateMaxVol_eq_ok hmax
  obtain ⟨hvol, -, -⟩ := validateAndGetMinVol_cases hminVol
  change vol ≤ b.maxBaseVol
  rw [hvol]
  cases hgiven : b.minBaseVol with
  | some min => exact hmin min hgiven
  | none => exact max_le hbase ((div_le_iff₀ hpos).mpr hrel)

end MakerOrderBuilder

/-! ## Orders for concrete runs -/

def testConfSettings : OrderConfirmationsSettings := ⟨1, false, 1, false⟩

def testBuildEnv : BuildEnv := ⟨0, 1, ⟨1⟩⟩

/-- Sell at most 10 of the base coin at price 1. -/
def testMakerBuilder (baseCoin relCoin : MmCoin) : MakerOrderBuilder where
  maxBaseVol := 10
  minBaseVol := none
  price := 1
  baseCoin := baseCoin
  relCoin := relCoin
  baseOrderbookTicker := none
  relOrderbookTicker := none
  confSettings := some testConfSettings
  saveInHistory := true
  swapVersion := swapVersionDefault
  swapMethod := defaultSwapMethod
  timeoutInMinutes := none

/-- Buy 4 of the base coin for at most 4 of the rel coin. -/
def testTakerBuilder (baseCoin relCoin : MmCoin) : TakerOrderBuilder where
  baseCoin := baseCoin
  relCoin := relCoin
  baseOrderbookTicker := none
  relOrderbookTicker := none
  baseAmount := 4
  relAmount := 4
  senderPubkey := 2
  action := .buy
  matchBy := .any
  orderType := .goodTillCancelled
  confSettings := some testConfSettings
  minVolume := none
  timeout := 30
  saveInHistory := true
  swapVersion := swapVersionDefault
  swapMethod := defaultSwapMethod

end DeXFG.Ordermatch
