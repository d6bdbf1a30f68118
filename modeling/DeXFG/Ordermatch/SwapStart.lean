import DeXFG.Ordermatch.Agreement

/-!
# Starting the swap of a matched pair

When the match is connected the maker starts `lp_connect_start_bob` and the
taker `lp_connected_alice`. Each decides on its own which swap protocol runs,
under which confirmation settings and lock time.
-/
namespace DeXFG.Ordermatch
open DeXFG.Library.FiniteMap MakerOrder

/-- The swap implementations that are started. The adaptor routes of both sides start the
legacy swap. -/
inductive SwapProtocol where
  | legacy
  | v2
  deriving DecidableEq, Repr

structure SwapStart where
  protocol : SwapProtocol
  myConfSettings : SwapConfirmationsSettings
  locktimeVersion : AtomicLocktimeVersion
  lockTime : ℕ
  makerAmount : MmNumber
  takerAmount : MmNumber
  deriving DecidableEq

/-- The coin implements the operations of the V2 swap. -/
def CoinVariant.isSwapV2 : CoinVariant → Bool
  | .utxoCoin => true
  | .ethCoin => true
  | _ => false

/-- The final match on the pair of coins. -/
def protocolForCoins (makerCoin takerCoin : MmCoin) : SwapProtocol :=
  match makerCoin.variant, takerCoin.variant with
  | .utxoCoin, .utxoCoin => .v2
  | .ethCoin, .ethCoin => .v2
  | .utxoCoin, .ethCoin => .v2
  | .ethCoin, .utxoCoin => .v2
  | _, _ => .legacy

def isAdaptorCapable (ticker : String) : Bool := ticker == "XFG" || ticker == "HEAT"

def isAdaptorSwapPair (makerCoin takerCoin : MmCoin) : Bool :=
  isAdaptorCapable makerCoin.ticker || isAdaptorCapable takerCoin.ticker

/-- `lp_connect_start_bob`. -/
def lpConnectStartBob (makerMatch : MakerMatch) (makerOrder : MakerOrder)
    (makerCoin takerCoin : MmCoin) : SwapStart :=
  let myConfSettings :=
    chooseMakerConfsAndNotas makerOrder.confSettings makerMatch.request makerCoin takerCoin
  let locktimeVersion : AtomicLocktimeVersion :=
    match makerMatch.request.confSettings with
    | some _ => .v2 myConfSettings (chooseTakerConfsAndNotas makerMatch.request
        makerMatch.reserved.confSettings makerCoin takerCoin)
    | none => .v1
  let aliceSwapV := makerMatch.request.swapVersion
  let bobSwapV := makerOrder.swapVersion
  { protocol :=
      if aliceSwapV.isLegacy || bobSwapV.isLegacy then .legacy
      else if makerOrder.swapMethod == "adaptor" || makerMatch.request.swapMethod == "adaptor" then
        .legacy
      else protocolForCoins makerCoin takerCoin
    myConfSettings := myConfSettings
    locktimeVersion := locktimeVersion
    lockTime := lpAtomicLocktime makerOrder.baseOrderbookTicker makerOrder.relOrderbookTicker
      locktimeVersion
    makerAmount := makerMatch.reserved.baseAmount
    takerAmount := makerMatch.reserved.relAmount }

/-- `lp_connected_alice`. -/
def lpConnectedAlice (takerMatch : TakerMatch) (takerOrder : TakerOrder)
    (makerCoin takerCoin : MmCoin) : SwapStart :=
  let myConfSettings := chooseTakerConfsAndNotas takerOrder.request
    takerMatch.reserved.confSettings makerCoin takerCoin
  let locktimeVersion : AtomicLocktimeVersion :=
    match takerMatch.reserved.confSettings with
    | some s => .v2 myConfSettings (chooseMakerConfsAndNotas (some s) takerOrder.request
        makerCoin takerCoin)
    | none => .v1
  let bobSwapV := takerMatch.reserved.swapVersion
  let aliceSwapV := takerOrder.request.swapVersion
  { protocol :=
      if bobSwapV.isLegacy || aliceSwapV.isLegacy then .legacy
      else if isAdaptorSwapPair makerCoin takerCoin then .legacy
      else protocolForCoins makerCoin takerCoin
    myConfSettings := myConfSettings
    locktimeVersion := locktimeVersion
    lockTime := lpAtomicLocktime takerOrder.makerOrderbookTicker takerOrder.takerOrderbookTicker
      locktimeVersion
    makerAmount := takerMatch.reserved.baseAmount
    takerAmount := takerMatch.reserved.relAmount }

theorem protocolForCoins_eq_v2 (makerCoin takerCoin : MmCoin) :
    protocolForCoins makerCoin takerCoin = .v2 ↔
      makerCoin.variant.isSwapV2 = true ∧ takerCoin.variant.isSwapV2 = true := by
  unfold protocolForCoins
  cases makerCoin.variant <;> cases takerCoin.variant <;> simp [CoinVariant.isSwapV2]

theorem SwapProtocol.eq_iff (p q : SwapProtocol) : p = q ↔ (p = .v2 ↔ q = .v2) := by
  cases p <;> cases q <;> simp

theorem route_eq_v2 (isLegacy isAdaptor : Bool) (p : SwapProtocol) :
    (if isLegacy then .legacy else if isAdaptor then .legacy else p) = SwapProtocol.v2 ↔
      isLegacy = false ∧ isAdaptor = false ∧ p = .v2 := by
  cases isLegacy <;> cases isAdaptor <;> simp

theorem lpConnectStartBob_eq_v2 (makerMatch : MakerMatch) (makerOrder : MakerOrder)
    (makerCoin takerCoin : MmCoin) :
    (lpConnectStartBob makerMatch makerOrder makerCoin takerCoin).protocol = .v2 ↔
      (makerMatch.request.swapVersion.isLegacy = false ∧ makerOrder.swapVersion.isLegacy = false) ∧
      (makerOrder.swapMethod ≠ "adaptor" ∧ makerMatch.request.swapMethod ≠ "adaptor") ∧
      makerCoin.variant.isSwapV2 = true ∧ takerCoin.variant.isSwapV2 = true := by
  rw [lpConnectStartBob, route_eq_v2, Bool.or_eq_false_iff, Bool.or_eq_false_iff,
    protocolForCoins_eq_v2]
  simp

theorem lpConnectedAlice_eq_v2 (takerMatch : TakerMatch) (takerOrder : TakerOrder)
    (makerCoin takerCoin : MmCoin) :
    (lpConnectedAlice takerMatch takerOrder makerCoin takerCoin).protocol = .v2 ↔
      (takerOrder.request.swapVersion.isLegacy = false ∧
        takerMatch.reserved.swapVersion.isLegacy = false) ∧
      isAdaptorSwapPair makerCoin takerCoin = false ∧
      makerCoin.variant.isSwapV2 = true ∧ takerCoin.variant.isSwapV2 = true := by
  rw [lpConnectedAlice, route_eq_v2, Bool.or_eq_false_iff, protocolForCoins_eq_v2,
    and_comm (a := takerMatch.reserved.swapVersion.isLegacy = false)]

/-! ## Matched pairs -/

/-- A maker and a taker order matched through the exchanged messages, with the coins each node
has for its own order. -/
structure MatchedPair where
  takerOrder : TakerOrder
  takerPubkey : H256
  requestMsg : NewProtocol.TakerRequest
  sent : takerOrder.toNewProto = some requestMsg
  makerOrder : MakerOrder
  env : RequestEnv
  reservingOrder : MakerOrder
  reserved : MakerReserved
  answered : makerOrder.processTakerRequest env takerPubkey
    (.fromNewProtoAndPubkey requestMsg takerPubkey) = some (reservingOrder, some reserved)
  reservedMsg : NewProtocol.MakerReserved
  replied : reserved.toNewProto = some reservedMsg
  accepted : takerOrder.matchReserved (receivedReserved makerOrder env.ourPublicId reservedMsg) =
    .matched
  takerConnect : TakerConnect
  takerMatchUpdated : ℕ
  /-- The maker order when the connect message arrives, and the match it connects. -/
  connectingOrder : MakerOrder
  sameTerms : OwnOrder.SameTerms makerOrder connectingOrder
  connectedOrder : MakerOrder
  makerMatch : MakerMatch
  connects : connectingOrder.processTakerConnect env.ourPublicId takerPubkey takerConnect =
    (connectedOrder, some makerMatch)
  matchedRequest : makerMatch.request = .fromNewProtoAndPubkey requestMsg takerPubkey
  matchedReserved : makerMatch.reserved = reserved
  makersMakerCoin : MmCoin
  makersTakerCoin : MmCoin
  makersCoins : env.coins = some (makersMakerCoin, makersTakerCoin)
  makersMakerTicker : makersMakerCoin.ticker = makerOrder.base
  makersTakerTicker : makersTakerCoin.ticker = makerOrder.rel
  takersMakerCoin : MmCoin
  takersTakerCoin : MmCoin
  takersMakerTicker : takersMakerCoin.ticker = takerOrder.makerCoinTicker
  takersTakerTicker : takersTakerCoin.ticker = takerOrder.takerCoinTicker

namespace MatchedPair

variable (x : MatchedPair)

/-- The match recorded by the taker. -/
def takerMatch : TakerMatch where
  reserved := receivedReserved x.makerOrder x.env.ourPublicId x.reservedMsg
  connect := x.takerConnect
  connected := none
  lastUpdated := x.takerMatchUpdated

/-- The swap the maker starts. -/
def bob : SwapStart :=
  lpConnectStartBob x.makerMatch x.connectedOrder x.makersMakerCoin x.makersTakerCoin

/-- The swap the taker starts. -/
def alice : SwapStart :=
  lpConnectedAlice x.takerMatch x.takerOrder x.takersMakerCoin x.takersTakerCoin

/-- The maker order at the start of the swap has the terms it was matched under. -/
theorem connectedOrder_sameTerms : OwnOrder.SameTerms x.makerOrder x.connectedOrder := by
  have hconnected : x.connectedOrder =
      (x.connectingOrder.processTakerConnect x.env.ourPublicId x.takerPubkey x.takerConnect).1 := by
    rw [x.connects]
  rcases processTakerConnect_cases x.connectingOrder x.env.ourPublicId x.takerPubkey
    x.takerConnect with hsame | ⟨m, connected, -, -, -, hchange⟩
  · rw [hconnected, hsame]
    exact x.sameTerms
  · rw [hconnected, hchange]
    exact { x.sameTerms with }

/-- What the reservation the taker received repeats of the maker order. -/
theorem received_terms :
    x.takerMatch.reserved.swapVersion = x.makerOrder.swapVersion ∧
      x.takerMatch.reserved.confSettings = some (x.makerOrder.confSettings.getD
        (coinConfSettings x.makersMakerCoin x.makersTakerCoin)) ∧
      x.reserved.confSettings = x.takerMatch.reserved.confSettings ∧
      x.takerMatch.reserved.base = x.makerOrder.baseOrderbookTicker ∧
      x.takerMatch.reserved.rel = x.makerOrder.relOrderbookTicker ∧
      x.takerMatch.reserved.baseAmount = x.reserved.baseAmount ∧
      x.takerMatch.reserved.relAmount = x.reserved.relAmount := by
  obtain ⟨b, r, baseCoin, relCoin, -, hcoins, -, -, hreserved, hreceived⟩ :=
    reserved_cases x.answered x.replied
  obtain ⟨rfl, rfl⟩ := Prod.mk.inj (Option.some.inj (x.makersCoins.symm.trans hcoins))
  have hconf : x.reserved.confSettings = some (x.makerOrder.confSettings.getD
      (coinConfSettings x.makersMakerCoin x.makersTakerCoin)) := by
    rw [hreserved, makerReserved]
    cases x.makerOrder.confSettings <;> rfl
  rw [takerMatch, hreceived]
  exact ⟨by rw [hreserved]; rfl, hconf, rfl, by rw [hreserved]; rfl, by rw [hreserved]; rfl,
    rfl, rfl⟩

/-- What the request the maker received repeats of the taker order. -/
theorem request_terms :
    x.makerMatch.request.swapVersion = x.takerOrder.request.swapVersion ∧
      x.makerMatch.request.swapMethod = x.takerOrder.request.swapMethod ∧
      x.makerMatch.request.action = x.takerOrder.request.action ∧
      x.makerMatch.request.confSettings = x.takerOrder.request.confSettings ∧
      x.makerMatch.request.base = x.takerOrder.baseOrderbookTicker ∧
      x.makerMatch.request.rel = x.takerOrder.relOrderbookTicker := by
  obtain ⟨conf, hconf, hmsg⟩ := Option.map_eq_some_iff.mp x.sent
  rw [x.matchedRequest, ← hmsg, hconf]
  exact ⟨rfl, rfl, rfl, rfl, rfl, rfl⟩

/-- Both sides start a swap over the same amounts. -/
theorem same_amounts :
    x.bob.makerAmount = x.alice.makerAmount ∧ x.bob.takerAmount = x.alice.takerAmount := by
  obtain ⟨-, -, -, -, -, hbase, hrel⟩ := x.received_terms
  rw [bob, alice, lpConnectStartBob, lpConnectedAlice, x.matchedReserved]
  exact ⟨hbase.symm, hrel.symm⟩

/-- Both sides of a matched pair start the same protocol exactly when one of them is legacy, or
the maker's test of coins and swap methods agrees with the taker's test of coins and tickers. -/
theorem same_protocol_iff :
    x.bob.protocol = x.alice.protocol ↔
      (x.takerOrder.request.swapVersion.isLegacy = true ∨
        x.makerOrder.swapVersion.isLegacy = true) ∨
      (((x.makerOrder.swapMethod ≠ "adaptor" ∧ x.takerOrder.request.swapMethod ≠ "adaptor") ∧
          x.makersMakerCoin.variant.isSwapV2 = true ∧ x.makersTakerCoin.variant.isSwapV2 = true) ↔
        (isAdaptorCapable x.takerOrder.makerCoinTicker = false ∧
          isAdaptorCapable x.takerOrder.takerCoinTicker = false) ∧
          x.takersMakerCoin.variant.isSwapV2 = true ∧
          x.takersTakerCoin.variant.isSwapV2 = true) := by
  obtain ⟨hversion, hmethod, -⟩ := x.request_terms
  obtain ⟨hreserved, -⟩ := x.received_terms
  have hterms := x.connectedOrder_sameTerms
  have hpair : isAdaptorSwapPair x.takersMakerCoin x.takersTakerCoin = false ↔
      isAdaptorCapable x.takerOrder.makerCoinTicker = false ∧
        isAdaptorCapable x.takerOrder.takerCoinTicker = false := by
    rw [isAdaptorSwapPair, x.takersMakerTicker, x.takersTakerTicker, Bool.or_eq_false_iff]
  rw [SwapProtocol.eq_iff, bob, alice, lpConnectStartBob_eq_v2, lpConnectedAlice_eq_v2, hpair,
    hversion, hmethod, hreserved, hterms.swapVersion, hterms.swapMethod]
  cases x.takerOrder.request.swapVersion.isLegacy
  · cases x.makerOrder.swapVersion.isLegacy <;> simp
  · simp

/-! ## Confirmation settings and lock time -/

/-- A coin of the maker and one of the taker, each traded under the other's ticker. -/
def Crossed (makerTicker : String) (makerOrderbook : Option String) (takerTicker : String)
    (takerOrderbook : Option String) : Prop :=
  makerOrderbook = some takerTicker ∧ takerOrderbook = some makerTicker ∧
    makerTicker ≠ takerTicker

/-- Two tickers that stand for each other on both sides give the same orderbook ticker, unless
they are crossed. -/
theorem orderbookTicker_eq_or_crossed {makerTicker takerTicker : String}
    {makerOrderbook takerOrderbook : Option String}
    (hmaker : makerTicker = takerOrderbook.getD takerTicker ∨
      makerOrderbook = some (takerOrderbook.getD takerTicker))
    (htaker : takerTicker = makerOrderbook.getD makerTicker ∨
      takerOrderbook = some (makerOrderbook.getD makerTicker)) :
    makerOrderbook.getD makerTicker = takerOrderbook.getD takerTicker ∨
      Crossed makerTicker makerOrderbook takerTicker takerOrderbook := by
  cases makerOrderbook with
  | none => cases takerOrderbook <;> simp_all
  | some m =>
    cases takerOrderbook with
    | none => simp_all
    | some t =>
      simp only [Option.getD_some, Option.some.injEq] at *
      rw [Crossed, Option.some.injEq, Option.some.injEq]
      rcases hmaker with rfl | rfl
      · rcases htaker with rfl | rfl
        · rcases eq_or_ne makerTicker takerTicker with rfl | hne
          · exact .inl rfl
          · exact .inr ⟨rfl, rfl, hne⟩
        · exact .inl rfl
      · exact .inl rfl

/-- The taker's orderbook ticker for the coin the maker sends, when it differs. -/
def takersMakerOrderbook : Option String :=
  match x.takerOrder.request.action with
  | .buy => x.takerOrder.baseOrderbookTickerOpt
  | .sell => x.takerOrder.relOrderbookTickerOpt

/-- The taker's orderbook ticker for the coin it sends, when it differs. -/
def takersTakerOrderbook : Option String :=
  match x.takerOrder.request.action with
  | .buy => x.takerOrder.relOrderbookTickerOpt
  | .sell => x.takerOrder.baseOrderbookTickerOpt

/-- One of the two coins is crossed. -/
def CrossedCoins : Prop :=
  Crossed x.makerOrder.base x.makerOrder.baseOrderbookTickerOpt x.takerOrder.makerCoinTicker
      x.takersMakerOrderbook ∨
    Crossed x.makerOrder.rel x.makerOrder.relOrderbookTickerOpt x.takerOrder.takerCoinTicker
      x.takersTakerOrderbook

/-- Both sides trade the pair under the same orderbook tickers, or a coin is crossed. -/
theorem same_orderbookTickers :
    (x.makerOrder.baseOrderbookTicker = x.takerOrder.makerOrderbookTicker ∧
        x.makerOrder.relOrderbookTicker = x.takerOrder.takerOrderbookTicker) ∨
      x.CrossedCoins := by
  obtain ⟨-, -, -, hrbase, hrrel, -, -⟩ := x.received_terms
  obtain ⟨-, -, haction, -, hbase, hrel⟩ := x.request_terms
  obtain ⟨b, r, baseCoin, relCoin, hmatch, -⟩ := reserved_cases x.answered x.replied
  rw [← x.matchedRequest] at hmatch
  obtain ⟨-, -, hmaker⟩ := matchWithRequest_cases hmatch
  have htaker := TakerOrder.matchReserved_trades x.accepted
  change (_ ∧ x.takerOrder.Trades x.takerMatch.reserved.base x.takerMatch.reserved.rel) ∨
    (_ ∧ x.takerOrder.Trades x.takerMatch.reserved.rel x.takerMatch.reserved.base) at htaker
  rw [haction, hbase, hrel] at hmaker
  rw [hrbase, hrrel] at htaker
  rw [CrossedCoins, takersMakerOrderbook, takersTakerOrderbook, TakerOrder.makerOrderbookTicker,
    TakerOrder.takerOrderbookTicker, TakerOrder.makerCoinTicker, TakerOrder.takerCoinTicker]
  rcases hmaker with ⟨hbuy, hmaker, -⟩ | ⟨hsell, hmaker, -⟩
  · rcases htaker with ⟨-, htaker⟩ | ⟨hsell, -⟩
    · rw [hbuy]
      rcases orderbookTicker_eq_or_crossed hmaker.1 htaker.1 with hfst | hcrossed
      · rcases orderbookTicker_eq_or_crossed hmaker.2 htaker.2 with hsnd | hcrossed
        · exact .inl ⟨hfst, hsnd⟩
        · exact .inr (.inr hcrossed)
      · exact .inr (.inl hcrossed)
    · simp [hbuy] at hsell
  · rcases htaker with ⟨hbuy, -⟩ | ⟨-, htaker⟩
    · simp [hsell] at hbuy
    · rw [hsell]
      rcases orderbookTicker_eq_or_crossed hmaker.1 htaker.2 with hfst | hcrossed
      · rcases orderbookTicker_eq_or_crossed hmaker.2 htaker.1 with hsnd | hcrossed
        · exact .inl ⟨hfst, hsnd⟩
        · exact .inr (.inr hcrossed)
      · exact .inr (.inl hcrossed)

/-- The settings each side demands are the settings the other side expects of it, and the lock
times agree unless a coin is crossed. -/
theorem settings_agreement :
    x.bob.locktimeVersion = .v2 x.bob.myConfSettings x.alice.myConfSettings ∧
      x.alice.locktimeVersion = .v2 x.alice.myConfSettings x.bob.myConfSettings ∧
      (x.bob.lockTime = x.alice.lockTime ∨ x.CrossedCoins) := by
  obtain ⟨-, hsettings, hsame, -⟩ := x.received_terms
  obtain ⟨-, -, haction, hconf, -⟩ := x.request_terms
  have hterms := x.connectedOrder_sameTerms
  obtain ⟨conf, htakerConf, -⟩ := Option.map_eq_some_iff.mp x.sent
  have hmaker : x.bob.myConfSettings = chooseMakerConfsAndNotas x.takerMatch.reserved.confSettings
      x.takerOrder.request x.takersMakerCoin x.takersTakerCoin := by
    rw [bob, lpConnectStartBob, hterms.confSettings, hsettings]
    cases x.makerOrder.confSettings with
    | none => exact (chooseMaker_none _ _).trans (chooseMaker_congr _ _ _ _ hconf haction)
    | some s => exact chooseMaker_congr _ _ _ _ hconf haction
  have htaker : chooseTakerConfsAndNotas x.makerMatch.request x.makerMatch.reserved.confSettings
      x.makersMakerCoin x.makersTakerCoin = x.alice.myConfSettings := by
    rw [x.matchedReserved, hsame, hsettings, alice, lpConnectedAlice, hsettings]
    exact chooseTaker_congr _ _ _ _ (hconf.trans htakerConf) hconf haction
  have hbobVersion : x.bob.locktimeVersion = .v2 x.bob.myConfSettings x.alice.myConfSettings := by
    rw [← htaker, bob, lpConnectStartBob]
    simp only [hconf, htakerConf]
  have haliceVersion :
      x.alice.locktimeVersion = .v2 x.alice.myConfSettings x.bob.myConfSettings := by
    rw [hmaker, alice, lpConnectedAlice]
    simp only [hsettings]
  refine ⟨hbobVersion, haliceVersion, ?_⟩
  have hbobLock : x.bob.lockTime = lpAtomicLocktime x.connectedOrder.baseOrderbookTicker
      x.connectedOrder.relOrderbookTicker x.bob.locktimeVersion := rfl
  have haliceLock : x.alice.lockTime = lpAtomicLocktime x.takerOrder.makerOrderbookTicker
      x.takerOrder.takerOrderbookTicker x.alice.locktimeVersion := rfl
  rcases x.same_orderbookTickers with ⟨hmakerTicker, htakerTicker⟩ | hcrossed
  · refine .inl ?_
    have hbaseTicker : x.connectedOrder.baseOrderbookTicker = x.makerOrder.baseOrderbookTicker := by
      rw [baseOrderbookTicker, hterms.baseOrderbookTickerOpt, hterms.base, baseOrderbookTicker]
    have hrelTicker : x.connectedOrder.relOrderbookTicker = x.makerOrder.relOrderbookTicker := by
      rw [relOrderbookTicker, hterms.relOrderbookTickerOpt, hterms.rel, relOrderbookTicker]
    rw [hbobLock, haliceLock, hbobVersion, haliceVersion, hbaseTicker, hrelTicker, hmakerTicker,
      htakerTicker]
    exact lpAtomicLocktimeV2_comm _ _ _ _
  · exact .inr hcrossed

/-! ### Concrete pairs -/

section Concrete

/-- The request, reservation and connected match of two orders over 4 of each coin. -/
def testRequest (taker : TakerOrder) : TakerRequest :=
  .fromNewProtoAndPubkey (taker.message (taker.request.confSettings.getD testConfSettings)) 2

def testReserved (maker : MakerOrder) (taker : TakerOrder) (makerCoin takerCoin : MmCoin) :
    MakerReserved :=
  maker.makerReserved 1 (testRequest taker) 4 4 makerCoin takerCoin

def testConnect (maker : MakerOrder) (taker : TakerOrder) : TakerConnect :=
  ⟨taker.request.uuid, maker.uuid, 0, 0⟩

def testConnected (maker : MakerOrder) (taker : TakerOrder) : MakerConnected :=
  ⟨taker.request.uuid, maker.uuid, "connected", 1, 0⟩

def testMatch (maker : MakerOrder) (taker : TakerOrder) (makerCoin takerCoin : MmCoin) :
    MakerMatch :=
  newMatch (testRequest taker) (testReserved maker taker makerCoin takerCoin) 0

/-- The pair of two orders, given that every message is accepted. -/
def testPair (maker : MakerOrder) (taker : TakerOrder) (makersMakerCoin makersTakerCoin
    takersMakerCoin takersTakerCoin : MmCoin) (reservedMsg : NewProtocol.MakerReserved)
    (sent : taker.toNewProto =
      some (taker.message (taker.request.confSettings.getD testConfSettings)))
    (answered : maker.processTakerRequest (testRequestEnv makersMakerCoin makersTakerCoin) 2
        (testRequest taker) =
      some (maker.addMatch taker.request.uuid
        (testMatch maker taker makersMakerCoin makersTakerCoin),
        some (testReserved maker taker makersMakerCoin makersTakerCoin)))
    (replied : (testReserved maker taker makersMakerCoin makersTakerCoin).toNewProto =
      some reservedMsg)
    (accepted : taker.matchReserved (receivedReserved maker 1 reservedMsg) = .matched)
    (tickers : makersMakerCoin.ticker = maker.base ∧ makersTakerCoin.ticker = maker.rel ∧
      takersMakerCoin.ticker = taker.makerCoinTicker ∧
      takersTakerCoin.ticker = taker.takerCoinTicker) : MatchedPair where
  takerOrder := taker
  takerPubkey := 2
  requestMsg := taker.message (taker.request.confSettings.getD testConfSettings)
  sent := sent
  makerOrder := maker
  env := testRequestEnv makersMakerCoin makersTakerCoin
  reservingOrder := _
  reserved := testReserved maker taker makersMakerCoin makersTakerCoin
  answered := answered
  reservedMsg := reservedMsg
  replied := replied
  accepted := accepted
  takerConnect := testConnect maker taker
  takerMatchUpdated := 0
  connectingOrder := maker.addMatch taker.request.uuid
    (testMatch maker taker makersMakerCoin makersTakerCoin)
  sameTerms := { OwnOrder.SameTerms.refl maker with }
  connectedOrder := (maker.addMatch taker.request.uuid
    (testMatch maker taker makersMakerCoin makersTakerCoin)).connectMatch taker.request.uuid
      (testMatch maker taker makersMakerCoin makersTakerCoin) (testConnect maker taker)
      (testConnected maker taker)
  makerMatch := { testMatch maker taker makersMakerCoin makersTakerCoin with
    connect := some (testConnect maker taker), connected := some (testConnected maker taker) }
  connects := by
    have hlookup : (maker.orderMatches.insert taker.request.uuid
        (testMatch maker taker makersMakerCoin makersTakerCoin)).lookup taker.request.uuid =
          some (testMatch maker taker makersMakerCoin makersTakerCoin) := Finmap.lookup_insert ..
    simp only [processTakerConnect, addMatch, testConnect, hlookup]
    rfl
  matchedRequest := rfl
  matchedReserved := rfl
  makersMakerCoin := makersMakerCoin
  makersTakerCoin := makersTakerCoin
  makersCoins := rfl
  makersMakerTicker := tickers.1
  makersTakerTicker := tickers.2.1
  takersMakerCoin := takersMakerCoin
  takersTakerCoin := takersTakerCoin
  takersMakerTicker := tickers.2.2.1
  takersTakerTicker := tickers.2.2.2

/-- A maker order created with the adaptor method, matched by an ordinary taker order. -/
def adaptorPair : MatchedPair :=
  testPair ({ testMakerBuilder OwnOrder.rick OwnOrder.morty with
      swapMethod := "adaptor" }.assemble testBuildEnv (777 / 100000))
    ((testTakerBuilder OwnOrder.rick OwnOrder.morty).assemble ⟨0, 2, ⟨8⟩⟩ (777 / 100000))
    OwnOrder.rick OwnOrder.morty OwnOrder.rick OwnOrder.morty _ rfl (by decide +kernel) rfl
    (by decide +kernel) (by decide)

/-- The maker starts the legacy swap and the taker the V2 swap. -/
theorem not_same_protocol_adaptor :
    adaptorPair.bob.protocol = .legacy ∧ adaptorPair.alice.protocol = .v2 := by decide +kernel

/-- Both orders ask for more confirmations of the coin they receive than the other side does. -/
def strictPair : MatchedPair :=
  testPair ({ testMakerBuilder OwnOrder.rick OwnOrder.morty with
      confSettings := some ⟨5, false, 3, false⟩ }.assemble testBuildEnv (777 / 100000))
    ({ testTakerBuilder OwnOrder.rick OwnOrder.morty with
      confSettings := some ⟨1, false, 2, false⟩ }.assemble ⟨0, 2, ⟨8⟩⟩ (777 / 100000))
    OwnOrder.rick OwnOrder.morty OwnOrder.rick OwnOrder.morty _ rfl (by decide +kernel) rfl
    (by decide +kernel) (by decide)

/-- The maker's RICK trades under the ticker BTC, the taker's BTC under the ticker RICK. -/
def crossedPair : MatchedPair :=
  testPair ({ testMakerBuilder OwnOrder.rick OwnOrder.morty with
      baseOrderbookTicker := some "BTC" }.assemble testBuildEnv (777 / 100000))
    ({ testTakerBuilder (testCoin "BTC" .utxoCoin false) OwnOrder.morty with
      baseOrderbookTicker := some "RICK" }.assemble ⟨0, 2, ⟨8⟩⟩ (777 / 100000))
    OwnOrder.rick OwnOrder.morty (testCoin "BTC" .utxoCoin false) OwnOrder.morty _ rfl
    (by decide +kernel) rfl (by decide +kernel) (by decide)

/-- The two choices of settings differ, and so may the lock times. -/
theorem not_same_settings :
    strictPair.bob.myConfSettings ≠ strictPair.alice.myConfSettings ∧
      crossedPair.bob.lockTime ≠ crossedPair.alice.lockTime := by decide +kernel

end Concrete

end MatchedPair

end DeXFG.Ordermatch
