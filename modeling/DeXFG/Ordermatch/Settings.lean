import DeXFG.Ordermatch.Orders

/-!
# Confirmation settings and lock time of a swap

Each side derives from the exchanged settings what it demands itself and what
it expects the other side to demand; both enter the lock time.
-/
namespace DeXFG.Ordermatch

structure SwapConfirmationsSettings where
  makerCoinConfs : UInt64
  makerCoinNota : Bool
  takerCoinConfs : UInt64
  takerCoinNota : Bool
  deriving DecidableEq, Repr

def SwapConfirmationsSettings.requiresNotarization (s : SwapConfirmationsSettings) : Bool :=
  s.makerCoinNota || s.takerCoinNota

/-- The settings read off the coin configuration when an order carries none. -/
def coinConfSettings (baseCoin relCoin : MmCoin) : OrderConfirmationsSettings where
  baseConfs := baseCoin.requiredConfirmations
  baseNota := baseCoin.requiresNotarization
  relConfs := relCoin.requiredConfirmations
  relNota := relCoin.requiresNotarization

def chooseMakerConfsAndNotas (makerConfs : Option OrderConfirmationsSettings)
    (takerReq : TakerRequest) (makerCoin takerCoin : MmCoin) : SwapConfirmationsSettings :=
  let makerSettings := makerConfs.getD (coinConfSettings makerCoin takerCoin)
  match takerReq.confSettings with
  | some takerSettings =>
    match takerReq.action with
    | .sell =>
      { makerCoinConfs :=
          if takerSettings.relConfs < makerSettings.baseConfs then takerSettings.relConfs
          else makerSettings.baseConfs
        makerCoinNota :=
          if takerSettings.relNota = false then takerSettings.relNota else makerSettings.baseNota
        takerCoinConfs := makerSettings.relConfs
        takerCoinNota := makerSettings.relNota }
    | .buy =>
      { makerCoinConfs :=
          if takerSettings.baseConfs < makerSettings.baseConfs then takerSettings.baseConfs
          else makerSettings.baseConfs
        makerCoinNota :=
          if takerSettings.baseNota = false then takerSettings.baseNota else makerSettings.baseNota
        takerCoinConfs := makerSettings.relConfs
        takerCoinNota := makerSettings.relNota }
  | none =>
    { makerCoinConfs := makerSettings.baseConfs
      makerCoinNota := makerSettings.baseNota
      takerCoinConfs := makerSettings.relConfs
      takerCoinNota := makerSettings.relNota }

def chooseTakerConfsAndNotas (takerReq : TakerRequest)
    (makerConfSettings : Option OrderConfirmationsSettings) (makerCoin takerCoin : MmCoin) :
    SwapConfirmationsSettings :=
  let own : SwapConfirmationsSettings :=
    match takerReq.confSettings with
    | some s =>
      match takerReq.action with
      | .buy =>
        { takerCoinConfs := s.relConfs, takerCoinNota := s.relNota,
          makerCoinConfs := s.baseConfs, makerCoinNota := s.baseNota }
      | .sell =>
        { takerCoinConfs := s.baseConfs, takerCoinNota := s.baseNota,
          makerCoinConfs := s.relConfs, makerCoinNota := s.relNota }
    | none =>
      { takerCoinConfs := takerCoin.requiredConfirmations
        takerCoinNota := takerCoin.requiresNotarization
        makerCoinConfs := makerCoin.requiredConfirmations
        makerCoinNota := makerCoin.requiresNotarization }
  match makerConfSettings with
  | some settingsFromMaker =>
    { own with
      takerCoinConfs :=
        if settingsFromMaker.relConfs < own.takerCoinConfs then settingsFromMaker.relConfs
        else own.takerCoinConfs
      takerCoinNota :=
        if settingsFromMaker.relNota = false then settingsFromMaker.relNota
        else own.takerCoinNota }
  | none => own

/-- `PAYMENT_LOCKTIME`, in seconds. -/
def paymentLocktime : ℕ := 3600 * 2 + 300 * 2

def coinWith4xLocktime (ticker : String) : Bool :=
  ticker == "BCH" || ticker == "BTG" || ticker == "SBTC"

/-- `str::contains`. -/
def tickerContains (ticker part : String) : Bool := decide (part.toList <:+: ticker.toList)

inductive AtomicLocktimeVersion where
  | v1
  | v2 (myConfSettings otherConfSettings : SwapConfirmationsSettings)
  deriving DecidableEq

def lpAtomicLocktimeV1 (makerCoin takerCoin : String) : ℕ :=
  if makerCoin = "BTC" ∨ takerCoin = "BTC" then paymentLocktime * 10
  else if coinWith4xLocktime makerCoin ∨ coinWith4xLocktime takerCoin then paymentLocktime * 4
  else paymentLocktime

def lpAtomicLocktimeV2 (makerCoin takerCoin : String)
    (myConfSettings otherConfSettings : SwapConfirmationsSettings) : ℕ :=
  if tickerContains takerCoin "-lightning" then paymentLocktime * 12
  else if makerCoin = "BTC" ∨ takerCoin = "BTC" ∨ coinWith4xLocktime makerCoin
      ∨ coinWith4xLocktime takerCoin ∨ myConfSettings.requiresNotarization
      ∨ otherConfSettings.requiresNotarization then paymentLocktime * 4
  else paymentLocktime

def lpAtomicLocktime (makerCoin takerCoin : String) : AtomicLocktimeVersion → ℕ
  | .v1 => lpAtomicLocktimeV1 makerCoin takerCoin
  | .v2 my other => lpAtomicLocktimeV2 makerCoin takerCoin my other

/-- The lock time does not depend on which of the two settings is the own one. -/
theorem lpAtomicLocktimeV2_comm (makerCoin takerCoin : String) (s t : SwapConfirmationsSettings) :
    lpAtomicLocktimeV2 makerCoin takerCoin s t = lpAtomicLocktimeV2 makerCoin takerCoin t s := by
  have hswap : (s.requiresNotarization = true ∨ t.requiresNotarization = true) ↔
      (t.requiresNotarization = true ∨ s.requiresNotarization = true) := or_comm
  unfold lpAtomicLocktimeV2
  simp only [hswap]

/-! ## What the settings of a side depend on -/

section Dependence

variable {req req' : TakerRequest} (makerCoin takerCoin makerCoin' takerCoin' : MmCoin)

/-- With settings present on both orders the maker's choice depends on them and on the
request's action only. -/
theorem chooseMaker_congr {s : OrderConfirmationsSettings}
    (hconf : req.confSettings = req'.confSettings) (haction : req.action = req'.action) :
    chooseMakerConfsAndNotas (some s) req makerCoin takerCoin =
      chooseMakerConfsAndNotas (some s) req' makerCoin' takerCoin' := by
  unfold chooseMakerConfsAndNotas
  rw [hconf, haction]
  rfl

/-- A maker order without settings behaves as one carrying the coin configuration. -/
theorem chooseMaker_none :
    chooseMakerConfsAndNotas none req makerCoin takerCoin =
      chooseMakerConfsAndNotas (some (coinConfSettings makerCoin takerCoin)) req makerCoin
        takerCoin := rfl

theorem chooseTaker_congr {s t : OrderConfirmationsSettings}
    (hs : req.confSettings = some s) (hconf : req.confSettings = req'.confSettings)
    (haction : req.action = req'.action) :
    chooseTakerConfsAndNotas req (some t) makerCoin takerCoin =
      chooseTakerConfsAndNotas req' (some t) makerCoin' takerCoin' := by
  unfold chooseTakerConfsAndNotas
  rw [← hconf, ← haction, hs]

end Dependence

end DeXFG.Ordermatch
