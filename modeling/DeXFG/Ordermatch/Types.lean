import Mathlib.Data.Finset.Basic
import Mathlib.Tactic

/-!
# Data shared by the ordermatch messages, orders and swaps

Amounts and prices are exact rationals. Division by zero aborts in the source
(`num_rational` panics), so quotients are taken with `div?`. Order ids and
public keys are fixed-width numbers; a key pair is known by its public key.
-/
namespace DeXFG.Ordermatch

/-- `MmNumber`, a wrapper of `BigRational`. -/
abbrev MmNumber := ℚ

/-- Division of `MmNumber`; `none` is the panic on a zero divisor. -/
def MmNumber.div? (a b : MmNumber) : Option MmNumber :=
  if b = 0 then none else some (a / b)

theorem MmNumber.div?_of_ne {a b : MmNumber} (h : b ≠ 0) : MmNumber.div? a b = some (a / b) :=
  if_neg h

theorem MmNumber.div?_eq_some {a b c : MmNumber} :
    MmNumber.div? a b = some c ↔ b ≠ 0 ∧ a / b = c := by
  unfold MmNumber.div?
  split <;> simp_all

abbrev Uuid := Fin (2 ^ 128)

instance neZero_uuid : NeZero (2 ^ 128) := ⟨by norm_num⟩

/-- `H256Json`: an unprefixed public key. -/
abbrev H256 := Fin (2 ^ 256)

instance neZero_h256 : NeZero (2 ^ 256) := ⟨by norm_num⟩

/-- A secp256k1 key pair, by its unprefixed public key. -/
structure KeyPair where
  publicUnprefixed : H256
  deriving DecidableEq, Repr

structure OrderConfirmationsSettings where
  baseConfs : UInt64
  baseNota : Bool
  relConfs : UInt64
  relNota : Bool
  deriving DecidableEq, Repr

namespace OrderConfirmationsSettings

def reversed (s : OrderConfirmationsSettings) : OrderConfirmationsSettings where
  baseConfs := s.relConfs
  baseNota := s.relNota
  relConfs := s.baseConfs
  relNota := s.baseNota

@[simp] theorem reversed_reversed (s : OrderConfirmationsSettings) :
    s.reversed.reversed = s := rfl

end OrderConfirmationsSettings

inductive TakerAction where
  | buy
  | sell
  deriving DecidableEq, Repr

inductive OrderType where
  | fillOrKill
  | goodTillCancelled
  deriving DecidableEq, Repr

inductive MatchBy where
  | any
  | orders (uuids : Finset Uuid)
  | pubkeys (pubkeys : Finset H256)
  deriving DecidableEq

structure SwapVersion where
  version : UInt8
  deriving DecidableEq, Repr

def legacySwapVersion : UInt8 := 1

/-- `SWAP_VERSION_DEFAULT`. -/
def swapVersionDefault : UInt8 := 2

namespace SwapVersion

/-- `SwapVersion::default`, the value of a field absent on the wire. -/
def default : SwapVersion := ⟨legacySwapVersion⟩

def isLegacy (v : SwapVersion) : Bool := v.version == legacySwapVersion

theorem isLegacy_iff (v : SwapVersion) : v.isLegacy = true ↔ v = default := by
  cases v
  simp [isLegacy, default]

end SwapVersion

def defaultSwapMethod : String := "htlc"

/-- The variants of `MmCoinEnum`. -/
inductive CoinVariant where
  | utxoCoin
  | qtumCoin
  | qrc20Coin
  | ethCoin
  | zCoin
  | bch
  | slpToken
  | tendermint
  | tendermintToken
  | lightningCoin
  | siaCoin
  | solanaCoin
  | solanaToken
  deriving DecidableEq, Repr

/-- What the ordermatch code asks of a coin. The two protocol functions and the trading
limits belong to the coin implementations. -/
structure MmCoin where
  ticker : String
  variant : CoinVariant
  minTradingVol : MmNumber
  minTradingVol_nonneg : 0 ≤ minTradingVol
  isPrivacy : Bool
  requiredConfirmations : UInt64
  requiresNotarization : Bool
  makerLocktimeMultiplier : ℚ
  coinProtocolInfo : Option MmNumber → List UInt8
  isCoinProtocolSupported : Option (List UInt8) → Option MmNumber → ℕ → Bool → Bool

/-- A coin that supports every protocol, for concrete orders. -/
def testCoin (ticker : String) (variant : CoinVariant) (isPrivacy : Bool) : MmCoin where
  ticker := ticker
  variant := variant
  minTradingVol := 777 / 100000
  minTradingVol_nonneg := by norm_num
  isPrivacy := isPrivacy
  requiredConfirmations := 1
  requiresNotarization := false
  makerLocktimeMultiplier := 2
  coinProtocolInfo := fun _ => []
  isCoinProtocolSupported := fun _ _ _ _ => true

end DeXFG.Ordermatch
