import DeXFG.SwapV2.Types

/-!
# Data shared by the legacy swaps

Durations and deadlines of a swap, all in seconds. A transaction is its raw
bytes, a key or an address the bytes that stand for it.
-/
namespace DeXFG.LegacySwap

abbrev Bytes := SwapV2.Bytes

/-- `PAYMENT_LOCKTIME`. -/
def paymentLocktime : ℕ := 3600 * 2 + 300 * 2

def takerPaymentSpendDuration (locktime : ℕ) : ℕ := locktime * 4 / 5

def takerPaymentSpendDeadline (swapStartedAt locktime : ℕ) : ℕ :=
  swapStartedAt + takerPaymentSpendDuration locktime

def waitForMakerPaymentConfDuration (locktime : ℕ) : ℕ := locktime * 2 / 5

def waitForMakerPaymentConfUntil (swapStartedAt locktime : ℕ) : ℕ :=
  swapStartedAt + waitForMakerPaymentConfDuration locktime

/-- `WAIT_CONFIRM_INTERVAL_SEC`. -/
def waitConfirmIntervalSec : ℕ := 15

/-- `TAKER_FEE_VALIDATION_ATTEMPTS`. -/
def takerFeeValidationAttempts : ℕ := 6

/-- `TAKER_FEE_VALIDATION_RETRY_DELAY_SECS`. -/
def takerFeeValidationRetryDelaySecs : ℕ := 10

/-- The transaction that spends a payment. -/
inductive FoundSwapTxSpend where
  | spent (tx : Bytes)
  | refunded (tx : Bytes)
  deriving DecidableEq, Repr

/-- A transaction that was not sent; `tx` when it could be broadcast by others. -/
structure TransactionErr where
  text : String
  tx : Option Bytes
  deriving DecidableEq, Repr

end DeXFG.LegacySwap
