import DeXFG.Evm.LegacyPayment
import DeXFG.LegacySwap.Watcher

/-!
# What a legacy swap asks of its coins and of the other side

A swap runs between two coins. What a coin computes without asking its network
is a function of the coin; everything that waits is a `SwapCall`. A message to
the other side is sent for as long as the swap waits for the answer, and is an
argument of that call.
-/
namespace DeXFG.LegacySwap
open Ordermatch (MmNumber Uuid)
open SwapV2 (DexFee Side TransactionIdentifier CanRefundHtlc ConfirmPaymentInput)
open Evm (WatcherReward)
open Library.Process

/-- `SwapError`. -/
abbrev SwapError := String

/-! ## Messages -/

inductive NegotiationDataMsg where
  | v1 (startedAt paymentLocktime : ℕ) (secretHash persistentPubkey : Bytes)
  | v2 (startedAt paymentLocktime : ℕ) (secretHash persistentPubkey : Bytes)
      (makerCoinSwapContract takerCoinSwapContract : Bytes)
  | v3 (startedAt paymentLocktime : ℕ) (secretHash : Bytes)
      (makerCoinSwapContract takerCoinSwapContract : Bytes)
      (makerCoinHtlcPub takerCoinHtlcPub : Bytes)
  deriving DecidableEq, Repr

namespace NegotiationDataMsg

def startedAt : NegotiationDataMsg → ℕ
  | .v1 startedAt _ _ _ => startedAt
  | .v2 startedAt _ _ _ _ _ => startedAt
  | .v3 startedAt _ _ _ _ _ _ => startedAt

def paymentLocktime : NegotiationDataMsg → ℕ
  | .v1 _ paymentLocktime _ _ => paymentLocktime
  | .v2 _ paymentLocktime _ _ _ _ => paymentLocktime
  | .v3 _ paymentLocktime _ _ _ _ _ => paymentLocktime

def secretHash : NegotiationDataMsg → Bytes
  | .v1 _ _ secretHash _ => secretHash
  | .v2 _ _ secretHash _ _ _ => secretHash
  | .v3 _ _ secretHash _ _ _ _ => secretHash

def makerCoinHtlcPub : NegotiationDataMsg → Bytes
  | .v1 _ _ _ persistentPubkey => persistentPubkey
  | .v2 _ _ _ persistentPubkey _ _ => persistentPubkey
  | .v3 _ _ _ _ _ makerCoinHtlcPub _ => makerCoinHtlcPub

def takerCoinHtlcPub : NegotiationDataMsg → Bytes
  | .v1 _ _ _ persistentPubkey => persistentPubkey
  | .v2 _ _ _ persistentPubkey _ _ => persistentPubkey
  | .v3 _ _ _ _ _ _ takerCoinHtlcPub => takerCoinHtlcPub

def makerCoinSwapContract : NegotiationDataMsg → Option Bytes
  | .v1 _ _ _ _ => none
  | .v2 _ _ _ _ makerCoinSwapContract _ => some makerCoinSwapContract
  | .v3 _ _ _ makerCoinSwapContract _ _ _ => some makerCoinSwapContract

def takerCoinSwapContract : NegotiationDataMsg → Option Bytes
  | .v1 _ _ _ _ => none
  | .v2 _ _ _ _ _ takerCoinSwapContract => some takerCoinSwapContract
  | .v3 _ _ _ _ takerCoinSwapContract _ _ => some takerCoinSwapContract

end NegotiationDataMsg

inductive SwapTxDataMsg where
  | regular (data : Bytes)
  | withInstructions (data nextStepInstructions : Bytes)
  deriving DecidableEq, Repr

namespace SwapTxDataMsg

def data : SwapTxDataMsg → Bytes
  | .regular data => data
  | .withInstructions data _ => data

def instructions : SwapTxDataMsg → Option Bytes
  | .regular _ => none
  | .withInstructions _ nextStepInstructions => some nextStepInstructions

/-- `SwapTxDataMsg::new`. -/
def new (data : Bytes) : Option Bytes → SwapTxDataMsg
  | some nextStepInstructions => .withInstructions data nextStepInstructions
  | none => .regular data

end SwapTxDataMsg

inductive PaymentInstructions where
  | lightning (invoice : Bytes)
  | watcherReward (amount : ℚ)
  deriving DecidableEq, Repr

/-! ## Arguments of coin functions -/

structure PaymentInstructionArgs where
  secretHash : Bytes
  amount : ℚ
  makerLockDuration : ℕ := 0
  expiresIn : ℕ := 0
  watcherReward : Bool := false
  waitUntil : ℕ := 0
  deriving DecidableEq

structure CheckIfMyPaymentSentArgs where
  timeLock : ℕ
  otherPub : Bytes
  secretHash : Bytes
  searchFromBlock : ℕ
  swapContractAddress : Option Bytes
  swapUniqueData : Bytes
  amount : ℚ
  paymentInstructions : Option PaymentInstructions
  deriving DecidableEq

structure SendPaymentArgs where
  timeLockDuration : ℕ
  timeLock : ℕ
  otherPubkey : Bytes
  secretHash : Bytes
  amount : ℚ
  swapContractAddress : Option Bytes
  swapUniqueData : Bytes
  paymentInstructions : Option PaymentInstructions
  watcherReward : Option WatcherReward
  waitForConfirmationUntil : ℕ
  deriving DecidableEq

structure ValidatePaymentInput where
  paymentTx : Bytes
  timeLockDuration : ℕ
  timeLock : ℕ
  otherPub : Bytes
  secretHash : Bytes
  amount : ℚ
  swapContractAddress : Option Bytes
  trySpvProofUntil : ℕ
  confirmations : ℕ
  uniqueSwapData : Bytes
  watcherReward : Option WatcherReward
  deriving DecidableEq

structure SpendPaymentArgs where
  otherPaymentTx : Bytes
  timeLock : ℕ
  otherPubkey : Bytes
  secret : Bytes
  secretHash : Bytes
  swapContractAddress : Option Bytes
  swapUniqueData : Bytes
  watcherReward : Bool
  deriving DecidableEq

/-- The arguments of a refund; the transaction type is always `TakerOrMakerPayment`. -/
structure RefundPaymentArgs where
  paymentTx : Bytes
  timeLock : ℕ
  otherPubkey : Bytes
  makerSecretHash : Bytes
  swapContractAddress : Option Bytes
  swapUniqueData : Bytes
  watcherReward : Bool
  deriving DecidableEq

structure SearchForSwapTxSpendInput where
  timeLock : ℕ
  otherPub : Bytes
  secretHash : Bytes
  tx : Bytes
  searchFromBlock : ℕ
  swapContractAddress : Option Bytes
  swapUniqueData : Bytes
  deriving DecidableEq

structure WaitForPaymentSpendArgs extends WaitForHTLCTxSpendArgs where
  swapContractAddress : Option Bytes

inductive WatcherSpendType where
  | makerPaymentSpend
  | takerPaymentRefund
  deriving DecidableEq, Repr

structure ValidateWatcherSpendInput where
  paymentTx : Bytes
  makerPub : Bytes
  swapContractAddress : Option Bytes
  timeLock : ℕ
  secretHash : Bytes
  amount : ℚ
  watcherReward : Option WatcherReward
  spendType : WatcherSpendType
  deriving DecidableEq

structure ValidateFeeArgs where
  feeTx : Bytes
  expectedSender : Bytes
  dexFee : DexFee
  minBlockNumber : ℕ
  uuid : Uuid

structure SpendPreimageArgs where
  paymentTx : Bytes
  timeLock : ℕ
  otherPub : Bytes
  secretHash : Bytes
  swapContractAddress : Option Bytes
  swapUniqueData : Bytes
  deriving DecidableEq

/-! ## The two coins -/

/-- What a coin computes by itself. A transaction is its raw bytes. -/
structure SwapCoin where
  ticker : String
  swapContractAddress : Option Bytes
  fallbackSwapContract : Option Bytes
  negotiateSwapContractAddr : Option Bytes → Except String (Option Bytes)
  validateOtherPubkey : Bytes → Except String Unit
  deriveHtlcPubkey : Bytes → Bytes
  makerLocktimeMultiplier : ℚ
  isSupportedByWatchers : Bool
  isEth : Bool
  isAutoRefundable : Bool
  requiresNotarization : Bool
  txEnumFromBytes : Bytes → Except String Bytes
  txHashAsBytes : Bytes → Bytes
  validateMakerPaymentInstructions :
    Bytes → PaymentInstructionArgs → Except String PaymentInstructions
  validateTakerPaymentInstructions :
    Bytes → PaymentInstructionArgs → Except String PaymentInstructions
  /-- `DexFee::new_with_taker_pubkey`, from the maker coin's ticker. -/
  newWithTakerPubkey : String → MmNumber → Bytes → DexFee

/-- The identifier of a transaction of the coin. -/
def SwapCoin.ident (coin : SwapCoin) (tx : Bytes) : TransactionIdentifier where
  txHex := tx
  txHash := coin.txHashAsBytes tx

/-- What a swap of this node takes from outside: its coins, the algorithm that hashes the secret,
`MmNumber::to_decimal`, the permanent public key of the node and its settings. -/
structure SwapEnv where
  makerCoin : SwapCoin
  takerCoin : SwapCoin
  hashSecret : Bytes → Bytes
  sha256 : Bytes → Bytes
  toDecimal : MmNumber → ℚ
  mm2InternalPub : Bytes
  disableWatchersGlobally : Bool

def SwapEnv.coin (X : SwapEnv) : Side → SwapCoin
  | .maker => X.makerCoin
  | .taker => X.takerCoin

/-- The pair of coins can be watched. -/
def SwapEnv.supportedByWatchers (X : SwapEnv) : Bool :=
  X.takerCoin.isSupportedByWatchers && X.makerCoin.isSupportedByWatchers

/-- `default_watcher_maker_payment_spend_factor` of the lock duration. -/
def watcherMakerPaymentSpendTime (startedAt lockDuration : ℕ) : ℕ :=
  startedAt + (({} : WatcherConf).waitMakerPaymentSpendFactor * lockDuration).floor.toNat

/-- `default_watcher_refund_factor` of the lock duration. -/
def watcherRefundTime (startedAt lockDuration : ℕ) : ℕ :=
  startedAt + (({} : WatcherConf).refundStartFactor * lockDuration).floor.toNat

/-- The lock duration of the maker payment. -/
def SwapEnv.makerLockDuration (X : SwapEnv) (lockDuration : ℕ) : ℕ :=
  ⌈lockDuration * X.takerCoin.makerLocktimeMultiplier⌉.toNat

/-- `Uuid::as_bytes`. -/
def uuidAsBytes (uuid : Uuid) : Bytes := Library.StaticAbi.beBytes 16 uuid.val

/-- `u64::checked_add`. -/
def checkedAdd (a b : ℕ) : Option ℕ := if a + b < 2 ^ 64 then some (a + b) else none

/-- The debug text of an optional number. -/
def debugOption : Option ℕ → String
  | some n => s!"Some({n})"
  | none => "None"

inductive SwapCall where
  | getSenderTradeFee (side : Side) (amount : ℚ)
  | getReceiverTradeFee (side : Side)
  | getFeeToSendTakerFee (dexFee : DexFee)
  | checkBalanceForMakerSwap (volume : MmNumber)
  | checkBalanceForTakerSwap (volume : MmNumber) (dexFee : MmNumber)
  | currentBlock (side : Side)
  /-- `USE_WATCHER_REWARD` is in the environment. -/
  | useWatcherReward
  | recvNegotiation (timeout : ℕ)
  | recvNegotiationReply (negotiation : NegotiationDataMsg) (timeout : ℕ)
  | recvNegotiated (negotiationReply : NegotiationDataMsg) (timeout : ℕ)
  | recvTakerFee (timeout : ℕ)
  | recvMakerPayment (takerFee : SwapTxDataMsg) (timeout : ℕ)
  | recvTakerPayment (makerPayment : SwapTxDataMsg) (timeout : ℕ)
  | broadcastNegotiatedFalse
  | makerPaymentInstructions (args : PaymentInstructionArgs)
  | takerPaymentInstructions (args : PaymentInstructionArgs)
  | sendTakerFee (dexFee : DexFee) (uuid : Uuid) (expireAt : ℕ)
  | validateFee (args : ValidateFeeArgs)
  | sleep (secs : ℕ)
  | waitForConfirmations (side : Side) (input : ConfirmPaymentInput)
  | getMakerWatcherReward (rewardAmount : Option ℚ) (waitUntil : ℕ)
  | getTakerWatcherReward (coinAmount otherCoinAmount : ℚ) (rewardAmount : Option ℚ)
      (waitUntil : ℕ)
  | validateMakerPayment (input : ValidatePaymentInput)
  | validateTakerPayment (input : ValidatePaymentInput)
  | checkIfMyPaymentSent (side : Side) (args : CheckIfMyPaymentSentArgs)
  | sendMakerPayment (args : SendPaymentArgs)
  | sendTakerPayment (args : SendPaymentArgs)
  | createMakerPaymentSpendPreimage (args : SpendPreimageArgs)
  | createTakerPaymentRefundPreimage (args : SpendPreimageArgs)
  | broadcastWatcherMsg (data : TakerSwapWatcherData)
  /-- Waits for the spend of the taker payment; the payment itself, and what watchers need, are
  broadcast meanwhile. -/
  | waitForHtlcTxSpend (args : WaitForPaymentSpendArgs)
      (watcherMsg : Option TakerSwapWatcherData)
  | extractSecret (side : Side) (secretHash spendTx : Bytes)
  | sendMakerSpendsTakerPayment (args : SpendPaymentArgs)
  | sendTakerSpendsMakerPayment (args : SpendPaymentArgs)
  | broadcastP2pTxMsg (side : Side) (tx : Bytes)
  | onRefundStart (side : Side) (paymentTx : Bytes)
  | onRefundSuccess (side : Side) (paymentTx : Bytes)
  | waitForHtlcRefund (side : Side) (tx : Bytes) (locktime : ℕ)
  | canRefundHtlc (side : Side) (locktime : ℕ)
  | sendRefundsPayment (side : Side) (args : RefundPaymentArgs)
  | searchForSwapTxSpendMy (side : Side) (input : SearchForSwapTxSpendInput)
  | searchForSwapTxSpendOther (side : Side) (input : SearchForSwapTxSpendInput)
  | takerValidatesPaymentSpendOrRefund (side : Side) (input : ValidateWatcherSpendInput)

@[reducible] def SwapCall.Answer : SwapCall → Type
  | .getSenderTradeFee _ _ => Except String Unit
  | .getReceiverTradeFee _ => Except String Unit
  | .getFeeToSendTakerFee _ => Except String Unit
  | .checkBalanceForMakerSwap _ => Except String Unit
  | .checkBalanceForTakerSwap _ _ => Except String Unit
  | .currentBlock _ => Except String ℕ
  | .useWatcherReward => Bool
  | .recvNegotiation _ => Except String NegotiationDataMsg
  | .recvNegotiationReply _ _ => Except String NegotiationDataMsg
  | .recvNegotiated _ _ => Except String Bool
  | .recvTakerFee _ => Except String SwapTxDataMsg
  | .recvMakerPayment _ _ => Except String SwapTxDataMsg
  | .recvTakerPayment _ _ => Except String Bytes
  | .broadcastNegotiatedFalse => Unit
  | .makerPaymentInstructions _ => Except String (Option Bytes)
  | .takerPaymentInstructions _ => Except String (Option Bytes)
  | .sendTakerFee _ _ _ => Except TransactionErr Bytes
  | .validateFee _ => Except String Unit
  | .sleep _ => Unit
  | .waitForConfirmations _ _ => Except String Unit
  | .getMakerWatcherReward _ _ => Except String (Option WatcherReward)
  | .getTakerWatcherReward _ _ _ _ => Except String WatcherReward
  | .validateMakerPayment _ => Except String Unit
  | .validateTakerPayment _ => Except String Unit
  | .checkIfMyPaymentSent _ _ => Except String (Option Bytes)
  | .sendMakerPayment _ => Except TransactionErr Bytes
  | .sendTakerPayment _ => Except TransactionErr Bytes
  | .createMakerPaymentSpendPreimage _ => Except TransactionErr Bytes
  | .createTakerPaymentRefundPreimage _ => Except TransactionErr Bytes
  | .broadcastWatcherMsg _ => Unit
  | .waitForHtlcTxSpend _ _ => Except TransactionErr Bytes
  | .extractSecret _ _ _ => Except String Bytes
  | .sendMakerSpendsTakerPayment _ => Except TransactionErr Bytes
  | .sendTakerSpendsMakerPayment _ => Except TransactionErr Bytes
  | .broadcastP2pTxMsg _ _ => Unit
  | .onRefundStart _ _ => Except String Unit
  | .onRefundSuccess _ _ => Except String Unit
  | .waitForHtlcRefund _ _ _ => Except String Unit
  | .canRefundHtlc _ _ => Except String CanRefundHtlc
  | .sendRefundsPayment _ _ => Except TransactionErr Bytes
  | .searchForSwapTxSpendMy _ _ => Except String (Option FoundSwapTxSpend)
  | .searchForSwapTxSpendOther _ _ => Except String (Option FoundSwapTxSpend)
  | .takerValidatesPaymentSpendOrRefund _ _ => Except String Unit

abbrev SwapProc (α : Type) := Proc SwapCall SwapCall.Answer α

abbrev SwapCall.ask (c : SwapCall) : SwapProc c.Answer := call c

/-- What a command ends with; an error where the source panics. -/
abbrev HandleResult (σ ε κ : Type) := Except String (σ × Option κ × List ε)

end DeXFG.LegacySwap
