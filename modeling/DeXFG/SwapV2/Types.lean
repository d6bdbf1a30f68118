import DeXFG.Ordermatch.Types

/-!
# Data of the V2 swap state machines

The coins and the hash functions are parameters: a coin has its own types of
transactions, keys, preimages, signatures and addresses, and the functions that
parse and serialise them. Errors of coin calls are the texts that the source
formats them to.
-/
namespace DeXFG.SwapV2
open Ordermatch (MmNumber Uuid)

abbrev Bytes := List UInt8

section Except

variable {ε ε' α β : Type}

theorem except_bind_eq_ok {x : Except ε α} {f : α → Except ε β} {b : β} :
    (x >>= f) = .ok b ↔ ∃ a, x = .ok a ∧ f a = .ok b := by
  cases x with
  | error e => simp [bind, Except.bind]
  | ok a => simp [bind, Except.bind]

theorem except_mapError_eq_ok {f : ε → ε'} {x : Except ε α} {a : α} :
    x.mapError f = .ok a ↔ x = .ok a := by
  cases x with
  | error e => simp [Except.mapError]
  | ok a => simp [Except.mapError]

end Except

inductive DexFeeBurnDestination where
  | kmdOpReturn
  | preBurnAccount
  deriving DecidableEq, Repr

inductive DexFee where
  | noFee
  | standard (amount : MmNumber)
  | withBurn (feeAmount burnAmount : MmNumber) (burnDestination : DexFeeBurnDestination)
  deriving DecidableEq

namespace DexFee

def feeAmount : DexFee → MmNumber
  | .noFee => 0
  | .standard t => t
  | .withBurn feeAmount _ _ => feeAmount

def burnAmount : DexFee → Option MmNumber
  | .noFee => none
  | .standard _ => none
  | .withBurn _ burnAmount _ => some burnAmount

def totalSpendAmount : DexFee → MmNumber
  | .noFee => 0
  | .standard t => t
  | .withBurn feeAmount burnAmount _ => feeAmount + burnAmount

end DexFee

/-- A coin that implements `ParseCoinAssocTypes`, `CommonSwapOpsV2` and the two `SwapOpsV2`
traits: its associated types and its functions without side effects. -/
structure SwapCoin where
  Tx : Type
  Pubkey : Type
  Preimage : Type
  Sig : Type
  Address : Type
  ticker : String
  platformTicker : String
  txHex : Tx → Bytes
  txHashAsBytes : Tx → Bytes
  parseTx : Bytes → Except String Tx
  pubkeyToBytes : Pubkey → Bytes
  parsePubkey : Bytes → Except String Pubkey
  preimageToBytes : Preimage → Bytes
  parsePreimage : Bytes → Except String Preimage
  sigToBytes : Sig → Bytes
  parseSignature : Bytes → Except String Sig
  addrToString : Address → String
  parseAddress : String → Except String Address
  deriveHtlcPubkeyV2 : Bytes → Pubkey
  deriveHtlcPubkeyV2Bytes : Bytes → Bytes
  takerPubkeyBytes : Option Bytes
  swapContractAddress : Option Bytes
  skipTakerPaymentSpendPreimage : Bool
  /-- `DexFee::new_from_taker_coin`, from the maker coin's ticker and the taker's volume. -/
  newFromTakerCoin : String → MmNumber → DexFee
  /-- `DexFee::new_with_taker_pubkey`. -/
  newWithTakerPubkey : String → MmNumber → Bytes → DexFee

/-- What the state machines of a swap take from outside. -/
structure External where
  makerCoin : SwapCoin
  takerCoin : SwapCoin
  dhash160 : Bytes → Bytes
  sha256 : Bytes → Bytes

inductive SecretHashAlgo where
  | dhash160
  | sha256
  deriving DecidableEq, Repr

def External.hashSecret (X : External) : SecretHashAlgo → Bytes → Bytes
  | .dhash160 => X.dhash160
  | .sha256 => X.sha256

/-- The two coins of a swap. -/
inductive Side where
  | maker
  | taker
  deriving DecidableEq, Repr

/-- A coin whose data are their own serialisation. -/
def rawCoin (ticker : String) : SwapCoin where
  Tx := Bytes
  Pubkey := Bytes
  Preimage := Bytes
  Sig := Bytes
  Address := String
  ticker := ticker
  platformTicker := ticker
  txHex := id
  txHashAsBytes := id
  parseTx := .ok
  pubkeyToBytes := id
  parsePubkey := .ok
  preimageToBytes := id
  parsePreimage := .ok
  sigToBytes := id
  parseSignature := .ok
  addrToString := id
  parseAddress := .ok
  deriveHtlcPubkeyV2 := id
  deriveHtlcPubkeyV2Bytes := id
  takerPubkeyBytes := none
  swapContractAddress := none
  skipTakerPaymentSpendPreimage := false
  newFromTakerCoin _ _ := .noFee
  newWithTakerPubkey _ _ _ := .noFee

def External.raw : External where
  makerCoin := rawCoin "RICK"
  takerCoin := rawCoin "MORTY"
  dhash160 := id
  sha256 := id

structure SwapConfirmationsSettings where
  makerCoinConfs : ℕ
  makerCoinNota : Bool
  takerCoinConfs : ℕ
  takerCoinNota : Bool
  deriving DecidableEq, Repr

/-- `TradeFee` and `SavedTradeFee`, which have the same fields. -/
structure TradeFee where
  coin : String
  amount : MmNumber
  paidFromTradingVol : Bool
  deriving DecidableEq

structure TransactionIdentifier where
  txHex : Bytes
  txHash : Bytes
  deriving DecidableEq, Repr

def SwapCoin.identifier (c : SwapCoin) (tx : c.Tx) : TransactionIdentifier where
  txHex := c.txHex tx
  txHash := c.txHashAsBytes tx

structure StoredTxPreimage where
  preimage : Bytes
  signature : Bytes
  deriving DecidableEq, Repr

structure TxPreimageWithSig (c : SwapCoin) where
  preimage : c.Preimage
  signature : c.Sig

namespace TxPreimageWithSig

def toStored {c : SwapCoin} (p : TxPreimageWithSig c) : StoredTxPreimage where
  preimage := c.preimageToBytes p.preimage
  signature := c.sigToBytes p.signature

/-- How `recreate_machine` reads a stored preimage. -/
def fromStored (c : SwapCoin) (stored : StoredTxPreimage) : Except String (TxPreimageWithSig c) := do
  let preimage ← c.parsePreimage stored.preimage
  let signature ← c.parseSignature stored.signature
  return ⟨preimage, signature⟩

end TxPreimageWithSig

/-! ## P2P messages -/

structure MakerNegotiation where
  startedAt : ℕ
  paymentLocktime : ℕ
  secretHash : Bytes
  makerCoinHtlcPub : Bytes
  takerCoinHtlcPub : Bytes
  makerCoinSwapContract : Option Bytes
  takerCoinSwapContract : Option Bytes
  takerCoinAddress : String

structure TakerNegotiationData where
  startedAt : ℕ
  fundingLocktime : ℕ
  paymentLocktime : ℕ
  takerSecretHash : Bytes
  makerCoinHtlcPub : Bytes
  takerCoinHtlcPub : Bytes
  makerCoinSwapContract : Option Bytes
  takerCoinSwapContract : Option Bytes

/-- `taker_negotiation::Action`. -/
inductive TakerNegotiationAction where
  | continue (data : TakerNegotiationData)
  | abort (reason : String)

structure TakerNegotiation where
  action : Option TakerNegotiationAction

structure MakerNegotiated where
  negotiated : Bool
  reason : Option String

structure TakerFundingInfo where
  txBytes : Bytes
  nextStepInstructions : Option Bytes

structure MakerPaymentInfo where
  txBytes : Bytes
  nextStepInstructions : Option Bytes
  fundingPreimageSig : Bytes
  fundingPreimageTx : Bytes

structure TakerPaymentSpendPreimage where
  signature : Bytes
  txPreimage : Bytes

/-- `swap_message::Inner`. -/
inductive SwapMessage where
  | makerNegotiation (msg : MakerNegotiation)
  | takerNegotiation (msg : TakerNegotiation)
  | makerNegotiated (msg : MakerNegotiated)
  | takerFundingInfo (msg : TakerFundingInfo)
  | makerPaymentInfo (msg : MakerPaymentInfo)
  | takerPaymentSpendPreimage (msg : TakerPaymentSpendPreimage)

/-- The fields of `SwapV2MsgStore` that a state takes a message from. -/
inductive MsgField where
  | makerNegotiation
  | takerNegotiation
  | makerNegotiated
  | takerFunding
  | makerPayment
  | takerPaymentSpendPreimage
  deriving DecidableEq, Repr

@[reducible] def MsgField.Message : MsgField → Type
  | .makerNegotiation => MakerNegotiation
  | .takerNegotiation => TakerNegotiation
  | .makerNegotiated => MakerNegotiated
  | .takerFunding => TakerFundingInfo
  | .makerPayment => MakerPaymentInfo
  | .takerPaymentSpendPreimage => TakerPaymentSpendPreimage

/-! ## Arguments and results of coin calls -/

structure ConfirmPaymentInput where
  paymentTx : Bytes
  confirmations : ℕ
  requiresNota : Bool
  waitUntil : ℕ
  checkEvery : ℕ

structure SendMakerPaymentArgs (c : SwapCoin) where
  timeLock : ℕ
  takerSecretHash : Bytes
  makerSecretHash : Bytes
  amount : MmNumber
  takerPub : c.Pubkey
  swapUniqueData : Bytes

structure ValidateMakerPaymentArgs (c : SwapCoin) where
  makerPaymentTx : c.Tx
  timeLock : ℕ
  takerSecretHash : Bytes
  makerSecretHash : Bytes
  amount : MmNumber
  makerPub : c.Pubkey
  swapUniqueData : Bytes

structure RefundMakerPaymentSecretArgs (c : SwapCoin) where
  makerPaymentTx : c.Tx
  timeLock : ℕ
  takerSecretHash : Bytes
  makerSecretHash : Bytes
  takerSecret : Bytes
  takerPub : c.Pubkey
  swapUniqueData : Bytes
  amount : MmNumber

structure SpendMakerPaymentArgs (c : SwapCoin) where
  makerPaymentTx : c.Tx
  timeLock : ℕ
  takerSecretHash : Bytes
  makerSecretHash : Bytes
  makerSecret : Bytes
  makerPub : c.Pubkey
  swapUniqueData : Bytes
  amount : MmNumber

/-- The variants of `SwapTxTypeWithSecretHash` that V2 swaps use. -/
inductive SwapTxTypeWithSecretHash where
  | makerPaymentV2 (makerSecretHash takerSecretHash : Bytes)
  | takerPaymentV2 (makerSecretHash takerSecretHash : Bytes)

structure RefundMakerPaymentTimelockArgs where
  paymentTx : Bytes
  timeLock : ℕ
  takerPub : Bytes
  txTypeWithSecretHash : SwapTxTypeWithSecretHash
  swapUniqueData : Bytes
  watcherReward : Bool
  amount : MmNumber

structure RefundTakerPaymentArgs where
  paymentTx : Bytes
  timeLock : ℕ
  makerPub : Bytes
  txTypeWithSecretHash : SwapTxTypeWithSecretHash
  swapUniqueData : Bytes
  watcherReward : Bool
  dexFee : DexFee
  premiumAmount : MmNumber
  tradingAmount : MmNumber

structure SendTakerFundingArgs where
  fundingTimeLock : ℕ
  paymentTimeLock : ℕ
  takerSecretHash : Bytes
  makerSecretHash : Bytes
  makerPub : Bytes
  dexFee : DexFee
  premiumAmount : MmNumber
  tradingAmount : MmNumber
  swapUniqueData : Bytes

structure RefundFundingSecretArgs (c : SwapCoin) where
  fundingTx : c.Tx
  fundingTimeLock : ℕ
  paymentTimeLock : ℕ
  makerPubkey : c.Pubkey
  takerSecret : Bytes
  takerSecretHash : Bytes
  makerSecretHash : Bytes
  dexFee : DexFee
  premiumAmount : MmNumber
  tradingAmount : MmNumber
  swapUniqueData : Bytes
  watcherReward : Bool

structure GenTakerFundingSpendArgs (c : SwapCoin) where
  fundingTx : c.Tx
  makerPub : c.Pubkey
  takerPub : c.Pubkey
  fundingTimeLock : ℕ
  takerSecretHash : Bytes
  takerPaymentTimeLock : ℕ
  makerSecretHash : Bytes

structure ValidateTakerFundingArgs (c : SwapCoin) where
  fundingTx : c.Tx
  fundingTimeLock : ℕ
  paymentTimeLock : ℕ
  takerSecretHash : Bytes
  makerSecretHash : Bytes
  takerPub : c.Pubkey
  dexFee : DexFee
  premiumAmount : MmNumber
  tradingAmount : MmNumber
  swapUniqueData : Bytes

structure GenTakerPaymentSpendArgs (c : SwapCoin) where
  takerTx : c.Tx
  timeLock : ℕ
  makerSecretHash : Bytes
  makerPub : c.Pubkey
  makerAddress : c.Address
  takerPub : c.Pubkey
  dexFee : DexFee
  premiumAmount : MmNumber
  tradingAmount : MmNumber

inductive FundingTxSpend (c : SwapCoin) where
  | refundedTimelock (tx : c.Tx)
  | refundedSecret (tx : c.Tx) (secret : Bytes)
  | transferredToTakerPayment (tx : c.Tx)

inductive SearchForFundingSpendErr where
  | invalidInputTx (e : String)
  | failedToProcessSpendTx (e : String)
  | rpc (e : String)
  | fromBlockConversionErr (e : String)
  | internal (e : String)
  deriving DecidableEq, Repr

/-- The debug text of the error. -/
def SearchForFundingSpendErr.debug : SearchForFundingSpendErr → String
  | .invalidInputTx e => "InvalidInputTx(" ++ e.quote ++ ")"
  | .failedToProcessSpendTx e => "FailedToProcessSpendTx(" ++ e.quote ++ ")"
  | .rpc e => "Rpc(" ++ e.quote ++ ")"
  | .fromBlockConversionErr e => "FromBlockConversionErr(" ++ e ++ ")"
  | .internal e => "Internal(" ++ e.quote ++ ")"

inductive CanRefundHtlc where
  | canRefundNow
  | haveToWait (secs : ℕ)
  deriving DecidableEq, Repr

structure MakerSwapPreparedParams where
  makerPaymentTradeFee : TradeFee
  takerPaymentSpendTradeFee : TradeFee

structure TakerSwapPreparedParams where
  dexFee : MmNumber
  feeToSendDexFee : TradeFee
  takerPaymentTradeFee : TradeFee
  makerPaymentSpendTradeFee : TradeFee

/-! ## Constants -/

/-- `NEGOTIATE_SEND_INTERVAL`. -/
def negotiateSendInterval : ℕ := 30

/-- `NEGOTIATION_TIMEOUT_SEC`. -/
def negotiationTimeoutSec : ℕ := 90

/-- `BASIC_COMM_TIMEOUT`. -/
def basicCommTimeout : ℕ := 90

/-- `MAX_STARTED_AT_DIFF`, three times `MAX_TIME_GAP_FOR_CONNECTED_PEER`. -/
def maxStartedAtDiff : ℕ := 20 * 3

/-- `SWAP_TX_VISIBILITY_GRACE_SECS`. -/
def swapTxVisibilityGraceSecs : ℕ := 30

/-- `SWAP_TX_VISIBILITY_POLL_SECS`. -/
def swapTxVisibilityPollSecs : ℕ := 1

/-- The difference of two `u64`, as `abs_diff` computes it. -/
def absDiff (a b : ℕ) : ℕ := max a b - min a b

end DeXFG.SwapV2
