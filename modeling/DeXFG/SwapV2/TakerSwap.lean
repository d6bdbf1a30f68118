import DeXFG.Library.Serde
import DeXFG.SwapV2.StateMachine

/-!
# States, events and restart of the V2 taker swap
-/
namespace DeXFG.SwapV2.TakerSwap
open Ordermatch (MmNumber Uuid KeyPair)

variable {X : External}

structure TakerSwapStateMachine where
  startedAt : ℕ
  lockDuration : ℕ
  makerVolume : MmNumber
  takerVolume : MmNumber
  takerPremium : MmNumber
  secretHashAlgo : SecretHashAlgo
  confSettings : SwapConfirmationsSettings
  uuid : Uuid
  p2pKeypair : Option KeyPair
  takerSecret : Bytes
  makerP2pPubkey : Bytes
  requireMakerPaymentConfirmBeforeFundingSpend : Bool
  requireMakerPaymentSpendConfirm : Bool
  swapVersion : ℕ

namespace TakerSwapStateMachine

def makerPaymentConfTimeout (m : TakerSwapStateMachine) : ℕ :=
  m.startedAt + m.lockDuration / 3

def takerFundingLocktime (m : TakerSwapStateMachine) : ℕ :=
  m.startedAt + m.lockDuration * 3

def takerPaymentLocktime (m : TakerSwapStateMachine) : ℕ :=
  m.startedAt + m.lockDuration

/-- The bytes of the swap's id. -/
def uniqueData (m : TakerSwapStateMachine) : Bytes := Library.Serde.toBytes 16 m.uuid

def takerSecretHash (X : External) (m : TakerSwapStateMachine) : Bytes :=
  X.hashSecret m.secretHashAlgo m.takerSecret

def dexFee (X : External) (m : TakerSwapStateMachine) : DexFee :=
  match X.takerCoin.takerPubkeyBytes with
  | some takerPub => X.takerCoin.newWithTakerPubkey X.makerCoin.ticker m.takerVolume takerPub
  | none => X.takerCoin.newFromTakerCoin X.makerCoin.ticker m.takerVolume

end TakerSwapStateMachine

/-! ## Reasons -/

inductive TakerFundingRefundReason where
  | didNotReceiveMakerPayment (e : String)
  | failedToParseFundingSpendPreimg (e : String)
  | failedToParseFundingSpendSig (e : String)
  | failedToSendTakerPayment (e : String)
  | makerPaymentValidationFailed (e : String)
  | fundingSpendPreimageValidationFailed (e : String)
  | failedToParseMakerPayment (e : String)
  | makerPaymentNotConfirmedInTime (e : String)
  deriving DecidableEq, Repr

inductive TakerPaymentRefundReason where
  | makerPaymentNotConfirmedInTime (e : String)
  | makerPaymentSpendNotConfirmedInTime (e : String)
  | failedToGenerateSpendPreimage (e : String)
  | makerDidNotSpendInTime (e : String)
  deriving DecidableEq, Repr

inductive AbortReason where
  | failedToGetMakerCoinBlock (e : String)
  | failedToGetTakerCoinBlock (e : String)
  | balanceCheckFailure (e : String)
  | didNotReceiveMakerNegotiation (e : String)
  | tooLargeStartedAtDiff (diff : ℕ)
  | failedToParsePubkey (e : String)
  | failedToParseAddress (e : String)
  | makerProvidedInvalidLocktime (locktime : ℕ)
  | secretHashUnexpectedLen (len : ℕ)
  | didNotReceiveMakerNegotiated (e : String)
  | makerDidNotNegotiate (reason : String)
  | failedToSendTakerFunding (e : String)
  | couldNotExtractSecret (e : String)
  | failedToSpendMakerPayment (e : String)
  | takerFundingRefundFailed (e : String)
  | takerPaymentRefundFailed (e : String)
  | failedToGetTakerPaymentFee (e : String)
  | failedToGetMakerPaymentSpendFee (e : String)
  deriving DecidableEq, Repr

/-! ## Negotiation data -/

structure StoredNegotiationData where
  makerPaymentLocktime : ℕ
  makerSecretHash : Bytes
  takerCoinMakerAddress : String
  makerCoinHtlcPubFromMaker : Bytes
  takerCoinHtlcPubFromMaker : Bytes
  makerCoinSwapContract : Option Bytes
  takerCoinSwapContract : Option Bytes
  deriving DecidableEq, Repr

structure NegotiationData (X : External) where
  makerSecretHash : Bytes
  makerPaymentLocktime : ℕ
  makerCoinHtlcPubFromMaker : X.makerCoin.Pubkey
  takerCoinHtlcPubFromMaker : X.takerCoin.Pubkey
  makerCoinSwapContract : Option Bytes
  takerCoinSwapContract : Option Bytes
  takerCoinMakerAddress : X.takerCoin.Address

namespace NegotiationData

def toStoredData (d : NegotiationData X) : StoredNegotiationData where
  makerPaymentLocktime := d.makerPaymentLocktime
  makerSecretHash := d.makerSecretHash
  takerCoinMakerAddress := X.takerCoin.addrToString d.takerCoinMakerAddress
  makerCoinHtlcPubFromMaker := X.makerCoin.pubkeyToBytes d.makerCoinHtlcPubFromMaker
  takerCoinHtlcPubFromMaker := X.takerCoin.pubkeyToBytes d.takerCoinHtlcPubFromMaker
  makerCoinSwapContract := d.makerCoinSwapContract
  takerCoinSwapContract := d.takerCoinSwapContract

def fromStoredData (X : External) (stored : StoredNegotiationData) :
    Except String (NegotiationData X) := do
  let makerCoinHtlcPubFromMaker ← X.makerCoin.parsePubkey stored.makerCoinHtlcPubFromMaker
  let takerCoinHtlcPubFromMaker ← X.takerCoin.parsePubkey stored.takerCoinHtlcPubFromMaker
  let takerCoinMakerAddress ← X.takerCoin.parseAddress stored.takerCoinMakerAddress
  return {
    makerSecretHash := stored.makerSecretHash
    makerPaymentLocktime := stored.makerPaymentLocktime
    makerCoinHtlcPubFromMaker
    takerCoinHtlcPubFromMaker
    makerCoinSwapContract := none
    takerCoinSwapContract := none
    takerCoinMakerAddress }

end NegotiationData

/-! ## Events -/

inductive TakerSwapEvent where
  | initialized (makerCoinStartBlock takerCoinStartBlock : ℕ)
      (takerPaymentFee makerPaymentSpendFee : TradeFee)
  | negotiated (makerCoinStartBlock takerCoinStartBlock : ℕ)
      (negotiationData : StoredNegotiationData) (takerPaymentFee makerPaymentSpendFee : TradeFee)
  | takerFundingSent (makerCoinStartBlock takerCoinStartBlock : ℕ)
      (negotiationData : StoredNegotiationData) (takerFunding : TransactionIdentifier)
  | takerFundingRefundRequired (makerCoinStartBlock takerCoinStartBlock : ℕ)
      (negotiationData : StoredNegotiationData) (takerFunding : TransactionIdentifier)
      (reason : TakerFundingRefundReason)
  | makerPaymentAndFundingSpendPreimgReceived (makerCoinStartBlock takerCoinStartBlock : ℕ)
      (negotiationData : StoredNegotiationData) (takerFunding : TransactionIdentifier)
      (fundingSpendPreimage : StoredTxPreimage) (makerPayment : TransactionIdentifier)
  | takerPaymentSent (makerCoinStartBlock takerCoinStartBlock : ℕ)
      (takerPayment makerPayment : TransactionIdentifier) (negotiationData : StoredNegotiationData)
  | takerPaymentSentAndPreimageSendingSkipped (makerCoinStartBlock takerCoinStartBlock : ℕ)
      (takerPayment makerPayment : TransactionIdentifier) (negotiationData : StoredNegotiationData)
  | takerPaymentRefundRequired (takerPayment : TransactionIdentifier)
      (negotiationData : StoredNegotiationData) (reason : TakerPaymentRefundReason)
  | makerPaymentConfirmed (makerCoinStartBlock takerCoinStartBlock : ℕ)
      (makerPayment takerFunding : TransactionIdentifier) (fundingSpendPreimage : StoredTxPreimage)
      (negotiationData : StoredNegotiationData)
  | takerPaymentSpent (makerCoinStartBlock takerCoinStartBlock : ℕ)
      (makerPayment takerPayment takerPaymentSpend : TransactionIdentifier)
      (negotiationData : StoredNegotiationData)
  | makerPaymentSpent (makerCoinStartBlock takerCoinStartBlock : ℕ)
      (makerPayment takerPayment takerPaymentSpend makerPaymentSpend : TransactionIdentifier)
      (negotiationData : StoredNegotiationData)
  | takerFundingRefunded (fundingTx fundingTxRefund : TransactionIdentifier)
      (reason : TakerFundingRefundReason)
  | takerPaymentRefunded (takerPayment takerPaymentRefund : TransactionIdentifier)
      (reason : TakerPaymentRefundReason)
  | aborted (reason : AbortReason)
  | completed
  deriving DecidableEq

/-- The states of the taker without their data. -/
inductive TakerStateKind where
  | initialized
  | negotiated
  | takerFundingSent
  | takerFundingRefundRequired
  | makerPaymentAndFundingSpendPreimgReceived
  | takerPaymentSent
  | takerPaymentSentAndPreimageSendingSkipped
  | takerPaymentRefundRequired
  | makerPaymentConfirmed
  | takerPaymentSpent
  | makerPaymentSpent
  | takerFundingRefunded
  | takerPaymentRefunded
  | aborted
  | completed
  deriving DecidableEq, Repr

/-- The states after which a swap is not recreated. -/
def TakerStateKind.isTerminal : TakerStateKind → Bool
  | .takerFundingRefunded => true
  | .takerPaymentRefunded => true
  | .aborted => true
  | .completed => true
  | _ => false

namespace TakerSwapEvent

def kind : TakerSwapEvent → TakerStateKind
  | .initialized .. => .initialized
  | .negotiated .. => .negotiated
  | .takerFundingSent .. => .takerFundingSent
  | .takerFundingRefundRequired .. => .takerFundingRefundRequired
  | .makerPaymentAndFundingSpendPreimgReceived .. => .makerPaymentAndFundingSpendPreimgReceived
  | .takerPaymentSent .. => .takerPaymentSent
  | .takerPaymentSentAndPreimageSendingSkipped .. => .takerPaymentSentAndPreimageSendingSkipped
  | .takerPaymentRefundRequired .. => .takerPaymentRefundRequired
  | .makerPaymentConfirmed .. => .makerPaymentConfirmed
  | .takerPaymentSpent .. => .takerPaymentSpent
  | .makerPaymentSpent .. => .makerPaymentSpent
  | .takerFundingRefunded .. => .takerFundingRefunded
  | .takerPaymentRefunded .. => .takerPaymentRefunded
  | .aborted _ => .aborted
  | .completed => .completed

/-- The negotiation data that an event carries. -/
def negotiationData : TakerSwapEvent → Option StoredNegotiationData
  | .negotiated _ _ d _ _ => some d
  | .takerFundingSent _ _ d _ => some d
  | .takerFundingRefundRequired _ _ d _ _ => some d
  | .makerPaymentAndFundingSpendPreimgReceived _ _ d _ _ _ => some d
  | .takerPaymentSent _ _ _ _ d => some d
  | .takerPaymentSentAndPreimageSendingSkipped _ _ _ _ d => some d
  | .takerPaymentRefundRequired _ d _ => some d
  | .makerPaymentConfirmed _ _ _ _ _ d => some d
  | .takerPaymentSpent _ _ _ _ _ d => some d
  | .makerPaymentSpent _ _ _ _ _ _ d => some d
  | _ => none

/-- The maker payment's locktime that was negotiated, as far as the event knows it. -/
def makerPaymentLocktime (event : TakerSwapEvent) : Option ℕ :=
  event.negotiationData.map (·.makerPaymentLocktime)

/-- The maker payment that an event carries, as raw bytes. -/
def makerPayment : TakerSwapEvent → Option Bytes
  | .makerPaymentAndFundingSpendPreimgReceived _ _ _ _ _ p => some p.txHex
  | .takerPaymentSent _ _ _ p _ => some p.txHex
  | .takerPaymentSentAndPreimageSendingSkipped _ _ _ p _ => some p.txHex
  | .makerPaymentConfirmed _ _ p _ _ _ => some p.txHex
  | .takerPaymentSpent _ _ p _ _ _ => some p.txHex
  | .makerPaymentSpent _ _ p _ _ _ _ => some p.txHex
  | _ => none

/-- The taker funding that an event carries, as raw bytes. -/
def takerFunding : TakerSwapEvent → Option Bytes
  | .takerFundingSent _ _ _ p => some p.txHex
  | .takerFundingRefundRequired _ _ _ p _ => some p.txHex
  | .makerPaymentAndFundingSpendPreimgReceived _ _ _ p _ _ => some p.txHex
  | .makerPaymentConfirmed _ _ _ p _ _ => some p.txHex
  | .takerFundingRefunded p _ _ => some p.txHex
  | _ => none

/-- The taker payment that an event carries, as raw bytes. -/
def takerPayment : TakerSwapEvent → Option Bytes
  | .takerPaymentSent _ _ p _ _ => some p.txHex
  | .takerPaymentSentAndPreimageSendingSkipped _ _ p _ _ => some p.txHex
  | .takerPaymentRefundRequired p _ _ => some p.txHex
  | .takerPaymentSpent _ _ _ p _ _ => some p.txHex
  | .makerPaymentSpent _ _ _ p _ _ _ => some p.txHex
  | .takerPaymentRefunded p _ _ => some p.txHex
  | _ => none

end TakerSwapEvent

structure TakerSwapDbRepr where
  makerCoin : String
  makerVolume : MmNumber
  takerSecret : Bytes
  takerSecretHash : Bytes
  secretHashAlgo : SecretHashAlgo
  startedAt : ℕ
  lockDuration : ℕ
  takerCoin : String
  takerVolume : MmNumber
  takerPremium : MmNumber
  dexFeeAmount : MmNumber
  dexFeeBurn : MmNumber
  confSettings : SwapConfirmationsSettings
  uuid : Uuid
  p2pKeypair : Option KeyPair
  makerP2pPub : Bytes
  swapVersion : ℕ

def TakerSwapStateMachine.toDbRepr (X : External) (m : TakerSwapStateMachine) :
    TakerSwapDbRepr where
  makerCoin := X.makerCoin.ticker
  makerVolume := m.makerVolume
  takerSecret := m.takerSecret
  takerSecretHash := m.takerSecretHash X
  secretHashAlgo := m.secretHashAlgo
  startedAt := m.startedAt
  lockDuration := m.lockDuration
  takerCoin := X.takerCoin.ticker
  takerVolume := m.takerVolume
  takerPremium := m.takerPremium
  dexFeeAmount := (m.dexFee X).feeAmount
  dexFeeBurn := (m.dexFee X).burnAmount.getD 0
  confSettings := m.confSettings
  uuid := m.uuid
  p2pKeypair := m.p2pKeypair
  makerP2pPub := m.makerP2pPubkey
  swapVersion := m.swapVersion

/-! ## States -/

structure Initialized where
  makerCoinStartBlock : ℕ
  takerCoinStartBlock : ℕ
  takerPaymentFee : TradeFee
  makerPaymentSpendFee : TradeFee

structure Negotiated (X : External) where
  makerCoinStartBlock : ℕ
  takerCoinStartBlock : ℕ
  negotiationData : NegotiationData X
  takerPaymentFee : TradeFee
  makerPaymentSpendFee : TradeFee

structure TakerFundingSent (X : External) where
  makerCoinStartBlock : ℕ
  takerCoinStartBlock : ℕ
  takerFunding : X.takerCoin.Tx
  negotiationData : NegotiationData X

structure MakerPaymentAndFundingSpendPreimgReceived (X : External) where
  makerCoinStartBlock : ℕ
  takerCoinStartBlock : ℕ
  negotiationData : NegotiationData X
  takerFunding : X.takerCoin.Tx
  fundingSpendPreimage : TxPreimageWithSig X.takerCoin
  makerPayment : X.makerCoin.Tx

structure TakerPaymentSent (X : External) where
  makerCoinStartBlock : ℕ
  takerCoinStartBlock : ℕ
  takerPayment : X.takerCoin.Tx
  makerPayment : X.makerCoin.Tx
  negotiationData : NegotiationData X

structure TakerPaymentSentAndPreimageSendingSkipped (X : External) where
  makerCoinStartBlock : ℕ
  takerCoinStartBlock : ℕ
  takerPayment : X.takerCoin.Tx
  makerPayment : X.makerCoin.Tx
  negotiationData : NegotiationData X

structure TakerFundingRefundRequired (X : External) where
  makerCoinStartBlock : ℕ
  takerCoinStartBlock : ℕ
  takerFunding : X.takerCoin.Tx
  negotiationData : NegotiationData X
  reason : TakerFundingRefundReason

structure TakerPaymentRefundRequired (X : External) where
  takerPayment : X.takerCoin.Tx
  negotiationData : NegotiationData X
  reason : TakerPaymentRefundReason

structure MakerPaymentConfirmed (X : External) where
  makerCoinStartBlock : ℕ
  takerCoinStartBlock : ℕ
  makerPayment : X.makerCoin.Tx
  takerFunding : X.takerCoin.Tx
  fundingSpendPreimage : TxPreimageWithSig X.takerCoin
  negotiationData : NegotiationData X

structure TakerPaymentSpent (X : External) where
  makerCoinStartBlock : ℕ
  takerCoinStartBlock : ℕ
  makerPayment : X.makerCoin.Tx
  takerPayment : X.takerCoin.Tx
  takerPaymentSpend : X.takerCoin.Tx
  negotiationData : NegotiationData X

structure MakerPaymentSpent (X : External) where
  makerCoinStartBlock : ℕ
  takerCoinStartBlock : ℕ
  makerPayment : X.makerCoin.Tx
  takerPayment : X.takerCoin.Tx
  takerPaymentSpend : X.takerCoin.Tx
  makerPaymentSpend : X.makerCoin.Tx
  negotiationData : NegotiationData X

structure TakerFundingRefunded (X : External) where
  fundingTx : X.takerCoin.Tx
  fundingRefundTx : X.takerCoin.Tx
  reason : TakerFundingRefundReason

structure TakerPaymentRefunded (X : External) where
  takerPayment : X.takerCoin.Tx
  takerPaymentRefund : TransactionIdentifier
  reason : TakerPaymentRefundReason

inductive TakerState (X : External) where
  | initialized (s : Initialized)
  | negotiated (s : Negotiated X)
  | takerFundingSent (s : TakerFundingSent X)
  | makerPaymentAndFundingSpendPreimgReceived (s : MakerPaymentAndFundingSpendPreimgReceived X)
  | takerPaymentSent (s : TakerPaymentSent X)
  | takerPaymentSentAndPreimageSendingSkipped (s : TakerPaymentSentAndPreimageSendingSkipped X)
  | takerFundingRefundRequired (s : TakerFundingRefundRequired X)
  | takerPaymentRefundRequired (s : TakerPaymentRefundRequired X)
  | makerPaymentConfirmed (s : MakerPaymentConfirmed X)
  | takerPaymentSpent (s : TakerPaymentSpent X)
  | makerPaymentSpent (s : MakerPaymentSpent X)
  | aborted (reason : AbortReason)
  | completed
  | takerFundingRefunded (s : TakerFundingRefunded X)
  | takerPaymentRefunded (s : TakerPaymentRefunded X)

def TakerState.getEvent : TakerState X → TakerSwapEvent
  | .initialized s => .initialized s.makerCoinStartBlock s.takerCoinStartBlock
      s.takerPaymentFee s.makerPaymentSpendFee
  | .negotiated s => .negotiated s.makerCoinStartBlock s.takerCoinStartBlock
      s.negotiationData.toStoredData s.takerPaymentFee s.makerPaymentSpendFee
  | .takerFundingSent s => .takerFundingSent s.makerCoinStartBlock s.takerCoinStartBlock
      s.negotiationData.toStoredData (X.takerCoin.identifier s.takerFunding)
  | .makerPaymentAndFundingSpendPreimgReceived s => .makerPaymentAndFundingSpendPreimgReceived
      s.makerCoinStartBlock s.takerCoinStartBlock s.negotiationData.toStoredData
      (X.takerCoin.identifier s.takerFunding) s.fundingSpendPreimage.toStored
      (X.makerCoin.identifier s.makerPayment)
  | .takerPaymentSent s => .takerPaymentSent s.makerCoinStartBlock s.takerCoinStartBlock
      (X.takerCoin.identifier s.takerPayment) (X.makerCoin.identifier s.makerPayment)
      s.negotiationData.toStoredData
  | .takerPaymentSentAndPreimageSendingSkipped s => .takerPaymentSentAndPreimageSendingSkipped
      s.makerCoinStartBlock s.takerCoinStartBlock (X.takerCoin.identifier s.takerPayment)
      (X.makerCoin.identifier s.makerPayment) s.negotiationData.toStoredData
  | .takerFundingRefundRequired s => .takerFundingRefundRequired s.makerCoinStartBlock
      s.takerCoinStartBlock s.negotiationData.toStoredData
      (X.takerCoin.identifier s.takerFunding) s.reason
  | .takerPaymentRefundRequired s => .takerPaymentRefundRequired
      (X.takerCoin.identifier s.takerPayment) s.negotiationData.toStoredData s.reason
  | .makerPaymentConfirmed s => .makerPaymentConfirmed s.makerCoinStartBlock
      s.takerCoinStartBlock (X.makerCoin.identifier s.makerPayment)
      (X.takerCoin.identifier s.takerFunding) s.fundingSpendPreimage.toStored
      s.negotiationData.toStoredData
  | .takerPaymentSpent s => .takerPaymentSpent s.makerCoinStartBlock s.takerCoinStartBlock
      (X.makerCoin.identifier s.makerPayment) (X.takerCoin.identifier s.takerPayment)
      (X.takerCoin.identifier s.takerPaymentSpend) s.negotiationData.toStoredData
  | .makerPaymentSpent s => .makerPaymentSpent s.makerCoinStartBlock s.takerCoinStartBlock
      (X.makerCoin.identifier s.makerPayment) (X.takerCoin.identifier s.takerPayment)
      (X.takerCoin.identifier s.takerPaymentSpend) (X.makerCoin.identifier s.makerPaymentSpend)
      s.negotiationData.toStoredData
  | .aborted reason => .aborted reason
  | .completed => .completed
  | .takerFundingRefunded s => .takerFundingRefunded (X.takerCoin.identifier s.fundingTx)
      (X.takerCoin.identifier s.fundingRefundTx) s.reason
  | .takerPaymentRefunded s => .takerPaymentRefunded (X.takerCoin.identifier s.takerPayment)
      s.takerPaymentRefund s.reason

/-! ## Restart -/

/-- The state of a stored event, or the reason why there is none. -/
def recreateState (X : External) : TakerSwapEvent → Except SwapRecreateError (TakerState X)
  | .initialized makerCoinStartBlock takerCoinStartBlock takerPaymentFee makerPaymentSpendFee =>
    return .initialized
      { makerCoinStartBlock, takerCoinStartBlock, takerPaymentFee, makerPaymentSpendFee }
  | .negotiated makerCoinStartBlock takerCoinStartBlock stored takerPaymentFee
      makerPaymentSpendFee => do
    let negotiationData ← (NegotiationData.fromStoredData X stored).mapError .failedToParseData
    return .negotiated
      { makerCoinStartBlock, takerCoinStartBlock, negotiationData, takerPaymentFee,
        makerPaymentSpendFee }
  | .takerFundingSent makerCoinStartBlock takerCoinStartBlock stored takerFunding => do
    let takerFunding ← (X.takerCoin.parseTx takerFunding.txHex).mapError .failedToParseData
    let negotiationData ← (NegotiationData.fromStoredData X stored).mapError .failedToParseData
    return .takerFundingSent
      { makerCoinStartBlock, takerCoinStartBlock, takerFunding, negotiationData }
  | .takerFundingRefundRequired makerCoinStartBlock takerCoinStartBlock stored takerFunding
      reason => do
    let takerFunding ← (X.takerCoin.parseTx takerFunding.txHex).mapError .failedToParseData
    let negotiationData ← (NegotiationData.fromStoredData X stored).mapError .failedToParseData
    return .takerFundingRefundRequired
      { makerCoinStartBlock, takerCoinStartBlock, takerFunding, negotiationData, reason }
  | .makerPaymentAndFundingSpendPreimgReceived makerCoinStartBlock takerCoinStartBlock stored
      takerFunding preimage makerPayment => do
    let negotiationData ← (NegotiationData.fromStoredData X stored).mapError .failedToParseData
    let takerFunding ← (X.takerCoin.parseTx takerFunding.txHex).mapError .failedToParseData
    let fundingSpendPreimage ←
      (TxPreimageWithSig.fromStored X.takerCoin preimage).mapError .failedToParseData
    let makerPayment ← (X.makerCoin.parseTx makerPayment.txHex).mapError .failedToParseData
    return .makerPaymentAndFundingSpendPreimgReceived
      { makerCoinStartBlock, takerCoinStartBlock, negotiationData, takerFunding,
        fundingSpendPreimage, makerPayment }
  | .takerPaymentSent makerCoinStartBlock takerCoinStartBlock takerPayment makerPayment stored =>
    do
      let takerPayment ← (X.takerCoin.parseTx takerPayment.txHex).mapError .failedToParseData
      let makerPayment ← (X.makerCoin.parseTx makerPayment.txHex).mapError .failedToParseData
      let negotiationData ← (NegotiationData.fromStoredData X stored).mapError .failedToParseData
      return .takerPaymentSent
        { makerCoinStartBlock, takerCoinStartBlock, takerPayment, makerPayment, negotiationData }
  | .takerPaymentSentAndPreimageSendingSkipped makerCoinStartBlock takerCoinStartBlock
      takerPayment makerPayment stored => do
    let takerPayment ← (X.takerCoin.parseTx takerPayment.txHex).mapError .failedToParseData
    let makerPayment ← (X.makerCoin.parseTx makerPayment.txHex).mapError .failedToParseData
    let negotiationData ← (NegotiationData.fromStoredData X stored).mapError .failedToParseData
    return .takerPaymentSentAndPreimageSendingSkipped
      { makerCoinStartBlock, takerCoinStartBlock, takerPayment, makerPayment, negotiationData }
  | .takerPaymentRefundRequired takerPayment stored reason => do
    let takerPayment ← (X.takerCoin.parseTx takerPayment.txHex).mapError .failedToParseData
    let negotiationData ← (NegotiationData.fromStoredData X stored).mapError .failedToParseData
    return .takerPaymentRefundRequired { takerPayment, negotiationData, reason }
  | .makerPaymentConfirmed makerCoinStartBlock takerCoinStartBlock makerPayment takerFunding
      preimage stored => do
    let makerPayment ← (X.makerCoin.parseTx makerPayment.txHex).mapError .failedToParseData
    let takerFunding ← (X.takerCoin.parseTx takerFunding.txHex).mapError .failedToParseData
    let fundingSpendPreimage ←
      (TxPreimageWithSig.fromStored X.takerCoin preimage).mapError .failedToParseData
    let negotiationData ← (NegotiationData.fromStoredData X stored).mapError .failedToParseData
    return .makerPaymentConfirmed
      { makerCoinStartBlock, takerCoinStartBlock, makerPayment, takerFunding,
        fundingSpendPreimage, negotiationData }
  | .takerPaymentSpent makerCoinStartBlock takerCoinStartBlock makerPayment takerPayment
      takerPaymentSpend stored => do
    let makerPayment ← (X.makerCoin.parseTx makerPayment.txHex).mapError .failedToParseData
    let takerPayment ← (X.takerCoin.parseTx takerPayment.txHex).mapError .failedToParseData
    let takerPaymentSpend ←
      (X.takerCoin.parseTx takerPaymentSpend.txHex).mapError .failedToParseData
    let negotiationData ← (NegotiationData.fromStoredData X stored).mapError .failedToParseData
    return .takerPaymentSpent
      { makerCoinStartBlock, takerCoinStartBlock, makerPayment, takerPayment, takerPaymentSpend,
        negotiationData }
  | .makerPaymentSpent makerCoinStartBlock takerCoinStartBlock makerPayment takerPayment
      takerPaymentSpend makerPaymentSpend stored => do
    let makerPayment ← (X.makerCoin.parseTx makerPayment.txHex).mapError .failedToParseData
    let takerPayment ← (X.takerCoin.parseTx takerPayment.txHex).mapError .failedToParseData
    let takerPaymentSpend ←
      (X.takerCoin.parseTx takerPaymentSpend.txHex).mapError .failedToParseData
    let makerPaymentSpend ←
      (X.makerCoin.parseTx makerPaymentSpend.txHex).mapError .failedToParseData
    let negotiationData ← (NegotiationData.fromStoredData X stored).mapError .failedToParseData
    return .makerPaymentSpent
      { makerCoinStartBlock, takerCoinStartBlock, makerPayment, takerPayment, takerPaymentSpend,
        makerPaymentSpend, negotiationData }
  | .aborted _ => throw .swapAborted
  | .completed => throw .swapCompleted
  | .takerFundingRefunded .. => throw .swapFinishedWithRefund
  | .takerPaymentRefunded .. => throw .swapFinishedWithRefund

/-- The machine of a stored swap. -/
def TakerSwapDbRepr.machine (repr : TakerSwapDbRepr) : TakerSwapStateMachine where
  startedAt := repr.startedAt
  lockDuration := repr.lockDuration
  makerVolume := repr.makerVolume
  takerVolume := repr.takerVolume
  takerPremium := repr.takerPremium
  secretHashAlgo := repr.secretHashAlgo
  confSettings := repr.confSettings
  uuid := repr.uuid
  p2pKeypair := repr.p2pKeypair
  takerSecret := repr.takerSecret
  makerP2pPubkey := repr.makerP2pPub
  requireMakerPaymentConfirmBeforeFundingSpend := true
  requireMakerPaymentSpendConfirm := true
  swapVersion := repr.swapVersion

/-- The stored swap, in the state of its last event. -/
def recreateMachine (X : External) (repr : TakerSwapDbRepr) (events : List TakerSwapEvent) :
    Except SwapRecreateError (TakerSwapStateMachine × TakerState X) :=
  match events.getLast? with
  | none => throw .reprEventsEmpty
  | some event => do
    let currentState ← recreateState X event
    return (repr.machine, currentState)

/-! ### What a restart keeps -/

theorem exists_of_recreateMachine {repr : TakerSwapDbRepr} {events : List TakerSwapEvent}
    {m : TakerSwapStateMachine} {state : TakerState X}
    (h : recreateMachine X repr events = .ok (m, state)) :
    m = repr.machine ∧ ∃ event ∈ events.getLast?, recreateState X event = .ok state := by
  unfold recreateMachine at h
  split at h
  · cases h
  rename_i event hevent
  obtain ⟨state', hstate, h⟩ := except_bind_eq_ok.mp h
  cases h
  exact ⟨rfl, event, hevent, hstate⟩

namespace TakerState

def kind (s : TakerState X) : TakerStateKind := s.getEvent.kind

def makerPaymentLocktime (s : TakerState X) : Option ℕ := s.getEvent.makerPaymentLocktime

end TakerState

theorem NegotiationData.locktime_of_stored {stored : StoredNegotiationData}
    {d : NegotiationData X} (h : fromStoredData X stored = .ok d) :
    d.makerPaymentLocktime = stored.makerPaymentLocktime := by
  simp only [fromStoredData, except_bind_eq_ok] at h
  obtain ⟨_, _, _, _, _, _, h⟩ := h
  obtain rfl := Except.ok.inj h
  rfl

/-- The recreated state is the one that was stored; its negotiation data are read from the record. -/
theorem recreateState_spec {event : TakerSwapEvent} {s : TakerState X}
    (h : recreateState X event = .ok s) :
    s.kind = event.kind ∧ Option.Rel (fun stored stored' => ∃ d,
      NegotiationData.fromStoredData X stored = .ok d ∧ stored' = d.toStoredData)
      event.negotiationData s.getEvent.negotiationData := by
  cases event with
  | initialized =>
    cases h
    exact ⟨rfl, .none⟩
  | aborted => cases h
  | completed => cases h
  | takerFundingRefunded => cases h
  | takerPaymentRefunded => cases h
  | negotiated =>
    simp only [recreateState, except_bind_eq_ok, except_mapError_eq_ok] at h
    obtain ⟨d, hd, h⟩ := h
    cases h
    exact ⟨rfl, .some ⟨d, hd, rfl⟩⟩
  | takerFundingSent =>
    simp only [recreateState, except_bind_eq_ok, except_mapError_eq_ok] at h
    obtain ⟨_, _, d, hd, h⟩ := h
    cases h
    exact ⟨rfl, .some ⟨d, hd, rfl⟩⟩
  | takerFundingRefundRequired =>
    simp only [recreateState, except_bind_eq_ok, except_mapError_eq_ok] at h
    obtain ⟨_, _, d, hd, h⟩ := h
    cases h
    exact ⟨rfl, .some ⟨d, hd, rfl⟩⟩
  | makerPaymentAndFundingSpendPreimgReceived =>
    simp only [recreateState, except_bind_eq_ok, except_mapError_eq_ok] at h
    obtain ⟨d, hd, _, _, _, _, _, _, h⟩ := h
    cases h
    exact ⟨rfl, .some ⟨d, hd, rfl⟩⟩
  | takerPaymentSent =>
    simp only [recreateState, except_bind_eq_ok, except_mapError_eq_ok] at h
    obtain ⟨_, _, _, _, d, hd, h⟩ := h
    cases h
    exact ⟨rfl, .some ⟨d, hd, rfl⟩⟩
  | takerPaymentSentAndPreimageSendingSkipped =>
    simp only [recreateState, except_bind_eq_ok, except_mapError_eq_ok] at h
    obtain ⟨_, _, _, _, d, hd, h⟩ := h
    cases h
    exact ⟨rfl, .some ⟨d, hd, rfl⟩⟩
  | takerPaymentRefundRequired =>
    simp only [recreateState, except_bind_eq_ok, except_mapError_eq_ok] at h
    obtain ⟨_, _, d, hd, h⟩ := h
    cases h
    exact ⟨rfl, .some ⟨d, hd, rfl⟩⟩
  | makerPaymentConfirmed =>
    simp only [recreateState, except_bind_eq_ok, except_mapError_eq_ok] at h
    obtain ⟨_, _, _, _, _, _, d, hd, h⟩ := h
    cases h
    exact ⟨rfl, .some ⟨d, hd, rfl⟩⟩
  | takerPaymentSpent =>
    simp only [recreateState, except_bind_eq_ok, except_mapError_eq_ok] at h
    obtain ⟨_, _, _, _, _, _, d, hd, h⟩ := h
    cases h
    exact ⟨rfl, .some ⟨d, hd, rfl⟩⟩
  | makerPaymentSpent =>
    simp only [recreateState, except_bind_eq_ok, except_mapError_eq_ok] at h
    obtain ⟨_, _, _, _, _, _, _, _, d, hd, h⟩ := h
    cases h
    exact ⟨rfl, .some ⟨d, hd, rfl⟩⟩

/-- The recreated state is the one that was stored, with the negotiated locktime. -/
theorem kind_of_recreateState {event : TakerSwapEvent} {s : TakerState X}
    (h : recreateState X event = .ok s) :
    s.kind = event.kind ∧ s.makerPaymentLocktime = event.makerPaymentLocktime := by
  obtain ⟨hkind, hdata⟩ := recreateState_spec h
  refine ⟨hkind, ?_⟩
  change s.getEvent.negotiationData.map (·.makerPaymentLocktime) =
    event.negotiationData.map (·.makerPaymentLocktime)
  revert hdata
  generalize s.getEvent.negotiationData = recreated
  generalize event.negotiationData = stored
  rintro (⟨d, hd, rfl⟩ | _)
  · exact congrArg some (NegotiationData.locktime_of_stored hd)
  · rfl

/-- The received maker payment is parsed from the record. -/
theorem makerPayment_of_recreateState {event : TakerSwapEvent}
    {s : MakerPaymentAndFundingSpendPreimgReceived X}
    (h : recreateState X event = .ok (.makerPaymentAndFundingSpendPreimgReceived s)) :
    ∃ hex ∈ event.makerPayment, X.makerCoin.parseTx hex = .ok s.makerPayment := by
  have hkind := (kind_of_recreateState h).1
  cases event with
  | makerPaymentAndFundingSpendPreimgReceived _ _ _ _ _ makerPayment =>
    simp only [recreateState, except_bind_eq_ok, except_mapError_eq_ok] at h
    obtain ⟨d, hd, _, _, _, _, tx, htx, h⟩ := h
    cases h
    exact ⟨makerPayment.txHex, rfl, htx⟩
  | _ => cases hkind

end DeXFG.SwapV2.TakerSwap
