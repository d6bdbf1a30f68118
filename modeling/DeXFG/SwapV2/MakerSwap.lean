import DeXFG.SwapV2.StateMachine

/-!
# States, events and restart of the V2 maker swap
-/
namespace DeXFG.SwapV2.MakerSwap
open Ordermatch (MmNumber Uuid KeyPair)

variable {X : External}

structure MakerSwapStateMachine where
  makerVolume : MmNumber
  secret : Bytes
  secretHashAlgo : SecretHashAlgo
  startedAt : ℕ
  lockDuration : ℕ
  takerVolume : MmNumber
  takerPremium : MmNumber
  confSettings : SwapConfirmationsSettings
  uuid : Uuid
  p2pKeypair : Option KeyPair
  takerP2pPubkey : Bytes
  requireTakerFundingConfirmBeforeMakerPayment : Bool
  requireTakerPaymentSpendConfirm : Bool
  swapVersion : ℕ

namespace MakerSwapStateMachine

def takerFundingRequiredConfirmations (m : MakerSwapStateMachine) : ℕ :=
  if m.requireTakerFundingConfirmBeforeMakerPayment then min m.confSettings.takerCoinConfs 1 else 0

/-- Timeout for taker payment's on-chain confirmation. -/
def takerPaymentConfTimeout (m : MakerSwapStateMachine) : ℕ :=
  m.startedAt + m.lockDuration * 2 / 3

/-- Timestamp of maker payment's locktime. -/
def makerPaymentLocktime (m : MakerSwapStateMachine) : ℕ :=
  m.startedAt + 2 * m.lockDuration

def secretHash (X : External) (m : MakerSwapStateMachine) : Bytes :=
  X.hashSecret m.secretHashAlgo m.secret

def uniqueData (X : External) (m : MakerSwapStateMachine) : Bytes := m.secretHash X

def dexFee (X : External) (m : MakerSwapStateMachine) : DexFee :=
  X.takerCoin.newFromTakerCoin X.makerCoin.ticker m.takerVolume

/-- The fee when the taker's key is known. -/
def dexFeeUpdated (X : External) (m : MakerSwapStateMachine) (takerPub : Bytes) : DexFee :=
  X.takerCoin.newWithTakerPubkey X.makerCoin.ticker m.takerVolume takerPub

end MakerSwapStateMachine

/-! ## Reasons -/

inductive MakerPaymentRefundReason where
  | didNotGetTakerPayment (e : String)
  | failedToParseTakerPayment (e : String)
  | takerPaymentNotConfirmedInTime (e : String)
  | didNotGetTakerPaymentSpendPreimage (e : String)
  | takerPaymentSpendPreimageIsNotValid (e : String)
  | takerPaymentSpendNotConfirmedInTime (e : String)
  | failedToParseTakerPreimage (e : String)
  | failedToParseTakerSignature (e : String)
  | takerPaymentSpendBroadcastFailed (e : String)
  | takerFundingNotSpentInTime
  | takerFundingReclaimedTimelock
  | takerFundingReclaimedSecret (secret : Bytes)
  | errorOnTakerFundingSpendSearch (e : String)
  deriving DecidableEq, Repr

inductive AbortReason where
  | failedToGetMakerCoinBlock (e : String)
  | failedToGetTakerCoinBlock (e : String)
  | balanceCheckFailure (e : String)
  | didNotReceiveTakerNegotiation (e : String)
  | takerAbortedNegotiation (reason : String)
  | receivedInvalidTakerNegotiation
  | didNotReceiveTakerFundingInfo (e : String)
  | failedToParseTakerFunding (e : String)
  | takerFundingValidationFailed (e : String)
  | failedToGenerateFundingSpend (e : String)
  | failedToSendMakerPayment (e : String)
  | tooLargeStartedAtDiff (diff : ℕ)
  | takerProvidedInvalidFundingLocktime (locktime : ℕ)
  | takerProvidedInvalidPaymentLocktime (locktime : ℕ)
  | failedToParsePubkey (e : String)
  | makerPaymentRefundFailed (e : String)
  | failedToGetMakerPaymentFee (e : String)
  | failedToGetTakerPaymentSpendFee (e : String)
  deriving DecidableEq, Repr

/-! ## Negotiation data -/

structure StoredNegotiationData where
  takerPaymentLocktime : ℕ
  takerFundingLocktime : ℕ
  makerCoinHtlcPubFromTaker : Bytes
  takerCoinHtlcPubFromTaker : Bytes
  makerCoinSwapContract : Option Bytes
  takerCoinSwapContract : Option Bytes
  takerSecretHash : Bytes
  deriving DecidableEq, Repr

structure NegotiationData (X : External) where
  takerPaymentLocktime : ℕ
  takerFundingLocktime : ℕ
  makerCoinHtlcPubFromTaker : X.makerCoin.Pubkey
  takerCoinHtlcPubFromTaker : X.takerCoin.Pubkey
  makerCoinSwapContract : Option Bytes
  takerCoinSwapContract : Option Bytes
  takerSecretHash : Bytes

namespace NegotiationData

def toStoredData (d : NegotiationData X) : StoredNegotiationData where
  takerPaymentLocktime := d.takerPaymentLocktime
  takerFundingLocktime := d.takerFundingLocktime
  makerCoinHtlcPubFromTaker := X.makerCoin.pubkeyToBytes d.makerCoinHtlcPubFromTaker
  takerCoinHtlcPubFromTaker := X.takerCoin.pubkeyToBytes d.takerCoinHtlcPubFromTaker
  makerCoinSwapContract := d.makerCoinSwapContract
  takerCoinSwapContract := d.takerCoinSwapContract
  takerSecretHash := d.takerSecretHash

def fromStoredData (X : External) (stored : StoredNegotiationData) :
    Except String (NegotiationData X) := do
  let makerCoinHtlcPubFromTaker ← X.makerCoin.parsePubkey stored.makerCoinHtlcPubFromTaker
  let takerCoinHtlcPubFromTaker ← X.takerCoin.parsePubkey stored.takerCoinHtlcPubFromTaker
  return {
    takerPaymentLocktime := stored.takerPaymentLocktime
    takerFundingLocktime := stored.takerFundingLocktime
    makerCoinHtlcPubFromTaker
    takerCoinHtlcPubFromTaker
    makerCoinSwapContract := none
    takerCoinSwapContract := none
    takerSecretHash := stored.takerSecretHash }

end NegotiationData

/-! ## Events -/

inductive MakerSwapEvent where
  | initialized (makerCoinStartBlock takerCoinStartBlock : ℕ)
      (makerPaymentTradeFee takerPaymentSpendTradeFee : TradeFee)
  | waitingForTakerFunding (makerCoinStartBlock takerCoinStartBlock : ℕ)
      (negotiationData : StoredNegotiationData) (makerPaymentTradeFee : TradeFee)
  | takerFundingReceived (makerCoinStartBlock takerCoinStartBlock : ℕ)
      (negotiationData : StoredNegotiationData) (takerFunding : TransactionIdentifier)
      (makerPaymentTradeFee : TradeFee)
  | makerPaymentSentFundingSpendGenerated (makerCoinStartBlock takerCoinStartBlock : ℕ)
      (negotiationData : StoredNegotiationData)
      (makerPayment takerFunding : TransactionIdentifier) (fundingSpendPreimage : StoredTxPreimage)
  | makerPaymentRefundRequired (makerCoinStartBlock takerCoinStartBlock : ℕ)
      (negotiationData : StoredNegotiationData) (makerPayment : TransactionIdentifier)
      (reason : MakerPaymentRefundReason)
  | makerPaymentRefunded (makerPayment makerPaymentRefund : TransactionIdentifier)
      (reason : MakerPaymentRefundReason)
  | takerPaymentReceived (makerCoinStartBlock takerCoinStartBlock : ℕ)
      (negotiationData : StoredNegotiationData) (makerPayment takerPayment : TransactionIdentifier)
  | takerPaymentReceivedAndPreimageValidationSkipped (makerCoinStartBlock takerCoinStartBlock : ℕ)
      (negotiationData : StoredNegotiationData) (makerPayment takerPayment : TransactionIdentifier)
  | takerPaymentSpent (makerCoinStartBlock takerCoinStartBlock : ℕ)
      (makerPayment takerPayment takerPaymentSpend : TransactionIdentifier)
      (negotiationData : StoredNegotiationData)
  | aborted (reason : AbortReason)
  | completed
  deriving DecidableEq

/-- The states of the maker without their data. -/
inductive MakerStateKind where
  | initialized
  | waitingForTakerFunding
  | takerFundingReceived
  | makerPaymentSentFundingSpendGenerated
  | makerPaymentRefundRequired
  | makerPaymentRefunded
  | takerPaymentReceived
  | takerPaymentReceivedAndPreimageValidationSkipped
  | takerPaymentSpent
  | aborted
  | completed
  deriving DecidableEq, Repr

namespace MakerSwapEvent

def kind : MakerSwapEvent → MakerStateKind
  | .initialized .. => .initialized
  | .waitingForTakerFunding .. => .waitingForTakerFunding
  | .takerFundingReceived .. => .takerFundingReceived
  | .makerPaymentSentFundingSpendGenerated .. => .makerPaymentSentFundingSpendGenerated
  | .makerPaymentRefundRequired .. => .makerPaymentRefundRequired
  | .makerPaymentRefunded .. => .makerPaymentRefunded
  | .takerPaymentReceived .. => .takerPaymentReceived
  | .takerPaymentReceivedAndPreimageValidationSkipped .. =>
    .takerPaymentReceivedAndPreimageValidationSkipped
  | .takerPaymentSpent .. => .takerPaymentSpent
  | .aborted _ => .aborted
  | .completed => .completed

/-- The negotiation data that an event carries. -/
def negotiationData : MakerSwapEvent → Option StoredNegotiationData
  | .waitingForTakerFunding _ _ d _ => some d
  | .takerFundingReceived _ _ d _ _ => some d
  | .makerPaymentSentFundingSpendGenerated _ _ d _ _ _ => some d
  | .makerPaymentRefundRequired _ _ d _ _ => some d
  | .takerPaymentReceived _ _ d _ _ => some d
  | .takerPaymentReceivedAndPreimageValidationSkipped _ _ d _ _ => some d
  | .takerPaymentSpent _ _ _ _ _ d => some d
  | _ => none

/-- The taker payment's locktime that was negotiated, as far as the event knows it. -/
def takerPaymentLocktime (event : MakerSwapEvent) : Option ℕ :=
  event.negotiationData.map (·.takerPaymentLocktime)

/-- The maker payment that an event carries, as raw bytes. -/
def makerPayment : MakerSwapEvent → Option Bytes
  | .makerPaymentSentFundingSpendGenerated _ _ _ p _ _ => some p.txHex
  | .makerPaymentRefundRequired _ _ _ p _ => some p.txHex
  | .makerPaymentRefunded p _ _ => some p.txHex
  | .takerPaymentReceived _ _ _ p _ => some p.txHex
  | .takerPaymentReceivedAndPreimageValidationSkipped _ _ _ p _ => some p.txHex
  | .takerPaymentSpent _ _ p _ _ _ => some p.txHex
  | _ => none

end MakerSwapEvent

/-- The states after which a swap is not recreated. -/
def MakerStateKind.isTerminal : MakerStateKind → Bool
  | .makerPaymentRefunded => true
  | .aborted => true
  | .completed => true
  | _ => false

structure MakerSwapDbRepr where
  makerCoin : String
  makerVolume : MmNumber
  makerSecret : Bytes
  makerSecretHash : Bytes
  secretHashAlgo : SecretHashAlgo
  startedAt : ℕ
  lockDuration : ℕ
  takerCoin : String
  takerVolume : MmNumber
  takerPremium : MmNumber
  dexFeeAmount : MmNumber
  dexFeeBurn : MmNumber
  confSettings : SwapConfirmationsSettings
  uuid : Uuid
  p2pKeypair : Option KeyPair
  takerP2pPub : Bytes
  swapVersion : ℕ

def MakerSwapStateMachine.toDbRepr (X : External) (m : MakerSwapStateMachine) :
    MakerSwapDbRepr where
  makerCoin := X.makerCoin.ticker
  makerVolume := m.makerVolume
  makerSecret := m.secret
  makerSecretHash := m.secretHash X
  secretHashAlgo := m.secretHashAlgo
  startedAt := m.startedAt
  lockDuration := m.lockDuration
  takerCoin := X.takerCoin.ticker
  takerVolume := m.takerVolume
  takerPremium := m.takerPremium
  dexFeeAmount := (m.dexFee X).feeAmount
  dexFeeBurn := (m.dexFee X).burnAmount.getD 0
  confSettings := m.confSettings
  uuid := m.uuid
  p2pKeypair := m.p2pKeypair
  takerP2pPub := m.takerP2pPubkey
  swapVersion := m.swapVersion

/-! ## States -/

structure Initialized where
  makerCoinStartBlock : ℕ
  takerCoinStartBlock : ℕ
  makerPaymentTradeFee : TradeFee
  takerPaymentSpendTradeFee : TradeFee

structure WaitingForTakerFunding (X : External) where
  makerCoinStartBlock : ℕ
  takerCoinStartBlock : ℕ
  negotiationData : NegotiationData X
  makerPaymentTradeFee : TradeFee

structure TakerFundingReceived (X : External) where
  makerCoinStartBlock : ℕ
  takerCoinStartBlock : ℕ
  negotiationData : NegotiationData X
  takerFunding : X.takerCoin.Tx
  makerPaymentTradeFee : TradeFee

structure MakerPaymentSentFundingSpendGenerated (X : External) where
  makerCoinStartBlock : ℕ
  takerCoinStartBlock : ℕ
  negotiationData : NegotiationData X
  takerFunding : X.takerCoin.Tx
  fundingSpendPreimage : TxPreimageWithSig X.takerCoin
  makerPayment : X.makerCoin.Tx

structure MakerPaymentRefundRequired (X : External) where
  makerCoinStartBlock : ℕ
  takerCoinStartBlock : ℕ
  negotiationData : NegotiationData X
  makerPayment : X.makerCoin.Tx
  reason : MakerPaymentRefundReason

structure TakerPaymentReceived (X : External) where
  makerCoinStartBlock : ℕ
  takerCoinStartBlock : ℕ
  makerPayment : X.makerCoin.Tx
  takerPayment : X.takerCoin.Tx
  negotiationData : NegotiationData X

structure TakerPaymentReceivedAndPreimageValidationSkipped (X : External) where
  makerCoinStartBlock : ℕ
  takerCoinStartBlock : ℕ
  makerPayment : X.makerCoin.Tx
  takerPayment : X.takerCoin.Tx
  negotiationData : NegotiationData X

structure TakerPaymentSpent (X : External) where
  makerCoinStartBlock : ℕ
  takerCoinStartBlock : ℕ
  makerPayment : X.makerCoin.Tx
  takerPayment : X.takerCoin.Tx
  takerPaymentSpend : X.takerCoin.Tx
  negotiationData : NegotiationData X

structure MakerPaymentRefunded (X : External) where
  makerPayment : X.makerCoin.Tx
  makerPaymentRefund : X.makerCoin.Tx
  reason : MakerPaymentRefundReason

inductive MakerState (X : External) where
  | initialized (s : Initialized)
  | waitingForTakerFunding (s : WaitingForTakerFunding X)
  | takerFundingReceived (s : TakerFundingReceived X)
  | makerPaymentSentFundingSpendGenerated (s : MakerPaymentSentFundingSpendGenerated X)
  | makerPaymentRefundRequired (s : MakerPaymentRefundRequired X)
  | takerPaymentReceived (s : TakerPaymentReceived X)
  | takerPaymentReceivedAndPreimageValidationSkipped
      (s : TakerPaymentReceivedAndPreimageValidationSkipped X)
  | takerPaymentSpent (s : TakerPaymentSpent X)
  | aborted (reason : AbortReason)
  | completed
  | makerPaymentRefunded (s : MakerPaymentRefunded X)

def MakerState.getEvent : MakerState X → MakerSwapEvent
  | .initialized s => .initialized s.makerCoinStartBlock s.takerCoinStartBlock
      s.makerPaymentTradeFee s.takerPaymentSpendTradeFee
  | .waitingForTakerFunding s => .waitingForTakerFunding s.makerCoinStartBlock
      s.takerCoinStartBlock s.negotiationData.toStoredData s.makerPaymentTradeFee
  | .takerFundingReceived s => .takerFundingReceived s.makerCoinStartBlock s.takerCoinStartBlock
      s.negotiationData.toStoredData (X.takerCoin.identifier s.takerFunding)
      s.makerPaymentTradeFee
  | .makerPaymentSentFundingSpendGenerated s => .makerPaymentSentFundingSpendGenerated
      s.makerCoinStartBlock s.takerCoinStartBlock s.negotiationData.toStoredData
      (X.makerCoin.identifier s.makerPayment) (X.takerCoin.identifier s.takerFunding)
      s.fundingSpendPreimage.toStored
  | .makerPaymentRefundRequired s => .makerPaymentRefundRequired s.makerCoinStartBlock
      s.takerCoinStartBlock s.negotiationData.toStoredData
      (X.makerCoin.identifier s.makerPayment) s.reason
  | .takerPaymentReceived s => .takerPaymentReceived s.makerCoinStartBlock s.takerCoinStartBlock
      s.negotiationData.toStoredData (X.makerCoin.identifier s.makerPayment)
      (X.takerCoin.identifier s.takerPayment)
  | .takerPaymentReceivedAndPreimageValidationSkipped s =>
    .takerPaymentReceivedAndPreimageValidationSkipped s.makerCoinStartBlock s.takerCoinStartBlock
      s.negotiationData.toStoredData (X.makerCoin.identifier s.makerPayment)
      (X.takerCoin.identifier s.takerPayment)
  | .takerPaymentSpent s => .takerPaymentSpent s.makerCoinStartBlock s.takerCoinStartBlock
      (X.makerCoin.identifier s.makerPayment) (X.takerCoin.identifier s.takerPayment)
      (X.takerCoin.identifier s.takerPaymentSpend) s.negotiationData.toStoredData
  | .aborted reason => .aborted reason
  | .completed => .completed
  | .makerPaymentRefunded s => .makerPaymentRefunded (X.makerCoin.identifier s.makerPayment)
      (X.makerCoin.identifier s.makerPaymentRefund) s.reason

/-! ## Restart -/

/-- The state of a stored event, or the reason why there is none. -/
def recreateState (X : External) : MakerSwapEvent → Except SwapRecreateError (MakerState X)
  | .initialized makerCoinStartBlock takerCoinStartBlock makerPaymentTradeFee
      takerPaymentSpendTradeFee =>
    return .initialized
      { makerCoinStartBlock, takerCoinStartBlock, makerPaymentTradeFee, takerPaymentSpendTradeFee }
  | .waitingForTakerFunding makerCoinStartBlock takerCoinStartBlock stored makerPaymentTradeFee =>
    do
      let negotiationData ← (NegotiationData.fromStoredData X stored).mapError .failedToParseData
      return .waitingForTakerFunding
        { makerCoinStartBlock, takerCoinStartBlock, negotiationData, makerPaymentTradeFee }
  | .takerFundingReceived makerCoinStartBlock takerCoinStartBlock stored takerFunding
      makerPaymentTradeFee => do
    let negotiationData ← (NegotiationData.fromStoredData X stored).mapError .failedToParseData
    let takerFunding ← (X.takerCoin.parseTx takerFunding.txHex).mapError .failedToParseData
    return .takerFundingReceived
      { makerCoinStartBlock, takerCoinStartBlock, negotiationData, takerFunding,
        makerPaymentTradeFee }
  | .makerPaymentSentFundingSpendGenerated makerCoinStartBlock takerCoinStartBlock stored
      makerPayment takerFunding preimage => do
    let negotiationData ← (NegotiationData.fromStoredData X stored).mapError .failedToParseData
    let takerFunding ← (X.takerCoin.parseTx takerFunding.txHex).mapError .failedToParseData
    let fundingSpendPreimage ←
      (TxPreimageWithSig.fromStored X.takerCoin preimage).mapError .failedToParseData
    let makerPayment ← (X.makerCoin.parseTx makerPayment.txHex).mapError .failedToParseData
    return .makerPaymentSentFundingSpendGenerated
      { makerCoinStartBlock, takerCoinStartBlock, negotiationData, takerFunding,
        fundingSpendPreimage, makerPayment }
  | .makerPaymentRefundRequired makerCoinStartBlock takerCoinStartBlock stored makerPayment
      reason => do
    let negotiationData ← (NegotiationData.fromStoredData X stored).mapError .failedToParseData
    let makerPayment ← (X.makerCoin.parseTx makerPayment.txHex).mapError .failedToParseData
    return .makerPaymentRefundRequired
      { makerCoinStartBlock, takerCoinStartBlock, negotiationData, makerPayment, reason }
  | .takerPaymentReceived makerCoinStartBlock takerCoinStartBlock stored makerPayment
      takerPayment => do
    let makerPayment ← (X.makerCoin.parseTx makerPayment.txHex).mapError .failedToParseData
    let takerPayment ← (X.takerCoin.parseTx takerPayment.txHex).mapError .failedToParseData
    let negotiationData ← (NegotiationData.fromStoredData X stored).mapError .failedToParseData
    return .takerPaymentReceived
      { makerCoinStartBlock, takerCoinStartBlock, makerPayment, takerPayment, negotiationData }
  | .takerPaymentReceivedAndPreimageValidationSkipped makerCoinStartBlock takerCoinStartBlock
      stored makerPayment takerPayment => do
    let makerPayment ← (X.makerCoin.parseTx makerPayment.txHex).mapError .failedToParseData
    let takerPayment ← (X.takerCoin.parseTx takerPayment.txHex).mapError .failedToParseData
    let negotiationData ← (NegotiationData.fromStoredData X stored).mapError .failedToParseData
    return .takerPaymentReceivedAndPreimageValidationSkipped
      { makerCoinStartBlock, takerCoinStartBlock, makerPayment, takerPayment, negotiationData }
  | .takerPaymentSpent makerCoinStartBlock takerCoinStartBlock makerPayment takerPayment
      takerPaymentSpend stored => do
    let makerPayment ← (X.makerCoin.parseTx makerPayment.txHex).mapError .failedToParseData
    let takerPayment ← (X.takerCoin.parseTx takerPayment.txHex).mapError .failedToParseData
    let takerPaymentSpend ←
      (X.takerCoin.parseTx takerPaymentSpend.txHex).mapError .failedToParseData
    let negotiationData ← (NegotiationData.fromStoredData X stored).mapError .failedToParseData
    return .takerPaymentSpent
      { makerCoinStartBlock, takerCoinStartBlock, makerPayment, takerPayment, takerPaymentSpend,
        negotiationData }
  | .aborted _ => throw .swapAborted
  | .completed => throw .swapCompleted
  | .makerPaymentRefunded .. => throw .swapFinishedWithRefund

/-- The machine of a stored swap. -/
def MakerSwapDbRepr.machine (repr : MakerSwapDbRepr) : MakerSwapStateMachine where
  makerVolume := repr.makerVolume
  secret := repr.makerSecret
  secretHashAlgo := repr.secretHashAlgo
  startedAt := repr.startedAt
  lockDuration := repr.lockDuration
  takerVolume := repr.takerVolume
  takerPremium := repr.takerPremium
  confSettings := repr.confSettings
  uuid := repr.uuid
  p2pKeypair := repr.p2pKeypair
  takerP2pPubkey := repr.takerP2pPub
  requireTakerFundingConfirmBeforeMakerPayment := false
  requireTakerPaymentSpendConfirm := true
  swapVersion := repr.swapVersion

/-- The stored swap, in the state of its last event. -/
def recreateMachine (X : External) (repr : MakerSwapDbRepr) (events : List MakerSwapEvent) :
    Except SwapRecreateError (MakerSwapStateMachine × MakerState X) :=
  match events.getLast? with
  | none => throw .reprEventsEmpty
  | some event => do
    let currentState ← recreateState X event
    return (repr.machine, currentState)

/-! ### What a restart keeps -/

namespace MakerState

def kind (s : MakerState X) : MakerStateKind := s.getEvent.kind

def takerPaymentLocktime (s : MakerState X) : Option ℕ := s.getEvent.takerPaymentLocktime

end MakerState

theorem exists_of_recreateMachine {repr : MakerSwapDbRepr} {events : List MakerSwapEvent}
    {m : MakerSwapStateMachine} {state : MakerState X}
    (h : recreateMachine X repr events = .ok (m, state)) :
    m = repr.machine ∧ ∃ event ∈ events.getLast?, recreateState X event = .ok state := by
  unfold recreateMachine at h
  split at h
  · cases h
  rename_i event hevent
  obtain ⟨state', hstate, h⟩ := except_bind_eq_ok.mp h
  cases h
  exact ⟨rfl, event, hevent, hstate⟩

theorem NegotiationData.locktime_of_stored {stored : StoredNegotiationData}
    {d : NegotiationData X} (h : fromStoredData X stored = .ok d) :
    d.takerPaymentLocktime = stored.takerPaymentLocktime := by
  simp only [fromStoredData, except_bind_eq_ok] at h
  obtain ⟨_, _, _, _, h⟩ := h
  obtain rfl := Except.ok.inj h
  rfl

/-- The recreated state is the one that was stored; its negotiation data are read from the record. -/
theorem recreateState_spec {event : MakerSwapEvent} {s : MakerState X}
    (h : recreateState X event = .ok s) :
    s.kind = event.kind ∧ Option.Rel (fun stored stored' => ∃ d,
      NegotiationData.fromStoredData X stored = .ok d ∧ stored' = d.toStoredData)
      event.negotiationData s.getEvent.negotiationData := by
  cases event with
  | initialized =>
    cases h
    exact ⟨rfl, .none⟩
  | aborted => cases h
  | completed => cases h
  | makerPaymentRefunded => cases h
  | waitingForTakerFunding =>
    simp only [recreateState, except_bind_eq_ok, except_mapError_eq_ok] at h
    obtain ⟨d, hd, h⟩ := h
    cases h
    exact ⟨rfl, .some ⟨d, hd, rfl⟩⟩
  | takerFundingReceived =>
    simp only [recreateState, except_bind_eq_ok, except_mapError_eq_ok] at h
    obtain ⟨d, hd, _, _, h⟩ := h
    cases h
    exact ⟨rfl, .some ⟨d, hd, rfl⟩⟩
  | makerPaymentSentFundingSpendGenerated =>
    simp only [recreateState, except_bind_eq_ok, except_mapError_eq_ok] at h
    obtain ⟨d, hd, _, _, _, _, _, _, h⟩ := h
    cases h
    exact ⟨rfl, .some ⟨d, hd, rfl⟩⟩
  | makerPaymentRefundRequired =>
    simp only [recreateState, except_bind_eq_ok, except_mapError_eq_ok] at h
    obtain ⟨d, hd, _, _, h⟩ := h
    cases h
    exact ⟨rfl, .some ⟨d, hd, rfl⟩⟩
  | takerPaymentReceived =>
    simp only [recreateState, except_bind_eq_ok, except_mapError_eq_ok] at h
    obtain ⟨_, _, _, _, d, hd, h⟩ := h
    cases h
    exact ⟨rfl, .some ⟨d, hd, rfl⟩⟩
  | takerPaymentReceivedAndPreimageValidationSkipped =>
    simp only [recreateState, except_bind_eq_ok, except_mapError_eq_ok] at h
    obtain ⟨_, _, _, _, d, hd, h⟩ := h
    cases h
    exact ⟨rfl, .some ⟨d, hd, rfl⟩⟩
  | takerPaymentSpent =>
    simp only [recreateState, except_bind_eq_ok, except_mapError_eq_ok] at h
    obtain ⟨_, _, _, _, _, _, d, hd, h⟩ := h
    cases h
    exact ⟨rfl, .some ⟨d, hd, rfl⟩⟩

/-- The recreated state is the one that was stored, with the negotiated locktime. -/
theorem kind_of_recreateState {event : MakerSwapEvent} {s : MakerState X}
    (h : recreateState X event = .ok s) :
    s.kind = event.kind ∧ s.takerPaymentLocktime = event.takerPaymentLocktime := by
  obtain ⟨hkind, hdata⟩ := recreateState_spec h
  refine ⟨hkind, ?_⟩
  change s.getEvent.negotiationData.map (·.takerPaymentLocktime) =
    event.negotiationData.map (·.takerPaymentLocktime)
  revert hdata
  generalize s.getEvent.negotiationData = recreated
  generalize event.negotiationData = stored
  rintro (⟨d, hd, rfl⟩ | _)
  · exact congrArg some (NegotiationData.locktime_of_stored hd)
  · rfl

end DeXFG.SwapV2.MakerSwap
