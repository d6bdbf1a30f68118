import DeXFG.SwapV2.Funds
import DeXFG.SwapV2.MakerStates
import DeXFG.SwapV2.TakerStates

/-!
# What a restart restores of a state

A state is stored as its event and read back from it. The coins read their own
transactions and keys; the swap contracts of the negotiation are stored and
never read.
-/
namespace DeXFG.SwapV2

/-- The coin reads a key back from the key's own bytes. -/
def SwapCoin.ReadsPubkeys (c : SwapCoin) : Prop :=
  ∀ p, c.parsePubkey (c.pubkeyToBytes p) = .ok p

theorem rawCoin_readsPubkeys (ticker : String) : (rawCoin ticker).ReadsPubkeys := fun _ => rfl

/-- The two coins of a swap read back their transactions and keys. -/
structure External.ReadsBack (X : External) : Prop where
  makerTx : X.makerCoin.Lawful
  takerTx : X.takerCoin.Lawful
  makerPubkey : X.makerCoin.ReadsPubkeys
  takerPubkey : X.takerCoin.ReadsPubkeys

theorem External.raw_readsBack : External.raw.ReadsBack where
  makerTx := rawCoin_lawful _
  takerTx := rawCoin_lawful _
  makerPubkey := rawCoin_readsPubkeys _
  takerPubkey := rawCoin_readsPubkeys _

/-- The coin reads this preimage and this signature back. -/
def TxPreimageWithSig.Readable {c : SwapCoin} (p : TxPreimageWithSig c) : Prop :=
  c.parsePreimage (c.preimageToBytes p.preimage) = .ok p.preimage ∧
    c.parseSignature (c.sigToBytes p.signature) = .ok p.signature

theorem TxPreimageWithSig.fromStored_toStored {c : SwapCoin} (p : TxPreimageWithSig c) :
    fromStored c p.toStored = .ok p ↔ p.Readable := by
  obtain ⟨preimage, signature⟩ := p
  unfold fromStored Readable
  simp only [except_bind_eq_ok, toStored]
  constructor
  · rintro ⟨_, hpreimage, _, hsignature, h⟩
    cases h
    exact ⟨hpreimage, hsignature⟩
  · rintro ⟨hpreimage, hsignature⟩
    exact ⟨preimage, hpreimage, signature, hsignature, rfl⟩

/-! ## The maker -/

namespace MakerSwap

variable {X : External}

/-- No contract was negotiated. -/
def NegotiationData.Readable (d : NegotiationData X) : Prop :=
  d.makerCoinSwapContract = none ∧ d.takerCoinSwapContract = none

theorem NegotiationData.fromStoredData_toStoredData (hX : X.ReadsBack) (d : NegotiationData X) :
    fromStoredData X d.toStoredData = .ok d ↔ d.Readable := by
  obtain ⟨⟩ := d
  unfold fromStoredData Readable
  simp only [toStoredData, hX.makerPubkey _, hX.takerPubkey _]
  constructor
  · intro h
    cases h
    exact ⟨rfl, rfl⟩
  · rintro ⟨rfl, rfl⟩
    rfl

namespace MakerState

def negotiationData : MakerState X → Option (NegotiationData X)
  | .initialized _ => none
  | .waitingForTakerFunding s => some s.negotiationData
  | .takerFundingReceived s => some s.negotiationData
  | .makerPaymentSentFundingSpendGenerated s => some s.negotiationData
  | .makerPaymentRefundRequired s => some s.negotiationData
  | .takerPaymentReceived s => some s.negotiationData
  | .takerPaymentReceivedAndPreimageValidationSkipped s => some s.negotiationData
  | .takerPaymentSpent s => some s.negotiationData
  | .aborted _ => none
  | .completed => none
  | .makerPaymentRefunded _ => none

def fundingSpendPreimage : MakerState X → Option (TxPreimageWithSig X.takerCoin)
  | .makerPaymentSentFundingSpendGenerated s => some s.fundingSpendPreimage
  | _ => none

/-- All data of the state are read back. -/
def Readable (s : MakerState X) : Prop :=
  (∀ d ∈ s.negotiationData, d.Readable) ∧ ∀ p ∈ s.fundingSpendPreimage, p.Readable

end MakerState

theorem recreateState_getEvent (hX : X.ReadsBack) {s : MakerState X}
    (hs : s.kind.isTerminal = false) :
    recreateState X s.getEvent = .ok s ↔ s.Readable := by
  have hdata := NegotiationData.fromStoredData_toStoredData hX
  have hpreimage := @TxPreimageWithSig.fromStored_toStored X.takerCoin
  cases s with
  | aborted => cases hs
  | completed => cases hs
  | makerPaymentRefunded => cases hs
  | _ =>
    rename_i self
    obtain ⟨⟩ := self
    simp [recreateState, MakerState.getEvent, SwapCoin.identifier, MakerState.Readable,
      MakerState.negotiationData, MakerState.fundingSpendPreimage, pure, Except.pure,
      except_bind_eq_ok, except_mapError_eq_ok, hX.makerTx _, hX.takerTx _, hdata, hpreimage]

/-- A restart finds the machine with the two confirmation settings of a restart. -/
theorem machine_toDbRepr (m : MakerSwapStateMachine) :
    (m.toDbRepr X).machine =
      { m with
        requireTakerFundingConfirmBeforeMakerPayment := false
        requireTakerPaymentSpendConfirm := true } := rfl

theorem recreateMachine_getEvent (hX : X.ReadsBack) (m : MakerSwapStateMachine)
    (events : List MakerSwapEvent) {s : MakerState X} (hs : s.kind.isTerminal = false) :
    recreateMachine X (m.toDbRepr X) (events ++ [s.getEvent]) =
        .ok ((m.toDbRepr X).machine, s) ↔ s.Readable := by
  rw [← recreateState_getEvent hX hs]
  unfold recreateMachine
  rw [List.getLast?_append_of_ne_nil _ (by simp), List.getLast?_singleton]
  change (recreateState X s.getEvent >>= _) = _ ↔ _
  rw [except_bind_eq_ok]
  constructor
  · rintro ⟨s', hs', h⟩
    cases h
    exact hs'
  · exact fun h => ⟨s, h, rfl⟩

end MakerSwap

/-! ## The taker -/

namespace TakerSwap

variable {X : External}

/-- No contract was negotiated, and the coin reads the maker's address back. -/
def NegotiationData.Readable (d : NegotiationData X) : Prop :=
  d.makerCoinSwapContract = none ∧ d.takerCoinSwapContract = none ∧
    X.takerCoin.parseAddress (X.takerCoin.addrToString d.takerCoinMakerAddress) =
      .ok d.takerCoinMakerAddress

theorem NegotiationData.fromStoredData_toStoredData (hX : X.ReadsBack) (d : NegotiationData X) :
    fromStoredData X d.toStoredData = .ok d ↔ d.Readable := by
  obtain ⟨⟩ := d
  unfold fromStoredData Readable
  simp only [toStoredData, hX.makerPubkey _, hX.takerPubkey _, except_bind_eq_ok]
  constructor
  · rintro ⟨_, hmaker, _, htaker, _, haddress, h⟩
    cases h
    exact ⟨rfl, rfl, haddress⟩
  · rintro ⟨rfl, rfl, haddress⟩
    exact ⟨_, rfl, _, rfl, _, haddress, rfl⟩

namespace TakerState

def negotiationData : TakerState X → Option (NegotiationData X)
  | .initialized _ => none
  | .negotiated s => some s.negotiationData
  | .takerFundingSent s => some s.negotiationData
  | .makerPaymentAndFundingSpendPreimgReceived s => some s.negotiationData
  | .takerPaymentSent s => some s.negotiationData
  | .takerPaymentSentAndPreimageSendingSkipped s => some s.negotiationData
  | .takerFundingRefundRequired s => some s.negotiationData
  | .takerPaymentRefundRequired s => some s.negotiationData
  | .makerPaymentConfirmed s => some s.negotiationData
  | .takerPaymentSpent s => some s.negotiationData
  | .makerPaymentSpent s => some s.negotiationData
  | .aborted _ => none
  | .completed => none
  | .takerFundingRefunded _ => none
  | .takerPaymentRefunded _ => none

def fundingSpendPreimage : TakerState X → Option (TxPreimageWithSig X.takerCoin)
  | .makerPaymentAndFundingSpendPreimgReceived s => some s.fundingSpendPreimage
  | .makerPaymentConfirmed s => some s.fundingSpendPreimage
  | _ => none

/-- All data of the state are read back. -/
def Readable (s : TakerState X) : Prop :=
  (∀ d ∈ s.negotiationData, d.Readable) ∧ ∀ p ∈ s.fundingSpendPreimage, p.Readable

end TakerState

theorem recreateState_getEvent (hX : X.ReadsBack) {s : TakerState X}
    (hs : s.kind.isTerminal = false) :
    recreateState X s.getEvent = .ok s ↔ s.Readable := by
  have hdata := NegotiationData.fromStoredData_toStoredData hX
  have hpreimage := @TxPreimageWithSig.fromStored_toStored X.takerCoin
  cases s with
  | aborted => cases hs
  | completed => cases hs
  | takerFundingRefunded => cases hs
  | takerPaymentRefunded => cases hs
  | _ =>
    rename_i self
    obtain ⟨⟩ := self
    simp [recreateState, TakerState.getEvent, SwapCoin.identifier, TakerState.Readable,
      TakerState.negotiationData, TakerState.fundingSpendPreimage, pure, Except.pure,
      except_bind_eq_ok, except_mapError_eq_ok, hX.makerTx _, hX.takerTx _, hdata, hpreimage,
      and_comm]

/-- A restart finds the machine with the two confirmation settings of a restart. -/
theorem machine_toDbRepr (m : TakerSwapStateMachine) :
    (m.toDbRepr X).machine =
      { m with
        requireMakerPaymentConfirmBeforeFundingSpend := true
        requireMakerPaymentSpendConfirm := true } := rfl

theorem recreateMachine_getEvent (hX : X.ReadsBack) (m : TakerSwapStateMachine)
    (events : List TakerSwapEvent) {s : TakerState X} (hs : s.kind.isTerminal = false) :
    recreateMachine X (m.toDbRepr X) (events ++ [s.getEvent]) =
        .ok ((m.toDbRepr X).machine, s) ↔ s.Readable := by
  rw [← recreateState_getEvent hX hs]
  unfold recreateMachine
  rw [List.getLast?_append_of_ne_nil _ (by simp), List.getLast?_singleton]
  change (recreateState X s.getEvent >>= _) = _ ↔ _
  rw [except_bind_eq_ok]
  constructor
  · rintro ⟨s', hs', h⟩
    cases h
    exact hs'
  · exact fun h => ⟨s, h, rfl⟩

end TakerSwap

/-- A state that is not terminal is restored from its records as it was exactly when no contract
was negotiated and the coin reads back the preimage of the state and the maker's address. -/
theorem restart_round_trip {X : External} (hX : X.ReadsBack) :
    (∀ (m : MakerSwap.MakerSwapStateMachine) events (s : MakerSwap.MakerState X),
      s.kind.isTerminal = false →
        (MakerSwap.recreateMachine X (m.toDbRepr X) (events ++ [s.getEvent]) =
          .ok ((m.toDbRepr X).machine, s) ↔ s.Readable)) ∧
    ∀ (m : TakerSwap.TakerSwapStateMachine) events (s : TakerSwap.TakerState X),
      s.kind.isTerminal = false →
        (TakerSwap.recreateMachine X (m.toDbRepr X) (events ++ [s.getEvent]) =
          .ok ((m.toDbRepr X).machine, s) ↔ s.Readable) := by
  constructor
  · intro m events s hs
    exact MakerSwap.recreateMachine_getEvent hX m events hs
  · intro m events s hs
    exact TakerSwap.recreateMachine_getEvent hX m events hs

/-- A maker that waits for the funding, with these contracts negotiated. -/
def sampleWaiting (makerCoinSwapContract takerCoinSwapContract : Option Bytes) :
    MakerSwap.MakerState .raw :=
  .waitingForTakerFunding
    { makerCoinStartBlock := 1
      takerCoinStartBlock := 1
      negotiationData :=
        { takerPaymentLocktime := 1700005400
          takerFundingLocktime := 1700016200
          makerCoinHtlcPubFromTaker := ([3] : Bytes)
          takerCoinHtlcPubFromTaker := ([3] : Bytes)
          makerCoinSwapContract
          takerCoinSwapContract
          takerSecretHash := [8] }
      makerPaymentTradeFee := ⟨"RICK", 0, false⟩ }

/-- A taker that has negotiated, without contracts. -/
def sampleNegotiated : TakerSwap.TakerState .raw :=
  .negotiated
    { makerCoinStartBlock := 1
      takerCoinStartBlock := 1
      negotiationData :=
        { makerSecretHash := [9]
          makerPaymentLocktime := 1700010800
          makerCoinHtlcPubFromMaker := ([2] : Bytes)
          takerCoinHtlcPubFromMaker := ([2] : Bytes)
          makerCoinSwapContract := none
          takerCoinSwapContract := none
          takerCoinMakerAddress := "maker" }
      takerPaymentFee := ⟨"MORTY", 0, false⟩
      makerPaymentSpendFee := ⟨"RICK", 0, false⟩ }

theorem restart_round_trip_sample :
    MakerSwap.recreateMachine .raw ((MakerSwap.sampleMaker 0).toDbRepr .raw)
        ([] ++ [(sampleWaiting none none).getEvent]) =
      .ok (((MakerSwap.sampleMaker 0).toDbRepr .raw).machine, sampleWaiting none none) ∧
    TakerSwap.recreateMachine .raw ((TakerSwap.sampleTaker true).toDbRepr .raw)
        ([] ++ [sampleNegotiated.getEvent]) =
      .ok (((TakerSwap.sampleTaker true).toDbRepr .raw).machine, sampleNegotiated) := by
  obtain ⟨hmaker, htaker⟩ := restart_round_trip External.raw_readsBack
  constructor
  · apply (hmaker _ _ _ rfl).mpr
    constructor
    · rintro _ ⟨⟩
      exact ⟨rfl, rfl⟩
    · nofun
  · apply (htaker _ _ _ rfl).mpr
    constructor
    · rintro _ ⟨⟩
      exact ⟨rfl, rfl, rfl⟩
    · nofun

/-- A negotiated contract does not survive a restart. -/
theorem contract_not_restored :
    ¬ ∀ X : External, X.ReadsBack → ∀ (m : MakerSwap.MakerSwapStateMachine) events
      (s : MakerSwap.MakerState X), s.kind.isTerminal = false →
        ∃ m', MakerSwap.recreateMachine X (m.toDbRepr X) (events ++ [s.getEvent]) =
          .ok (m', s) := by
  intro h
  obtain ⟨_, hm⟩ := h .raw External.raw_readsBack (MakerSwap.sampleMaker 0) []
    (sampleWaiting (some [1]) none) rfl
  cases hm

end DeXFG.SwapV2
