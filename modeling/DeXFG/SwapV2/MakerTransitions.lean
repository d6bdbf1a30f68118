import DeXFG.SwapV2.MakerStates
import DeXFG.SwapV2.Transitions

/-!
# The transitions of the maker
-/
namespace DeXFG.SwapV2.MakerSwap
open Library.Process Library.DurableMachine Transitions

variable {X : External}

abbrev MakerAnswers (X : External) :=
  (c : Call X MakerSwapEvent MakerSwapDbRepr) → c.Answer → Prop

/-- The stages from which a swap is aborted: before the payment, or when its refund failed. -/
def MayAbort : Stage (MakerState X) → Prop
  | .start => True
  | .entered (.initialized _) => True
  | .entered (.waitingForTakerFunding _) => True
  | .entered (.takerFundingReceived _) => True
  | .entered (.makerPaymentRefundRequired _) => True
  | _ => False

/-- The states that may follow a stage without a payment, when the answers are in `R`. -/
inductive Next (R : MakerAnswers X) (m : MakerSwapStateMachine) :
    Stage (MakerState X) → MakerState X → Prop
  | initialized (d : Initialized) : Next R m .start (.initialized d)
  | waitingForTakerFunding (self : Initialized) {waitUntil takerData negotiationData}
      (hmsg : R (.pollSwapV2Msg .takerNegotiation waitUntil) (some ⟨some (.continue takerData)⟩))
      (hdata : Initialized.negotiate m takerData = .ok negotiationData) :
      Next R m (.entered (.initialized self)) (.waitingForTakerFunding
        { makerCoinStartBlock := self.makerCoinStartBlock
          takerCoinStartBlock := self.takerCoinStartBlock
          negotiationData
          makerPaymentTradeFee := self.makerPaymentTradeFee })
  | takerFundingReceived (self : WaitingForTakerFunding X) (takerFunding : X.takerCoin.Tx) :
      Next R m (.entered (.waitingForTakerFunding self)) (.takerFundingReceived
        { makerCoinStartBlock := self.makerCoinStartBlock
          takerCoinStartBlock := self.takerCoinStartBlock
          negotiationData := self.negotiationData
          takerFunding
          makerPaymentTradeFee := self.makerPaymentTradeFee })
  | fundingNotSpent (self : MakerPaymentSentFundingSpendGenerated X)
      (reason : MakerPaymentRefundReason) :
      Next R m (.entered (.makerPaymentSentFundingSpendGenerated self)) (self.refundRequired reason)
  | received (self : MakerPaymentSentFundingSpendGenerated X) (takerPayment : X.takerCoin.Tx) :
      Next R m (.entered (.makerPaymentSentFundingSpendGenerated self)) (self.received takerPayment)
  | refunded (self : MakerPaymentRefundRequired X) (makerPaymentRefund : X.makerCoin.Tx) :
      Next R m (.entered (.makerPaymentRefundRequired self)) (self.refunded makerPaymentRefund)
  | notSpent (self : TakerPaymentReceived X) (reason : MakerPaymentRefundReason) :
      Next R m (.entered (.takerPaymentReceived self)) (self.refundRequired reason)
  | spent (self : TakerPaymentReceived X) (takerPaymentSpend : X.takerCoin.Tx) :
      Next R m (.entered (.takerPaymentReceived self)) (self.spent takerPaymentSpend)
  | notSpentSkipped (self : TakerPaymentReceivedAndPreimageValidationSkipped X)
      (reason : MakerPaymentRefundReason) :
      Next R m (.entered (.takerPaymentReceivedAndPreimageValidationSkipped self))
        (self.refundRequired reason)
  | spentSkipped (self : TakerPaymentReceivedAndPreimageValidationSkipped X)
      (takerPaymentSpend : X.takerCoin.Tx) :
      Next R m (.entered (.takerPaymentReceivedAndPreimageValidationSkipped self))
        (self.spent takerPaymentSpend)
  | spendNotConfirmed (self : TakerPaymentSpent X) (reason : MakerPaymentRefundReason) :
      Next R m (.entered (.takerPaymentSpent self)) (.makerPaymentRefundRequired
        { makerCoinStartBlock := self.makerCoinStartBlock
          takerCoinStartBlock := self.takerCoinStartBlock
          negotiationData := self.negotiationData
          makerPayment := self.makerPayment
          reason })
  | completed (self : TakerPaymentSpent X) : Next R m (.entered (.takerPaymentSpent self)) .completed
  | aborted {stage : Stage (MakerState X)} (h : MayAbort stage) (reason : AbortReason) :
      Next R m stage (.aborted reason)

/-- The state that follows the payment. -/
inductive Paid (R : MakerAnswers X) (m : MakerSwapStateMachine) :
    Stage (MakerState X) → MakerState X → Prop
  | makerPaymentSent (self : TakerFundingReceived X)
      (fundingSpendPreimage : TxPreimageWithSig X.takerCoin) {makerPayment : X.makerCoin.Tx}
      (hsent : R (.sendMakerPaymentV2 (self.sendMakerPaymentArgs m)) (.ok makerPayment)) :
      Paid R m (.entered (.takerFundingReceived self)) (.makerPaymentSentFundingSpendGenerated
        { makerCoinStartBlock := self.makerCoinStartBlock
          takerCoinStartBlock := self.takerCoinStartBlock
          negotiationData := self.negotiationData
          takerFunding := self.takerFunding
          fundingSpendPreimage
          makerPayment })

/-- The maker pays in one state only. -/
def Pays (m : MakerSwapStateMachine) : Stage (MakerState X) →
    Call X MakerSwapEvent MakerSwapDbRepr → Prop
  | .entered (.takerFundingReceived self), c => c = .sendMakerPaymentV2 (self.sendMakerPaymentArgs m)
  | _, _ => False

def transitions (X : External) :
    Transitions X MakerSwapStateMachine (MakerState X) MakerSwapEvent MakerSwapDbRepr where
  getEvent := MakerState.getEvent
  next := Next
  paid := Paid
  pays := Pays
  ends s := s.kind.isTerminal = true

section States

variable {R : MakerAnswers X} {m : MakerSwapStateMachine}

theorem follows_to {stage : Stage (MakerState X)} {next : MakerState X}
    (h : Next R m stage next) : (transitions X).Follows R m stage (changeTo m next) :=
  follows_change (T := transitions X) h

theorem follows_abort {stage : Stage (MakerState X)} (h : MayAbort stage) (reason : AbortReason) :
    (transitions X).Follows R m stage (abort m reason) :=
  follows_to (.aborted h reason)

theorem follows_onInitialize : (transitions X).Follows R m .start (onInitialize m) := by
  have habort := @follows_abort X R m .start trivial
  apply follows_ask rfl
  rintro (e | makerCoinStartBlock) -
  · exact habort _
  apply follows_ask rfl
  rintro (e | takerCoinStartBlock) -
  · exact habort _
  apply follows_ask rfl
  rintro (e | makerPaymentTradeFee) -
  · exact habort _
  apply follows_ask rfl
  rintro (e | takerPaymentSpendTradeFee) -
  · exact habort _
  apply follows_ask rfl
  rintro (e | _) -
  · exact habort _
  · exact follows_to (.initialized _)

theorem Initialized.follows (self : Initialized) :
    (transitions X).Follows R m (.entered (.initialized self)) (self.onChanged m) := by
  have habort := @follows_abort X R m (.entered (.initialized self)) trivial
  apply follows_ask rfl
  intro takerCoinAddress _
  apply follows_ask rfl
  intro _ _
  apply follows_recv
  rintro (e | ⟨_ | takerData | reason⟩) hmsg
  · exact habort _
  · exact habort _
  · obtain ⟨waitUntil, hmsg⟩ := hmsg _ rfl
    dsimp only
    split
    · exact habort _
    · rename_i negotiationData hdata
      exact follows_to (.waitingForTakerFunding self hmsg hdata)
  · exact habort _

theorem WaitingForTakerFunding.follows (self : WaitingForTakerFunding X) :
    (transitions X).Follows R m (.entered (.waitingForTakerFunding self)) (self.onChanged m) := by
  have habort := @follows_abort X R m (.entered (.waitingForTakerFunding self)) trivial
  apply follows_ask rfl
  intro _ _
  apply follows_recv
  rintro (e | takerFundingInfo) -
  · exact habort _
  dsimp only
  split
  · exact habort _
  · exact follows_to (.takerFundingReceived self _)

theorem TakerFundingReceived.fundingGate_sat (self : TakerFundingReceived X) :
    (self.fundingGate m).Sat R (fun c => c.isPlain = true) (fun _ => True) := by
  constructor
  · rfl
  · intro visible _
    change Proc.Sat _ _ (if _ then _ else _) _
    split
    · constructor
      · rfl
      · rintro (e | _) _ <;> trivial
    · cases visible <;> trivial

theorem TakerFundingReceived.follows (self : TakerFundingReceived X) :
    (transitions X).Follows R m (.entered (.takerFundingReceived self)) (self.onChanged m) := by
  have habort := @follows_abort X R m (.entered (.takerFundingReceived self)) trivial
  apply follows_ask rfl
  rintro (e | _) -
  · exact habort _
  apply until_bind self.fundingGate_sat
  rintro (e | _) -
  · exact habort _
  apply follows_ask rfl
  rintro (e | fundingSpendPreimage) -
  · exact habort _
  apply follows_pay rfl
  rintro (e | makerPayment) hsent
  · exact ⟨_, @Next.aborted _ _ _ (.entered (.takerFundingReceived self)) trivial _, rfl⟩
  · exact ⟨_, .makerPaymentSent self _ hsent, rfl⟩

theorem MakerPaymentSentFundingSpendGenerated.searchLoop_follows
    (self : MakerPaymentSentFundingSpendGenerated X) (waitUntil passes : ℕ) :
    (transitions X).Follows R m (.entered (.makerPaymentSentFundingSpendGenerated self))
      (self.searchLoop m waitUntil passes) := by
  induction passes with
  | zero => exact follows_to (.fundingNotSpent self _)
  | succ passes ih =>
    apply until_now
    intro now
    change Proc.Until _ _ _ (if now > waitUntil then _ else _)
    split
    · exact follows_to (.fundingNotSpent self _)
    · apply follows_ask rfl
      rintro (e | _ | spend) -
      · cases e with
        | rpc e => exact follows_ask rfl fun _ _ => ih
        | _ => exact follows_to (.fundingNotSpent self _)
      · exact follows_ask rfl fun _ _ => ih
      · cases spend with
        | transferredToTakerPayment takerPayment => exact follows_to (.received self _)
        | refundedTimelock tx => exact follows_to (.fundingNotSpent self _)
        | refundedSecret tx secret => exact follows_to (.fundingNotSpent self _)

theorem MakerPaymentRefundRequired.follows (self : MakerPaymentRefundRequired X) :
    (transitions X).Follows R m (.entered (.makerPaymentRefundRequired self))
      (self.onChanged m) := by
  have habort := @follows_abort X R m (.entered (.makerPaymentRefundRequired self)) trivial
  unfold onChanged
  split
  · apply follows_ask rfl
    rintro (e | makerPaymentRefund) -
    · exact habort _
    · exact follows_to (.refunded self _)
  · apply follows_ask rfl
    rintro (e | _ | toSleep) -
    · exact follows_ask rfl fun _ _ => follows_again
    · apply follows_ask rfl
      rintro (e | makerPaymentRefund) -
      · exact habort _
      · exact follows_to (.refunded self _)
    · exact follows_ask rfl fun _ _ => follows_again

theorem TakerPaymentReceived.follows (self : TakerPaymentReceived X) :
    (transitions X).Follows R m (.entered (.takerPaymentReceived self)) (self.onChanged m) := by
  apply follows_ask rfl
  rintro (e | _) -
  · exact follows_to (.notSpent self _)
  apply follows_recv
  rintro (e | preimageData) -
  · exact follows_to (.notSpent self _)
  apply follows_ask rfl
  intro makerAddress _
  dsimp only
  split
  · exact follows_to (.notSpent self _)
  split
  · exact follows_to (.notSpent self _)
  apply follows_ask rfl
  rintro (e | _) -
  · exact follows_to (.notSpent self _)
  apply follows_ask rfl
  rintro (e | takerPaymentSpend) -
  · exact follows_to (.notSpent self _)
  · exact follows_to (.spent self _)

theorem TakerPaymentReceivedAndPreimageValidationSkipped.follows
    (self : TakerPaymentReceivedAndPreimageValidationSkipped X) :
    (transitions X).Follows R m
      (.entered (.takerPaymentReceivedAndPreimageValidationSkipped self)) (self.onChanged m) := by
  apply follows_ask rfl
  rintro (e | _) -
  · exact follows_to (.notSpentSkipped self _)
  apply follows_ask rfl
  intro makerAddress _
  apply follows_ask rfl
  rintro (e | takerPaymentSpend) -
  · exact follows_to (.notSpentSkipped self _)
  · exact follows_to (.spentSkipped self _)

theorem TakerPaymentSpent.follows (self : TakerPaymentSpent X) :
    (transitions X).Follows R m (.entered (.takerPaymentSpent self)) (self.onChanged m) := by
  unfold onChanged
  split
  · apply follows_ask rfl
    rintro (e | _) -
    · exact follows_to (.spendNotConfirmed self _)
    · exact follows_to (.completed self)
  · exact follows_to (.completed self)

/-- The maker follows its transitions. -/
theorem sound (X : External) : (transitions X).Sound (makerSwap X) where
  pays {m stage c} h := by
    change Pays m stage c at h
    unfold Pays at h
    split at h
    · rw [h]
      rfl
    · cases h
  onInitialize _ _ := follows_onInitialize
  onChanged _ m state := by
    cases state with
    | initialized self => exact self.follows
    | waitingForTakerFunding self => exact self.follows
    | takerFundingReceived self => exact self.follows
    | makerPaymentSentFundingSpendGenerated self =>
      exact follows_ask rfl fun _ _ => self.searchLoop_follows _ _
    | makerPaymentRefundRequired self => exact self.follows
    | takerPaymentReceived self => exact self.follows
    | takerPaymentReceivedAndPreimageValidationSkipped self => exact self.follows
    | takerPaymentSpent self => exact self.follows
    | aborted reason => exact follows_finish rfl
    | completed => exact follows_finish rfl
    | makerPaymentRefunded self => exact follows_finish rfl

end States

end DeXFG.SwapV2.MakerSwap
