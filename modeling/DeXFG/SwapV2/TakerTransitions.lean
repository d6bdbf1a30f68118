import DeXFG.SwapV2.TakerStates
import DeXFG.SwapV2.Transitions

/-!
# The transitions of the taker
-/
namespace DeXFG.SwapV2.TakerSwap
open Library.Process Library.DurableMachine Transitions

variable {X : External}

abbrev TakerAnswers (X : External) :=
  (c : Call X TakerSwapEvent TakerSwapDbRepr) → c.Answer → Prop

/-- The stages from which a swap is aborted: before the funding, or when a refund or the spend of
the maker payment failed. -/
def MayAbort : Stage (TakerState X) → Prop
  | .start => True
  | .entered (.initialized _) => True
  | .entered (.negotiated _) => True
  | .entered (.takerFundingRefundRequired _) => True
  | .entered (.takerPaymentRefundRequired _) => True
  | .entered (.takerPaymentSpent _) => True
  | _ => False

/-- The states that may follow a stage without a payment, when the answers are in `R`. -/
inductive Next (R : TakerAnswers X) (m : TakerSwapStateMachine) :
    Stage (TakerState X) → TakerState X → Prop
  | initialized (d : Initialized) : Next R m .start (.initialized d)
  | negotiated (self : Initialized) {waitUntil makerNegotiation negotiationData}
      (hmsg : R (.pollSwapV2Msg .makerNegotiation waitUntil) (some makerNegotiation))
      (hdata : Initialized.negotiate m makerNegotiation = .ok negotiationData) :
      Next R m (.entered (.initialized self)) (.negotiated
        { makerCoinStartBlock := self.makerCoinStartBlock
          takerCoinStartBlock := self.takerCoinStartBlock
          negotiationData
          takerPaymentFee := self.takerPaymentFee
          makerPaymentSpendFee := self.makerPaymentSpendFee })
  | noMakerPayment (self : TakerFundingSent X) (reason : TakerFundingRefundReason) :
      Next R m (.entered (.takerFundingSent self)) (self.refundRequired reason)
  | makerPaymentReceived (self : TakerFundingSent X) {info nextState}
      (hinfo : self.parseMakerPaymentInfo info = .ok nextState) :
      Next R m (.entered (.takerFundingSent self))
        (.makerPaymentAndFundingSpendPreimgReceived nextState)
  | makerPaymentNotAccepted (self : MakerPaymentAndFundingSpendPreimgReceived X)
      (reason : TakerFundingRefundReason) :
      Next R m (.entered (.makerPaymentAndFundingSpendPreimgReceived self))
        (self.refundRequired reason)
  | makerPaymentConfirmed (self : MakerPaymentAndFundingSpendPreimgReceived X) :
      Next R m (.entered (.makerPaymentAndFundingSpendPreimgReceived self)) (.makerPaymentConfirmed
        { makerCoinStartBlock := self.makerCoinStartBlock
          takerCoinStartBlock := self.takerCoinStartBlock
          makerPayment := self.makerPayment
          takerFunding := self.takerFunding
          fundingSpendPreimage := self.fundingSpendPreimage
          negotiationData := self.negotiationData })
  | paymentSentAtOnce (self : MakerPaymentAndFundingSpendPreimgReceived X)
      (takerPayment : X.takerCoin.Tx) :
      Next R m (.entered (.makerPaymentAndFundingSpendPreimgReceived self))
        (paymentSent self.makerCoinStartBlock self.takerCoinStartBlock self.makerPayment
          self.negotiationData takerPayment)
  | paymentNotSent (self : MakerPaymentConfirmed X) (reason : TakerFundingRefundReason) :
      Next R m (.entered (.makerPaymentConfirmed self)) (self.refundRequired reason)
  | paymentSent (self : MakerPaymentConfirmed X) (takerPayment : X.takerCoin.Tx) :
      Next R m (.entered (.makerPaymentConfirmed self))
        (paymentSent self.makerCoinStartBlock self.takerCoinStartBlock self.makerPayment
          self.negotiationData takerPayment)
  | notSpent (self : TakerPaymentSent X) (reason : TakerPaymentRefundReason) :
      Next R m (.entered (.takerPaymentSent self)) (self.refundRequired reason)
  | spent (self : TakerPaymentSent X) (takerPaymentSpend : X.takerCoin.Tx) :
      Next R m (.entered (.takerPaymentSent self)) (.takerPaymentSpent
        { makerCoinStartBlock := self.makerCoinStartBlock
          takerCoinStartBlock := self.takerCoinStartBlock
          makerPayment := self.makerPayment
          takerPayment := self.takerPayment
          takerPaymentSpend
          negotiationData := self.negotiationData })
  | notSpentSkipped (self : TakerPaymentSentAndPreimageSendingSkipped X)
      (reason : TakerPaymentRefundReason) :
      Next R m (.entered (.takerPaymentSentAndPreimageSendingSkipped self))
        (self.refundRequired reason)
  | spentSkipped (self : TakerPaymentSentAndPreimageSendingSkipped X)
      (takerPaymentSpend : X.takerCoin.Tx) :
      Next R m (.entered (.takerPaymentSentAndPreimageSendingSkipped self)) (.takerPaymentSpent
        { makerCoinStartBlock := self.makerCoinStartBlock
          takerCoinStartBlock := self.takerCoinStartBlock
          makerPayment := self.makerPayment
          takerPayment := self.takerPayment
          takerPaymentSpend
          negotiationData := self.negotiationData })
  | fundingRefunded (self : TakerFundingRefundRequired X) (fundingRefundTx : X.takerCoin.Tx) :
      Next R m (.entered (.takerFundingRefundRequired self)) (.takerFundingRefunded
        { fundingTx := self.takerFunding, fundingRefundTx, reason := self.reason })
  | paymentRefunded (self : TakerPaymentRefundRequired X) (takerPaymentRefund : X.takerCoin.Tx) :
      Next R m (.entered (.takerPaymentRefundRequired self)) (.takerPaymentRefunded
        { takerPayment := self.takerPayment
          takerPaymentRefund := X.takerCoin.identifier takerPaymentRefund
          reason := self.reason })
  | makerPaymentSpent (self : TakerPaymentSpent X) (makerPaymentSpend : X.makerCoin.Tx) :
      Next R m (.entered (.takerPaymentSpent self)) (.makerPaymentSpent
        { makerCoinStartBlock := self.makerCoinStartBlock
          takerCoinStartBlock := self.takerCoinStartBlock
          makerPayment := self.makerPayment
          takerPayment := self.takerPayment
          takerPaymentSpend := self.takerPaymentSpend
          makerPaymentSpend
          negotiationData := self.negotiationData })
  | spendNotConfirmed (self : MakerPaymentSpent X) (reason : TakerPaymentRefundReason) :
      Next R m (.entered (.makerPaymentSpent self)) (.takerPaymentRefundRequired
        { takerPayment := self.takerPayment
          negotiationData := self.negotiationData
          reason })
  | completed (self : MakerPaymentSpent X) : Next R m (.entered (.makerPaymentSpent self)) .completed
  | aborted {stage : Stage (TakerState X)} (h : MayAbort stage) (reason : AbortReason) :
      Next R m stage (.aborted reason)

/-- The state that follows the funding. -/
inductive Paid (R : TakerAnswers X) (m : TakerSwapStateMachine) :
    Stage (TakerState X) → TakerState X → Prop
  | takerFundingSent (self : Negotiated X) {takerFunding : X.takerCoin.Tx}
      (hsent : R (.sendTakerFunding (self.sendTakerFundingArgs m)) (.ok takerFunding)) :
      Paid R m (.entered (.negotiated self)) (.takerFundingSent
        { makerCoinStartBlock := self.makerCoinStartBlock
          takerCoinStartBlock := self.takerCoinStartBlock
          takerFunding
          negotiationData := self.negotiationData })

/-- The taker pays in one state only. -/
def Pays (m : TakerSwapStateMachine) : Stage (TakerState X) →
    Call X TakerSwapEvent TakerSwapDbRepr → Prop
  | .entered (.negotiated self), c => c = .sendTakerFunding (self.sendTakerFundingArgs m)
  | _, _ => False

def transitions (X : External) :
    Transitions X TakerSwapStateMachine (TakerState X) TakerSwapEvent TakerSwapDbRepr where
  getEvent := TakerState.getEvent
  next := Next
  paid := Paid
  pays := Pays
  ends s := s.kind.isTerminal = true

section States

variable {R : TakerAnswers X} {m : TakerSwapStateMachine}

theorem follows_to {stage : Stage (TakerState X)} {next : TakerState X}
    (h : Next R m stage next) : (transitions X).Follows R m stage (changeTo m next) :=
  follows_change (T := transitions X) h

theorem follows_abort {stage : Stage (TakerState X)} (h : MayAbort stage) (reason : AbortReason) :
    (transitions X).Follows R m stage (abort m reason) :=
  follows_to (.aborted h reason)

theorem follows_onInitialize : (transitions X).Follows R m .start (onInitialize m) := by
  have habort := @follows_abort X R m .start trivial
  apply follows_ask rfl
  rintro (e | makerCoinStartBlock) -
  · exact habort _
  apply follows_ask rfl
  rintro (e | takerCoinStartBlock) -
  · exact habort _
  apply follows_ask rfl
  rintro (e | takerPaymentFee) -
  · exact habort _
  apply follows_ask rfl
  rintro (e | makerPaymentSpendFee) -
  · exact habort _
  apply follows_ask rfl
  rintro (e | _) -
  · exact habort _
  · exact follows_to (.initialized _)

theorem Initialized.follows (self : Initialized) :
    (transitions X).Follows R m (.entered (.initialized self)) (self.onChanged m) := by
  have habort := @follows_abort X R m (.entered (.initialized self)) trivial
  apply follows_recv
  rintro (e | makerNegotiation) hmsg
  · exact habort _
  obtain ⟨waitUntil, hmsg⟩ := hmsg _ rfl
  dsimp only
  split
  · exact habort _
  rename_i negotiationData hdata
  apply follows_ask rfl
  intro _ _
  apply follows_recv
  rintro (e | makerNegotiated) -
  · exact habort _
  · change Proc.Until _ _ _ (if _ then _ else _)
    split
    · exact follows_to (.negotiated self hmsg hdata)
    · exact habort _

theorem Negotiated.follows (self : Negotiated X) :
    (transitions X).Follows R m (.entered (.negotiated self)) (self.onChanged m) := by
  apply follows_pay rfl
  rintro (e | takerFunding) hsent
  · exact ⟨_, @Next.aborted _ _ _ (.entered (.negotiated self)) trivial _, rfl⟩
  · exact ⟨_, .takerFundingSent self hsent, rfl⟩

theorem TakerFundingSent.follows (self : TakerFundingSent X) :
    (transitions X).Follows R m (.entered (.takerFundingSent self)) (self.onChanged m) := by
  apply follows_ask rfl
  intro _ _
  apply follows_recv
  rintro (e | makerPaymentInfo) -
  · exact follows_to (.noMakerPayment self _)
  dsimp only
  split
  · exact follows_to (.noMakerPayment self _)
  · rename_i nextState hinfo
    exact follows_to (.makerPaymentReceived self hinfo)

theorem MakerPaymentAndFundingSpendPreimgReceived.follows
    (self : MakerPaymentAndFundingSpendPreimgReceived X) :
    (transitions X).Follows R m (.entered (.makerPaymentAndFundingSpendPreimgReceived self))
      (self.onChanged m) := by
  apply follows_ask rfl
  rintro (e | _) -
  · exact follows_to (.makerPaymentNotAccepted self _)
  apply follows_ask rfl
  rintro (e | _) -
  · exact follows_to (.makerPaymentNotAccepted self _)
  apply follows_ask rfl
  rintro (_ | _) -
  · exact follows_to (.makerPaymentNotAccepted self _)
  change Proc.Until _ _ _ (if _ then _ else _)
  split
  · apply follows_ask rfl
    rintro (e | _) -
    · exact follows_to (.makerPaymentNotAccepted self _)
    · exact follows_to (.makerPaymentConfirmed self)
  · apply follows_ask rfl
    rintro (e | takerPayment) -
    · exact follows_to (.makerPaymentNotAccepted self _)
    · exact follows_to (.paymentSentAtOnce self _)

theorem MakerPaymentConfirmed.follows (self : MakerPaymentConfirmed X) :
    (transitions X).Follows R m (.entered (.makerPaymentConfirmed self)) (self.onChanged m) := by
  apply follows_ask rfl
  rintro (e | takerPayment) -
  · exact follows_to (.paymentNotSent self _)
  · exact follows_to (.paymentSent self _)

theorem TakerPaymentSent.awaitSpend_follows (self : TakerPaymentSent X) :
    (transitions X).Follows R m (.entered (.takerPaymentSent self)) (self.awaitSpend m) := by
  apply follows_ask rfl
  rintro (e | preimage) -
  · exact follows_to (.notSpent self _)
  apply follows_ask rfl
  intro _ _
  apply follows_ask rfl
  rintro (e | takerPaymentSpend) -
  · exact follows_to (.notSpent self _)
  · exact follows_to (.spent self _)

theorem TakerPaymentSent.follows (self : TakerPaymentSent X) :
    (transitions X).Follows R m (.entered (.takerPaymentSent self)) (self.onChanged m) := by
  unfold onChanged
  split
  · exact self.awaitSpend_follows
  · apply follows_ask rfl
    rintro (e | _) -
    · exact follows_to (.notSpent self _)
    · exact self.awaitSpend_follows

theorem TakerPaymentSentAndPreimageSendingSkipped.awaitSpend_follows
    (self : TakerPaymentSentAndPreimageSendingSkipped X) :
    (transitions X).Follows R m (.entered (.takerPaymentSentAndPreimageSendingSkipped self))
      (self.awaitSpend m) := by
  apply follows_ask rfl
  rintro (e | takerPaymentSpend) -
  · exact follows_to (.notSpentSkipped self _)
  · exact follows_to (.spentSkipped self _)

theorem TakerPaymentSentAndPreimageSendingSkipped.follows
    (self : TakerPaymentSentAndPreimageSendingSkipped X) :
    (transitions X).Follows R m (.entered (.takerPaymentSentAndPreimageSendingSkipped self))
      (self.onChanged m) := by
  unfold onChanged
  split
  · exact self.awaitSpend_follows
  · apply follows_ask rfl
    rintro (e | _) -
    · exact follows_to (.notSpentSkipped self _)
    · exact self.awaitSpend_follows

theorem TakerFundingRefundRequired.follows (self : TakerFundingRefundRequired X) :
    (transitions X).Follows R m (.entered (.takerFundingRefundRequired self))
      (self.onChanged m) := by
  have habort := @follows_abort X R m (.entered (.takerFundingRefundRequired self)) trivial
  apply follows_ask rfl
  rintro (e | fundingRefundTx) -
  · exact habort _
  · exact follows_to (.fundingRefunded self _)

theorem TakerPaymentRefundRequired.follows (self : TakerPaymentRefundRequired X) :
    (transitions X).Follows R m (.entered (.takerPaymentRefundRequired self))
      (self.onChanged m) := by
  have habort := @follows_abort X R m (.entered (.takerPaymentRefundRequired self)) trivial
  apply follows_ask rfl
  rintro (e | _ | toSleep) -
  · exact follows_ask rfl fun _ _ => follows_again
  · apply follows_ask rfl
    rintro (e | takerPaymentRefund) -
    · exact habort _
    · exact follows_to (.paymentRefunded self _)
  · exact follows_ask rfl fun _ _ => follows_again

theorem TakerPaymentSpent.follows (self : TakerPaymentSpent X) :
    (transitions X).Follows R m (.entered (.takerPaymentSpent self)) (self.onChanged m) := by
  have habort := @follows_abort X R m (.entered (.takerPaymentSpent self)) trivial
  apply follows_ask rfl
  rintro (e | secret) -
  · exact habort _
  apply follows_ask rfl
  rintro (e | makerPaymentSpend) -
  · exact habort _
  · exact follows_to (.makerPaymentSpent self _)

theorem MakerPaymentSpent.follows (self : MakerPaymentSpent X) :
    (transitions X).Follows R m (.entered (.makerPaymentSpent self)) (self.onChanged m) := by
  unfold onChanged
  split
  · apply follows_ask rfl
    rintro (e | _) -
    · exact follows_to (.spendNotConfirmed self _)
    · exact follows_to (.completed self)
  · exact follows_to (.completed self)

/-- The taker follows its transitions. -/
theorem sound (X : External) : (transitions X).Sound (takerSwap X) where
  pays {m stage c} h := by
    change Pays m stage c at h
    unfold Pays at h
    split at h
    · rw [h]
      rfl
    · cases h
  onInitialize _ _ := follows_onInitialize
  onChanged _ m state := by
    cases state with
    | initialized self => exact self.follows
    | negotiated self => exact self.follows
    | takerFundingSent self => exact self.follows
    | makerPaymentAndFundingSpendPreimgReceived self => exact self.follows
    | takerPaymentSent self => exact self.follows
    | takerPaymentSentAndPreimageSendingSkipped self => exact self.follows
    | takerFundingRefundRequired self => exact self.follows
    | takerPaymentRefundRequired self => exact self.follows
    | makerPaymentConfirmed self => exact self.follows
    | takerPaymentSpent self => exact self.follows
    | makerPaymentSpent self => exact self.follows
    | aborted reason => exact follows_finish rfl
    | completed => exact follows_finish rfl
    | takerFundingRefunded self => exact follows_finish rfl
    | takerPaymentRefunded self => exact follows_finish rfl

end States

end DeXFG.SwapV2.TakerSwap
