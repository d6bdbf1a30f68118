import DeXFG.SwapV2.Funds
import DeXFG.SwapV2.TakerStates

/-!
# The taker's funds

From the record of its funding on, the taker either has it back, has the maker's
payment, or works in a state that knows the funding or the taker payment that
the funding was spent into.
-/
namespace DeXFG.SwapV2.TakerSwap.TakerFunds
open Library Library.Process Library.DurableMachine Tracking

variable {X : External}

/-- What the state knows of the own payment. -/
def Owed (f : Funds) : TakerState X → Prop
  | .initialized _ => f.paid = []
  | .negotiated _ => f.paid = []
  | .takerFundingSent s => f.Tracks (X.takerCoin.txHex s.takerFunding)
  | .makerPaymentAndFundingSpendPreimgReceived s => f.Tracks (X.takerCoin.txHex s.takerFunding)
  | .makerPaymentConfirmed s => f.Tracks (X.takerCoin.txHex s.takerFunding)
  | .takerFundingRefundRequired s => f.Tracks (X.takerCoin.txHex s.takerFunding)
  | .takerPaymentSent s => f.Carries (X.takerCoin.txHex s.takerPayment)
  | .takerPaymentSentAndPreimageSendingSkipped s => f.Carries (X.takerCoin.txHex s.takerPayment)
  | .takerPaymentRefundRequired s => f.Carries (X.takerCoin.txHex s.takerPayment)
  | .takerPaymentSpent s => f.Carries (X.takerCoin.txHex s.takerPayment)
  | .makerPaymentSpent _ => f.taken = true
  | _ => f.Settled

/-- The record holds the tracked funding. -/
def TracksRecord (X : External) (f : Funds) (p : TransactionIdentifier) : Prop :=
  ∃ tx, p = X.takerCoin.identifier tx ∧ f.Tracks p.txHex

/-- The record holds the taker payment. -/
def CarriesRecord (X : External) (f : Funds) (p : TransactionIdentifier) : Prop :=
  ∃ tx, p = X.takerCoin.identifier tx ∧ f.Carries p.txHex

/-- What a record knows of the own payment. -/
def OwedRecord (X : External) (f : Funds) : TakerSwapEvent → Prop
  | .initialized .. => f.paid = []
  | .negotiated .. => f.paid = []
  | .takerFundingSent _ _ _ p => TracksRecord X f p
  | .makerPaymentAndFundingSpendPreimgReceived _ _ _ p _ _ => TracksRecord X f p
  | .makerPaymentConfirmed _ _ _ p _ _ => TracksRecord X f p
  | .takerFundingRefundRequired _ _ _ p _ => TracksRecord X f p
  | .takerPaymentSent _ _ p _ _ => CarriesRecord X f p
  | .takerPaymentSentAndPreimageSendingSkipped _ _ p _ _ => CarriesRecord X f p
  | .takerPaymentRefundRequired p _ _ => CarriesRecord X f p
  | .takerPaymentSpent _ _ _ p _ _ => CarriesRecord X f p
  | .makerPaymentSpent .. => f.taken = true
  | _ => f.Settled

section Tracking

variable {f f' : Funds}

theorem TracksRecord.mono {p : TransactionIdentifier} (h : TracksRecord X f p)
    (hf : f.Grows f') : TracksRecord X f' p := by
  obtain ⟨tx, htx, htracks⟩ := h
  exact ⟨tx, htx, htracks.mono hf⟩

theorem CarriesRecord.mono {p : TransactionIdentifier} (h : CarriesRecord X f p)
    (hf : f.Grows f') : CarriesRecord X f' p := by
  obtain ⟨tx, htx, hcarries⟩ := h
  exact ⟨tx, htx, hcarries.mono hf⟩

theorem OwedRecord.mono {event : TakerSwapEvent} (h : OwedRecord X f event) (hf : f.Grows f') :
    OwedRecord X f' event := by
  cases event with
  | initialized => exact hf.paid.trans h
  | negotiated => exact hf.paid.trans h
  | takerFundingSent => exact TracksRecord.mono h hf
  | makerPaymentAndFundingSpendPreimgReceived => exact TracksRecord.mono h hf
  | makerPaymentConfirmed => exact TracksRecord.mono h hf
  | takerFundingRefundRequired => exact TracksRecord.mono h hf
  | takerPaymentSent => exact CarriesRecord.mono h hf
  | takerPaymentSentAndPreimageSendingSkipped => exact CarriesRecord.mono h hf
  | takerPaymentRefundRequired => exact CarriesRecord.mono h hf
  | takerPaymentSpent => exact CarriesRecord.mono h hf
  | makerPaymentSpent => exact hf.taken h
  | _ => exact Funds.Settled.mono h hf

theorem Owed.mono {state : TakerState X} (h : Owed f state) (hf : f.Grows f') : Owed f' state := by
  cases state with
  | initialized => exact hf.paid.trans h
  | negotiated => exact hf.paid.trans h
  | takerFundingSent => exact Funds.Tracks.mono h hf
  | makerPaymentAndFundingSpendPreimgReceived => exact Funds.Tracks.mono h hf
  | makerPaymentConfirmed => exact Funds.Tracks.mono h hf
  | takerFundingRefundRequired => exact Funds.Tracks.mono h hf
  | takerPaymentSent => exact Funds.Carries.mono h hf
  | takerPaymentSentAndPreimageSendingSkipped => exact Funds.Carries.mono h hf
  | takerPaymentRefundRequired => exact Funds.Carries.mono h hf
  | takerPaymentSpent => exact Funds.Carries.mono h hf
  | makerPaymentSpent => exact hf.taken h
  | _ => exact Funds.Settled.mono h hf

theorem owedRecord_getEvent {state : TakerState X} (h : Owed f state) :
    OwedRecord X f state.getEvent := by
  cases state with
  | initialized => exact h
  | negotiated => exact h
  | makerPaymentSpent => exact h
  | aborted => exact h
  | completed => exact h
  | takerFundingRefunded => exact h
  | takerPaymentRefunded => exact h
  | _ => exact ⟨_, rfl, h⟩

/-- The taker tracks its funding, and then its payment. -/
def tracking (X : External) : Tracking (TakerState X) TakerSwapEvent where
  getEvent := TakerState.getEvent
  isTerminal event := event.kind.isTerminal
  isFirst event := event.kind = .takerFundingSent
  state := Owed
  record := OwedRecord X
  state_mono := Owed.mono
  record_mono := OwedRecord.mono
  record_getEvent := owedRecord_getEvent
  settled := by
    intro f state hlast h
    cases state with
    | aborted => exact h
    | completed => exact h
    | takerFundingRefunded => exact h
    | takerPaymentRefunded => exact h
    | _ => cases hlast

/-- The recreated state knows as much as its record. -/
theorem owed_of_recreateState (hX : X.takerCoin.Lawful) {event : TakerSwapEvent}
    {state : TakerState X} (hstate : recreateState X event = .ok state)
    (h : OwedRecord X f event) : Owed f state := by
  have htracks {p : TransactionIdentifier} {tx : X.takerCoin.Tx} (hp : TracksRecord X f p)
      (htx : X.takerCoin.parseTx p.txHex = .ok tx) : f.Tracks (X.takerCoin.txHex tx) := by
    obtain ⟨tx', rfl, htracks⟩ := hp
    have heq : tx' = tx := Except.ok.inj ((hX tx').symm.trans htx)
    exact heq ▸ htracks
  have hcarries {p : TransactionIdentifier} {tx : X.takerCoin.Tx} (hp : CarriesRecord X f p)
      (htx : X.takerCoin.parseTx p.txHex = .ok tx) : f.Carries (X.takerCoin.txHex tx) := by
    obtain ⟨tx', rfl, hcarries⟩ := hp
    have heq : tx' = tx := Except.ok.inj ((hX tx').symm.trans htx)
    exact heq ▸ hcarries
  cases event with
  | initialized =>
    cases hstate
    exact h
  | negotiated =>
    simp only [recreateState, except_bind_eq_ok, except_mapError_eq_ok] at hstate
    obtain ⟨_, _, hstate⟩ := hstate
    cases hstate
    exact h
  | takerFundingSent =>
    simp only [recreateState, except_bind_eq_ok, except_mapError_eq_ok] at hstate
    obtain ⟨_, htx, _, _, hstate⟩ := hstate
    cases hstate
    exact htracks h htx
  | takerFundingRefundRequired =>
    simp only [recreateState, except_bind_eq_ok, except_mapError_eq_ok] at hstate
    obtain ⟨_, htx, _, _, hstate⟩ := hstate
    cases hstate
    exact htracks h htx
  | makerPaymentAndFundingSpendPreimgReceived =>
    simp only [recreateState, except_bind_eq_ok, except_mapError_eq_ok] at hstate
    obtain ⟨_, _, _, htx, _, _, _, _, hstate⟩ := hstate
    cases hstate
    exact htracks h htx
  | makerPaymentConfirmed =>
    simp only [recreateState, except_bind_eq_ok, except_mapError_eq_ok] at hstate
    obtain ⟨_, _, _, htx, _, _, _, _, hstate⟩ := hstate
    cases hstate
    exact htracks h htx
  | takerPaymentSent =>
    simp only [recreateState, except_bind_eq_ok, except_mapError_eq_ok] at hstate
    obtain ⟨_, htx, _, _, _, _, hstate⟩ := hstate
    cases hstate
    exact hcarries h htx
  | takerPaymentSentAndPreimageSendingSkipped =>
    simp only [recreateState, except_bind_eq_ok, except_mapError_eq_ok] at hstate
    obtain ⟨_, htx, _, _, _, _, hstate⟩ := hstate
    cases hstate
    exact hcarries h htx
  | takerPaymentRefundRequired =>
    simp only [recreateState, except_bind_eq_ok, except_mapError_eq_ok] at hstate
    obtain ⟨_, htx, _, _, hstate⟩ := hstate
    cases hstate
    exact hcarries h htx
  | takerPaymentSpent =>
    simp only [recreateState, except_bind_eq_ok, except_mapError_eq_ok] at hstate
    obtain ⟨_, _, _, htx, _, _, _, _, hstate⟩ := hstate
    cases hstate
    exact hcarries h htx
  | makerPaymentSpent =>
    simp only [recreateState, except_bind_eq_ok, except_mapError_eq_ok] at hstate
    obtain ⟨_, _, _, _, _, _, _, _, _, _, hstate⟩ := hstate
    cases hstate
    exact h
  | aborted => cases hstate
  | completed => cases hstate
  | takerFundingRefunded => cases hstate
  | takerPaymentRefunded => cases hstate

end Tracking

/-! ## The states -/

section States

abbrev TakerView := View TakerSwapEvent TakerSwapDbRepr Funds

abbrev Here (p : TakerSwapStateMachine × Stage (TakerState X)) (v : TakerView) : Prop :=
  (tracking X).Here p v

abbrev contract (X : External) := (tracking X).contract X TakerSwapDbRepr

abbrev Env (X : External) := Tracking.Env X TakerSwapEvent TakerSwapDbRepr

abbrev PostOf (s : TakerSwapStateMachine × Stage (TakerState X)) :=
  (tracking X).PostOf X TakerSwapDbRepr s

variable {m : TakerSwapStateMachine} {p s : TakerSwapStateMachine × Stage (TakerState X)}
  {v : TakerView}

/-- Aborting before the funding. -/
theorem wp_abort (h : Here p v) (hpaid : v.data.paid = []) (reason : AbortReason) :
    (abort m reason).wp (Env X) (contract X) (PostOf s) v :=
  h.change (.aborted reason) (Funds.settled_of_paid_eq_nil hpaid)

/-- Aborting with settled funds. -/
theorem wp_abort_settled (h : Here p v) (hsettled : v.data.Settled) (reason : AbortReason) :
    (abort m reason).wp (Env X) (contract X) (PostOf s) v :=
  h.change (.aborted reason) hsettled

theorem wp_onInitialize (h : Here (m, (.start : Stage (TakerState X))) v) :
    (onInitialize m).wp (Env X) (contract X) (PostOf s) v := by
  refine wp_plain h rfl ?_
  rintro (e | makerCoinStartBlock) v h
  · exact wp_abort h h.owed _
  refine wp_plain h rfl ?_
  rintro (e | takerCoinStartBlock) v h
  · exact wp_abort h h.owed _
  refine wp_plain h rfl ?_
  rintro (e | takerPaymentFee) v h
  · exact wp_abort h h.owed _
  refine wp_plain h rfl ?_
  rintro (e | makerPaymentSpendFee) v h
  · exact wp_abort h h.owed _
  refine wp_plain h rfl ?_
  rintro (e | _) v h
  · exact wp_abort h h.owed _
  · exact h.change _ h.owed

theorem wp_initialized {self : Initialized}
    (h : Here (m, Stage.entered (.initialized self : TakerState X)) v) :
    (self.onChanged m).wp (Env X) (contract X) (PostOf s) v := by
  refine wp_recv h ?_
  rintro (e | makerNegotiation) v h
  · exact wp_abort h h.owed _
  dsimp only
  split
  · exact wp_abort h h.owed _
  refine wp_plain h rfl ?_
  intro _ v h
  refine wp_recv h ?_
  rintro (e | makerNegotiated) v h
  · exact wp_abort h h.owed _
  dsimp only
  split
  · exact h.change _ h.owed
  · exact wp_abort h h.owed _

/-- Recording the funding. -/
theorem wp_sendTakerFunding {self : TakerFundingSent X} {r : Reply (Except String X.takerCoin.Tx)}
    (hpaid : v.data.paid = []) (ha : r.answer = some (.ok self.takerFunding)) {v' : TakerView}
    (hdata : v'.data = v.data.pay X.takerCoin.txHex r) :
    (changeTo m (TakerState.takerFundingSent self)).wp (Env X) (contract X) (PostOf s) v' := by
  have htracks : v'.data.Tracks (X.takerCoin.txHex self.takerFunding) := by
    rw [hdata]
    exact Funds.tracks_pay hpaid ha
  exact wp_changeTo (TakerState.takerFundingSent self) (.inr rfl) htracks

/-- Sending the funding. -/
theorem wp_negotiated {self : Negotiated X}
    (h : Here (m, Stage.entered (.negotiated self)) v) :
    (self.onChanged m).wp (Env X) (contract X) (PostOf s) v := by
  refine (wp_call (K := contract X) (Call.sendTakerFunding _) _).mpr ⟨trivial, fun r hr => ?_⟩
  have hdata := View.react_data (Funds.observer X TakerSwapEvent TakerSwapDbRepr) v
    (.sendTakerFunding (self.sendTakerFundingArgs m)) r
  have hlast := View.react_last (Funds.observer X TakerSwapEvent TakerSwapDbRepr) v
    (c := .sendTakerFunding (self.sendTakerFundingArgs m)) nofun r
  have hunpaid (hnot : r.answer.any Except.isOk = false) := h.of_pay hr hnot hlast hdata
  refine ⟨fun hnone => (hunpaid (by rw [hnone]; rfl)).stored, ?_⟩
  rintro (e | takerFunding) ha
  · have h' := hunpaid (by rw [ha]; rfl)
    exact wp_abort h' h'.owed _
  · exact wp_sendTakerFunding h.owed ha hdata

theorem wp_takerFundingSent {self : TakerFundingSent X}
    (h : Here (m, Stage.entered (.takerFundingSent self)) v) :
    (self.onChanged m).wp (Env X) (contract X) (PostOf s) v := by
  refine wp_plain h rfl ?_
  intro _ v h
  refine wp_recv h ?_
  rintro (e | makerPaymentInfo) v h
  · exact h.change (self.refundRequired _) h.owed
  dsimp only
  split
  · exact h.change (self.refundRequired _) h.owed
  · rename_i nextState hnext
    simp only [TakerFundingSent.parseMakerPaymentInfo, except_bind_eq_ok] at hnext
    obtain ⟨_, _, _, _, _, _, hnext⟩ := hnext
    cases hnext
    exact h.change _ h.owed

/-- After the funding was spent into the taker payment. -/
theorem wp_paymentSent {makerCoinStartBlock takerCoinStartBlock : ℕ}
    {makerPayment : X.makerCoin.Tx} {negotiationData : NegotiationData X}
    {takerPayment : X.takerCoin.Tx} (h : Here p v)
    (hcarries : v.data.Carries (X.takerCoin.txHex takerPayment)) :
    (changeTo m (paymentSent makerCoinStartBlock takerCoinStartBlock makerPayment negotiationData
      takerPayment)).wp (Env X) (contract X) (PostOf s) v := by
  unfold paymentSent
  split
  · exact h.change (.takerPaymentSentAndPreimageSendingSkipped _) hcarries
  · exact h.change (.takerPaymentSent _) hcarries

/-- The funding is moved into the taker payment. -/
theorem carries_of_note {v v' : TakerView} {preimage : TxPreimageWithSig X.takerCoin}
    {args : GenTakerFundingSpendArgs X.takerCoin} {uniqueData : Bytes}
    {r : Reply (Except String X.takerCoin.Tx)} {tx : X.takerCoin.Tx}
    (hdata : v'.data = Funds.note (⟨v.now, .signAndSendTakerFundingSpend preimage args uniqueData, r⟩ :
      Entry X TakerSwapEvent TakerSwapDbRepr) v.data)
    (htracks : v.data.Tracks (X.takerCoin.txHex args.fundingTx)) (ha : r.answer = some (.ok tx)) :
    v'.data.Carries (X.takerCoin.txHex tx) := by
  rw [hdata]
  simp only [Funds.note, ha]
  exact htracks.carries_move _

theorem wp_makerPaymentAndFundingSpendPreimgReceived
    {self : MakerPaymentAndFundingSpendPreimgReceived X}
    (h : Here (m, Stage.entered (.makerPaymentAndFundingSpendPreimgReceived self)) v) :
    (self.onChanged m).wp (Env X) (contract X) (PostOf s) v := by
  refine wp_plain h rfl ?_
  rintro (e | _) v h
  · exact h.change (self.refundRequired _) h.owed
  refine wp_plain h rfl ?_
  rintro (e | _) v h
  · exact h.change (self.refundRequired _) h.owed
  refine wp_plain h rfl ?_
  rintro (_ | _) v h
  · exact h.change (self.refundRequired _) h.owed
  dsimp only
  split
  · refine wp_plain h rfl ?_
    rintro (e | _) v h
    · exact h.change (self.refundRequired _) h.owed
    · exact h.change (.makerPaymentConfirmed _) h.owed
  · refine wp_ask h rfl ?_
    rintro r (e | takerPayment) v' - ha h' hdata
    · exact h'.change (self.refundRequired _) h'.owed
    · exact wp_paymentSent h' (carries_of_note hdata h.owed ha)

theorem wp_makerPaymentConfirmed {self : MakerPaymentConfirmed X}
    (h : Here (m, Stage.entered (.makerPaymentConfirmed self)) v) :
    (self.onChanged m).wp (Env X) (contract X) (PostOf s) v := by
  refine wp_ask h rfl ?_
  rintro r (e | takerPayment) v' - ha h' hdata
  · exact h'.change (self.refundRequired _) h'.owed
  · exact wp_paymentSent h' (carries_of_note hdata h.owed ha)

theorem wp_takerFundingRefundRequired {self : TakerFundingRefundRequired X}
    (h : Here (m, Stage.entered (.takerFundingRefundRequired self)) v) :
    (self.onChanged m).wp (Env X) (contract X) (PostOf s) v := by
  refine wp_ask h rfl ?_
  intro r a v' hr ha h' hdata
  have hsettled : v'.data.Settled :=
    hdata ▸ Funds.settled_of_refund ha hr (Funds.Tracks.settled_refund h.owed)
  cases a with
  | error e => exact wp_abort_settled h' hsettled _
  | ok fundingRefundTx => exact h'.change (.takerFundingRefunded _) hsettled

theorem wp_takerPaymentSent {self : TakerPaymentSent X}
    (h : Here (m, Stage.entered (.takerPaymentSent self)) v) :
    (self.onChanged m).wp (Env X) (contract X) (PostOf s) v := by
  have hawait (v : TakerView) (h : Here (m, Stage.entered (.takerPaymentSent self)) v) :
      (self.awaitSpend m).wp (Env X) (contract X) (PostOf s) v := by
    refine wp_plain h rfl ?_
    rintro (e | preimage) v h
    · exact h.change (self.refundRequired _) h.owed
    refine wp_plain h rfl ?_
    intro _ v h
    refine wp_plain h rfl ?_
    rintro (e | takerPaymentSpend) v h
    · exact h.change (self.refundRequired _) h.owed
    · exact h.change (.takerPaymentSpent _) h.owed
  unfold TakerPaymentSent.onChanged
  split
  · exact hawait v h
  refine wp_plain h rfl ?_
  rintro (e | _) v h
  · exact h.change (self.refundRequired _) h.owed
  · exact hawait v h

theorem wp_takerPaymentSentSkipped {self : TakerPaymentSentAndPreimageSendingSkipped X}
    (h : Here (m, Stage.entered (.takerPaymentSentAndPreimageSendingSkipped self)) v) :
    (self.onChanged m).wp (Env X) (contract X) (PostOf s) v := by
  have hawait (v : TakerView)
      (h : Here (m, Stage.entered (.takerPaymentSentAndPreimageSendingSkipped self)) v) :
      (self.awaitSpend m).wp (Env X) (contract X) (PostOf s) v := by
    refine wp_plain h rfl ?_
    rintro (e | takerPaymentSpend) v h
    · exact h.change (self.refundRequired _) h.owed
    · exact h.change (.takerPaymentSpent _) h.owed
  unfold TakerPaymentSentAndPreimageSendingSkipped.onChanged
  split
  · exact hawait v h
  refine wp_plain h rfl ?_
  rintro (e | _) v h
  · exact h.change (self.refundRequired _) h.owed
  · exact hawait v h

theorem wp_takerPaymentRefundRequired {self : TakerPaymentRefundRequired X}
    (h : Here (m, Stage.entered (.takerPaymentRefundRequired self)) v) :
    (self.onChanged m).wp (Env X) (contract X) (PostOf s) v := by
  refine wp_plain h rfl ?_
  rintro (e | _ | toSleep) v h
  · exact wp_plain h rfl fun _ v' h' => h'
  · refine wp_ask h rfl ?_
    intro r a v' hr ha h' hdata
    have hsettled : v'.data.Settled :=
      hdata ▸ Funds.settled_of_refund ha hr (Funds.Carries.settled_refund h.owed)
    cases a with
    | error e => exact wp_abort_settled h' hsettled _
    | ok takerPaymentRefund => exact h'.change (.takerPaymentRefunded _) hsettled
  · exact wp_plain h rfl fun _ v' h' => h'

theorem wp_takerPaymentSpent {self : TakerPaymentSpent X}
    (h : Here (m, Stage.entered (.takerPaymentSpent self)) v) :
    (self.onChanged m).wp (Env X) (contract X) (PostOf s) v := by
  refine wp_ask h rfl ?_
  rintro r (e | secret) v' hr ha h' hdata
  · have hsettled : v.data.Settled := hr (Reply.failed_of_error ha)
    exact wp_abort_settled h' (hdata ▸ hsettled) _
  refine wp_ask h' rfl ?_
  intro r a v'' hr ha h'' hdata
  have hsettled : v''.data.Settled := hdata ▸ Funds.settled_of_take ha hr
  cases a with
  | error e => exact wp_abort_settled h'' hsettled _
  | ok makerPaymentSpend =>
    refine h''.change (.makerPaymentSpent _) ?_
    change v''.data.taken = true
    rw [hdata]
    simp [Funds.note, Funds.take, Reply.took_of_ok ha]

theorem wp_makerPaymentSpent {self : MakerPaymentSpent X}
    (h : Here (m, Stage.entered (.makerPaymentSpent self)) v) :
    (self.onChanged m).wp (Env X) (contract X) (PostOf s) v := by
  unfold MakerPaymentSpent.onChanged
  split
  · refine wp_plain h rfl ?_
    rintro (e | _) v h
    · exact h.change (.takerPaymentRefundRequired _) (.inl (.inl h.owed))
    · exact h.change .completed (.inl h.owed)
  · exact h.change .completed (.inl h.owed)

theorem wp_onChanged {state : TakerState X} (h : Here (m, Stage.entered state) v) :
    (state.onChanged m).wp (Env X) (contract X) (PostOf (m, .entered state)) v := by
  cases state with
  | initialized _ => exact wp_initialized h
  | negotiated _ => exact wp_negotiated h
  | takerFundingSent _ => exact wp_takerFundingSent h
  | makerPaymentAndFundingSpendPreimgReceived _ =>
    exact wp_makerPaymentAndFundingSpendPreimgReceived h
  | takerPaymentSent _ => exact wp_takerPaymentSent h
  | takerPaymentSentAndPreimageSendingSkipped _ => exact wp_takerPaymentSentSkipped h
  | takerFundingRefundRequired _ => exact wp_takerFundingRefundRequired h
  | takerPaymentRefundRequired _ => exact wp_takerPaymentRefundRequired h
  | makerPaymentConfirmed _ => exact wp_makerPaymentConfirmed h
  | takerPaymentSpent _ => exact wp_takerPaymentSpent h
  | makerPaymentSpent _ => exact wp_makerPaymentSpent h
  | aborted _ => exact h.finish rfl
  | completed => exact h.finish rfl
  | takerFundingRefunded _ => exact h.finish rfl
  | takerPaymentRefunded _ => exact h.finish rfl

theorem verified (hX : X.takerCoin.Lawful) :
    Verified (takerSwap X).machine (Env X)
      (Funds.observer X TakerSwapEvent TakerSwapDbRepr).view (contract X) Here
      (fun _ => (tracking X).Done) := by
  refine Tracking.verified (fun m v h => wp_onInitialize h) (fun m state v h => wp_onChanged h) ?_
  intro repr events m state hm
  obtain ⟨-, event, hevent, hstate⟩ := exists_of_recreateMachine hm
  exact ⟨event, hevent, fun f h => owed_of_recreateState hX hstate h⟩

/-- Every reply of the event list is harmless. -/
abbrev Harmless (X : External) :
    Config (Call X TakerSwapEvent TakerSwapDbRepr) Call.Answer
        (World X TakerSwapEvent TakerSwapDbRepr) (TakerSwapStateMachine × Stage (TakerState X)) →
      Event (Call X TakerSwapEvent TakerSwapDbRepr) Call.Answer → Prop :=
  Keeps (contract X) (Funds.observer X TakerSwapEvent TakerSwapDbRepr).view

theorem notAbandoned_of_harmless (hX : X.takerCoin.Lawful) (m : TakerSwapStateMachine) (now : ℕ)
    (es : List (Event (Call X TakerSwapEvent TakerSwapDbRepr) Call.Answer))
    (hes : Runs.Meets (fun x e => some ((takerSwap X).machine.step x e)) (Harmless X)
      ((takerSwap X).start m now) es) (c : Call X TakerSwapEvent TakerSwapDbRepr)
    (hc : ((takerSwap X).machine.run ((takerSwap X).start m now) es).pending = some c) :
    (tracking X).NotAbandoned ((Funds.observer X TakerSwapEvent TakerSwapDbRepr).view
      ((takerSwap X).machine.run ((takerSwap X).start m now) es).world) c := by
  have hstart : Here (m, (.start : Stage (TakerState X)))
      ((Funds.observer X TakerSwapEvent TakerSwapDbRepr).view (World.fresh now)) := ⟨rfl, rfl⟩
  exact (verified hX).pre_of_run (x := (takerSwap X).start m now) (wp_runFrom hstart) hes hc

end States

end DeXFG.SwapV2.TakerSwap.TakerFunds
