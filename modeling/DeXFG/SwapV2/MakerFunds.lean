import DeXFG.SwapV2.Funds
import DeXFG.SwapV2.MakerStates

/-!
# The maker's funds

From the record of its payment on, the maker either has it back, has the taker's
payment, or works in a state that knows the payment.
-/
namespace DeXFG.SwapV2.MakerSwap.MakerFunds
open Library Library.Process Library.DurableMachine Tracking

variable {X : External}

/-- What the state knows of the own payment. -/
def Owed (f : Funds) : MakerState X → Prop
  | .initialized _ => f.paid = []
  | .waitingForTakerFunding _ => f.paid = []
  | .takerFundingReceived _ => f.paid = []
  | .makerPaymentSentFundingSpendGenerated s => f.Tracks (X.makerCoin.txHex s.makerPayment)
  | .makerPaymentRefundRequired s => f.Tracks (X.makerCoin.txHex s.makerPayment)
  | .takerPaymentReceived s => f.Tracks (X.makerCoin.txHex s.makerPayment)
  | .takerPaymentReceivedAndPreimageValidationSkipped s =>
    f.Tracks (X.makerCoin.txHex s.makerPayment)
  | .takerPaymentSpent _ => f.taken = true
  | _ => f.Settled

/-- What a record knows of the own payment. -/
def OwedRecord (X : External) (f : Funds) : MakerSwapEvent → Prop
  | .initialized .. => f.paid = []
  | .waitingForTakerFunding .. => f.paid = []
  | .takerFundingReceived .. => f.paid = []
  | .makerPaymentSentFundingSpendGenerated _ _ _ p _ _ =>
    ∃ tx, p = X.makerCoin.identifier tx ∧ f.Tracks p.txHex
  | .makerPaymentRefundRequired _ _ _ p _ => ∃ tx, p = X.makerCoin.identifier tx ∧ f.Tracks p.txHex
  | .takerPaymentReceived _ _ _ p _ => ∃ tx, p = X.makerCoin.identifier tx ∧ f.Tracks p.txHex
  | .takerPaymentReceivedAndPreimageValidationSkipped _ _ _ p _ =>
    ∃ tx, p = X.makerCoin.identifier tx ∧ f.Tracks p.txHex
  | .takerPaymentSpent .. => f.taken = true
  | _ => f.Settled

theorem OwedRecord.mono {f f' : Funds} {event : MakerSwapEvent} (h : OwedRecord X f event)
    (hf : f.Grows f') : OwedRecord X f' event := by
  cases event with
  | initialized => exact hf.paid.trans h
  | waitingForTakerFunding => exact hf.paid.trans h
  | takerFundingReceived => exact hf.paid.trans h
  | takerPaymentSpent => exact hf.taken h
  | aborted => exact Funds.Settled.mono h hf
  | completed => exact Funds.Settled.mono h hf
  | makerPaymentRefunded => exact Funds.Settled.mono h hf
  | _ =>
    obtain ⟨tx, htx, htracks⟩ := h
    exact ⟨tx, htx, htracks.mono hf⟩

theorem Owed.mono {f f' : Funds} {state : MakerState X} (h : Owed f state) (hf : f.Grows f') :
    Owed f' state := by
  cases state with
  | initialized => exact hf.paid.trans h
  | waitingForTakerFunding => exact hf.paid.trans h
  | takerFundingReceived => exact hf.paid.trans h
  | takerPaymentSpent => exact hf.taken h
  | aborted => exact Funds.Settled.mono h hf
  | completed => exact Funds.Settled.mono h hf
  | makerPaymentRefunded => exact Funds.Settled.mono h hf
  | _ => exact Funds.Tracks.mono h hf

/-- The maker tracks its payment. -/
def tracking (X : External) : Tracking (MakerState X) MakerSwapEvent where
  getEvent := MakerState.getEvent
  isTerminal event := event.kind.isTerminal
  isFirst event := event.kind = .makerPaymentSentFundingSpendGenerated
  state := Owed
  record := OwedRecord X
  state_mono := Owed.mono
  record_mono := OwedRecord.mono
  record_getEvent := by
    intro f state h
    cases state with
    | makerPaymentSentFundingSpendGenerated s => exact ⟨_, rfl, h⟩
    | makerPaymentRefundRequired s => exact ⟨_, rfl, h⟩
    | takerPaymentReceived s => exact ⟨_, rfl, h⟩
    | takerPaymentReceivedAndPreimageValidationSkipped s => exact ⟨_, rfl, h⟩
    | _ => exact h
  settled := by
    intro f state hlast h
    cases state with
    | aborted => exact h
    | completed => exact h
    | makerPaymentRefunded => exact h
    | _ => cases hlast

/-- The recreated state knows as much as its record. -/
theorem owed_of_recreateState (hX : X.makerCoin.Lawful) {f : Funds} {event : MakerSwapEvent}
    {state : MakerState X} (hstate : recreateState X event = .ok state)
    (h : OwedRecord X f event) : Owed f state := by
  have hparse {p : TransactionIdentifier} {tx : X.makerCoin.Tx}
      (hp : ∃ tx, p = X.makerCoin.identifier tx ∧ f.Tracks p.txHex)
      (htx : X.makerCoin.parseTx p.txHex = .ok tx) : f.Tracks (X.makerCoin.txHex tx) := by
    obtain ⟨tx', rfl, htracks⟩ := hp
    have heq : tx' = tx := Except.ok.inj ((hX tx').symm.trans htx)
    exact heq ▸ htracks
  cases event with
  | initialized =>
    cases hstate
    exact h
  | waitingForTakerFunding =>
    simp only [recreateState, except_bind_eq_ok, except_mapError_eq_ok] at hstate
    obtain ⟨_, _, hstate⟩ := hstate
    cases hstate
    exact h
  | takerFundingReceived =>
    simp only [recreateState, except_bind_eq_ok, except_mapError_eq_ok] at hstate
    obtain ⟨_, _, _, _, hstate⟩ := hstate
    cases hstate
    exact h
  | makerPaymentSentFundingSpendGenerated =>
    simp only [recreateState, except_bind_eq_ok, except_mapError_eq_ok] at hstate
    obtain ⟨_, _, _, _, _, _, _, htx, hstate⟩ := hstate
    cases hstate
    exact hparse h htx
  | makerPaymentRefundRequired =>
    simp only [recreateState, except_bind_eq_ok, except_mapError_eq_ok] at hstate
    obtain ⟨_, _, _, htx, hstate⟩ := hstate
    cases hstate
    exact hparse h htx
  | takerPaymentReceived =>
    simp only [recreateState, except_bind_eq_ok, except_mapError_eq_ok] at hstate
    obtain ⟨_, htx, _, _, _, _, hstate⟩ := hstate
    cases hstate
    exact hparse h htx
  | takerPaymentReceivedAndPreimageValidationSkipped =>
    simp only [recreateState, except_bind_eq_ok, except_mapError_eq_ok] at hstate
    obtain ⟨_, htx, _, _, _, _, hstate⟩ := hstate
    cases hstate
    exact hparse h htx
  | takerPaymentSpent =>
    simp only [recreateState, except_bind_eq_ok, except_mapError_eq_ok] at hstate
    obtain ⟨_, _, _, _, _, _, _, _, hstate⟩ := hstate
    cases hstate
    exact h
  | aborted => cases hstate
  | completed => cases hstate
  | makerPaymentRefunded => cases hstate

/-! ## The states -/

section States

abbrev MakerView := View MakerSwapEvent MakerSwapDbRepr Funds

abbrev Here (p : MakerSwapStateMachine × Stage (MakerState X)) (v : MakerView) : Prop :=
  (tracking X).Here p v

abbrev contract (X : External) := (tracking X).contract X MakerSwapDbRepr

abbrev Env (X : External) := Tracking.Env X MakerSwapEvent MakerSwapDbRepr

abbrev PostOf (s : MakerSwapStateMachine × Stage (MakerState X)) :=
  (tracking X).PostOf X MakerSwapDbRepr s

variable {m : MakerSwapStateMachine} {s : MakerSwapStateMachine × Stage (MakerState X)}
  {v : MakerView}

/-- Aborting before the payment. -/
theorem wp_abort {p : MakerSwapStateMachine × Stage (MakerState X)} (h : Here p v)
    (hpaid : v.data.paid = []) (reason : AbortReason) :
    (abort m reason).wp (Env X) (contract X) (PostOf s) v :=
  h.change (.aborted reason) (Funds.settled_of_paid_eq_nil hpaid)

theorem wp_onInitialize (h : Here (m, (.start : Stage (MakerState X))) v) :
    (onInitialize m).wp (Env X) (contract X) (PostOf s) v := by
  refine wp_plain h rfl ?_
  rintro (e | makerCoinStartBlock) v h
  · exact wp_abort h h.owed _
  refine wp_plain h rfl ?_
  rintro (e | takerCoinStartBlock) v h
  · exact wp_abort h h.owed _
  refine wp_plain h rfl ?_
  rintro (e | makerPaymentTradeFee) v h
  · exact wp_abort h h.owed _
  refine wp_plain h rfl ?_
  rintro (e | takerPaymentSpendTradeFee) v h
  · exact wp_abort h h.owed _
  refine wp_plain h rfl ?_
  rintro (e | _) v h
  · exact wp_abort h h.owed _
  · exact h.change _ h.owed

theorem wp_initialized {self : Initialized}
    (h : Here (m, Stage.entered (.initialized self : MakerState X)) v) :
    (self.onChanged m).wp (Env X) (contract X) (PostOf s) v := by
  refine wp_plain h rfl ?_
  intro _ v h
  refine wp_plain h rfl ?_
  intro _ v h
  refine wp_recv h ?_
  rintro (e | ⟨_ | takerData | reason⟩) v h
  · exact wp_abort h h.owed _
  · exact wp_abort h h.owed _
  · dsimp only
    split
    · exact wp_abort h h.owed _
    · exact h.change _ h.owed
  · exact wp_abort h h.owed _

theorem wp_waitingForTakerFunding {self : WaitingForTakerFunding X}
    (h : Here (m, Stage.entered (.waitingForTakerFunding self)) v) :
    (self.onChanged m).wp (Env X) (contract X) (PostOf s) v := by
  refine wp_plain h rfl ?_
  intro _ v h
  refine wp_recv h ?_
  rintro (e | takerFundingInfo) v h
  · exact wp_abort h h.owed _
  dsimp only
  split
  · exact wp_abort h h.owed _
  · exact h.change _ h.owed

theorem wp_fundingGate {self : TakerFundingReceived X}
    (h : Here (m, Stage.entered (.takerFundingReceived self)) v) :
    (self.fundingGate m).wp (Env X) (contract X)
      (fun _ => Here (m, Stage.entered (.takerFundingReceived self))) v := by
  unfold TakerFundingReceived.fundingGate
  refine wp_plain h rfl ?_
  intro visible v h
  dsimp only
  split
  · refine wp_plain h rfl ?_
    rintro (e | _) v h
    · exact h
    · exact h
  · cases visible <;> exact h

/-- Sending the payment. -/
theorem wp_sendMakerPayment {self : TakerFundingReceived X}
    (h : Here (m, Stage.entered (.takerFundingReceived self)) v)
    {k : Except String X.makerCoin.Tx → MakerProc X}
    (herror : ∀ e v', Here (m, Stage.entered (.takerFundingReceived self)) v' →
      (k (.error e)).wp (Env X) (contract X) (PostOf s) v')
    (hok : ∀ tx v', v'.data.Tracks (X.makerCoin.txHex tx) →
      (k (.ok tx)).wp (Env X) (contract X) (PostOf s) v') :
    (ask (.sendMakerPaymentV2 (self.sendMakerPaymentArgs m)) >>= k).wp (Env X) (contract X)
      (PostOf s) v := by
  refine (wp_call (K := contract X) (Call.sendMakerPaymentV2 _) k).mpr
    ⟨trivial, fun r hr => ?_⟩
  have hdata := View.react_data (Funds.observer X MakerSwapEvent MakerSwapDbRepr) v
    (.sendMakerPaymentV2 (self.sendMakerPaymentArgs m)) r
  have hlast := View.react_last (Funds.observer X MakerSwapEvent MakerSwapDbRepr) v
    (c := .sendMakerPaymentV2 (self.sendMakerPaymentArgs m)) nofun r
  have hunpaid (hnot : r.answer.any Except.isOk = false) := h.of_pay hr hnot hlast hdata
  refine ⟨fun hnone => (hunpaid (by rw [hnone]; rfl)).stored, ?_⟩
  rintro (e | tx) ha
  · exact herror e _ (hunpaid (by rw [ha]; rfl))
  · exact hok tx _ (hdata ▸ Funds.tracks_pay h.owed ha)

theorem wp_takerFundingReceived {self : TakerFundingReceived X}
    (h : Here (m, Stage.entered (.takerFundingReceived self)) v) :
    (self.onChanged m).wp (Env X) (contract X) (PostOf s) v := by
  refine wp_plain h rfl ?_
  rintro (e | _) v h
  · exact wp_abort h h.owed _
  refine (wp_bind _ _).mpr (wp_mono _ ?_ (wp_fundingGate h))
  rintro (e | _) v h
  · exact wp_abort h h.owed _
  refine wp_plain h rfl ?_
  rintro (e | fundingSpendPreimage) v h
  · exact wp_abort h h.owed _
  refine wp_sendMakerPayment h (fun e v h => wp_abort h h.owed _) fun makerPayment v htracks => ?_
  exact wp_changeTo _ (.inr rfl) htracks

theorem wp_searchLoop {self : MakerPaymentSentFundingSpendGenerated X} {waitUntil passes : ℕ}
    (h : Here (m, Stage.entered (.makerPaymentSentFundingSpendGenerated self)) v) :
    (self.searchLoop m waitUntil passes).wp (Env X) (contract X) (PostOf s) v := by
  induction passes generalizing v with
  | zero => exact h.change (self.refundRequired .takerFundingNotSpentInTime) h.owed
  | succ passes ih =>
    change Proc.wp _ _ (if v.now > waitUntil then _ else _) _ _
    split
    · exact h.change _ h.owed
    · refine wp_plain h rfl ?_
      rintro (e | _ | spend) v h
      · cases e with
        | rpc e => exact wp_plain h rfl fun _ v' h' => ih h'
        | _ => exact h.change _ h.owed
      · exact wp_plain h rfl fun _ v' h' => ih h'
      · cases spend with
        | transferredToTakerPayment takerPayment =>
          dsimp only
          unfold MakerPaymentSentFundingSpendGenerated.received
          split
          · exact h.change _ h.owed
          · exact h.change _ h.owed
        | refundedTimelock tx => exact h.change _ h.owed
        | refundedSecret tx secret => exact h.change _ h.owed

theorem wp_makerPaymentSent {self : MakerPaymentSentFundingSpendGenerated X}
    (h : Here (m, Stage.entered (.makerPaymentSentFundingSpendGenerated self)) v) :
    (self.onChanged m).wp (Env X) (contract X) (PostOf s) v := by
  refine wp_plain h rfl ?_
  exact fun _ v h => wp_searchLoop h

theorem wp_makerPaymentRefundRequired {self : MakerPaymentRefundRequired X}
    (h : Here (m, Stage.entered (.makerPaymentRefundRequired self)) v) :
    (self.onChanged m).wp (Env X) (contract X)
      (PostOf (m, .entered (.makerPaymentRefundRequired self))) v := by
  unfold MakerPaymentRefundRequired.onChanged
  split
  · refine wp_ask h rfl ?_
    intro r a v' hr ha h' hdata
    have hsettled : v'.data.Settled :=
      hdata ▸ Funds.settled_of_refund ha hr (Funds.Tracks.settled_refund h.owed)
    cases a with
    | error e => exact h'.change (.aborted _) hsettled
    | ok makerPaymentRefund => exact h'.change (self.refunded _) hsettled
  · refine wp_plain h rfl ?_
    rintro (e | _ | toSleep) v h
    · exact wp_plain h rfl fun _ v' h' => h'
    · refine wp_ask h rfl ?_
      intro r a v' hr ha h' hdata
      have hsettled : v'.data.Settled :=
        hdata ▸ Funds.settled_of_refund ha hr (Funds.Tracks.settled_refund h.owed)
      cases a with
      | error e => exact h'.change (.aborted _) hsettled
      | ok makerPaymentRefund => exact h'.change (self.refunded _) hsettled
    · exact wp_plain h rfl fun _ v' h' => h'

/-- The taker's payment was spent. -/
theorem taken_of_note {v v' : MakerView} {preimage : Option (TxPreimageWithSig X.takerCoin)}
    {args : GenTakerPaymentSpendArgs X.takerCoin} {secret uniqueData : Bytes}
    {r : Reply (Except String X.takerCoin.Tx)} {tx : X.takerCoin.Tx}
    (ha : r.answer = some (.ok tx))
    (hdata : v'.data = Funds.note
      (⟨v.now, .signAndBroadcastTakerPaymentSpend preimage args secret uniqueData, r⟩ :
        Entry X MakerSwapEvent MakerSwapDbRepr) v.data) : v'.data.taken = true := by
  rw [hdata]
  simp [Funds.note, Funds.take, Reply.took_of_ok ha]

theorem wp_takerPaymentReceived {self : TakerPaymentReceived X}
    (h : Here (m, Stage.entered (.takerPaymentReceived self)) v) :
    (self.onChanged m).wp (Env X) (contract X) (PostOf s) v := by
  refine wp_plain h rfl ?_
  rintro (e | _) v h
  · exact h.change _ h.owed
  refine wp_recv h ?_
  rintro (e | preimageData) v h
  · exact h.change _ h.owed
  refine wp_plain h rfl ?_
  intro makerAddress v h
  dsimp only
  split
  · exact h.change _ h.owed
  split
  · exact h.change _ h.owed
  refine wp_plain h rfl ?_
  rintro (e | _) v h
  · exact h.change _ h.owed
  refine wp_ask h rfl ?_
  rintro r (e | takerPaymentSpend) v' - ha h' hdata
  · exact h'.change _ h'.owed
  · exact h'.change _ (taken_of_note ha hdata)

theorem wp_takerPaymentReceivedSkipped
    {self : TakerPaymentReceivedAndPreimageValidationSkipped X}
    (h : Here (m, Stage.entered (.takerPaymentReceivedAndPreimageValidationSkipped self)) v) :
    (self.onChanged m).wp (Env X) (contract X) (PostOf s) v := by
  refine wp_plain h rfl ?_
  rintro (e | _) v h
  · exact h.change _ h.owed
  refine wp_plain h rfl ?_
  intro makerAddress v h
  refine wp_ask h rfl ?_
  rintro r (e | takerPaymentSpend) v' - ha h' hdata
  · exact h'.change _ h'.owed
  · exact h'.change _ (taken_of_note ha hdata)

theorem wp_takerPaymentSpent {self : TakerPaymentSpent X}
    (h : Here (m, Stage.entered (.takerPaymentSpent self)) v) :
    (self.onChanged m).wp (Env X) (contract X) (PostOf s) v := by
  unfold TakerPaymentSpent.onChanged
  split
  · refine wp_plain h rfl ?_
    rintro (e | _) v h
    · exact h.change _ (.inl (.inl h.owed))
    · exact h.change .completed (.inl h.owed)
  · exact h.change .completed (.inl h.owed)

theorem wp_onChanged {state : MakerState X} (h : Here (m, Stage.entered state) v) :
    (state.onChanged m).wp (Env X) (contract X) (PostOf (m, .entered state)) v := by
  cases state with
  | initialized _ => exact wp_initialized h
  | waitingForTakerFunding _ => exact wp_waitingForTakerFunding h
  | takerFundingReceived _ => exact wp_takerFundingReceived h
  | makerPaymentSentFundingSpendGenerated _ => exact wp_makerPaymentSent h
  | makerPaymentRefundRequired _ => exact wp_makerPaymentRefundRequired h
  | takerPaymentReceived _ => exact wp_takerPaymentReceived h
  | takerPaymentReceivedAndPreimageValidationSkipped _ => exact wp_takerPaymentReceivedSkipped h
  | takerPaymentSpent _ => exact wp_takerPaymentSpent h
  | aborted _ => exact h.finish rfl
  | completed => exact h.finish rfl
  | makerPaymentRefunded _ => exact h.finish rfl

theorem verified (hX : X.makerCoin.Lawful) :
    Verified (makerSwap X).machine (Env X)
      (Funds.observer X MakerSwapEvent MakerSwapDbRepr).view (contract X) Here
      (fun _ => (tracking X).Done) := by
  refine Tracking.verified (fun m v h => wp_onInitialize h) (fun m state v h => wp_onChanged h) ?_
  intro repr events m state hm
  obtain ⟨-, event, hevent, hstate⟩ := exists_of_recreateMachine hm
  exact ⟨event, hevent, fun f h => owed_of_recreateState hX hstate h⟩

/-- Every reply of the event list is harmless. -/
abbrev Harmless (X : External) :
    Config (Call X MakerSwapEvent MakerSwapDbRepr) Call.Answer
        (World X MakerSwapEvent MakerSwapDbRepr) (MakerSwapStateMachine × Stage (MakerState X)) →
      Event (Call X MakerSwapEvent MakerSwapDbRepr) Call.Answer → Prop :=
  Keeps (contract X) (Funds.observer X MakerSwapEvent MakerSwapDbRepr).view

theorem notAbandoned_of_harmless (hX : X.makerCoin.Lawful) (m : MakerSwapStateMachine) (now : ℕ)
    (es : List (Event (Call X MakerSwapEvent MakerSwapDbRepr) Call.Answer))
    (hes : Runs.Meets (fun x e => some ((makerSwap X).machine.step x e)) (Harmless X)
      ((makerSwap X).start m now) es) (c : Call X MakerSwapEvent MakerSwapDbRepr)
    (hc : ((makerSwap X).machine.run ((makerSwap X).start m now) es).pending = some c) :
    (tracking X).NotAbandoned ((Funds.observer X MakerSwapEvent MakerSwapDbRepr).view
      ((makerSwap X).machine.run ((makerSwap X).start m now) es).world) c := by
  have hstart : Here (m, (.start : Stage (MakerState X)))
      ((Funds.observer X MakerSwapEvent MakerSwapDbRepr).view (World.fresh now)) := ⟨rfl, rfl⟩
  exact (verified hX).pre_of_run (x := (makerSwap X).start m now) (wp_runFrom hstart) hes hc

end States

end DeXFG.SwapV2.MakerSwap.MakerFunds
