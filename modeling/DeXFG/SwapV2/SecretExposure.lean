import DeXFG.SwapV2.Observed
import DeXFG.SwapV2.TakerStates

/-!
# When the taker's secret gets known

The refund of the taker funding publishes the taker's secret, with which the
maker takes its payment back at once. A spend of the same funding conflicts with
the refund on the chain, but either of them may be confirmed. Both must not be
broadcast.
-/
namespace DeXFG.SwapV2.TakerSwap.SecretExposure
open Library Library.Process Library.DurableMachine

variable {X : External}

abbrev TakerCall (X : External) := Call X TakerSwapEvent TakerSwapDbRepr

/-- What the taker has done with the funding: a spend that it signed was broadcast, the secret was
handed to the refund, the refund with the secret was broadcast. -/
structure Exposure where
  spend : Bool
  handed : Bool
  published : Bool
  deriving DecidableEq, Repr

/-- The transaction that takes the funding on the chain. -/
inductive FundingTaker where
  | nobody
  | spend
  | refund
  deriving DecidableEq, Repr

namespace Exposure

/-- Any of the conflicting transactions that were broadcast may be confirmed, but only one. -/
def MayConfirm (d : Exposure) : FundingTaker → Prop
  | .nobody => True
  | .spend => d.spend = true
  | .refund => d.published = true

/-- The published secret takes the maker payment back, whatever becomes of the refund. -/
def MakerReclaims (d : Exposure) : Prop := d.published = true

/-- The maker's secret spends the taker payment, which the funding spend creates. -/
def MakerSpends (taker : FundingTaker) : Prop := taker = .spend

/-- However the chain decides, the maker does not get both payments. -/
def NoDoubleClaim (d : Exposure) : Prop :=
  ∀ taker, d.MayConfirm taker → ¬ (d.MakerReclaims ∧ MakerSpends taker)

theorem noDoubleClaim_iff (d : Exposure) :
    d.NoDoubleClaim ↔ ¬ (d.spend = true ∧ d.published = true) := by
  constructor
  · rintro h ⟨hspend, hpublished⟩
    exact h .spend hspend ⟨hpublished, rfl⟩
  · rintro h taker htaker ⟨hpublished, rfl⟩
    exact h ⟨htaker, hpublished⟩

instance (d : Exposure) : Decidable d.NoDoubleClaim :=
  decidable_of_iff _ (noDoubleClaim_iff d).symm

end Exposure

def note (e : Entry X TakerSwapEvent TakerSwapDbRepr) (d : Exposure) : Exposure :=
  match e with
  | ⟨_, .signAndSendTakerFundingSpend .., r⟩ => { d with spend := d.spend || r.took }
  | ⟨_, .refundTakerFundingSecret _, r⟩ =>
    { d with handed := true, published := d.published || r.took }
  | _ => d

def observer (X : External) : Observer X TakerSwapEvent TakerSwapDbRepr Exposure where
  init := { spend := false, handed := false, published := false }
  note := note

abbrev TakerView := View TakerSwapEvent TakerSwapDbRepr Exposure

/-- The secret is handed out only when the funding was not spent, and afterwards the funding is
not spent any more. -/
def MayExpose (v : TakerView) : TakerCall X → Prop
  | .refundTakerFundingSecret _ => v.data.spend = false
  | .signAndSendTakerFundingSpend .. => v.data.handed = false
  | _ => True

instance decidableMayExpose (v : TakerView) (c : TakerCall X) : Decidable (MayExpose v c) := by
  cases c <;> dsimp only [MayExpose] <;> infer_instance

/-- The replies that do not lead a taker that has spent its funding into the refund. -/
def steady (v : TakerView) : (c : TakerCall X) → Reply c.Answer → Prop
  | .validateMakerPaymentV2 _, r => v.data.spend = true → r.failed = false
  | .validateTakerFundingSpendPreimage _ _, r => v.data.spend = true → r.failed = false
  | .ensureTxIsBroadcasted .., r => v.data.spend = true → r.answer ≠ some false
  | .waitForConfirmations _ _, r =>
    v.data.spend = true →
    v.last.map (·.kind) = some .makerPaymentAndFundingSpendPreimgReceived → r.failed = false
  | .signAndSendTakerFundingSpend .., r =>
    r.failed = true → v.data.spend = false ∧ r.reached = false
  | _, _ => True

instance decidableSteady (v : TakerView) (c : TakerCall X) (r : Reply c.Answer) :
    Decidable (steady v c r) := by
  cases c <;> dsimp only [steady] <;> infer_instance

/-- What the record says about the funding. -/
def Fits (d : Exposure) : Option TakerStateKind → Prop
  | some .makerPaymentAndFundingSpendPreimgReceived => d.handed = false
  | some .makerPaymentConfirmed => d.handed = false
  | some .takerFundingRefundRequired => d.spend = false
  | none => d.spend = false ∧ d.handed = false
  | some .initialized => d.spend = false ∧ d.handed = false
  | some .negotiated => d.spend = false ∧ d.handed = false
  | some .takerFundingSent => d.spend = false ∧ d.handed = false
  | _ => True

/-- Whenever the taker is stopped, its record fits to what it did with the funding. -/
def Stored (v : TakerView) : Prop := Fits v.data (v.last.map (·.kind))

def contract (X : External) : Contract (TakerCall X) Call.Answer TakerView where
  allowed := steady
  pre := MayExpose
  stopped := Stored

instance (v : TakerView) (c : TakerCall X) (r : Reply c.Answer) :
    Decidable ((contract X).allowed v c r) := decidableSteady v c r

/-! ## Standing in a state -/

def stageKind : Stage (TakerState X) → Option TakerStateKind
  | .start => none
  | .entered s => some s.kind

/-- The machine works in a state. -/
structure Here (p : TakerSwapStateMachine × Stage (TakerState X)) (v : TakerView) : Prop where
  last : v.last.map (·.kind) = stageKind p.2
  fits : Fits v.data (stageKind p.2)

section Rules

variable {m : TakerSwapStateMachine} {p s : TakerSwapStateMachine × Stage (TakerState X)}
  {v : TakerView}

abbrev Env (X : External) := View.env (observer X)

abbrev PostOf (s : TakerSwapStateMachine × Stage (TakerState X)) :=
  Post (contract X) Here (fun _ => Stored) s

theorem Here.stored (h : Here p v) : Stored v := by
  unfold Stored
  rw [h.last]
  exact h.fits

/-- The call neither stores an event nor touches the funding. -/
def isPlain : TakerCall X → Bool
  | .storeEvent _ => false
  | .signAndSendTakerFundingSpend .. => false
  | .refundTakerFundingSecret _ => false
  | _ => true

theorem mayExpose_of_isPlain {c : TakerCall X} (hc : isPlain c = true) : MayExpose v c := by
  cases c <;> trivial

theorem last_react {c : TakerCall X} (hc : isPlain c = true) (r : Reply c.Answer) :
    (v.react (observer X) c r).last = v.last :=
  View.react_last (observer X) v (by rintro _ rfl; cases hc) r

theorem data_react {c : TakerCall X} (hc : isPlain c = true) (r : Reply c.Answer) :
    (v.react (observer X) c r).data = v.data := by
  rw [View.react_data]
  cases c <;> first | rfl | cases hc

/-- A plain call leaves the machine where it is. -/
theorem Here.react (h : Here p v) {c : TakerCall X} (hc : isPlain c = true)
    (r : Reply c.Answer) : Here p (v.react (observer X) c r) where
  last := (congrArg _ (last_react hc r)).trans h.last
  fits := by
    rw [data_react hc]
    exact h.fits

/-- Rule for a plain call. -/
theorem wp_ask {α : Type} {c : TakerCall X}
    {k : c.Answer → SwapProc X TakerSwapEvent TakerSwapDbRepr α} {Q : α → TakerView → Prop}
    (h : Here p v) (hc : isPlain c = true)
    (hk : ∀ r a v', steady v c r → r.answer = some a → Here p v' → v'.data = v.data →
      (k a).wp (Env X) (contract X) Q v') :
    (ask c >>= k).wp (Env X) (contract X) Q v := by
  apply (wp_call c k).mpr
  constructor
  · exact mayExpose_of_isPlain hc
  intro r hr
  constructor
  · exact fun _ => (h.react hc r).stored
  · exact fun a ha => hk r a _ hr ha (h.react hc r) (data_react hc r)

/-- Rule for a plain call whose reply does not matter. -/
theorem wp_plain {α : Type} {c : TakerCall X}
    {k : c.Answer → SwapProc X TakerSwapEvent TakerSwapDbRepr α} {Q : α → TakerView → Prop}
    (h : Here p v) (hc : isPlain c = true)
    (hk : ∀ a v', Here p v' → (k a).wp (Env X) (contract X) Q v') :
    (ask c >>= k).wp (Env X) (contract X) Q v :=
  wp_ask h hc fun _ a v' _ _ h' _ => hk a v' h'

/-- Rule for a message. -/
theorem wp_recv {field : MsgField} {timeout : ℕ} {α : Type}
    {k : Except String field.Message → SwapProc X TakerSwapEvent TakerSwapDbRepr α}
    {Q : α → TakerView → Prop} (h : Here p v)
    (hk : ∀ res v', Here p v' → (k res).wp (Env X) (contract X) Q v') :
    (recvSwapV2Msg field timeout >>= k).wp (Env X) (contract X) Q v := by
  apply (wp_bind _ _).mpr
  apply wp_recvSwapV2Msg (I := Here p) h
  · exact fun _ _ => trivial
  · exact fun v' r h' => h'.react rfl r
  · exact fun v' h' => h'.stored
  · exact fun e v' h' => hk _ v' h'
  · exact fun v' r msg h' _ => hk _ _ (h'.react rfl r)

/-- Rule for the change to another state, which fits to what was done with the funding. -/
theorem wp_changeTo (next : TakerState X) (hstored : Stored v)
    (hnext : Fits v.data (some next.kind)) :
    (changeTo m next).wp (Env X) (contract X) (PostOf s) v := by
  apply wp_changeState trivial
  · intro r v' _ _ hlast hdata
    have hstored' : Stored v' := by
      unfold Stored
      rw [hdata, hlast]
      by_cases htook : r.took = true
      · rw [if_pos htook]
        exact hnext
      · rw [if_neg htook]
        exact hstored
    exact ⟨hstored', hstored'⟩
  · intro r v' _ _ _ _ hlast hdata
    constructor
    · rw [hlast]
      rfl
    · rw [hdata]
      exact hnext

theorem Here.change (h : Here p v) (next : TakerState X)
    (hnext : Fits v.data (some next.kind)) :
    (changeTo m next).wp (Env X) (contract X) (PostOf s) v :=
  wp_changeTo next h.stored hnext

end Rules

/-! ## The states -/

section States

variable {m : TakerSwapStateMachine} {p s : TakerSwapStateMachine × Stage (TakerState X)}
  {v : TakerView}

theorem wp_abort (h : Here p v) (reason : AbortReason) :
    (abort m reason).wp (Env X) (contract X) (PostOf s) v :=
  h.change (.aborted reason) trivial

theorem wp_onInitialize (h : Here (m, (.start : Stage (TakerState X))) v) :
    (onInitialize m).wp (Env X) (contract X) (PostOf s) v := by
  apply wp_plain h rfl
  rintro (e | makerCoinStartBlock) v h
  · exact wp_abort h _
  apply wp_plain h rfl
  rintro (e | takerCoinStartBlock) v h
  · exact wp_abort h _
  apply wp_plain h rfl
  rintro (e | takerPaymentFee) v h
  · exact wp_abort h _
  apply wp_plain h rfl
  rintro (e | makerPaymentSpendFee) v h
  · exact wp_abort h _
  apply wp_plain h rfl
  rintro (e | _) v h
  · exact wp_abort h _
  · exact h.change _ h.fits

theorem wp_initialized {self : Initialized}
    (h : Here (m, Stage.entered (.initialized self : TakerState X)) v) :
    (self.onChanged m).wp (Env X) (contract X) (PostOf s) v := by
  apply wp_recv h
  rintro (e | makerNegotiation) v h
  · exact wp_abort h _
  dsimp only
  split
  · exact wp_abort h _
  apply wp_plain h rfl
  intro _ v h
  apply wp_recv h
  rintro (e | makerNegotiated) v h
  · exact wp_abort h _
  dsimp only
  split
  · exact h.change _ h.fits
  · exact wp_abort h _

theorem wp_negotiated {self : Negotiated X} (h : Here (m, Stage.entered (.negotiated self)) v) :
    (self.onChanged m).wp (Env X) (contract X) (PostOf s) v := by
  apply wp_plain h rfl
  rintro (e | takerFunding) v h
  · exact wp_abort h _
  · exact h.change (.takerFundingSent _) h.fits

theorem wp_takerFundingSent {self : TakerFundingSent X}
    (h : Here (m, Stage.entered (.takerFundingSent self)) v) :
    (self.onChanged m).wp (Env X) (contract X) (PostOf s) v := by
  apply wp_plain h rfl
  intro _ v h
  apply wp_recv h
  rintro (e | makerPaymentInfo) v h
  · exact h.change (self.refundRequired _) h.fits.1
  dsimp only
  split
  · exact h.change (self.refundRequired _) h.fits.1
  · exact h.change (.makerPaymentAndFundingSpendPreimgReceived _) h.fits.2

/-- A taker that spent its funding has no failed check behind it. -/
theorem unspent_of_failed {α : Type} {r : Reply (Except String α)} {e : String}
    (hr : v.data.spend = true → r.failed = false) (ha : r.answer = some (.error e)) :
    v.data.spend = false := by
  by_contra hspend
  exact Bool.noConfusion ((Reply.failed_of_error ha).symm.trans
    (hr (Bool.eq_true_of_not_eq_false hspend)))

/-- Rule for the spend of the funding, which fails only when the funding is left unspent. -/
theorem wp_signAndSend {preimage : TxPreimageWithSig X.takerCoin}
    {args : GenTakerFundingSpendArgs X.takerCoin} {uniqueData : Bytes}
    {k : Except String X.takerCoin.Tx → TakerProc X} (h : Here p v)
    (hkind : stageKind p.2 = some .makerPaymentAndFundingSpendPreimgReceived ∨
      stageKind p.2 = some .makerPaymentConfirmed)
    (herror : ∀ e v', Stored v' → v'.data.spend = false →
      (k (.error e)).wp (Env X) (contract X) (PostOf s) v')
    (hok : ∀ takerPayment v', Stored v' →
      (k (.ok takerPayment)).wp (Env X) (contract X) (PostOf s) v') :
    (ask (.signAndSendTakerFundingSpend preimage args uniqueData) >>= k).wp
      (Env X) (contract X) (PostOf s) v := by
  have hhanded : v.data.handed = false := by
    have hfits := h.fits
    rcases hkind with hkind | hkind
    · rw [hkind] at hfits
      exact hfits
    · rw [hkind] at hfits
      exact hfits
  apply (wp_call (K := contract X) (Call.signAndSendTakerFundingSpend _ _ _) _).mpr
  constructor
  · exact hhanded
  intro r hr
  have hdata := View.react_data (observer X) v
    (.signAndSendTakerFundingSpend preimage args uniqueData) r
  have hstored :
      Stored (v.react (observer X) (.signAndSendTakerFundingSpend preimage args uniqueData) r) := by
    unfold Stored
    rw [View.react_last _ _ nofun, hdata, h.last]
    rcases hkind with hkind | hkind
    · rw [hkind]
      exact hhanded
    · rw [hkind]
      exact hhanded
  constructor
  · exact fun _ => hstored
  rintro (e | takerPayment) ha
  · obtain ⟨hspend, hreached⟩ := hr (Reply.failed_of_error ha)
    apply herror e _ hstored
    rw [hdata]
    change (v.data.spend || r.took) = false
    rw [hspend, Reply.took, hreached, ha]
    rfl
  · exact hok takerPayment _ hstored

theorem wp_paymentSent {makerCoinStartBlock takerCoinStartBlock : ℕ}
    {makerPayment : X.makerCoin.Tx} {negotiationData : NegotiationData X}
    {takerPayment : X.takerCoin.Tx} (h : Stored v) :
    (changeTo m (paymentSent makerCoinStartBlock takerCoinStartBlock makerPayment negotiationData
      takerPayment)).wp (Env X) (contract X) (PostOf s) v := by
  unfold paymentSent
  split
  · exact wp_changeTo (.takerPaymentSentAndPreimageSendingSkipped _) h trivial
  · exact wp_changeTo (.takerPaymentSent _) h trivial

theorem wp_makerPaymentAndFundingSpendPreimgReceived
    {self : MakerPaymentAndFundingSpendPreimgReceived X}
    (h : Here (m, Stage.entered (.makerPaymentAndFundingSpendPreimgReceived self)) v) :
    (self.onChanged m).wp (Env X) (contract X) (PostOf s) v := by
  apply wp_ask h rfl
  rintro r (e | _) v' hr ha h' hdata
  · exact h'.change (self.refundRequired _) (hdata ▸ unspent_of_failed hr ha)
  apply wp_ask h' rfl
  rintro r (e | _) v hr ha h hdata
  · exact h.change (self.refundRequired _) (hdata ▸ unspent_of_failed hr ha)
  apply wp_ask h rfl
  rintro r (_ | _) v' hr ha h' hdata
  · apply h'.change (self.refundRequired _)
    change v'.data.spend = false
    rw [hdata]
    by_contra hspend
    exact hr (Bool.eq_true_of_not_eq_false hspend) ha
  dsimp only
  split
  · apply wp_ask h' rfl
    rintro r (e | _) v'' hr ha h'' hdata
    · exact h''.change (self.refundRequired _)
        (hdata ▸ unspent_of_failed (fun hspend => hr hspend h'.last) ha)
    · exact h''.change (.makerPaymentConfirmed _) h''.fits
  · apply wp_signAndSend h' (.inl rfl)
    · exact fun e v hstored hspend => wp_changeTo (self.refundRequired _) hstored hspend
    · exact fun takerPayment v hstored => wp_paymentSent hstored

theorem wp_makerPaymentConfirmed {self : MakerPaymentConfirmed X}
    (h : Here (m, Stage.entered (.makerPaymentConfirmed self)) v) :
    (self.onChanged m).wp (Env X) (contract X) (PostOf s) v := by
  apply wp_signAndSend h (.inr rfl)
  · exact fun e v hstored hspend => wp_changeTo (self.refundRequired _) hstored hspend
  · exact fun takerPayment v hstored => wp_paymentSent hstored

/-- Handing out the secret; whatever comes of it, the swap ends. -/
theorem wp_takerFundingRefundRequired {self : TakerFundingRefundRequired X}
    (h : Here (m, Stage.entered (.takerFundingRefundRequired self)) v) :
    (self.onChanged m).wp (Env X) (contract X) (PostOf s) v := by
  apply (wp_call (K := contract X) (Call.refundTakerFundingSecret _) _).mpr
  constructor
  · exact h.fits
  intro r _
  have hstored :
      Stored (v.react (observer X) (.refundTakerFundingSecret (self.refundArgs m)) r) := by
    unfold Stored
    rw [View.react_last _ _ nofun, View.react_data, h.last]
    exact h.fits
  constructor
  · exact fun _ => hstored
  rintro (e | fundingRefundTx) _
  · exact wp_changeTo (.aborted _) hstored trivial
  · exact wp_changeTo (.takerFundingRefunded _) hstored trivial

theorem wp_takerPaymentSent {self : TakerPaymentSent X}
    (h : Here (m, Stage.entered (.takerPaymentSent self)) v) :
    (self.onChanged m).wp (Env X) (contract X) (PostOf s) v := by
  have hawait (v : TakerView) (h : Here (m, Stage.entered (.takerPaymentSent self)) v) :
      (self.awaitSpend m).wp (Env X) (contract X) (PostOf s) v := by
    apply wp_plain h rfl
    rintro (e | preimage) v h
    · exact h.change (self.refundRequired _) trivial
    apply wp_plain h rfl
    intro _ v h
    apply wp_plain h rfl
    rintro (e | takerPaymentSpend) v h
    · exact h.change (self.refundRequired _) trivial
    · exact h.change (.takerPaymentSpent _) trivial
  unfold TakerPaymentSent.onChanged
  split
  · exact hawait v h
  apply wp_plain h rfl
  rintro (e | _) v h
  · exact h.change (self.refundRequired _) trivial
  · exact hawait v h

theorem wp_takerPaymentSentSkipped {self : TakerPaymentSentAndPreimageSendingSkipped X}
    (h : Here (m, Stage.entered (.takerPaymentSentAndPreimageSendingSkipped self)) v) :
    (self.onChanged m).wp (Env X) (contract X) (PostOf s) v := by
  have hawait (v : TakerView)
      (h : Here (m, Stage.entered (.takerPaymentSentAndPreimageSendingSkipped self)) v) :
      (self.awaitSpend m).wp (Env X) (contract X) (PostOf s) v := by
    apply wp_plain h rfl
    rintro (e | takerPaymentSpend) v h
    · exact h.change (self.refundRequired _) trivial
    · exact h.change (.takerPaymentSpent _) trivial
  unfold TakerPaymentSentAndPreimageSendingSkipped.onChanged
  split
  · exact hawait v h
  apply wp_plain h rfl
  rintro (e | _) v h
  · exact h.change (self.refundRequired _) trivial
  · exact hawait v h

theorem wp_takerPaymentRefundRequired {self : TakerPaymentRefundRequired X}
    (h : Here (m, Stage.entered (.takerPaymentRefundRequired self)) v) :
    (self.onChanged m).wp (Env X) (contract X) (PostOf s) v := by
  apply wp_plain h rfl
  rintro (e | _ | toSleep) v h
  · exact wp_plain h rfl fun _ v' h' => ⟨h'.last, trivial⟩
  · apply wp_plain h rfl
    rintro (e | takerPaymentRefund) v h
    · exact wp_abort h _
    · exact h.change (.takerPaymentRefunded _) trivial
  · exact wp_plain h rfl fun _ v' h' => ⟨h'.last, trivial⟩

theorem wp_takerPaymentSpent {self : TakerPaymentSpent X}
    (h : Here (m, Stage.entered (.takerPaymentSpent self)) v) :
    (self.onChanged m).wp (Env X) (contract X) (PostOf s) v := by
  apply wp_plain h rfl
  rintro (e | secret) v h
  · exact wp_abort h _
  apply wp_plain h rfl
  rintro (e | makerPaymentSpend) v h
  · exact wp_abort h _
  · exact h.change (.makerPaymentSpent _) trivial

theorem wp_makerPaymentSpent {self : MakerPaymentSpent X}
    (h : Here (m, Stage.entered (.makerPaymentSpent self)) v) :
    (self.onChanged m).wp (Env X) (contract X) (PostOf s) v := by
  unfold MakerPaymentSpent.onChanged
  split
  · apply wp_plain h rfl
    rintro (e | _) v h
    · exact h.change (.takerPaymentRefundRequired _) trivial
    · exact h.change .completed trivial
  · exact h.change .completed trivial

theorem wp_onChanged {state : TakerState X} (h : Here (m, Stage.entered state) v) :
    (state.onChanged m).wp (Env X) (contract X) (PostOf (m, .entered state)) v := by
  cases state with
  | initialized _ => exact wp_initialized h
  | negotiated _ => exact wp_negotiated h
  | takerFundingSent _ => exact wp_takerFundingSent h
  | makerPaymentAndFundingSpendPreimgReceived _ =>
    exact wp_makerPaymentAndFundingSpendPreimgReceived h
  | takerPaymentSent _ => exact wp_takerPaymentSent h
  | takerPaymentSentAndPreimageSendingSkipped _ => exact wp_takerPaymentSentSkipped h
  | takerFundingRefundRequired _ => exact wp_takerFundingRefundRequired h
  | takerPaymentRefundRequired _ => exact wp_takerPaymentRefundRequired h
  | makerPaymentConfirmed _ => exact wp_makerPaymentConfirmed h
  | takerPaymentSpent _ => exact wp_takerPaymentSpent h
  | makerPaymentSpent _ => exact wp_makerPaymentSpent h
  | aborted _ => exact h.stored
  | completed => exact h.stored
  | takerFundingRefunded _ => exact h.stored
  | takerPaymentRefunded _ => exact h.stored

/-- Starting and restarting. -/
theorem wp_runFrom (h : Here p v) :
    (runFrom (TakerSwapStateMachine.toDbRepr X) p.1 p.2).wp (Env X) (contract X)
      (PostOf p) v := by
  apply wp_plain h rfl
  rintro (e | _) v h
  · exact h.stored
  apply wp_plain h rfl
  rintro (e | _ | _) v h
  · exact h.stored
  · apply wp_plain h rfl
    rintro (e | _) v h
    · exact h.stored
    · exact h
  · exact h

/-- A restart finds the state of the last record. -/
theorem here_of_restore {w : World X TakerSwapEvent TakerSwapDbRepr}
    (hstored : Stored ((observer X).view w)) (hp : (takerSwap X).restore w = some p) :
    Here p ((observer X).view w) := by
  obtain ⟨repr, m, state, -, hrecreate, rfl⟩ := SwapMachine.exists_of_restore hp
  obtain ⟨-, event, hevent, hstate⟩ := exists_of_recreateMachine hrecreate
  have hlast : ((observer X).view w).last.map (·.kind) = some state.kind := by
    rw [(kind_of_recreateState hstate).1]
    exact congrArg _ hevent
  unfold Stored at hstored
  rw [hlast] at hstored
  exact ⟨hlast, hstored⟩

theorem verified : Verified (takerSwap X).machine (Env X) (observer X).view (contract X) Here
    (fun _ => Stored) where
  abstraction := (observer X).abstraction
  onChanged := by
    rintro ⟨m, _ | state⟩ v h
    · exact wp_onInitialize h
    · exact wp_onChanged h
  onFinished := by
    intro _ v h
    apply (wp_call (K := contract X) Call.markFinished _).mpr
    exact ⟨trivial, fun r _ => ⟨fun _ => h, fun _ _ => h⟩⟩
  elapse _ _ h := h
  resume w p hstored hp := wp_runFrom (here_of_restore hstored hp)

end States

/-! ## Every run -/

/-- The reply of this event does not lead a taker that has spent its funding into the refund. -/
abbrev Steady (X : External) :
    Config (TakerCall X) Call.Answer (World X TakerSwapEvent TakerSwapDbRepr)
      (TakerSwapStateMachine × Stage (TakerState X)) → Event (TakerCall X) Call.Answer → Prop :=
  Keeps (contract X) (observer X).view

/-- The funding is not both spent and refunded, and what was published was handed out. -/
def Exclusive (v : TakerView) : Prop :=
  (v.data.spend = true → v.data.handed = false) ∧
    (v.data.published = true → v.data.handed = true)

theorem Exclusive.react {v : TakerView} {c : TakerCall X} {r : Reply c.Answer} (h : Exclusive v)
    (hpre : MayExpose v c) : Exclusive (v.react (observer X) c r) := by
  unfold Exclusive
  rw [View.react_data]
  cases c with
  | signAndSendTakerFundingSpend preimage args uniqueData => exact ⟨fun _ => hpre, h.2⟩
  | refundTakerFundingSecret args =>
    constructor
    · intro hspend
      exact Bool.noConfusion (hpre.symm.trans hspend)
    · exact fun _ => rfl
  | _ => exact h

theorem Exclusive.noDoubleClaim {v : TakerView} (h : Exclusive v) : v.data.NoDoubleClaim := by
  rw [Exposure.noDoubleClaim_iff]
  rintro ⟨hspend, hpublished⟩
  exact Bool.noConfusion ((h.1 hspend).symm.trans (h.2 hpublished))

/-- In every run, with any delays, crashes and restarts, in which the replies are steady, the
taker hands its secret to the refund only when no funding spend was broadcast; and however the
chain decides between the broadcast transactions, the maker does not get both payments. -/
theorem mayExpose_of_run (m : TakerSwapStateMachine) (now : ℕ)
    (es : List (Event (TakerCall X) Call.Answer))
    (hes : Runs.Meets (fun x e => some ((takerSwap X).machine.step x e)) (Steady X)
      ((takerSwap X).start m now) es) :
    (∀ c, ((takerSwap X).machine.run ((takerSwap X).start m now) es).pending = some c →
      MayExpose ((observer X).view
        ((takerSwap X).machine.run ((takerSwap X).start m now) es).world) c) ∧
    ((observer X).view
      ((takerSwap X).machine.run ((takerSwap X).start m now) es).world).data.NoDoubleClaim := by
  have hstart : Here (m, (.start : Stage (TakerState X))) ((observer X).view (World.fresh now)) :=
    ⟨rfl, rfl, rfl⟩
  have hgood := wp_runFrom hstart
  constructor
  · exact fun c hc => verified.pre_of_run (x := (takerSwap X).start m now) hgood hes hc
  · apply Exclusive.noDoubleClaim
    apply verified.world_of_run (x := (takerSwap X).start m now) _ _ _ hgood hes
    · exact fun v c r h hpre _ => h.react hpre
    · exact fun v d h => h
    · exact ⟨nofun, nofun⟩

/-- The replies of coins that do not see a confirmation and lose the answer to a broadcast. -/
def troubled {Ev Repr : Type} (startedAt lockDuration : ℕ) (recorded : Bool) :
    (c : Call .raw Ev Repr) → Reply c.Answer
  | .waitForConfirmations _ _ => timeout false
  | .signAndSendTakerFundingSpend .. => timeout true
  | c => smooth startedAt lockDuration recorded c
where
  timeout {α : Type} (reached : Bool) : Reply (Except String α) :=
    { delay := 0, reached, answer := some (.error "timeout") }

/-- The sample taker is in trouble once. -/
def troubledRun (n k : ℕ) :
    Config RawCall Call.Answer (World .raw TakerSwapEvent TakerSwapDbRepr)
      (TakerSwapStateMachine × Stage (TakerState .raw)) :=
  sampleRun true (smoothEvents false n ++ .reply (troubled 1700000000 5400 false) ::
    smoothEvents false k)

/-- A run without trouble to the taker payment, and one in which the maker payment is not
confirmed and the funding is refunded. -/
theorem mayExpose_smooth :
    (((observer .raw).view (sampleRun true (smoothEvents false 40)).world).data.spend = true ∧
      ((observer .raw).view (sampleRun true (smoothEvents false 40)).world).data.NoDoubleClaim) ∧
    ((observer .raw).view (troubledRun 29 4).world).data.published = true ∧
    ((observer .raw).view (troubledRun 29 4).world).data.NoDoubleClaim :=
  ⟨⟨by decide +kernel,
      (mayExpose_of_run (sampleTaker true) 1700000000 (smoothEvents false 40)
        (by decide +kernel)).2⟩,
    by decide +kernel,
    (mayExpose_of_run (sampleTaker true) 1700000000 (smoothEvents false 29 ++
      .reply (troubled 1700000000 5400 false) :: smoothEvents false 4) (by decide +kernel)).2⟩

/-- The answer to the broadcast of the funding spend is lost: the taker hands out its secret for
the refund of the funding, and the maker may get both payments. -/
theorem doubleClaim_sample :
    (∃ c, (troubledRun 32 2).pending = some c ∧
      ¬ MayExpose ((observer .raw).view (troubledRun 32 2).world) c) ∧
    ¬ ((observer .raw).view (troubledRun 32 4).world).data.NoDoubleClaim := by
  have hexposed : (troubledRun 32 2).pending.any (fun c => decide
      (¬ MayExpose ((observer .raw).view (troubledRun 32 2).world) c)) = true := by
    decide +kernel
  obtain ⟨c, hc, hbreaks⟩ := (Option.any_eq_true _ _).mp hexposed
  exact ⟨⟨c, hc, of_decide_eq_true hbreaks⟩, by decide +kernel⟩

end DeXFG.SwapV2.TakerSwap.SecretExposure
