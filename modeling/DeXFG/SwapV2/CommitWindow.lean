import DeXFG.SwapV2.Observed
import DeXFG.SwapV2.TakerStates

/-!
# When the taker commits to the swap

The spend of the taker funding creates the taker payment. It has to be signed
and sent before the taker payment's own locktime, for a maker payment that was
validated and that the maker cannot take back yet.
-/
namespace DeXFG.SwapV2.TakerSwap.CommitWindow
open Library Library.Process Library.DurableMachine

variable {X : External}

abbrev TakerCall (X : External) := Call X TakerSwapEvent TakerSwapDbRepr

/-- How often the machine was started, and the maker payments that were validated with the
locktimes that they were validated for. -/
structure Seen (X : External) where
  starts : ℕ
  validated : List (X.makerCoin.Tx × ℕ)

def note (e : Entry X TakerSwapEvent TakerSwapDbRepr) (d : Seen X) : Seen X :=
  match e with
  | ⟨_, .acquireReentrancyLock, _⟩ => { d with starts := d.starts + 1 }
  | ⟨_, .validateMakerPaymentV2 args, r⟩ =>
    if r.answer = some (.ok ()) then
      { d with validated := (args.makerPaymentTx, args.timeLock) :: d.validated }
    else d
  | _ => d

def observer (X : External) : Observer X TakerSwapEvent TakerSwapDbRepr (Seen X) where
  init := { starts := 0, validated := [] }
  note := note

abbrev TakerView (X : External) := View TakerSwapEvent TakerSwapDbRepr (Seen X)

/-- The record names the transaction: it was made from it, or the transaction was read from it. -/
def Names (X : External) (txHex : Bytes) (tx : X.makerCoin.Tx) : Prop :=
  X.makerCoin.txHex tx = txHex ∨ X.makerCoin.parseTx txHex = .ok tx

/-- The maker payment of this record was validated, for the negotiated locktime. -/
structure Validated (d : Seen X) (event : TakerSwapEvent) (locktime : ℕ) : Prop where
  negotiated : event.makerPaymentLocktime = some locktime
  payment : ∃ txHex ∈ event.makerPayment, ∃ tx, Names X txHex tx ∧ (tx, locktime) ∈ d.validated

/-- Neither the taker payment nor the maker payment of this record can be taken back. -/
def BeforeLocktimes (m : TakerSwapStateMachine) (now : ℕ) (event : TakerSwapEvent) : Prop :=
  now < m.takerPaymentLocktime ∧ ∀ locktime ∈ event.makerPaymentLocktime, now < locktime

instance (m : TakerSwapStateMachine) (now : ℕ) (event : TakerSwapEvent) :
    Decidable (BeforeLocktimes m now event) :=
  inferInstanceAs (Decidable (_ ∧ _))

/-- What the taker promises when it makes a call. -/
def MayCommit (m : TakerSwapStateMachine) (v : TakerView X) : TakerCall X → Prop
  | .signAndSendTakerFundingSpend _ args _ =>
    args.takerPaymentTimeLock = m.takerPaymentLocktime ∧ v.now < m.takerPaymentLocktime ∧
    ∃ event ∈ v.last, ∃ locktime, Validated v.data event locktime ∧ v.now < locktime
  | _ => True

/-- The replies with which the taker keeps its promise. -/
def inTime (m : TakerSwapStateMachine) (v : TakerView X) :
    (c : TakerCall X) → Reply c.Answer → Prop
  | .ensureTxIsBroadcasted .., r =>
    r.answer = some true → v.data.starts ≤ 1 →
    m.requireMakerPaymentConfirmBeforeFundingSpend = false →
    ∀ event ∈ v.last, BeforeLocktimes m (v.now + r.delay) event
  | .storeEvent event, r =>
    r.answer = some (.ok ()) → event.kind = .makerPaymentConfirmed →
    BeforeLocktimes m (v.now + r.delay) event
  | .hasRecordFor, r =>
    r.answer = some (.ok true) →
    ∀ event ∈ v.last, event.kind = .makerPaymentConfirmed →
      BeforeLocktimes m (v.now + r.delay) event
  | .storeRepr _, r =>
    r.answer = some (.ok ()) →
    ∀ event ∈ v.last, event.kind = .makerPaymentConfirmed →
      BeforeLocktimes m (v.now + r.delay) event
  | _, _ => True

instance decidableInTime (m : TakerSwapStateMachine) (v : TakerView X) (c : TakerCall X)
    (r : Reply c.Answer) : Decidable (inTime m v c r) := by
  cases c <;> dsimp only [inTime] <;> infer_instance

/-- Whenever the taker is stopped, a restart finds the start of the swap again, and the maker
payment of a swap in which it was confirmed has been validated. -/
structure Stored (m : TakerSwapStateMachine) (v : TakerView X) : Prop where
  repr : ∀ repr ∈ v.repr, repr.startedAt = m.startedAt ∧ repr.lockDuration = m.lockDuration
  confirmed : ∀ event ∈ v.last, event.kind = .makerPaymentConfirmed →
    ∃ locktime, Validated v.data event locktime

def contract (X : External) (m : TakerSwapStateMachine) :
    Contract (TakerCall X) Call.Answer (TakerView X) where
  allowed := inTime m
  pre := MayCommit m
  stopped := Stored m

instance (m : TakerSwapStateMachine) (v : TakerView X) (c : TakerCall X) (r : Reply c.Answer) :
    Decidable ((contract X m).allowed v c r) := decidableInTime m v c r

/-! ## Standing in a state -/

/-- What the records say about a state. -/
def key : Stage (TakerState X) → Option (TakerStateKind × Option ℕ)
  | .start => none
  | .entered s => some (s.kind, s.makerPaymentLocktime)

/-- The maker payment that the state is about to validate. -/
def received : Stage (TakerState X) → Option X.makerCoin.Tx
  | .entered (.makerPaymentAndFundingSpendPreimgReceived s) => some s.makerPayment
  | _ => none

/-- The machine runs, with the times of the swap's start. -/
structure Underway (m m' : TakerSwapStateMachine) (v : TakerView X) : Prop extends Stored m v where
  startedAt : m'.startedAt = m.startedAt
  lockDuration : m'.lockDuration = m.lockDuration

/-- The machine works in a state. -/
structure Here (m : TakerSwapStateMachine) (p : TakerSwapStateMachine × Stage (TakerState X))
    (v : TakerView X) : Prop extends Underway m p.1 v where
  last : v.last.map (fun event => (event.kind, event.makerPaymentLocktime)) = key p.2
  payment : ∀ tx ∈ received p.2, ∃ event ∈ v.last, ∃ txHex ∈ event.makerPayment, Names X txHex tx
  /-- Only a machine that was never restarted takes the immediate path. -/
  immediate : p.1.requireMakerPaymentConfirmBeforeFundingSpend = false →
    v.data.starts ≤ 1 ∧ m.requireMakerPaymentConfirmBeforeFundingSpend = false

/-- The machine enters a state. -/
structure Entering (m : TakerSwapStateMachine) (p : TakerSwapStateMachine × Stage (TakerState X))
    (v : TakerView X) : Prop extends Here m p v where
  inTime : ∀ event ∈ v.last, event.kind = .makerPaymentConfirmed → BeforeLocktimes m v.now event

section Rules

variable {m m' : TakerSwapStateMachine} {p s : TakerSwapStateMachine × Stage (TakerState X)}
  {v : TakerView X}

abbrev Env (X : External) := View.env (observer X)

abbrev PostOf (m : TakerSwapStateMachine) (s : TakerSwapStateMachine × Stage (TakerState X)) :=
  Post (contract X m) (Entering m) (fun _ => Stored m) s

/-- Nothing is stored by the call, and it does not count as a start. -/
def isPlain : TakerCall X → Bool
  | .acquireReentrancyLock => false
  | .storeRepr _ => false
  | .storeEvent _ => false
  | _ => true

/-- The call promises nothing. -/
def isQuiet : TakerCall X → Bool
  | .signAndSendTakerFundingSpend .. => false
  | _ => true

theorem mayCommit_of_isQuiet {c : TakerCall X} (hc : isQuiet c = true) : MayCommit m v c := by
  cases c <;> trivial

theorem note_starts {c : TakerCall X} (hc : isPlain c = true) (now : ℕ) (r : Reply c.Answer)
    (d : Seen X) : (note ⟨now, c, r⟩ d).starts = d.starts := by
  cases c with
  | acquireReentrancyLock => cases hc
  | validateMakerPaymentV2 args =>
    simp only [note]
    split <;> rfl
  | _ => rfl

theorem validated_subset_note (c : TakerCall X) (now : ℕ) (r : Reply c.Answer) (d : Seen X) :
    d.validated ⊆ (note ⟨now, c, r⟩ d).validated := by
  cases c with
  | validateMakerPaymentV2 args =>
    simp only [note]
    split
    · exact List.subset_cons_self _ _
    · exact List.Subset.refl _
  | _ => exact List.Subset.refl _

theorem Validated.mono {d d' : Seen X} {event : TakerSwapEvent} {locktime : ℕ}
    (h : Validated d event locktime) (hd : d.validated ⊆ d'.validated) :
    Validated d' event locktime where
  negotiated := h.negotiated
  payment := by
    obtain ⟨txHex, hhex, tx, hnames, htx⟩ := h.payment
    exact ⟨txHex, hhex, tx, hnames, hd htx⟩

theorem validated_subset_react (c : TakerCall X) (r : Reply c.Answer) :
    v.data.validated ⊆ (v.react (observer X) c r).data.validated := by
  rw [View.react_data]
  exact validated_subset_note c _ _ _

theorem last_react {c : TakerCall X} (hc : isPlain c = true) (r : Reply c.Answer) :
    (v.react (observer X) c r).last = v.last :=
  View.react_last (observer X) v (by rintro _ rfl; cases hc) r

theorem Stored.react (h : Stored m v) {c : TakerCall X} (hc : isPlain c = true)
    (r : Reply c.Answer) : Stored m (v.react (observer X) c r) where
  repr := by
    rw [View.react_repr _ _ (by rintro _ rfl; cases hc)]
    exact h.repr
  confirmed := by
    rw [last_react hc]
    intro event hevent hkind
    obtain ⟨locktime, hvalid⟩ := h.confirmed event hevent hkind
    exact ⟨locktime, hvalid.mono (validated_subset_react c r)⟩

/-- A plain call leaves the machine where it is. -/
theorem Here.react (h : Here m p v) {c : TakerCall X} (hc : isPlain c = true)
    (r : Reply c.Answer) : Here m p (v.react (observer X) c r) where
  toStored := h.toStored.react hc r
  startedAt := h.startedAt
  lockDuration := h.lockDuration
  last := (congrArg _ (last_react hc r)).trans h.last
  payment := by
    rw [last_react hc]
    exact h.payment
  immediate := by
    have hstarts : (v.react (observer X) c r).data.starts = v.data.starts :=
      (congrArg Seen.starts (View.react_data _ _ _ _)).trans (note_starts hc _ _ _)
    rw [hstarts]
    exact h.immediate

/-- The machine after a plain call that was answered. -/
structure Answered (m : TakerSwapStateMachine) (p : TakerSwapStateMachine × Stage (TakerState X))
    (v : TakerView X) (c : TakerCall X) (r : Reply c.Answer) (v' : TakerView X) : Prop where
  here : Here m p v'
  now : v'.now = v.now + r.delay
  last : v'.last = v.last
  data : v'.data = note ⟨v.now, c, r⟩ v.data

/-- Rule for a plain call. -/
theorem wp_ask {α : Type} {c : TakerCall X}
    {k : c.Answer → SwapProc X TakerSwapEvent TakerSwapDbRepr α} {Q : α → TakerView X → Prop}
    (h : Here m p v) (hc : isPlain c = true) (hpre : MayCommit m v c)
    (hk : ∀ r a v', inTime m v c r → r.answer = some a → Answered m p v c r v' →
      (k a).wp (Env X) (contract X m) Q v') :
    (ask c >>= k).wp (Env X) (contract X m) Q v := by
  refine (wp_call c k).mpr ⟨hpre, fun r hr => ⟨fun _ => (h.react hc r).toStored, fun a ha => ?_⟩⟩
  exact hk r a _ hr ha ⟨h.react hc r, View.react_now _ _ _ _, last_react hc r,
    View.react_data _ _ _ _⟩

/-- Rule for a plain call that promises nothing and whose reply does not matter. -/
theorem wp_quiet {α : Type} {c : TakerCall X}
    {k : c.Answer → SwapProc X TakerSwapEvent TakerSwapDbRepr α} {Q : α → TakerView X → Prop}
    (h : Here m p v) (hc : isPlain c = true) (hquiet : isQuiet c = true)
    (hk : ∀ a v', Here m p v' → (k a).wp (Env X) (contract X m) Q v') :
    (ask c >>= k).wp (Env X) (contract X m) Q v :=
  wp_ask h hc (mayCommit_of_isQuiet hquiet) fun _ a v' _ _ h' => hk a v' h'.here

/-- Rule for a message. -/
theorem wp_recv {field : MsgField} {timeout : ℕ} {α : Type}
    {k : Except String field.Message → SwapProc X TakerSwapEvent TakerSwapDbRepr α}
    {Q : α → TakerView X → Prop} (h : Here m p v)
    (hk : ∀ res v', Here m p v' → (k res).wp (Env X) (contract X m) Q v') :
    (recvSwapV2Msg field timeout >>= k).wp (Env X) (contract X m) Q v := by
  refine (wp_bind _ _).mpr (wp_recvSwapV2Msg (I := Here m p) h ?_ ?_ ?_ ?_ ?_)
  · exact fun _ _ => trivial
  · exact fun v' r h' => h'.react rfl r
  · exact fun v' h' => h'.toStored
  · exact fun e v' h' => hk _ v' h'
  · exact fun v' r msg h' _ => hk _ _ (h'.react rfl r)

theorem names_of_received {state : TakerState X} :
    ∀ tx ∈ received (.entered state), ∃ txHex ∈ state.getEvent.makerPayment, Names X txHex tx := by
  cases state with
  | makerPaymentAndFundingSpendPreimgReceived self =>
    rintro _ ⟨⟩
    exact ⟨_, rfl, .inl rfl⟩
  | _ => rintro _ ⟨⟩

/-- Rule for the change to another state. -/
theorem wp_changeTo {stage : Stage (TakerState X)} (h : Here m (m', stage) v)
    (next : TakerState X)
    (hconfirmed : next.kind = .makerPaymentConfirmed →
      ∃ locktime, Validated v.data next.getEvent locktime) :
    (changeTo m' next).wp (Env X) (contract X m) (PostOf m s) v := by
  refine wp_changeState trivial (fun r v' _ hrepr hlast hdata => ?_)
    fun r v' hin ha hnow hrepr hlast hdata =>
      { repr := hrepr ▸ h.repr
        confirmed := ?_
        startedAt := h.startedAt
        lockDuration := h.lockDuration
        last := ?_
        payment := ?_
        immediate := ?_
        inTime := ?_ }
  · have hstored : Stored m v' := by
      refine ⟨hrepr ▸ h.repr, ?_⟩
      rw [hdata, hlast]
      split
      · rintro _ ⟨⟩ hkind
        exact hconfirmed hkind
      · exact h.confirmed
    exact ⟨hstored, hstored⟩
  · rw [hdata, hlast]
    rintro _ ⟨⟩ hkind
    exact hconfirmed hkind
  · rw [hlast]
    rfl
  · rw [hlast]
    intro tx htx
    exact ⟨_, rfl, names_of_received tx htx⟩
  · rw [hdata]
    exact h.immediate
  · rw [hlast, hnow]
    rintro _ ⟨⟩ hkind
    exact hin ha hkind

end Rules

/-! ## The states -/

section States

variable {m m' : TakerSwapStateMachine} {s : TakerSwapStateMachine × Stage (TakerState X)}
  {v : TakerView X}

/-- Change to any state but the one that commits. -/
theorem wp_changeTo_other {stage : Stage (TakerState X)} (h : Here m (m', stage) v)
    (next : TakerState X) (hnext : next.kind ≠ .makerPaymentConfirmed) :
    (changeTo m' next).wp (Env X) (contract X m) (PostOf m s) v :=
  wp_changeTo h next fun hkind => absurd hkind hnext

theorem wp_onInitialize (h : Here m (m', (.start : Stage (TakerState X))) v) :
    (onInitialize m').wp (Env X) (contract X m) (PostOf m s) v := by
  refine wp_quiet h rfl rfl ?_
  rintro (e | makerCoinStartBlock) v h
  · exact wp_changeTo_other h _ nofun
  refine wp_quiet h rfl rfl ?_
  rintro (e | takerCoinStartBlock) v h
  · exact wp_changeTo_other h _ nofun
  refine wp_quiet h rfl rfl ?_
  rintro (e | takerPaymentFee) v h
  · exact wp_changeTo_other h _ nofun
  refine wp_quiet h rfl rfl ?_
  rintro (e | makerPaymentSpendFee) v h
  · exact wp_changeTo_other h _ nofun
  refine wp_quiet h rfl rfl ?_
  rintro (e | _) v h
  · exact wp_changeTo_other h _ nofun
  · exact wp_changeTo_other h _ nofun

theorem wp_initialized {self : Initialized}
    (h : Here m (m', Stage.entered (.initialized self : TakerState X)) v) :
    (self.onChanged m').wp (Env X) (contract X m) (PostOf m s) v := by
  refine wp_recv h ?_
  rintro (e | makerNegotiation) v h
  · exact wp_changeTo_other h _ nofun
  dsimp only
  split
  · exact wp_changeTo_other h _ nofun
  refine wp_quiet h rfl rfl ?_
  intro _ v h
  refine wp_recv h ?_
  rintro (e | makerNegotiated) v h
  · exact wp_changeTo_other h _ nofun
  dsimp only
  split
  · exact wp_changeTo_other h _ nofun
  · exact wp_changeTo_other h _ nofun

theorem wp_negotiated {self : Negotiated X}
    (h : Here m (m', Stage.entered (.negotiated self)) v) :
    (self.onChanged m').wp (Env X) (contract X m) (PostOf m s) v := by
  refine wp_quiet h rfl rfl ?_
  rintro (e | takerFunding) v h
  · exact wp_changeTo_other h _ nofun
  · exact wp_changeTo_other h _ nofun

theorem wp_takerFundingSent {self : TakerFundingSent X}
    (h : Here m (m', Stage.entered (.takerFundingSent self)) v) :
    (self.onChanged m').wp (Env X) (contract X m) (PostOf m s) v := by
  refine wp_quiet h rfl rfl ?_
  intro _ v h
  refine wp_recv h ?_
  rintro (e | makerPaymentInfo) v h
  · exact wp_changeTo_other h _ nofun
  dsimp only
  split
  · exact wp_changeTo_other h _ nofun
  · exact wp_changeTo_other h _ nofun

theorem wp_takerFundingRefundRequired {self : TakerFundingRefundRequired X}
    (h : Here m (m', Stage.entered (.takerFundingRefundRequired self)) v) :
    (self.onChanged m').wp (Env X) (contract X m) (PostOf m s) v := by
  refine wp_quiet h rfl rfl ?_
  rintro (e | fundingRefundTx) v h
  · exact wp_changeTo_other h _ nofun
  · exact wp_changeTo_other h _ nofun

theorem kind_paymentSent (makerCoinStartBlock takerCoinStartBlock : ℕ)
    (makerPayment : X.makerCoin.Tx) (negotiationData : NegotiationData X)
    (takerPayment : X.takerCoin.Tx) :
    (paymentSent makerCoinStartBlock takerCoinStartBlock makerPayment negotiationData
      takerPayment).kind ≠ .makerPaymentConfirmed := by
  unfold paymentSent
  split <;> nofun

/-- Locktimes are those of the swap's start. -/
theorem Underway.takerPaymentLocktime (h : Underway m m' v) :
    m'.takerPaymentLocktime = m.takerPaymentLocktime := by
  simp only [TakerSwapStateMachine.takerPaymentLocktime, h.startedAt, h.lockDuration]

/-- The machine may commit: the maker payment of the record was validated, and there is time. -/
theorem mayCommit_of_inTime {stage : Stage (TakerState X)} (h : Here m (m', stage) v)
    {preimage : TxPreimageWithSig X.takerCoin} {takerFunding : X.takerCoin.Tx}
    {negotiationData : NegotiationData X} {uniqueData : Bytes} {event : TakerSwapEvent}
    (hevent : event ∈ v.last) {locktime : ℕ} (hvalid : Validated v.data event locktime)
    (htime : BeforeLocktimes m v.now event) :
    MayCommit m v (.signAndSendTakerFundingSpend preimage
      (genTakerFundingSpendArgs m' takerFunding negotiationData) uniqueData) := by
  have hlock := htime.2 locktime hvalid.negotiated
  exact ⟨h.takerPaymentLocktime, htime.1, event, hevent, locktime, hvalid, hlock⟩

theorem wp_makerPaymentConfirmed {self : MakerPaymentConfirmed X}
    (h : Entering m (m', Stage.entered (.makerPaymentConfirmed self)) v) :
    (self.onChanged m').wp (Env X) (contract X m) (PostOf m s) v := by
  obtain ⟨event, hevent, hkey⟩ := Option.map_eq_some_iff.mp h.last
  have hkind : event.kind = .makerPaymentConfirmed := congrArg Prod.fst hkey
  obtain ⟨locktime, hvalid⟩ := h.confirmed event hevent hkind
  refine wp_ask h.toHere rfl
    (mayCommit_of_inTime h.toHere hevent hvalid (h.inTime event hevent hkind)) ?_
  rintro _ (e | takerPayment) v - - h
  · exact wp_changeTo_other h.here _ nofun
  · exact wp_changeTo_other h.here _ (kind_paymentSent _ _ _ _ _)

/-- The validated maker payment is the one of the record. -/
theorem validated_of_here {self : MakerPaymentAndFundingSpendPreimgReceived X}
    (h : Here m (m', Stage.entered (.makerPaymentAndFundingSpendPreimgReceived self)) v)
    (hvalid : (self.makerPayment, self.negotiationData.makerPaymentLocktime) ∈
      v.data.validated) :
    ∃ event ∈ v.last,
      Validated v.data event self.negotiationData.makerPaymentLocktime := by
  obtain ⟨event, hevent, txHex, hhex, hnames⟩ := h.payment _ rfl
  obtain ⟨event', hevent', hkey⟩ := Option.map_eq_some_iff.mp h.last
  obtain rfl := Option.mem_unique hevent hevent'
  exact ⟨event, hevent, congrArg Prod.snd hkey, txHex, hhex, _, hnames, hvalid⟩

theorem wp_confirmPath {self : MakerPaymentAndFundingSpendPreimgReceived X}
    (h : Here m (m', Stage.entered (.makerPaymentAndFundingSpendPreimgReceived self)) v)
    (hvalid : (self.makerPayment, self.negotiationData.makerPaymentLocktime) ∈
      v.data.validated) :
    (self.confirmPath m').wp (Env X) (contract X m) (PostOf m s) v := by
  refine wp_ask h rfl trivial ?_
  rintro _ (e | _) v' - - h'
  · exact wp_changeTo_other h'.here _ nofun
  · refine wp_changeTo h'.here _ fun _ => ⟨_, rfl, _, rfl, _, .inl rfl, ?_⟩
    rw [h'.data]
    exact validated_subset_note _ _ _ _ hvalid

theorem wp_immediatePath {self : MakerPaymentAndFundingSpendPreimgReceived X}
    (h : Here m (m', Stage.entered (.makerPaymentAndFundingSpendPreimgReceived self)) v)
    (hvalid : (self.makerPayment, self.negotiationData.makerPaymentLocktime) ∈
      v.data.validated)
    (htime : ∀ event ∈ v.last, BeforeLocktimes m v.now event) :
    (self.immediatePath m').wp (Env X) (contract X m) (PostOf m s) v := by
  obtain ⟨event, hevent, hvalid⟩ := validated_of_here h hvalid
  refine wp_ask h rfl (mayCommit_of_inTime h hevent hvalid (htime event hevent)) ?_
  rintro _ (e | takerPayment) v - - h
  · exact wp_changeTo_other h.here _ nofun
  · exact wp_changeTo_other h.here _ (kind_paymentSent _ _ _ _ _)

theorem wp_makerPaymentAndFundingSpendPreimgReceived
    {self : MakerPaymentAndFundingSpendPreimgReceived X}
    (h : Here m (m', Stage.entered (.makerPaymentAndFundingSpendPreimgReceived self)) v) :
    (self.onChanged m').wp (Env X) (contract X m) (PostOf m s) v := by
  refine wp_ask h rfl trivial ?_
  rintro r (e | _) v₁ - ha h₁
  · exact wp_changeTo_other h₁.here _ nofun
  have hvalid : (self.makerPayment, self.negotiationData.makerPaymentLocktime) ∈
      v₁.data.validated := by
    rw [h₁.data]
    simp only [note, ha, if_true]
    exact List.mem_cons_self
  refine wp_ask h₁.here rfl trivial ?_
  rintro _ (e | _) v₂ - - h₂
  · exact wp_changeTo_other h₂.here _ nofun
  rw [show v₁.data = v₂.data from h₂.data.symm] at hvalid
  refine wp_ask h₂.here rfl trivial ?_
  rintro r (_ | _) v₃ hin ha h₃
  · exact wp_changeTo_other h₃.here _ nofun
  rw [show v₂.data = v₃.data from h₃.data.symm] at hvalid
  dsimp only
  split
  · exact wp_confirmPath h₃.here hvalid
  · rename_i himmediate
    refine wp_immediatePath h₃.here hvalid ?_
    rw [h₃.last, h₃.now]
    obtain ⟨hstarts, hrequire⟩ := h₂.here.immediate (Bool.eq_false_of_not_eq_true himmediate)
    exact hin ha hstarts hrequire

theorem wp_awaitSpend {self : TakerPaymentSent X} {stage : Stage (TakerState X)}
    (h : Here m (m', stage) v) :
    (self.awaitSpend m').wp (Env X) (contract X m) (PostOf m s) v := by
  refine wp_quiet h rfl rfl ?_
  rintro (e | preimage) v h
  · exact wp_changeTo_other h _ nofun
  refine wp_quiet h rfl rfl ?_
  intro _ v h
  refine wp_quiet h rfl rfl ?_
  rintro (e | takerPaymentSpend) v h
  · exact wp_changeTo_other h _ nofun
  · exact wp_changeTo_other h _ nofun

theorem wp_takerPaymentSent {self : TakerPaymentSent X}
    (h : Here m (m', Stage.entered (.takerPaymentSent self)) v) :
    (self.onChanged m').wp (Env X) (contract X m) (PostOf m s) v := by
  unfold TakerPaymentSent.onChanged
  split
  · exact wp_awaitSpend h
  refine wp_quiet h rfl rfl ?_
  rintro (e | _) v h
  · exact wp_changeTo_other h _ nofun
  · exact wp_awaitSpend h

theorem wp_awaitSpendSkipped {self : TakerPaymentSentAndPreimageSendingSkipped X}
    {stage : Stage (TakerState X)} (h : Here m (m', stage) v) :
    (self.awaitSpend m').wp (Env X) (contract X m) (PostOf m s) v := by
  refine wp_quiet h rfl rfl ?_
  rintro (e | takerPaymentSpend) v h
  · exact wp_changeTo_other h _ nofun
  · exact wp_changeTo_other h _ nofun

theorem wp_takerPaymentSentSkipped {self : TakerPaymentSentAndPreimageSendingSkipped X}
    (h : Here m (m', Stage.entered (.takerPaymentSentAndPreimageSendingSkipped self)) v) :
    (self.onChanged m').wp (Env X) (contract X m) (PostOf m s) v := by
  unfold TakerPaymentSentAndPreimageSendingSkipped.onChanged
  split
  · exact wp_awaitSpendSkipped h
  refine wp_quiet h rfl rfl ?_
  rintro (e | _) v h
  · exact wp_changeTo_other h _ nofun
  · exact wp_awaitSpendSkipped h

theorem wp_takerPaymentRefundRequired {self : TakerPaymentRefundRequired X}
    (h : Here m (m', Stage.entered (.takerPaymentRefundRequired self)) v) :
    (self.onChanged m').wp (Env X) (contract X m) (PostOf m s) v := by
  have hagain (v : TakerView X)
      (h : Here m (m', Stage.entered (.takerPaymentRefundRequired self)) v) :
      Entering m (m', Stage.entered (.takerPaymentRefundRequired self)) v := by
    refine ⟨h, fun event hevent hkind => ?_⟩
    obtain ⟨event', hevent', hkey⟩ := Option.map_eq_some_iff.mp h.last
    obtain rfl := Option.mem_unique hevent hevent'
    exact TakerStateKind.noConfusion (hkind.symm.trans (congrArg Prod.fst hkey))
  refine wp_quiet h rfl rfl ?_
  rintro (e | _ | toSleep) v h
  · exact wp_quiet h rfl rfl fun _ v h => hagain v h
  · refine wp_quiet h rfl rfl ?_
    rintro (e | takerPaymentRefund) v h
    · exact wp_changeTo_other h _ nofun
    · exact wp_changeTo_other h _ nofun
  · exact wp_quiet h rfl rfl fun _ v h => hagain v h

theorem wp_takerPaymentSpent {self : TakerPaymentSpent X}
    (h : Here m (m', Stage.entered (.takerPaymentSpent self)) v) :
    (self.onChanged m').wp (Env X) (contract X m) (PostOf m s) v := by
  refine wp_quiet h rfl rfl ?_
  rintro (e | secret) v h
  · exact wp_changeTo_other h _ nofun
  refine wp_quiet h rfl rfl ?_
  rintro (e | makerPaymentSpend) v h
  · exact wp_changeTo_other h _ nofun
  · exact wp_changeTo_other h _ nofun

theorem wp_makerPaymentSpent {self : MakerPaymentSpent X}
    (h : Here m (m', Stage.entered (.makerPaymentSpent self)) v) :
    (self.onChanged m').wp (Env X) (contract X m) (PostOf m s) v := by
  unfold MakerPaymentSpent.onChanged
  split
  · refine wp_quiet h rfl rfl ?_
    rintro (e | _) v h
    · exact wp_changeTo_other h _ nofun
    · exact wp_changeTo_other h _ nofun
  · exact wp_changeTo_other h _ nofun

theorem wp_onChanged {state : TakerState X} (h : Entering m (m', Stage.entered state) v) :
    (state.onChanged m').wp (Env X) (contract X m) (PostOf m s) v := by
  cases state with
  | initialized _ => exact wp_initialized h.toHere
  | negotiated _ => exact wp_negotiated h.toHere
  | takerFundingSent _ => exact wp_takerFundingSent h.toHere
  | makerPaymentAndFundingSpendPreimgReceived _ =>
    exact wp_makerPaymentAndFundingSpendPreimgReceived h.toHere
  | takerPaymentSent _ => exact wp_takerPaymentSent h.toHere
  | takerPaymentSentAndPreimageSendingSkipped _ => exact wp_takerPaymentSentSkipped h.toHere
  | takerFundingRefundRequired _ => exact wp_takerFundingRefundRequired h.toHere
  | takerPaymentRefundRequired _ => exact wp_takerPaymentRefundRequired h.toHere
  | makerPaymentConfirmed _ => exact wp_makerPaymentConfirmed h
  | takerPaymentSpent _ => exact wp_takerPaymentSpent h.toHere
  | makerPaymentSpent _ => exact wp_makerPaymentSpent h.toHere
  | aborted _ => exact h.toStored
  | completed => exact h.toStored
  | takerFundingRefunded _ => exact h.toStored
  | takerPaymentRefunded _ => exact h.toStored

end States

/-! ## Start, restart and finish -/

section Start

variable {m : TakerSwapStateMachine} {p : TakerSwapStateMachine × Stage (TakerState X)}
  {v : TakerView X}

/-- The machine is about to be started in a state. -/
structure Starting (m : TakerSwapStateMachine) (p : TakerSwapStateMachine × Stage (TakerState X))
    (v : TakerView X) : Prop extends Underway m p.1 v where
  last : v.last.map (fun event => (event.kind, event.makerPaymentLocktime)) = key p.2
  payment : ∀ tx ∈ received p.2, ∃ event ∈ v.last, ∃ txHex ∈ event.makerPayment, Names X txHex tx
  immediate : p.1.requireMakerPaymentConfirmBeforeFundingSpend = false →
    v.data.starts = 0 ∧ m.requireMakerPaymentConfirmBeforeFundingSpend = false

theorem Starting.react (h : Starting m p v) (r : Reply (Except String Unit)) :
    Here m p (v.react (observer X) .acquireReentrancyLock r) where
  repr := h.repr
  confirmed event hevent hkind := by
    obtain ⟨locktime, hvalid⟩ := h.confirmed event hevent hkind
    exact ⟨locktime, hvalid.mono (validated_subset_react .acquireReentrancyLock r)⟩
  startedAt := h.startedAt
  lockDuration := h.lockDuration
  last := h.last
  payment := h.payment
  immediate := by
    intro hrequire
    obtain ⟨hstarts, hm⟩ := h.immediate hrequire
    refine ⟨?_, hm⟩
    change v.data.starts + 1 ≤ 1
    rw [hstarts]

/-- The machine that a restart finds is started in the state that was stored. -/
theorem starting_of_restore {w : World X TakerSwapEvent TakerSwapDbRepr}
    (hstored : Stored m ((observer X).view w)) (hp : (takerSwap X).restore w = some p) :
    Starting m p ((observer X).view w) := by
  obtain ⟨repr, m', state, hrepr, hrecreate, rfl⟩ := SwapMachine.exists_of_restore hp
  obtain ⟨rfl, event, hevent, hstate⟩ := exists_of_recreateMachine hrecreate
  obtain ⟨hkind, hlock⟩ := kind_of_recreateState hstate
  obtain ⟨hstarted, hduration⟩ := hstored.repr repr hrepr
  refine ⟨⟨hstored, hstarted, hduration⟩, ?_, ?_, fun hrequire => Bool.noConfusion hrequire⟩
  · change Option.map _ w.events.getLast? = some (state.kind, state.makerPaymentLocktime)
    rw [Option.mem_def.mp hevent, Option.map_some, hkind, hlock]
  · cases state with
    | makerPaymentAndFundingSpendPreimgReceived self =>
      rintro _ ⟨⟩
      obtain ⟨txHex, hhex, hparse⟩ := makerPayment_of_recreateState hstate
      exact ⟨event, hevent, txHex, hhex, .inr hparse⟩
    | _ => rintro _ ⟨⟩

/-- Starting and restarting. -/
theorem wp_runFrom (h : Starting m p v) :
    (runFrom (TakerSwapStateMachine.toDbRepr X) p.1 p.2).wp (Env X) (contract X m)
      (PostOf m p) v := by
  have hpre : MayCommit m v (.acquireReentrancyLock : TakerCall X) := trivial
  refine (wp_call (K := contract X m) Call.acquireReentrancyLock _).mpr
    ⟨hpre, fun r _ => ⟨fun _ => (h.react r).toStored, ?_⟩⟩
  rintro (e | _) _
  · exact (h.react r).toStored
  refine wp_ask (h.react r) rfl trivial ?_
  rintro r (e | _ | _) v hin ha h
  · exact h.here.toStored
  · have hpre : MayCommit m v (.storeRepr (p.1.toDbRepr X) : TakerCall X) := trivial
    refine (wp_call (K := contract X m) (Call.storeRepr _) _).mpr ⟨hpre, fun r hr => ?_⟩
    have hlast := View.react_last (observer X) v (c := .storeRepr (p.1.toDbRepr X)) nofun r
    have hdata : (v.react (observer X) (.storeRepr (p.1.toDbRepr X)) r).data = v.data :=
      View.react_data _ _ _ _
    have hstored : Stored m (v.react (observer X) (.storeRepr (p.1.toDbRepr X)) r) := by
      refine ⟨?_, by rw [hdata, hlast]; exact h.here.confirmed⟩
      rw [View.react_storeRepr]
      split
      · rintro _ ⟨⟩
        exact ⟨h.here.startedAt, h.here.lockDuration⟩
      · exact h.here.repr
    refine ⟨fun _ => hstored, ?_⟩
    rintro (e | _) ha
    · exact hstored
    · exact {
        toStored := hstored
        startedAt := h.here.startedAt
        lockDuration := h.here.lockDuration
        last := (congrArg _ hlast).trans h.here.last
        payment := hlast.symm ▸ h.here.payment
        immediate := hdata.symm ▸ h.here.immediate
        inTime := by
          intro event hevent hkind
          have hnow := View.react_now (observer X) v (.storeRepr (p.1.toDbRepr X)) r
          exact hnow.symm ▸ hr ha event (hlast ▸ hevent) hkind }
  · refine ⟨h.here, ?_⟩
    rw [h.last, h.now]
    exact hin ha

theorem verified (m : TakerSwapStateMachine) :
    Verified (takerSwap X).machine (Env X) (observer X).view (contract X m) (Entering m)
      (fun _ => Stored m) where
  abstraction := (observer X).abstraction
  onChanged := by
    rintro ⟨m', _ | state⟩ v h
    · exact wp_onInitialize h.toHere
    · exact wp_onChanged h
  onFinished := by
    intro _ v h
    have hpre : MayCommit m v (.markFinished : TakerCall X) := trivial
    exact (wp_call (K := contract X m) Call.markFinished _).mpr
      ⟨hpre, fun r _ => ⟨fun _ => h.react rfl r, fun _ _ => h.react rfl r⟩⟩
  elapse _ _ h := ⟨h.repr, h.confirmed⟩
  resume w p hstored hp := wp_runFrom (starting_of_restore hstored hp)

end Start

/-! ## Every run -/

/-- The reply of this event comes in time. -/
abbrev InTime (X : External) (m : TakerSwapStateMachine) :
    Config (TakerCall X) Call.Answer (World X TakerSwapEvent TakerSwapDbRepr)
      (TakerSwapStateMachine × Stage (TakerState X)) → Event (TakerCall X) Call.Answer → Prop :=
  Keeps (contract X m) (observer X).view

/-- In every run, with any delays, crashes and restarts, in which the replies come in time, the
taker sends its payment before both locktimes and for a validated maker payment. -/
theorem mayCommit_of_run (m : TakerSwapStateMachine) (now : ℕ)
    (es : List (Event (TakerCall X) Call.Answer))
    (hes : Runs.Meets (fun x e => some ((takerSwap X).machine.step x e)) (InTime X m)
      ((takerSwap X).start m now) es) (c : TakerCall X)
    (hc : ((takerSwap X).machine.run ((takerSwap X).start m now) es).pending = some c) :
    MayCommit m ((observer X).view
      ((takerSwap X).machine.run ((takerSwap X).start m now) es).world) c := by
  have hstart : Starting m (m, (.start : Stage (TakerState X)))
      ((observer X).view (World.fresh now)) :=
    ⟨⟨⟨by rintro _ ⟨⟩, by rintro _ ⟨⟩⟩, rfl, rfl⟩, rfl, by rintro _ ⟨⟩, fun hm => ⟨rfl, hm⟩⟩
  exact (verified (X := X) m).pre_of_run (x := (takerSwap X).start m now) (wp_runFrom hstart)
    hes hc

def isCommit : TakerCall X → Bool
  | .signAndSendTakerFundingSpend .. => true
  | _ => false

/-- A run without trouble on either path, to the point where the taker commits. -/
theorem mayCommit_smooth :
    (sampleRun true (smoothEvents false 32)).pending.any isCommit = true ∧
    (sampleRun false (smoothEvents false 29)).pending.any isCommit = true ∧
    (∀ c, (sampleRun true (smoothEvents false 32)).pending = some c →
      MayCommit (sampleTaker true)
        ((observer .raw).view (sampleRun true (smoothEvents false 32)).world) c) ∧
    ∀ c, (sampleRun false (smoothEvents false 29)).pending = some c →
      MayCommit (sampleTaker false)
        ((observer .raw).view (sampleRun false (smoothEvents false 29)).world) c :=
  ⟨by decide +kernel, by decide +kernel,
    mayCommit_of_run (sampleTaker true) 1700000000 (smoothEvents false 32) (by decide +kernel),
    mayCommit_of_run (sampleTaker false) 1700000000 (smoothEvents false 29) (by decide +kernel)⟩

/-- The call commits at the taker payment's locktime or later. -/
def commitsLate (m : TakerSwapStateMachine) (v : TakerView X) : TakerCall X → Bool
  | .signAndSendTakerFundingSpend .. => decide (m.takerPaymentLocktime ≤ v.now)
  | _ => false

theorem not_mayCommit_of_commitsLate {m : TakerSwapStateMachine} {v : TakerView X}
    {c : TakerCall X} (h : commitsLate m v c = true) : ¬ MayCommit m v c := by
  cases c with
  | signAndSendTakerFundingSpend preimage args uniqueData =>
    rintro ⟨_, hnow, _⟩
    exact absurd (of_decide_eq_true h) (Nat.not_le_of_lt hnow)
  | _ => cases h

/-- The run ends in a call that breaks the promise. -/
def BreaksCommit (requireConfirm : Bool) (es : List (Event (TakerCall .raw) Call.Answer)) :
    Prop :=
  ∃ c, (sampleRun requireConfirm es).pending = some c ∧
    ¬ MayCommit (sampleTaker requireConfirm)
      ((observer .raw).view (sampleRun requireConfirm es).world) c

theorem breaksCommit_of_any {requireConfirm : Bool}
    {es : List (Event (TakerCall .raw) Call.Answer)}
    (h : (sampleRun requireConfirm es).pending.any (commitsLate (sampleTaker requireConfirm)
      ((observer .raw).view (sampleRun requireConfirm es).world)) = true) :
    BreaksCommit requireConfirm es := by
  obtain ⟨c, hc, hlate⟩ := (Option.any_eq_true _ _).mp h
  exact ⟨c, hc, not_mayCommit_of_commitsLate hlate⟩

/-- The reply comes after the locktimes of both payments. -/
def slow (c : TakerCall .raw) : Reply c.Answer :=
  { smooth 1700000000 5400 false c with delay := 12000 }

/-- The taker is stopped before it commits and restarted after both locktimes: it commits. On the
immediate path it commits as late when the maker payment gets visible late. -/
theorem breaksCommit_sample :
    BreaksCommit true (smoothEvents false 32 ++ [.reply crash, .kickstart 12000] ++
      smoothEvents true 3) ∧
    BreaksCommit false (smoothEvents false 28 ++ [.reply slow]) :=
  ⟨breaksCommit_of_any (by decide +kernel), breaksCommit_of_any (by decide +kernel)⟩

end DeXFG.SwapV2.TakerSwap.CommitWindow
