import DeXFG.SwapV2.MakerStates
import DeXFG.SwapV2.Observed

/-!
# When the maker reveals its secret, and how long it waits

The spend of the taker payment reveals the maker's secret and has to be
broadcast before the taker can refund. A wait that starts after the maker's own
payment was sent has to end before the maker can refund, and has to lead to the
refund state when it fails.
-/
namespace DeXFG.SwapV2.MakerSwap.SecretWindow
open Library Library.Process Library.DurableMachine

variable {X : External}

abbrev MakerCall (X : External) := Call X MakerSwapEvent MakerSwapDbRepr

/-- Until when a call that is made at this time makes the machine wait. The search for the
funding spend is one wait over many calls: none is made after its deadline. -/
def waitsUntil (now : ℕ) : MakerCall X → Option ℕ
  | .waitForConfirmations _ input => some input.waitUntil
  | .pollSwapV2Msg _ waitUntil => some waitUntil
  | .searchForTakerFundingSpend .. => some now
  | .ensureTxIsBroadcasted _ _ _ totalGraceSecs _ => some (now + totalGraceSecs)
  | _ => none

/-- The wait did not get what it waited for. -/
def missed : (c : MakerCall X) → Option c.Answer → Bool
  | .waitForConfirmations .., some (.error _) => true
  | .pollSwapV2Msg .., some none => true
  | .searchForTakerFundingSpend .., some (.ok none) => true
  | .searchForTakerFundingSpend .., some (.error _) => true
  | .ensureTxIsBroadcasted .., some false => true
  | _, _ => false

/-- Whether the own payment was sent, and whether the latest call, sleeping aside, was a wait
that failed. -/
structure Seen where
  sent : Bool
  missed : Bool
  deriving DecidableEq, Repr

def note (e : Entry X MakerSwapEvent MakerSwapDbRepr) (d : Seen) : Seen :=
  match e with
  | ⟨_, .sendMakerPaymentV2 _, r⟩ => { sent := d.sent || r.took, missed := false }
  | ⟨_, .sleep _, _⟩ => d
  | ⟨_, c, r⟩ => { d with missed := missed c r.answer }

def observer (X : External) : Observer X MakerSwapEvent MakerSwapDbRepr Seen where
  init := { sent := false, missed := false }
  note := note

abbrev MakerView := View MakerSwapEvent MakerSwapDbRepr Seen

/-- What the maker promises when it makes a call. -/
structure InWindow (m : MakerSwapStateMachine) (v : MakerView) (c : MakerCall X) : Prop where
  /-- The secret is revealed before the negotiated locktime of the taker payment. -/
  spend : ∀ preimage args secret uniqueData,
    c = .signAndBroadcastTakerPaymentSpend preimage args secret uniqueData →
    v.last.bind (·.takerPaymentLocktime) = some args.timeLock ∧ v.now < args.timeLock
  /-- A wait ends before the own payment's locktime. -/
  wait : v.data.sent = true → ∀ deadline ∈ waitsUntil v.now c, deadline ≤ m.makerPaymentLocktime
  /-- After a wait that failed the refund state is entered. -/
  refund : v.data.sent = true → v.data.missed = true → ∀ event, c = .storeEvent event →
    event.kind = .makerPaymentRefundRequired

/-- The replies with which the maker keeps its promise. -/
def inTime (m : MakerSwapStateMachine) (v : MakerView) :
    (c : MakerCall X) → Reply c.Answer → Prop
  | .validateTakerPaymentSpendPreimage args _, r =>
    r.answer = some (.ok ()) → v.now + r.delay < args.timeLock
  | .myAddr, r =>
    r.answer.isSome →
    v.last.map (·.kind) = some .takerPaymentReceivedAndPreimageValidationSkipped →
    ∀ locktime ∈ v.last.bind (·.takerPaymentLocktime), v.now + r.delay < locktime
  | .waitForConfirmations _ _, r =>
    r.answer = some (.ok ()) → v.last.map (·.kind) = some .takerPaymentReceived →
    v.now + r.delay + (basicCommTimeout + m.takerPaymentConfTimeout) ≤ m.makerPaymentLocktime
  | .validateTakerFunding _, r =>
    r.answer = some (.ok ()) → v.data.sent = true →
    v.now + r.delay + swapTxVisibilityGraceSecs ≤ m.makerPaymentLocktime
  | .ensureTxIsBroadcasted .., r => r.answer = some false → v.data.sent = false
  | _, _ => True

instance decidableInTime (m : MakerSwapStateMachine) (v : MakerView) (c : MakerCall X)
    (r : Reply c.Answer) : Decidable (inTime m v c r) := by
  cases c <;> dsimp only [inTime] <;> infer_instance

/-- Whenever the maker is stopped, a restart finds the start of the swap again, and a sent payment
has a record of the taker funding before it. -/
structure Stored (m : MakerSwapStateMachine) (v : MakerView) : Prop where
  repr : ∀ repr ∈ v.repr, repr.startedAt = m.startedAt ∧ repr.lockDuration = m.lockDuration
  sent : v.data.sent = true → ∃ event ∈ v.last,
    event.kind ≠ .initialized ∧ event.kind ≠ .waitingForTakerFunding

def contract (X : External) (m : MakerSwapStateMachine) :
    Contract (MakerCall X) Call.Answer MakerView where
  allowed := inTime m
  pre := InWindow m
  stopped := Stored m

instance (m : MakerSwapStateMachine) (v : MakerView) (c : MakerCall X) (r : Reply c.Answer) :
    Decidable ((contract X m).allowed v c r) := decidableInTime m v c r

/-! ## Standing in a state -/

/-- What the records say about a state. -/
def key : Stage (MakerState X) → Option (MakerStateKind × Option ℕ)
  | .start => none
  | .entered s => some (s.kind, s.takerPaymentLocktime)

/-- The machine runs, with the times of the swap's start. -/
structure Underway (m m' : MakerSwapStateMachine) (v : MakerView) : Prop extends Stored m v where
  startedAt : m'.startedAt = m.startedAt
  lockDuration : m'.lockDuration = m.lockDuration

/-- The machine works in a state. -/
structure Here (m : MakerSwapStateMachine) (p : MakerSwapStateMachine × Stage (MakerState X))
    (v : MakerView) : Prop extends Underway m p.1 v where
  last : v.last.map (fun event => (event.kind, event.takerPaymentLocktime)) = key p.2
  /-- A payment sent from here was sent before a restart. -/
  resent : v.data.sent = true → (key p.2).map (·.1) = some .takerFundingReceived →
    p.1.requireTakerFundingConfirmBeforeMakerPayment = false

/-- The machine enters a state. -/
def Entering (m : MakerSwapStateMachine) (p : MakerSwapStateMachine × Stage (MakerState X))
    (v : MakerView) : Prop :=
  Here m p v ∧ v.data.missed = false

section Rules

variable {m : MakerSwapStateMachine} {p s : MakerSwapStateMachine × Stage (MakerState X)}
  {v : MakerView}

abbrev Env (X : External) := View.env (observer X)

abbrev PostOf (m : MakerSwapStateMachine) (s : MakerSwapStateMachine × Stage (MakerState X)) :=
  Post (contract X m) (Entering m) (fun _ => Stored m) s

/-- Nothing is stored and no payment is sent by the call. -/
def isPlain : MakerCall X → Bool
  | .storeRepr _ => false
  | .storeEvent _ => false
  | .sendMakerPaymentV2 _ => false
  | _ => true

/-- The call promises nothing. -/
def isQuiet : MakerCall X → Bool
  | .storeEvent _ => false
  | .signAndBroadcastTakerPaymentSpend .. => false
  | .waitForConfirmations .. => false
  | .pollSwapV2Msg .. => false
  | .searchForTakerFundingSpend .. => false
  | .ensureTxIsBroadcasted .. => false
  | _ => true

theorem waitsUntil_of_isQuiet {c : MakerCall X} (hc : isQuiet c = true) (now : ℕ) :
    waitsUntil now c = none := by
  cases c <;> first | rfl | cases hc

theorem inWindow_of_isQuiet {c : MakerCall X} (hc : isQuiet c = true) : InWindow m v c where
  spend := by
    rintro _ _ _ _ rfl
    cases hc
  wait := by
    intro _ deadline hd
    rw [waitsUntil_of_isQuiet hc] at hd
    cases hd
  refund := by
    rintro _ _ _ rfl
    cases hc

theorem note_sent {c : MakerCall X} (hc : isPlain c = true) (now : ℕ) (r : Reply c.Answer)
    (d : Seen) : (note ⟨now, c, r⟩ d).sent = d.sent := by
  cases c <;> first | rfl | cases hc

theorem sent_react {c : MakerCall X} (hc : isPlain c = true) (r : Reply c.Answer) :
    (v.react (observer X) c r).data.sent = v.data.sent := by
  rw [View.react_data]
  exact note_sent hc _ _ _

theorem last_react {c : MakerCall X} (hc : isPlain c = true) (r : Reply c.Answer) :
    (v.react (observer X) c r).last = v.last :=
  View.react_last (observer X) v (by rintro _ rfl; cases hc) r

theorem Stored.react (h : Stored m v) {c : MakerCall X} (hc : isPlain c = true)
    (r : Reply c.Answer) : Stored m (v.react (observer X) c r) where
  repr := by
    rw [View.react_repr _ _ (by rintro _ rfl; cases hc)]
    exact h.repr
  sent := by
    rw [sent_react hc, last_react hc]
    exact h.sent

/-- A plain call leaves the machine where it is. -/
theorem Here.react (h : Here m p v) {c : MakerCall X} (hc : isPlain c = true)
    (r : Reply c.Answer) : Here m p (v.react (observer X) c r) where
  toStored := h.toStored.react hc r
  startedAt := h.startedAt
  lockDuration := h.lockDuration
  last := (congrArg _ (last_react hc r)).trans h.last
  resent := by
    rw [sent_react hc]
    exact h.resent

theorem note_missed {c : MakerCall X} (hc : ∀ secs, c ≠ .sleep secs) (now : ℕ)
    (r : Reply c.Answer) (d : Seen) : (note ⟨now, c, r⟩ d).missed = missed c r.answer := by
  cases c with
  | sleep secs => exact absurd rfl (hc secs)
  | _ => rfl

/-- The machine after a plain call, other than a timer, that was answered. -/
structure Answered (m : MakerSwapStateMachine) (p : MakerSwapStateMachine × Stage (MakerState X))
    (v : MakerView) (c : MakerCall X) (delay : ℕ) (a : c.Answer) (v' : MakerView) : Prop where
  here : Here m p v'
  now : v'.now = v.now + delay
  last : v'.last = v.last
  sent : v'.data.sent = v.data.sent
  missed : v'.data.missed = missed c (some a)

/-- Rule for a plain call. -/
theorem wp_ask {α : Type} {c : MakerCall X}
    {k : c.Answer → SwapProc X MakerSwapEvent MakerSwapDbRepr α} {Q : α → MakerView → Prop}
    (h : Here m p v) (hc : isPlain c = true) (htimer : ∀ secs, c ≠ .sleep secs)
    (hpre : InWindow m v c)
    (hk : ∀ r a v', inTime m v c r → r.answer = some a → Answered m p v c r.delay a v' →
      (k a).wp (Env X) (contract X m) Q v') :
    (ask c >>= k).wp (Env X) (contract X m) Q v := by
  refine (wp_call c k).mpr ⟨hpre, fun r hr => ⟨fun _ => (h.react hc r).toStored, fun a ha => ?_⟩⟩
  refine hk r a _ hr ha ⟨h.react hc r, View.react_now _ _ _ _, last_react hc r,
    sent_react hc r, ?_⟩
  exact ha ▸ (congrArg Seen.missed (View.react_data _ _ _ _)).trans (note_missed htimer _ _ _)

/-- Rule for a timer. -/
theorem wp_sleep {α : Type} {secs : ℕ}
    {k : Unit → SwapProc X MakerSwapEvent MakerSwapDbRepr α} {Q : α → MakerView → Prop}
    (h : Here m p v)
    (hk : ∀ v', Here m p v' → v'.data.missed = v.data.missed →
      (k ()).wp (Env X) (contract X m) Q v') :
    (ask (.sleep secs) >>= k).wp (Env X) (contract X m) Q v := by
  have hpre : InWindow m v (.sleep secs : MakerCall X) := inWindow_of_isQuiet rfl
  refine (wp_call (K := contract X m) (Call.sleep secs) k).mpr ⟨hpre, fun r _ => ⟨fun _ => ?_, fun _ _ => ?_⟩⟩
  · exact (h.react rfl r).toStored
  · exact hk _ (h.react rfl r) rfl

/-- The states before the payment: nothing was sent. -/
def isEarly : Option MakerStateKind → Bool
  | none => true
  | some .initialized => true
  | some .waitingForTakerFunding => true
  | _ => false

/-- The record of the state. -/
theorem Here.record (h : Here m p v) {kind : MakerStateKind} {locktime : Option ℕ}
    (hp : key p.2 = some (kind, locktime)) :
    ∃ event ∈ v.last, event.kind = kind ∧ event.takerPaymentLocktime = locktime := by
  obtain ⟨event, hevent, hkey⟩ := Option.map_eq_some_iff.mp (h.last.trans hp)
  exact ⟨event, hevent, congrArg Prod.fst hkey, congrArg Prod.snd hkey⟩

theorem Here.unsent (h : Here m p v) (hp : isEarly ((key p.2).map (·.1)) = true) :
    v.data.sent = false := by
  by_contra hsent
  obtain ⟨event, hevent, hkind⟩ := h.sent (Bool.eq_true_of_not_eq_false hsent)
  have hkey : key p.2 = some (event.kind, event.takerPaymentLocktime) := by
    rw [← h.last, Option.mem_def.mp hevent, Option.map_some]
  rw [hkey, Option.map_some] at hp
  cases hk : event.kind <;> simp_all [isEarly]

/-- The states that a sent payment leaves. -/
def isLate : MakerStateKind → Bool
  | .initialized => false
  | .waitingForTakerFunding => false
  | .takerFundingReceived => false
  | _ => true

theorem ne_of_isLate {kind : MakerStateKind} (h : isLate kind = true) :
    kind ≠ .initialized ∧ kind ≠ .waitingForTakerFunding := by
  constructor <;> (rintro rfl; cases h)

/-- Rule for the change to another state. -/
theorem wp_changeTo {m' : MakerSwapStateMachine} (h : Underway m m' v) (next : MakerState X)
    (hrefund : v.data.sent = true → v.data.missed = true →
      next.kind = .makerPaymentRefundRequired)
    (hlate : v.data.sent = true → isLate next.kind = true) :
    (changeTo m' next).wp (Env X) (contract X m) (PostOf m s) v := by
  refine wp_changeState ?_ (fun r v' _ hrepr hlast hdata => ?_)
    fun r v' _ _ _ hrepr hlast hdata =>
      ⟨⟨⟨⟨?_, ?_⟩, h.startedAt, h.lockDuration⟩, ?_, ?_⟩, ?_⟩
  · refine ⟨by rintro _ _ _ _ ⟨⟩, by rintro _ _ ⟨⟩, ?_⟩
    rintro hsent hmissed _ ⟨⟩
    exact hrefund hsent hmissed
  · have hstored : Stored m v' := by
      refine ⟨hrepr ▸ h.repr, ?_⟩
      rw [hdata, hlast]
      intro hsent
      split
      · exact ⟨_, rfl, ne_of_isLate (hlate hsent)⟩
      · exact h.sent hsent
    exact ⟨hstored, hstored⟩
  · exact hrepr ▸ h.repr
  · rw [hdata, hlast]
    exact fun hsent => ⟨_, rfl, ne_of_isLate (hlate hsent)⟩
  · rw [hlast]
    rfl
  · rw [hdata]
    intro hsent hkey
    have hkind : next.kind = .takerFundingReceived := Option.some.inj hkey
    exact absurd (hlate hsent) (by rw [hkind]; decide)
  · rw [hdata]
    rfl

/-- Rule for a plain call that promises nothing. -/
theorem wp_quiet {α : Type} {c : MakerCall X}
    {k : c.Answer → SwapProc X MakerSwapEvent MakerSwapDbRepr α} {Q : α → MakerView → Prop}
    (h : Here m p v) (hc : isPlain c = true) (hquiet : isQuiet c = true)
    (htimer : ∀ secs, c ≠ .sleep secs)
    (hk : ∀ r a v', inTime m v c r → r.answer = some a → Answered m p v c r.delay a v' →
      (k a).wp (Env X) (contract X m) Q v') :
    (ask c >>= k).wp (Env X) (contract X m) Q v :=
  wp_ask h hc htimer (inWindow_of_isQuiet hquiet) hk

/-- Rule for a wait, which has to end in time once the payment was sent. -/
theorem inWindow_wait {c : MakerCall X} {deadline : ℕ} (hc : waitsUntil v.now c = some deadline)
    (hd : v.data.sent = true → deadline ≤ m.makerPaymentLocktime) : InWindow m v c where
  spend := by
    rintro _ _ _ _ rfl
    cases hc
  wait := by
    intro hsent d hd'
    rw [hc, Option.mem_some_iff] at hd'
    exact hd' ▸ hd hsent
  refund := by
    rintro _ _ _ rfl
    cases hc

/-- Rule for a message, which has to arrive in time once the payment was sent. -/
theorem wp_recv {field : MsgField} {timeout : ℕ} {α : Type}
    {k : Except String field.Message → SwapProc X MakerSwapEvent MakerSwapDbRepr α}
    {Q : α → MakerView → Prop} (h : Here m p v)
    (hd : v.data.sent = true →
      v.now + (basicCommTimeout + timeout) ≤ m.makerPaymentLocktime)
    (herror : ∀ e v', Here m p v' → v'.data.sent = v.data.sent →
      (k (.error e)).wp (Env X) (contract X m) Q v')
    (hok : ∀ msg v', Here m p v' → v'.data.missed = false →
      (k (.ok msg)).wp (Env X) (contract X m) Q v') :
    (recvSwapV2Msg field timeout >>= k).wp (Env X) (contract X m) Q v := by
  refine (wp_bind _ _).mpr ?_
  refine wp_recvSwapV2Msg (I := fun v' => Here m p v' ∧ v'.data.sent = v.data.sent) ⟨h, rfl⟩
    ?_ ?_ ?_ ?_ ?_
  · rintro v' ⟨_, hsent⟩
    exact inWindow_wait rfl (hsent ▸ hd)
  · rintro v' r ⟨h', hsent⟩
    exact ⟨h'.react rfl r, hsent⟩
  · exact fun v' h' => h'.1.toStored
  · exact fun e v' h' => herror e v' h'.1 h'.2
  · rintro v' r msg ⟨h', _⟩ ha
    refine hok msg _ (h'.react rfl r) ?_
    simp [View.react, View.store, observer, note, missed, ha]

end Rules

/-! ## The states -/

section States

variable {m m' : MakerSwapStateMachine} {s : MakerSwapStateMachine × Stage (MakerState X)}
  {v : MakerView}

/-- Locktimes are those of the swap's start. -/
theorem Underway.makerPaymentLocktime (h : Underway m m' v) :
    m'.makerPaymentLocktime = m.makerPaymentLocktime := by
  simp only [MakerSwapStateMachine.makerPaymentLocktime, h.startedAt, h.lockDuration]

theorem Underway.takerPaymentConfTimeout (h : Underway m m' v) :
    m'.takerPaymentConfTimeout = m.takerPaymentConfTimeout := by
  simp only [MakerSwapStateMachine.takerPaymentConfTimeout, h.startedAt, h.lockDuration]

theorem confTimeout_le (m : MakerSwapStateMachine) :
    m.takerPaymentConfTimeout ≤ m.makerPaymentLocktime := by
  unfold MakerSwapStateMachine.takerPaymentConfTimeout MakerSwapStateMachine.makerPaymentLocktime
  omega

/-- Before the payment every change is allowed. -/
theorem wp_changeTo_early {stage : Stage (MakerState X)} (h : Here m (m', stage) v)
    (he : isEarly ((key stage).map (·.1)) = true) (next : MakerState X) :
    (changeTo m' next).wp (Env X) (contract X m) (PostOf m s) v := by
  have hsent : v.data.sent = false := h.unsent he
  have hnot (hs : v.data.sent = true) : False := Bool.noConfusion (hsent.symm.trans hs)
  exact wp_changeTo h.toUnderway next (fun hs _ => (hnot hs).elim) fun hs => (hnot hs).elim

/-- Change to a state after the payment when no wait failed. -/
theorem wp_changeTo_late (h : Underway m m' v)
    (hmissed : v.data.missed = false) (next : MakerState X) (hlate : isLate next.kind = true) :
    (changeTo m' next).wp (Env X) (contract X m) (PostOf m s) v :=
  wp_changeTo h next (fun _ hm => Bool.noConfusion (hmissed.symm.trans hm)) fun _ => hlate

/-- Change to the refund state. -/
theorem wp_changeTo_refund (h : Underway m m' v)
    (next : MakerState X) (hnext : next.kind = .makerPaymentRefundRequired) :
    (changeTo m' next).wp (Env X) (contract X m) (PostOf m s) v :=
  wp_changeTo h next (fun _ _ => hnext) fun _ => by rw [hnext]; rfl

theorem wp_onInitialize (h : Entering m (m', (.start : Stage (MakerState X))) v) :
    (onInitialize m').wp (Env X) (contract X m) (PostOf m s) v := by
  refine wp_quiet h.1 rfl rfl nofun ?_
  rintro _ (e | makerCoinStartBlock) v - - h
  · exact wp_changeTo_early h.here rfl _
  refine wp_quiet h.here rfl rfl nofun ?_
  rintro _ (e | takerCoinStartBlock) v - - h
  · exact wp_changeTo_early h.here rfl _
  refine wp_quiet h.here rfl rfl nofun ?_
  rintro _ (e | makerPaymentTradeFee) v - - h
  · exact wp_changeTo_early h.here rfl _
  refine wp_quiet h.here rfl rfl nofun ?_
  rintro _ (e | takerPaymentSpendTradeFee) v - - h
  · exact wp_changeTo_early h.here rfl _
  refine wp_quiet h.here rfl rfl nofun ?_
  rintro _ (e | _) v - - h
  · exact wp_changeTo_early h.here rfl _
  · exact wp_changeTo_early h.here rfl _

theorem wp_initialized {self : Initialized}
    (h : Entering m (m', Stage.entered (.initialized self : MakerState X)) v) :
    (self.onChanged m').wp (Env X) (contract X m) (PostOf m s) v := by
  refine wp_quiet h.1 rfl rfl nofun ?_
  intro _ _ v _ _ h
  refine wp_quiet h.here rfl rfl nofun ?_
  intro _ _ v _ _ h
  refine wp_recv h.here (fun hs => Bool.noConfusion ((h.here.unsent rfl).symm.trans hs)) ?_ ?_
  · exact fun e v h _ => wp_changeTo_early h rfl _
  · intro msg v h _
    obtain ⟨_ | takerData | reason⟩ := msg
    · exact wp_changeTo_early h rfl _
    · dsimp only
      split
      · exact wp_changeTo_early h rfl _
      · exact wp_changeTo_early h rfl _
    · exact wp_changeTo_early h rfl _

theorem wp_waitingForTakerFunding {self : WaitingForTakerFunding X}
    (h : Entering m (m', Stage.entered (.waitingForTakerFunding self)) v) :
    (self.onChanged m').wp (Env X) (contract X m) (PostOf m s) v := by
  refine wp_quiet h.1 rfl rfl nofun ?_
  intro _ _ v _ _ h
  refine wp_recv h.here (fun hs => Bool.noConfusion ((h.here.unsent rfl).symm.trans hs)) ?_ ?_
  · exact fun e v h _ => wp_changeTo_early h rfl _
  · intro msg v h _
    dsimp only
    split
    · exact wp_changeTo_early h rfl _
    · exact wp_changeTo_early h rfl _

theorem wp_makerPaymentRefundRequired {self : MakerPaymentRefundRequired X}
    (h : Entering m (m', Stage.entered (.makerPaymentRefundRequired self)) v) :
    (self.onChanged m').wp (Env X) (contract X m)
      (PostOf m (m', .entered (.makerPaymentRefundRequired self))) v := by
  unfold MakerPaymentRefundRequired.onChanged
  split
  · refine wp_quiet h.1 rfl rfl nofun ?_
    rintro _ (e | makerPaymentRefund) v - - h
    · exact wp_changeTo_late h.here.toUnderway h.missed _ rfl
    · exact wp_changeTo_late h.here.toUnderway h.missed _ rfl
  · refine wp_quiet h.1 rfl rfl nofun ?_
    rintro _ (e | _ | toSleep) v - - h
    · exact wp_sleep h.here fun v' h' hm => ⟨h', hm.trans h.missed⟩
    · refine wp_quiet h.here rfl rfl nofun ?_
      rintro _ (e | makerPaymentRefund) v - - h
      · exact wp_changeTo_late h.here.toUnderway h.missed _ rfl
      · exact wp_changeTo_late h.here.toUnderway h.missed _ rfl
    · exact wp_sleep h.here fun v' h' hm => ⟨h', hm.trans h.missed⟩

theorem wp_takerPaymentSpent {self : TakerPaymentSpent X}
    (h : Entering m (m', Stage.entered (.takerPaymentSpent self)) v) :
    (self.onChanged m').wp (Env X) (contract X m) (PostOf m s) v := by
  unfold TakerPaymentSpent.onChanged
  split
  · refine wp_ask h.1 rfl nofun (inWindow_wait rfl fun _ => h.1.makerPaymentLocktime.le) ?_
    rintro _ (e | _) v - - h
    · exact wp_changeTo_refund h.here.toUnderway _ rfl
    · exact wp_changeTo_late h.here.toUnderway h.missed _ rfl
  · exact wp_changeTo_late h.1.toUnderway h.2 _ rfl

/-- A machine that has sent its payment before does not wait for confirmations again. -/
theorem Here.unsent_of_confirmations {self : TakerFundingReceived X}
    (h : Here m (m', Stage.entered (.takerFundingReceived self)) v)
    (hconf : m'.takerFundingRequiredConfirmations > 0) : v.data.sent = false := by
  by_contra hsent
  have hrequire := h.resent (Bool.eq_true_of_not_eq_false hsent) rfl
  simp only [MakerSwapStateMachine.takerFundingRequiredConfirmations] at hconf hrequire
  rw [hrequire] at hconf
  exact absurd hconf (by simp)

theorem wp_fundingGate {self : TakerFundingReceived X}
    (h : Here m (m', Stage.entered (.takerFundingReceived self)) v)
    (hd : v.data.sent = true → v.now + swapTxVisibilityGraceSecs ≤ m.makerPaymentLocktime) :
    (self.fundingGate m').wp (Env X) (contract X m)
      (fun res v' => Here m (m', Stage.entered (.takerFundingReceived self)) v' ∧
        match res with
        | .ok _ => v'.data.missed = false
        | .error _ => v'.data.sent = false) v := by
  unfold TakerFundingReceived.fundingGate
  refine wp_ask h rfl nofun (inWindow_wait rfl hd) ?_
  intro r visible v' hvisible ha h'
  dsimp only
  split
  · rename_i hconf
    have hsent := h'.here.unsent_of_confirmations hconf
    refine wp_ask h'.here rfl nofun
      (inWindow_wait rfl fun hs => Bool.noConfusion (hsent.symm.trans hs)) ?_
    rintro _ (e | _) v'' - - h''
    · exact ⟨h''.here, h''.sent.trans hsent⟩
    · exact ⟨h''.here, h''.missed⟩
  · cases visible with
    | true => exact ⟨h'.here, h'.missed⟩
    | false => exact ⟨h'.here, h'.sent.trans (hvisible ha)⟩

theorem wp_takerFundingReceived {self : TakerFundingReceived X}
    (h : Entering m (m', Stage.entered (.takerFundingReceived self)) v) :
    (self.onChanged m').wp (Env X) (contract X m) (PostOf m s) v := by
  refine wp_quiet h.1 rfl rfl nofun ?_
  rintro r (e | _) v' hvalid ha h'
  · exact wp_changeTo_late h'.here.toUnderway h'.missed _ rfl
  refine (wp_bind _ _).mpr (wp_mono _ ?_ (wp_fundingGate h'.here ?_))
  · rintro (e | _) v ⟨h, hres⟩
    · have hnot (hs : v.data.sent = true) : False := Bool.noConfusion (hres.symm.trans hs)
      exact wp_changeTo h.toUnderway _ (fun hs _ => (hnot hs).elim) fun hs => (hnot hs).elim
    refine wp_quiet h rfl rfl nofun ?_
    rintro _ (e | fundingSpendPreimage) v - - h
    · exact wp_changeTo_late h.here.toUnderway h.missed _ rfl
    have hpre : InWindow m v (.sendMakerPaymentV2 (self.sendMakerPaymentArgs m')) :=
      inWindow_of_isQuiet rfl
    refine (wp_call (K := contract X m) (Call.sendMakerPaymentV2 _) _).mpr ⟨hpre, fun r _ => ?_⟩
    have hunder : Underway m m' (v.react (observer X)
        (.sendMakerPaymentV2 (self.sendMakerPaymentArgs m')) r) :=
      { h.here.toUnderway with
        sent := fun _ => by
          obtain ⟨event, hevent, hkind, _⟩ := h.here.record rfl
          rw [View.react_last _ _ nofun]
          refine ⟨event, hevent, ?_⟩
          rw [hkind]
          exact ⟨nofun, nofun⟩ }
    refine ⟨fun _ => hunder.toStored, ?_⟩
    rintro (e | makerPayment) _
    · exact wp_changeTo_late hunder rfl _ rfl
    · exact wp_changeTo_late hunder rfl _ rfl
  · intro hs
    rw [h'.now]
    exact hvalid ha (h'.sent.symm.trans hs)

theorem wp_searchLoop {self : MakerPaymentSentFundingSpendGenerated X} {waitUntil passes : ℕ}
    (h : Here m (m', Stage.entered (.makerPaymentSentFundingSpendGenerated self)) v)
    (hwait : waitUntil ≤ m.makerPaymentLocktime) :
    (self.searchLoop m' waitUntil passes).wp (Env X) (contract X m) (PostOf m s) v := by
  induction passes generalizing v with
  | zero => exact wp_changeTo_refund h.toUnderway _ rfl
  | succ passes ih =>
    change Proc.wp _ _ (if v.now > waitUntil then _ else _) _ _
    split
    · exact wp_changeTo_refund h.toUnderway _ rfl
    · rename_i hnow
      have hd : v.now ≤ m.makerPaymentLocktime := (Nat.le_of_not_gt hnow).trans hwait
      refine wp_ask h rfl nofun (inWindow_wait rfl fun _ => hd) ?_
      rintro _ (e | _ | spend) v - - h
      · cases e with
        | rpc e => exact wp_sleep h.here fun v' h' _ => ih h'
        | _ => exact wp_changeTo_refund h.here.toUnderway _ rfl
      · exact wp_sleep h.here fun v' h' _ => ih h'
      · cases spend with
        | transferredToTakerPayment takerPayment =>
          refine wp_changeTo_late h.here.toUnderway h.missed _ ?_
          unfold MakerPaymentSentFundingSpendGenerated.received
          split <;> rfl
        | refundedTimelock tx => exact wp_changeTo_refund h.here.toUnderway _ rfl
        | refundedSecret tx secret => exact wp_changeTo_refund h.here.toUnderway _ rfl

theorem wp_makerPaymentSent {self : MakerPaymentSentFundingSpendGenerated X}
    (h : Entering m (m', Stage.entered (.makerPaymentSentFundingSpendGenerated self)) v) :
    (self.onChanged m').wp (Env X) (contract X m) (PostOf m s) v := by
  refine wp_quiet h.1 rfl rfl nofun ?_
  intro _ _ v _ _ h
  refine wp_searchLoop h.here ?_
  exact h.here.takerPaymentConfTimeout.trans_le (confTimeout_le m)

/-- Revealing the secret before the negotiated locktime. -/
theorem inWindow_spend {preimage : Option (TxPreimageWithSig X.takerCoin)}
    {args : GenTakerPaymentSpendArgs X.takerCoin} {secret uniqueData : Bytes}
    (hargs : v.last.bind (·.takerPaymentLocktime) = some args.timeLock)
    (hnow : v.now < args.timeLock) :
    InWindow m v (.signAndBroadcastTakerPaymentSpend preimage args secret uniqueData) where
  spend := by
    rintro _ _ _ _ ⟨⟩
    exact ⟨hargs, hnow⟩
  wait := by
    rintro _ _ ⟨⟩
  refund := by
    rintro _ _ _ ⟨⟩

theorem Here.kind {p : MakerSwapStateMachine × Stage (MakerState X)} (h : Here m p v)
    {kind : MakerStateKind} {locktime : Option ℕ} (hp : key p.2 = some (kind, locktime)) :
    v.last.map (·.kind) = some kind := by
  obtain ⟨event, hevent, hkind, _⟩ := h.record hp
  rw [Option.mem_def.mp hevent, Option.map_some, hkind]

theorem Here.locktime {p : MakerSwapStateMachine × Stage (MakerState X)} (h : Here m p v)
    {kind : MakerStateKind} {locktime : ℕ} (hp : key p.2 = some (kind, some locktime)) :
    v.last.bind (·.takerPaymentLocktime) = some locktime := by
  obtain ⟨event, hevent, _, hlock⟩ := h.record hp
  rw [Option.mem_def.mp hevent]
  exact hlock

theorem wp_takerPaymentReceived {self : TakerPaymentReceived X}
    (h : Entering m (m', Stage.entered (.takerPaymentReceived self)) v) :
    (self.onChanged m').wp (Env X) (contract X m) (PostOf m s) v := by
  have hconf := h.1.takerPaymentConfTimeout
  refine wp_ask h.1 rfl nofun
    (inWindow_wait rfl fun _ => hconf.trans_le (confTimeout_le m)) ?_
  rintro r (e | _) v' hinTime ha h'
  · exact wp_changeTo_refund h'.here.toUnderway _ rfl
  refine wp_recv h'.here (fun _ => ?_) (fun e v h _ => wp_changeTo_refund h.toUnderway _ rfl) ?_
  · rw [h'.now, hconf]
    exact hinTime ha (h.1.kind rfl)
  intro preimageData v h _
  refine wp_quiet h rfl rfl nofun ?_
  intro _ makerAddress v _ _ h
  dsimp only
  split
  · exact wp_changeTo_refund h.here.toUnderway _ rfl
  split
  · exact wp_changeTo_refund h.here.toUnderway _ rfl
  refine wp_quiet h.here rfl rfl nofun ?_
  rintro r (e | _) v' hvalid ha h'
  · exact wp_changeTo_refund h'.here.toUnderway _ rfl
  have hnow := hvalid ha
  rw [← h'.now] at hnow
  refine wp_ask h'.here rfl nofun (inWindow_spend (h'.here.locktime rfl) hnow) ?_
  rintro _ (e | takerPaymentSpend) v - - h
  · exact wp_changeTo_refund h.here.toUnderway _ rfl
  · exact wp_changeTo_late h.here.toUnderway h.missed _ rfl

theorem wp_takerPaymentReceivedSkipped
    {self : TakerPaymentReceivedAndPreimageValidationSkipped X}
    (h : Entering m
      (m', Stage.entered (.takerPaymentReceivedAndPreimageValidationSkipped self)) v) :
    (self.onChanged m').wp (Env X) (contract X m) (PostOf m s) v := by
  have hconf := h.1.takerPaymentConfTimeout
  refine wp_ask h.1 rfl nofun
    (inWindow_wait rfl fun _ => hconf.trans_le (confTimeout_le m)) ?_
  rintro _ (e | _) v - - h
  · exact wp_changeTo_refund h.here.toUnderway _ rfl
  refine wp_quiet h.here rfl rfl nofun ?_
  intro r makerAddress v' hinTime ha h'
  have hlock := h.here.locktime rfl
  have hnow : v'.now < self.negotiationData.takerPaymentLocktime := by
    rw [h'.now]
    exact hinTime (by rw [ha]; rfl) (h.here.kind rfl) _ hlock
  refine wp_ask h'.here rfl nofun (inWindow_spend (h'.here.locktime rfl) hnow) ?_
  rintro _ (e | takerPaymentSpend) v - - h
  · exact wp_changeTo_refund h.here.toUnderway _ rfl
  · exact wp_changeTo_late h.here.toUnderway h.missed _ rfl

theorem wp_onChanged {state : MakerState X} (h : Entering m (m', Stage.entered state) v) :
    (state.onChanged m').wp (Env X) (contract X m) (PostOf m (m', .entered state)) v := by
  cases state with
  | initialized _ => exact wp_initialized h
  | waitingForTakerFunding _ => exact wp_waitingForTakerFunding h
  | takerFundingReceived _ => exact wp_takerFundingReceived h
  | makerPaymentSentFundingSpendGenerated _ => exact wp_makerPaymentSent h
  | makerPaymentRefundRequired _ => exact wp_makerPaymentRefundRequired h
  | takerPaymentReceived _ => exact wp_takerPaymentReceived h
  | takerPaymentReceivedAndPreimageValidationSkipped _ => exact wp_takerPaymentReceivedSkipped h
  | takerPaymentSpent _ => exact wp_takerPaymentSpent h
  | aborted _ => exact h.1.toStored
  | completed => exact h.1.toStored
  | makerPaymentRefunded _ => exact h.1.toStored

/-- The machine that a restart finds works in the state that was stored. -/
theorem here_of_restore {w : World X MakerSwapEvent MakerSwapDbRepr}
    {p : MakerSwapStateMachine × Stage (MakerState X)}
    (hstored : Stored m ((observer X).view w)) (hp : (makerSwap X).restore w = some p) :
    Here m p ((observer X).view w) := by
  obtain ⟨repr, m', state, hrepr, hrecreate, rfl⟩ := SwapMachine.exists_of_restore hp
  obtain ⟨rfl, event, hevent, hstate⟩ := exists_of_recreateMachine hrecreate
  obtain ⟨hkind, hlock⟩ := kind_of_recreateState hstate
  obtain ⟨hstarted, hduration⟩ := hstored.repr repr hrepr
  refine ⟨⟨hstored, hstarted, hduration⟩, ?_, fun _ _ => rfl⟩
  change Option.map _ w.events.getLast? = some (state.kind, state.takerPaymentLocktime)
  rw [Option.mem_def.mp hevent, Option.map_some, hkind, hlock]

/-- Starting and restarting. -/
theorem wp_runFrom {p : MakerSwapStateMachine × Stage (MakerState X)} (h : Here m p v) :
    (runFrom (MakerSwapStateMachine.toDbRepr X) p.1 p.2).wp (Env X) (contract X m)
      (PostOf m p) v := by
  refine wp_quiet h rfl rfl nofun ?_
  rintro _ (e | _) v - - h
  · exact h.here.toStored
  refine wp_quiet h.here rfl rfl nofun ?_
  rintro _ (e | _ | _) v - - h
  · exact h.here.toStored
  · have hpre : InWindow m v (.storeRepr (p.1.toDbRepr X) : MakerCall X) := inWindow_of_isQuiet rfl
    refine (wp_call (K := contract X m) (Call.storeRepr _) _).mpr ⟨hpre, fun r _ => ?_⟩
    have hdata : (v.react (observer X) (.storeRepr (p.1.toDbRepr X)) r).data =
        { v.data with missed := false } := View.react_data _ _ _ _
    have hlast := View.react_last (observer X) v (c := .storeRepr (p.1.toDbRepr X)) nofun r
    have hstored : Stored m (v.react (observer X) (.storeRepr (p.1.toDbRepr X)) r) := by
      refine ⟨?_, by rw [hdata, hlast]; exact h.here.sent⟩
      rw [View.react_storeRepr]
      split
      · rintro _ ⟨⟩
        exact ⟨h.here.startedAt, h.here.lockDuration⟩
      · exact h.here.repr
    refine ⟨fun _ => hstored, ?_⟩
    rintro (e | _) _
    · exact hstored
    · refine ⟨⟨⟨hstored, h.here.startedAt, h.here.lockDuration⟩, ?_, ?_⟩, ?_⟩
      · exact (congrArg _ hlast).trans h.here.last
      · exact fun hsent => h.here.resent (congrArg Seen.sent hdata ▸ hsent)
      · exact congrArg Seen.missed hdata
  · exact ⟨h.here, h.missed⟩

theorem verified (m : MakerSwapStateMachine) :
    Verified (makerSwap X).machine (Env X) (observer X).view (contract X m) (Entering m)
      (fun _ => Stored m) where
  abstraction := (observer X).abstraction
  onChanged := by
    rintro ⟨m', _ | state⟩ v h
    · exact wp_onInitialize h
    · exact wp_onChanged h
  onFinished := by
    intro _ v h
    have hpre : InWindow m v (.markFinished : MakerCall X) := inWindow_of_isQuiet rfl
    exact (wp_call (K := contract X m) Call.markFinished _).mpr
      ⟨hpre, fun r _ => ⟨fun _ => h.react rfl r, fun _ _ => h.react rfl r⟩⟩
  elapse _ _ h := ⟨h.repr, h.sent⟩
  resume w p hstored hp := wp_runFrom (here_of_restore hstored hp)

end States

/-! ## Every run -/

/-- The reply of this event comes in time. -/
abbrev InTime (X : External) (m : MakerSwapStateMachine) :
    Config (MakerCall X) Call.Answer (World X MakerSwapEvent MakerSwapDbRepr)
      (MakerSwapStateMachine × Stage (MakerState X)) → Event (MakerCall X) Call.Answer → Prop :=
  Keeps (contract X m) (observer X).view

/-- In every run, with any delays, crashes and restarts, in which the replies come in time, the
maker reveals its secret before the negotiated locktime, and after its payment it waits no longer
than until its own locktime and takes the payment back when a wait has failed. -/
theorem inWindow_of_run (m : MakerSwapStateMachine) (now : ℕ)
    (es : List (Event (MakerCall X) Call.Answer))
    (hes : Runs.Meets (fun x e => some ((makerSwap X).machine.step x e)) (InTime X m)
      ((makerSwap X).start m now) es) (c : MakerCall X)
    (hc : ((makerSwap X).machine.run ((makerSwap X).start m now) es).pending = some c) :
    InWindow m ((observer X).view
      ((makerSwap X).machine.run ((makerSwap X).start m now) es).world) c := by
  have hstart : Here m (m, (.start : Stage (MakerState X)))
      ((observer X).view (World.fresh now)) :=
    ⟨⟨⟨by rintro _ ⟨⟩, by rintro ⟨⟩⟩, rfl, rfl⟩, rfl, by rintro ⟨⟩⟩
  exact (verified (X := X) m).pre_of_run (x := (makerSwap X).start m now) (wp_runFrom hstart)
    hes hc

def isSpend : MakerCall X → Bool
  | .signAndBroadcastTakerPaymentSpend .. => true
  | _ => false

/-- A run without trouble, close to the epoch, to the point where the secret is revealed. -/
theorem inWindow_smooth :
    (sampleRun 0 (smoothEvents 0 false 38)).pending.any isSpend = true ∧
    ∀ c, (sampleRun 0 (smoothEvents 0 false 38)).pending = some c →
      InWindow (sampleMaker 0)
        ((observer .raw).view (sampleRun 0 (smoothEvents 0 false 38)).world) c :=
  ⟨by decide +kernel, inWindow_of_run (sampleMaker 0) 0 (smoothEvents 0 false 38)
    (by decide +kernel)⟩

/-- The call breaks the promise: it reveals the secret at the locktime or later, or it waits for
longer than the own payment is locked. -/
def breaksWindow (m : MakerSwapStateMachine) (v : MakerView) : MakerCall X → Bool
  | .signAndBroadcastTakerPaymentSpend _ args _ _ => decide (args.timeLock ≤ v.now)
  | c => v.data.sent && (waitsUntil v.now c).any (m.makerPaymentLocktime < ·)

theorem not_inWindow_of_breaksWindow {m : MakerSwapStateMachine} {v : MakerView} {c : MakerCall X}
    (h : breaksWindow m v c = true) : ¬ InWindow m v c := by
  intro hin
  unfold breaksWindow at h
  split at h
  · rename_i preimage args secret uniqueData
    have hnow := (hin.spend preimage args secret uniqueData rfl).2
    exact absurd (of_decide_eq_true h) (Nat.not_le_of_lt hnow)
  · obtain ⟨hsent, hany⟩ := (Bool.and_eq_true _ _).mp h
    obtain ⟨deadline, hd, hlate⟩ := (Option.any_eq_true _ _).mp hany
    exact absurd (of_decide_eq_true hlate) (Nat.not_lt_of_le (hin.wait hsent deadline hd))

/-- The run ends in a call that breaks the promise. -/
def BreaksWindow (startedAt : ℕ) (es : List (Event (MakerCall .raw) Call.Answer)) : Prop :=
  ∃ c, (sampleRun startedAt es).pending = some c ∧
    ¬ InWindow (sampleMaker startedAt) ((observer .raw).view (sampleRun startedAt es).world) c

theorem breaksWindow_of_any {startedAt : ℕ} {es : List (Event (MakerCall .raw) Call.Answer)}
    (h : (sampleRun startedAt es).pending.any (breaksWindow (sampleMaker startedAt)
      ((observer .raw).view (sampleRun startedAt es).world)) = true) : BreaksWindow startedAt es := by
  obtain ⟨c, hc, hbreaks⟩ := (Option.any_eq_true _ _).mp h
  exact ⟨c, hc, not_inWindow_of_breaksWindow hbreaks⟩

/-- The maker is stopped while it waits for the taker payment and restarted after the taker
payment's locktime: it reveals the secret. And in every run of the present day it waits for the
preimage for decades, as the point in time that it passes for the timeout is taken for a duration. -/
theorem breaksWindow_sample :
    BreaksWindow 1700000000 (smoothEvents 1700000000 false 33 ++ [.reply crash, .kickstart 6000] ++
      smoothEvents 1700000000 true 8) ∧
    BreaksWindow 1700000000 (smoothEvents 1700000000 false 35) :=
  ⟨breaksWindow_of_any (by decide +kernel), breaksWindow_of_any (by decide +kernel)⟩

end DeXFG.SwapV2.MakerSwap.SecretWindow
