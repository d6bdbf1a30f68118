import DeXFG.SwapV2.SinglePayment

/-!
# The amounts that a running swap locks

A swap enters its volume into the context of the node when it is initialized or
started again before its payment, and takes it out with the record of the
payment or when it is marked as finished. The context does not survive the node.
-/
namespace DeXFG.SwapV2
open Ordermatch (MmNumber Uuid)
open Library Library.Process Library.DurableMachine

variable {X : External} {Mach State Ev Repr : Type}

structure LockedAmount where
  coin : String
  amount : MmNumber
  tradeFee : Option TradeFee

structure LockedAmountInfo where
  swapUuid : Uuid
  lockedAmount : LockedAmount

/-- `locked_amounts` of the swaps context, by the coins' tickers. -/
abbrev LockedAmounts := String → List LockedAmountInfo

namespace LockedAmounts

def empty : LockedAmounts := fun _ => []

def push (l : LockedAmounts) (ticker : String) (info : LockedAmountInfo) : LockedAmounts :=
  Function.update l ticker (l ticker ++ [info])

def retainOthers (l : LockedAmounts) (ticker : String) (uuid : Uuid) : LockedAmounts :=
  Function.update l ticker ((l ticker).filter fun locked => locked.swapUuid ≠ uuid)

/-- How often the swap has an entry for the coin. -/
def entries (l : LockedAmounts) (ticker : String) (uuid : Uuid) : ℕ :=
  (l ticker).countP fun locked => locked.swapUuid = uuid

variable (l : LockedAmounts) (ticker : String) (uuid : Uuid)

@[simp] theorem entries_empty : empty.entries ticker uuid = 0 := rfl

theorem entries_push (amount : LockedAmount) :
    (l.push ticker ⟨uuid, amount⟩).entries ticker uuid = l.entries ticker uuid + 1 := by
  simp [entries, push]

@[simp] theorem entries_retainOthers : (l.retainOthers ticker uuid).entries ticker uuid = 0 := by
  simp [entries, retainOthers, List.countP_filter]

theorem entries_retainOthers_of_entries {l : LockedAmounts} {ticker : String} {uuid : Uuid}
    (h : l.entries ticker uuid = 0) (other : String) :
    (l.retainOthers other uuid).entries ticker uuid = 0 := by
  by_cases hother : other = ticker
  · subst hother
    exact entries_retainOthers l other uuid
  · simpa [entries, retainOthers, Function.update_of_ne (Ne.symm hother)] using h

end LockedAmounts

/-! ## What a call does to the stored swap -/

namespace World

variable (w : World X Ev Repr)

theorem react_log (c : Call X Ev Repr) (r : Reply c.Answer) :
    (w.react c r).log = ⟨w.now, c, r⟩ :: w.log := by
  cases c with
  | storeRepr repr =>
    simp only [react, store]
    split <;> rfl
  | storeEvent event =>
    simp only [react, store]
    split <;> rfl
  | markFinished =>
    simp only [react, store]
    split <;> rfl
  | _ => rfl

theorem react_payments (c : Call X Ev Repr) (r : Reply c.Answer) :
    (w.react c r).payments = w.payments + if c.broadcast r then 1 else 0 := by
  unfold payments
  rw [react_log, List.countP_cons]

theorem react_events {c : Call X Ev Repr} (hc : ∀ event, c ≠ .storeEvent event)
    (r : Reply c.Answer) : (w.react c r).events = w.events := by
  cases c with
  | storeEvent event => exact absurd rfl (hc event)
  | storeRepr repr =>
    simp only [react, store]
    split <;> rfl
  | markFinished =>
    simp only [react, store]
    split <;> rfl
  | _ => rfl

theorem react_storeEvent (event : Ev) (r : Reply (Except String Unit)) :
    (w.react (.storeEvent event) r).events = if r.took then w.events ++ [event] else w.events := by
  simp only [react, store]
  split <;> rfl

theorem react_repr {c : Call X Ev Repr} (hc : ∀ repr, c ≠ .storeRepr repr) (r : Reply c.Answer) :
    (w.react c r).repr = w.repr := by
  cases c with
  | storeRepr repr => exact absurd rfl (hc repr)
  | storeEvent event =>
    simp only [react, store]
    split <;> rfl
  | markFinished =>
    simp only [react, store]
    split <;> rfl
  | _ => rfl

theorem react_storeRepr (repr : Repr) (r : Reply (Except String Unit)) :
    (w.react (.storeRepr repr) r).repr = if r.took then some repr else w.repr := by
  simp only [react, store]
  split <;> rfl

end World

/-! ## A swap in its node -/

/-- What a side enters and takes out, and what its events are to that. -/
structure Locking {T : Transitions X Mach State Ev Repr} {M : SwapMachine X Mach State Ev Repr}
    (P : Phases T M) where
  uuid : Mach → Uuid
  reprUuid : Repr → Uuid
  /-- The own coin. -/
  ticker : String
  isFirst : Ev → Bool
  isPaid : Ev → Bool
  onEvent : Mach → Ev → LockedAmounts → LockedAmounts
  onKickstartEvent : Mach → Ev → LockedAmounts → LockedAmounts
  cleanUpContext : Mach → LockedAmounts → LockedAmounts
  stored : ∀ m, reprUuid (M.toDbRepr m) = uuid m
  recreated : ∀ {repr events m s}, M.recreateMachine repr events = .ok (m, s) →
    uuid m = reprUuid repr
  first : ∀ {R m s}, T.next R m .start s → P.phase (T.getEvent s) = .before →
    isFirst (T.getEvent s) = true
  not_first : ∀ {R m s s'}, T.next R m (.entered s) s' → isFirst (T.getEvent s') = false
  phase_first : ∀ {event}, isFirst event = true → P.phase event = .before
  paid : ∀ {R m stage s}, T.paid R m stage s → isPaid (T.getEvent s) = true
  not_paid : ∀ {R m stage s}, T.next R m stage s → isPaid (T.getEvent s) = false
  entries_onEvent : ∀ m event l, (onEvent m event l).entries ticker (uuid m) =
    if isFirst event then l.entries ticker (uuid m) + 1
    else if isPaid event then 0 else l.entries ticker (uuid m)
  entries_kickstart : ∀ m event,
    (onKickstartEvent m event .empty).entries ticker (uuid m) =
      if P.phase event = .before then 1 else 0
  entries_cleanUp : ∀ m l, (cleanUpContext m l).entries ticker (uuid m) = 0

/-- The stored swap and the context of the node. -/
structure NodeWorld (X : External) (Ev Repr : Type) where
  swap : World X Ev Repr
  locked : LockedAmounts

/-- A new swap in a node with these amounts locked, about to run. -/
def SwapMachine.startIn (M : SwapMachine X Mach State Ev Repr) (l : LockedAmounts) (m : Mach)
    (now : ℕ) : Config (Call X Ev Repr) Call.Answer (NodeWorld X Ev Repr) (Mach × Stage State) where
  world := ⟨World.fresh now, l⟩
  status := (M.start m now).status

theorem Call.broadcast_of_isSent {c : Call X Ev Repr} {r : Reply c.Answer} {a : c.Answer}
    (ha : r.answer = some a) (h : c.isSent a = true) : c.broadcast r = true := by
  cases c with
  | sendMakerPaymentV2 args =>
    cases a with
    | error e => cases h
    | ok tx => exact Reply.took_of_ok ha
  | sendTakerFunding args =>
    cases a with
    | error e => cases h
    | ok tx => exact Reply.took_of_ok ha
  | _ => cases h

namespace Locking

variable {T : Transitions X Mach State Ev Repr} {M : SwapMachine X Mach State Ev Repr}
  {P : Phases T M} (L : Locking P) (m : Mach)

/-- The context while a call is pending: `on_event` runs right before an event is stored, with no
await in between. -/
def held (l : LockedAmounts) : Call X Ev Repr → LockedAmounts
  | .storeEvent event => L.onEvent m event l
  | _ => l

/-- The context is cleaned up only when the swap could be marked as finished. -/
def answered (l : LockedAmounts) : (c : Call X Ev Repr) → c.Answer → LockedAmounts
  | .markFinished, .ok _ => L.cleanUpContext m l
  | c, _ => L.held m l c

/-- A call of the swap. A process that is stopped in the call loses the context. -/
def react (w : NodeWorld X Ev Repr) (c : Call X Ev Repr) (r : Reply c.Answer) :
    NodeWorld X Ev Repr where
  swap := w.swap.react c r
  locked :=
    match r.answer with
    | none => .empty
    | some a => L.answered m w.locked c a

/-- The node starts anew, with an empty context, and kickstarts the swap if it finds it
unfinished. -/
def restart (w : NodeWorld X Ev Repr) (delay : ℕ) : NodeWorld X Ev Repr where
  swap := World.env.elapse w.swap delay
  locked :=
    match M.restore (World.env.elapse w.swap delay) with
    | some (m', .entered state) => L.onKickstartEvent m' (T.getEvent state) .empty
    | _ => .empty

def env : Env (Call X Ev Repr) Call.Answer (NodeWorld X Ev Repr) where
  clock w := w.swap.now
  elapse := L.restart
  react := L.react m

/-- The machine of the swap in its node. -/
def machine : Machine (Call X Ev Repr) Call.Answer (NodeWorld X Ev Repr) (Mach × Stage State) where
  env := L.env m
  onChanged := M.machine.onChanged
  onFinished := M.machine.onFinished
  restore w := M.restore w.swap
  resume := M.machine.resume

/-- The call stores the first event of the swap. -/
def opens : Call X Ev Repr → Bool
  | .storeEvent event => L.isFirst event
  | _ => false

/-- The first event of the swap was stored, or was to be. -/
def begun (w : World X Ev Repr) : Bool := w.log.any fun entry => L.opens entry.call

/-- The amount is to be locked while this call is pending. -/
abbrev Locks (w : World X Ev Repr) (c : Call X Ev Repr) : Prop :=
  (L.begun w = true ∨ L.opens c = true) ∧ w.payments = 0

/-- The own coin has one entry for the swap while the swap runs, has its first event and has not
paid, and else none. -/
def Exact (x : Config (Call X Ev Repr) Call.Answer (NodeWorld X Ev Repr) (Mach × Stage State)) :
    Prop :=
  (∀ c, x.pending = some c → (L.held m x.world.locked c).entries L.ticker (L.uuid m) =
    if L.Locks x.world.swap c then 1 else 0) ∧
  (x.status = .down → x.world.locked.entries L.ticker (L.uuid m) = 0)

/-- A broadcast payment is answered as sent and then gets on record; neither the lock nor the
storage fails while the amount is locked. -/
def Steady (w : World X Ev Repr) (c : Call X Ev Repr) (r : Reply c.Answer) : Prop :=
  P.Recorded ((counting X Ev Repr).view w) c r ∧
  (c.broadcast r = true → r.answer.any c.isSent = true) ∧
  (r.answer.any c.failed = true → ¬ L.Locks w c)

/-- The reply of the event is steady. -/
def StaysSteady (x : Config (Call X Ev Repr) Call.Answer (NodeWorld X Ev Repr) (Mach × Stage State))
    (e : Event (Call X Ev Repr) Call.Answer) : Prop :=
  match x.status, e with
  | .running _ (.call c _), .reply r => L.Steady x.world.swap c (r c)
  | _, _ => True

/-! ### The invariant -/

/-- What the phase of the last record says of the swap. -/
def Fits (phase : Option Phase) (begun : Bool) (payments : ℕ) : Prop :=
  match phase with
  | none => payments = 0
  | some .before => begun = true ∧ payments = 0
  | some .after => 0 < payments
  | some .ended => True

/-- What is stored when the swap is not running. -/
structure Recorded (w : World X Ev Repr) : Prop where
  fits : Fits (w.events.getLast?.map P.phase) (L.begun w) w.payments
  repr : ∀ repr ∈ w.repr, L.reprUuid repr = L.uuid m

structure Kept (w : NodeWorld X Ev Repr) : Prop where
  recorded : L.Recorded m w.swap
  entries : w.locked.entries L.ticker (L.uuid m) = 0

def stagePhase (P : Phases T M) : Stage State → Option Phase
  | .start => none
  | .entered s => some (P.phase (T.getEvent s))

/-- The machine works in a stage. -/
structure Here (p : Mach × Stage State) (w : NodeWorld X Ev Repr) : Prop where
  recorded : L.Recorded m w.swap
  entries : w.locked.entries L.ticker (L.uuid m) =
    if L.begun w.swap = true ∧ w.swap.payments = 0 then 1 else 0
  stage : w.swap.events.getLast?.map P.phase = stagePhase P p.2
  fresh : p.2 = .start → L.begun w.swap = false
  uuid : L.uuid p.1 = L.uuid m

def contract : Contract (Call X Ev Repr) Call.Answer (NodeWorld X Ev Repr) where
  allowed w := L.Steady w.swap
  pre w c := (L.held m w.locked c).entries L.ticker (L.uuid m) =
    if L.Locks w.swap c then 1 else 0
  stopped := L.Kept m

variable {L m} {w : NodeWorld X Ev Repr} {p : Mach × Stage State}

theorem begun_react (w : World X Ev Repr) (c : Call X Ev Repr) (r : Reply c.Answer) :
    L.begun (w.react c r) = (L.opens c || L.begun w) := by
  unfold begun
  rw [World.react_log, List.any_cons]

/-- Before its first event a swap has nothing to lock, after it as long as it has not paid. -/
theorem Here.locks (h : L.Here m p w) {c : Call X Ev Repr} (hc : L.opens c = false) :
    w.locked.entries L.ticker (L.uuid m) = if L.Locks w.swap c then 1 else 0 := by
  rw [h.entries]
  simp [Locks, hc]

theorem Recorded.react (h : L.Recorded m w.swap) {c : Call X Ev Repr}
    (hevent : ∀ event, c ≠ .storeEvent event) (hrepr : ∀ repr, c = .storeRepr repr →
      L.reprUuid repr = L.uuid m) {r : Reply c.Answer} (hpaid : c.broadcast r = false) :
    L.Recorded m (w.swap.react c r) := by
  have hopens : L.opens c = false := by
    cases c <;> first | rfl | exact absurd rfl (hevent _)
  constructor
  · rw [World.react_events _ hevent, begun_react, World.react_payments, hopens, hpaid]
    exact h.fits
  · cases c with
    | storeRepr repr =>
      rw [World.react_storeRepr]
      split
      · simpa using hrepr repr rfl
      · exact h.repr
    | _ =>
      rw [World.react_repr _ (fun _ hc => by cases hc)]
      exact h.repr

theorem Kept.of_none {c : Call X Ev Repr} {r : Reply c.Answer}
    (h : L.Recorded m (w.swap.react c r)) (hnone : r.answer = none) :
    L.Kept m (L.react m w c r) := by
  refine ⟨h, ?_⟩
  simp [react, hnone]

/-- The storage fails only when nothing is locked. -/
theorem Kept.of_failed {c : Call X Ev Repr} {r : Reply c.Answer}
    (h : L.Recorded m (w.swap.react c r)) (hpre : (L.contract m).pre w c)
    (hr : L.Steady w.swap c r) {a : c.Answer} (ha : r.answer = some a)
    (hfailed : c.failed a = true) : L.Kept m (L.react m w c r) := by
  refine ⟨h, ?_⟩
  have hfree := hr.2.2 (by simp [ha, hfailed])
  have hanswered : L.answered m w.locked c a = L.held m w.locked c := by
    cases c with
    | markFinished =>
      cases a with
      | error e => rfl
      | ok _ => cases hfailed
    | _ => rfl
  simp only [react, ha, hanswered]
  exact Eq.trans hpre (if_neg hfree)

/-- A call that leaves the context as it is and pays nothing. -/
theorem Here.react (h : L.Here m p w) {c : Call X Ev Repr}
    (hevent : ∀ event, c ≠ .storeEvent event) (hrepr : ∀ repr, c = .storeRepr repr →
      L.reprUuid repr = L.uuid m) {r : Reply c.Answer} (hpaid : c.broadcast r = false)
    {a : c.Answer} (ha : r.answer = some a) (hlocked : L.answered m w.locked c a = w.locked) :
    L.Here m p (L.react m w c r) := by
  have hopens : L.opens c = false := by
    cases c <;> first | rfl | exact absurd rfl (hevent _)
  constructor
  · exact h.recorded.react hevent hrepr hpaid
  · simp only [Locking.react, ha, hlocked, begun_react, World.react_payments, hopens, hpaid]
    exact h.entries
  · simp only [Locking.react, World.react_events _ hevent]
    exact h.stage
  · intro hstart
    simp only [Locking.react, begun_react, hopens, h.fresh hstart]
    rfl
  · exact h.uuid

/-- A call that neither stores an event nor pays. -/
theorem Here.handles (h : L.Here m p w) {c : Call X Ev Repr}
    (hevent : ∀ event, c ≠ .storeEvent event) (hrepr : ∀ repr, c = .storeRepr repr →
      L.reprUuid repr = L.uuid m) (hc : c.isPayment = false) (hfinish : c ≠ .markFinished) :
    Handles (L.env m) (L.contract m) c (fun _ => L.Here m p) w := by
  have hheld : L.held m w.locked c = w.locked := by
    cases c <;> first | rfl | exact absurd rfl (hevent _)
  have hanswered (a : c.Answer) : L.answered m w.locked c a = w.locked := by
    cases c <;> first | rfl | exact absurd rfl (hevent _) | exact absurd rfl hfinish
  have hpre : (L.contract m).pre w c := by
    change (L.held m w.locked c).entries L.ticker (L.uuid m) = _
    rw [hheld]
    apply h.locks
    cases c <;> first | rfl | exact absurd rfl (hevent _)
  refine ⟨hpre, fun r hr => ?_⟩
  have hpaid : c.broadcast r = false := by
    rw [← Bool.not_eq_true]
    intro hpaid
    rw [Call.isPayment_of_broadcast hpaid] at hc
    cases hc
  have hrecorded := h.recorded.react hevent hrepr (r := r) hpaid
  refine ⟨Kept.of_none hrecorded, fun a ha => ⟨Kept.of_failed hrecorded hpre hr ha, fun _ => ?_⟩⟩
  exact h.react hevent hrepr hpaid ha (hanswered a)

theorem Fits.mono {phase : Option Phase} {begun : Bool} {payments : ℕ}
    (h : Fits phase begun payments) (opens : Bool) : Fits phase (opens || begun) payments := by
  unfold Fits at *
  split at h
  · exact h
  · exact ⟨by rw [h.1, Bool.or_true], h.2⟩
  · exact h
  · exact h

/-- An event is stored: where its record may be missing, the records before it fit. -/
theorem handles_store {m' : Mach} {next : State}
    (hlocked : (L.onEvent m (T.getEvent next) w.locked).entries L.ticker (L.uuid m) =
      if L.Locks w.swap (.storeEvent (T.getEvent next)) then 1 else 0)
    (hnew : Fits (some (P.phase (T.getEvent next)))
      (L.isFirst (T.getEvent next) || L.begun w.swap) w.swap.payments)
    (hold : Fits (w.swap.events.getLast?.map P.phase) (L.begun w.swap) w.swap.payments ∨
      0 < w.swap.payments ∧ P.Unpaid w.swap.events.getLast?)
    (hrepr : ∀ repr ∈ w.swap.repr, L.reprUuid repr = L.uuid m) (huuid : L.uuid m' = L.uuid m) :
    Handles (L.env m) (L.contract m) (.storeEvent (T.getEvent next))
      (fun _ => L.Here m (m', .entered next)) w := by
  refine ⟨hlocked, fun r hr => ?_⟩
  have hbegun : L.begun (w.swap.react (.storeEvent (T.getEvent next)) r) =
      (L.isFirst (T.getEvent next) || L.begun w.swap) := begun_react _ _ _
  have hpayments : (w.swap.react (.storeEvent (T.getEvent next)) r).payments =
      w.swap.payments := World.react_payments _ _ _
  have hevents := World.react_storeEvent w.swap (T.getEvent next) r
  have hrecorded : L.Recorded m (w.swap.react (.storeEvent (T.getEvent next)) r) := by
    constructor
    · rw [hbegun, hpayments, hevents]
      by_cases htook : r.took = true
      · simpa [htook] using hnew
      · rw [if_neg htook]
        obtain hfits | ⟨hpaid, hunpaid⟩ := hold
        · exact hfits.mono _
        · rw [← counting_view] at hpaid
          exact absurd (hr.1 hpaid hunpaid) htook
    · rw [World.react_repr _ (fun _ hc => by cases hc)]
      exact hrepr
  refine ⟨Kept.of_none hrecorded, ?_⟩
  rintro (e | _) ha
  · exact ⟨Kept.of_failed hrecorded hlocked hr ha, nofun⟩
  · refine ⟨nofun, fun _ => ?_⟩
    constructor
    · exact hrecorded
    · change (L.react m w (.storeEvent (T.getEvent next)) r).locked.entries _ _ =
        if L.begun (w.swap.react (.storeEvent (T.getEvent next)) r) = true ∧
          (w.swap.react (.storeEvent (T.getEvent next)) r).payments = 0 then 1 else 0
      simp only [react, ha]
      rw [hbegun, hpayments]
      apply hlocked.trans (if_congr _ rfl rfl)
      simp [Locks, opens, or_comm]
    · change (w.swap.react (.storeEvent (T.getEvent next)) r).events.getLast?.map _ = _
      rw [hevents, if_pos (Reply.took_of_ok ha)]
      simp [stagePhase]
    · nofun
    · exact huuid

/-- What a state change without a payment does to the entries. -/
theorem Here.locked_next {R : (c : Call X Ev Repr) → c.Answer → Prop} (h : L.Here m p w)
    {next : State} (hnext : T.next R p.1 p.2 next) :
    (L.onEvent m (T.getEvent next) w.locked).entries L.ticker (L.uuid m) =
      if L.Locks w.swap (.storeEvent (T.getEvent next)) then 1 else 0 := by
  rw [L.entries_onEvent, L.not_paid hnext, h.entries]
  by_cases hfirst : L.isFirst (T.getEvent next) = true
  · obtain ⟨m', _ | s⟩ := p
    · have hbefore : w.swap.payments = 0 := by
        have hfits := h.recorded.fits
        rw [h.stage] at hfits
        exact hfits
      simp [Locks, opens, hfirst, h.fresh rfl, hbefore]
    · rw [L.not_first hnext] at hfirst
      cases hfirst
  · simp [Locks, opens, hfirst]

/-- The next record fits when there was no payment. -/
theorem Here.fits_next {R : (c : Call X Ev Repr) → c.Answer → Prop} (h : L.Here m p w)
    {next : State} (hnext : T.next R p.1 p.2 next) :
    Fits (some (P.phase (T.getEvent next))) (L.isFirst (T.getEvent next) || L.begun w.swap)
      w.swap.payments := by
  have hfits := h.recorded.fits
  rw [h.stage] at hfits
  obtain ⟨m', stage⟩ := p
  cases hphase : P.phase (T.getEvent next) with
  | before =>
    cases stage with
    | start => exact ⟨by rw [L.first hnext hphase, Bool.true_or], hfits⟩
    | entered s =>
      simp only [stagePhase, P.next_before hnext hphase] at hfits
      exact hfits.mono _
  | after =>
    obtain ⟨s, rfl, hs⟩ := P.next_after hnext hphase
    simp only [stagePhase, hs] at hfits
    exact hfits.mono _
  | ended => trivial

variable (L m) in
def upkeep (hT : T.Sound M) :
    Upkeep T M (fun _ _ => True) (L.env m) (L.contract m) where
  here := L.Here m
  answers _ _ := trivial
  plain {p _ c} h hc := by
    obtain hc | hc | hc | hc := hc
    · exact h.handles (by rintro _ rfl; cases hc) (by rintro _ rfl; cases hc)
        (by cases c <;> first | rfl | cases hc) (by rintro rfl; cases hc)
    · exact h.handles nofun nofun rfl nofun
    · exact h.handles nofun nofun rfl nofun
    · exact h.handles nofun (by rintro _ ⟨⟩; rw [L.stored, h.uuid]) rfl nofun
  change h hnext :=
    handles_store (h.locked_next hnext) (h.fits_next hnext) (.inl h.recorded.fits)
      h.recorded.repr h.uuid
  pay {m' stage w c} h hc := by
    have hpayment := hT.pays hc
    have hevent : ∀ event, c ≠ .storeEvent event := by
      rintro _ rfl
      cases hpayment
    have hrepr : ∀ repr, c ≠ .storeRepr repr := by
      rintro _ rfl
      cases hpayment
    have hopens : L.opens c = false := by
      cases c <;> first | rfl | cases hpayment
    have hheld : L.held m w.locked c = w.locked := by
      cases c <;> first | rfl | cases hpayment
    have hanswered (a : c.Answer) : L.answered m w.locked c a = w.locked := by
      cases c <;> first | rfl | cases hpayment
    obtain ⟨s, rfl, hbefore⟩ := P.pays hc
    have hfits := h.recorded.fits
    rw [h.stage] at hfits
    simp only [stagePhase, hbefore] at hfits
    have hunpaid : P.Unpaid w.swap.events.getLast? := by
      have hlast := h.stage
      simp only [stagePhase, hbefore] at hlast
      intro event hevent
      rw [hevent] at hlast
      exact Option.some.inj hlast
    have hpre : (L.held m w.locked c).entries L.ticker (L.uuid m) =
        if L.Locks w.swap c then 1 else 0 := by
      rw [hheld]
      exact h.locks hopens
    refine ⟨hpre, fun r hr => ?_⟩
    have hpayments := World.react_payments w.swap c r
    rw [hfits.2, Nat.zero_add] at hpayments
    have hbegun : L.begun (w.swap.react c r) = true := by
      rw [begun_react, hopens, hfits.1]
      rfl
    have hrecorded (hpaid : c.broadcast r = false) : L.Recorded m (w.swap.react c r) :=
      h.recorded.react hevent (fun repr he => absurd he (hrepr repr)) hpaid
    constructor
    · intro hnone
      apply Kept.of_none _ hnone
      apply hrecorded
      rw [← Bool.not_eq_true]
      intro hpaid
      have hanswer := hr.2.1 hpaid
      simp [hnone] at hanswer
    intro a ha
    constructor
    · intro hfailed
      rw [Call.not_failed_of_isPayment hpayment a] at hfailed
      cases hfailed
    intro _ next hnext
    unfold Transitions.AfterPayment at hnext
    split at hnext
    · rename_i hsent
      have hone : (w.swap.react c r).payments = 1 := by
        rw [hpayments, Call.broadcast_of_isSent ha hsent]
        rfl
      have hafter := P.paid hnext
      have hfirst : L.isFirst (T.getEvent next) = false := by
        rw [← Bool.not_eq_true]
        intro hfirst
        rw [L.phase_first hfirst] at hafter
        cases hafter
      apply handles_store (w := L.react m w c r)
      · rw [L.entries_onEvent, hfirst, L.paid hnext, if_neg Bool.false_ne_true, if_pos rfl,
          if_neg]
        rintro ⟨-, hzero⟩
        change (w.swap.react c r).payments = 0 at hzero
        omega
      · rw [hafter]
        change 0 < (w.swap.react c r).payments
        omega
      · right
        refine ⟨?_, ?_⟩
        · change 0 < (w.swap.react c r).payments
          omega
        · change P.Unpaid (w.swap.react c r).events.getLast?
          rw [World.react_events _ hevent]
          exact hunpaid
      · change ∀ repr ∈ (w.swap.react c r).repr, _
        rw [World.react_repr _ hrepr]
        exact h.recorded.repr
      · exact h.uuid
    · rename_i hsent
      have hpaid : c.broadcast r = false := by
        rw [← Bool.not_eq_true]
        intro hpaid
        have hanswer := hr.2.1 hpaid
        rw [ha] at hanswer
        exact hsent hanswer
      have hhere := h.react hevent (fun repr he => absurd he (hrepr repr)) hpaid ha (hanswered a)
      exact handles_store (hhere.locked_next hnext) (hhere.fits_next hnext)
        (.inl hhere.recorded.fits) hhere.recorded.repr hhere.uuid
  finish {m' state w} h hends := by
    have hpre : (L.contract m).pre w .markFinished := h.locks rfl
    refine ⟨hpre, fun r hr => ?_⟩
    have hrecorded := h.recorded.react (c := .markFinished) nofun nofun (r := r) rfl
    refine ⟨Kept.of_none hrecorded, ?_⟩
    rintro (e | _) ha
    · exact ⟨Kept.of_failed hrecorded hpre hr ha, nofun⟩
    · refine ⟨nofun, fun _ => ⟨hrecorded, ?_⟩⟩
      change (L.react m w .markFinished r).locked.entries _ _ = 0
      simp only [Locking.react, ha]
      exact L.entries_cleanUp m w.locked

theorem verified (hT : T.Sound M) :
    VerifiedRestart (L.machine m) (L.env m) id (L.contract m) (L.Here m) (L.upkeep m hT).Ending where
  abstraction := ⟨fun _ => rfl, fun _ _ => rfl, fun _ _ _ => rfl⟩
  onChanged _ _ h := Upkeep.wp_onChanged (U := L.upkeep m hT) hT h
  onFinished _ _ h := Upkeep.wp_onFinished h
  down w d h hnone := by
    refine ⟨⟨h.recorded.fits, h.recorded.repr⟩, ?_⟩
    change (L.restart w d).locked.entries _ _ = 0
    change M.restore (World.env.elapse w.swap d) = none at hnone
    simp [restart, hnone]
  resume w d p h hp := by
    change M.restore (World.env.elapse w.swap d) = some p at hp
    obtain ⟨repr, m', state, hrepr, hm, rfl⟩ := SwapMachine.exists_of_restore hp
    have huuid : L.uuid m' = L.uuid m := (L.recreated hm).trans (h.recorded.repr repr hrepr)
    obtain ⟨event, hevent, hphase, hended⟩ := P.recreated hm
    have hlast : w.swap.events.getLast? = some event := hevent
    apply Upkeep.wp_runFrom (U := L.upkeep m hT) (p := (m', .entered state))
    constructor
    · exact ⟨h.recorded.fits, h.recorded.repr⟩
    · change (L.restart w d).locked.entries _ _ =
        if L.begun w.swap = true ∧ w.swap.payments = 0 then 1 else 0
      have hfits : Fits (w.swap.events.getLast?.map P.phase) (L.begun w.swap) w.swap.payments :=
        h.recorded.fits
      rw [hlast] at hfits
      simp only [restart, hp]
      rw [← huuid, L.entries_kickstart, hphase]
      apply if_congr _ rfl rfl
      change Fits (some (P.phase event)) _ _ at hfits
      cases hcase : P.phase event with
      | before =>
        rw [hcase] at hfits
        exact ⟨fun _ => hfits, fun _ => rfl⟩
      | after =>
        rw [hcase] at hfits
        constructor
        · intro hbefore
          cases hbefore
        · intro hnone
          exact absurd hnone.2 (Nat.pos_iff_ne_zero.mp hfits)
      | ended => exact absurd hcase hended
    · change w.swap.events.getLast?.map P.phase = some (P.phase (T.getEvent state))
      rw [hlast, hphase]
      rfl
    · intro hstart
      cases hstart
    · exact huuid

theorem keeps_eq (L : Locking P) (m : Mach) :
    Keeps (S := Mach × Stage State) (L.contract m) id = L.StaysSteady := by
  funext x e
  obtain ⟨w, ⟨s, p | p | p⟩ | _⟩ := x
  all_goals cases e <;> rfl

/-- A swap whose replies are steady locks its amount exactly while it is to be locked. -/
theorem exact_of_run (hT : T.Sound M) {l : LockedAmounts} {now : ℕ}
    (hl : l.entries L.ticker (L.uuid m) = 0) {es : List (Event (Call X Ev Repr) Call.Answer)}
    (hes : Runs.Meets (fun x e => some ((L.machine m).step x e)) L.StaysSteady (M.startIn l m now)
      es) :
    L.Exact m ((L.machine m).run (M.startIn l m now) es) := by
  have hstart : L.Here m (m, .start) ⟨World.fresh now, l⟩ :=
    ⟨⟨rfl, nofun⟩, hl, rfl, fun _ => rfl, rfl⟩
  rw [← L.keeps_eq m] at hes
  have hgood := (verified (L := L) (m := m) hT).good_run (x := M.startIn l m now)
    (Upkeep.wp_runFrom (U := L.upkeep m hT) (p := (m, .start)) hstart) hes
  constructor
  · intro c hc
    have hpre := hgood.pre hc
    exact hpre
  · intro hdown
    rw [Good, hdown] at hgood
    exact hgood.entries

end Locking

/-! ## Both sides -/

namespace MakerSwap

/-- What the maker is going to pay. -/
def lockedAmountInfo (X : External) (m : MakerSwapStateMachine) (makerPaymentTradeFee : TradeFee) :
    LockedAmountInfo where
  swapUuid := m.uuid
  lockedAmount :=
    { coin := X.makerCoin.ticker
      amount := m.makerVolume
      tradeFee := some makerPaymentTradeFee }

def onEvent (X : External) (m : MakerSwapStateMachine) (event : MakerSwapEvent)
    (l : LockedAmounts) : LockedAmounts :=
  match event with
  | .initialized _ _ makerPaymentTradeFee _ =>
    l.push X.makerCoin.ticker (lockedAmountInfo X m makerPaymentTradeFee)
  | .makerPaymentSentFundingSpendGenerated .. => l.retainOthers X.makerCoin.ticker m.uuid
  | _ => l

def onKickstartEvent (X : External) (m : MakerSwapStateMachine) (event : MakerSwapEvent)
    (l : LockedAmounts) : LockedAmounts :=
  match event with
  | .initialized _ _ makerPaymentTradeFee _ =>
    l.push X.makerCoin.ticker (lockedAmountInfo X m makerPaymentTradeFee)
  | .waitingForTakerFunding _ _ _ makerPaymentTradeFee =>
    l.push X.makerCoin.ticker (lockedAmountInfo X m makerPaymentTradeFee)
  | .takerFundingReceived _ _ _ _ makerPaymentTradeFee =>
    l.push X.makerCoin.ticker (lockedAmountInfo X m makerPaymentTradeFee)
  | _ => l

def cleanUpContext (X : External) (m : MakerSwapStateMachine) (l : LockedAmounts) :
    LockedAmounts :=
  (l.retainOthers X.makerCoin.ticker m.uuid).retainOthers X.takerCoin.ticker m.uuid

def locking (X : External) : Locking (phases X) where
  uuid m := m.uuid
  reprUuid r := r.uuid
  ticker := X.makerCoin.ticker
  isFirst event := event.kind == .initialized
  isPaid event := event.kind == .makerPaymentSentFundingSpendGenerated
  onEvent := onEvent X
  onKickstartEvent := onKickstartEvent X
  cleanUpContext := cleanUpContext X
  stored _ := rfl
  recreated h := by
    obtain ⟨rfl, -⟩ := exists_of_recreateMachine h
    rfl
  first h hs := by
    cases h with
    | initialized => rfl
    | aborted => cases hs
  not_first h := by
    cases h with
    | received self takerPayment =>
      unfold MakerPaymentSentFundingSpendGenerated.received
      split <;> rfl
    | _ => rfl
  phase_first {event} h := by
    cases event <;> first | rfl | cases h
  paid h := by
    cases h
    rfl
  not_paid h := by
    cases h with
    | received self takerPayment =>
      unfold MakerPaymentSentFundingSpendGenerated.received
      split <;> rfl
    | _ => rfl
  entries_onEvent m event l := by
    cases event with
    | initialized => exact LockedAmounts.entries_push _ _ _ _
    | makerPaymentSentFundingSpendGenerated => exact LockedAmounts.entries_retainOthers _ _ _
    | _ => rfl
  entries_kickstart m event := by
    cases event with
    | initialized => exact LockedAmounts.entries_push _ _ _ _
    | waitingForTakerFunding => exact LockedAmounts.entries_push _ _ _ _
    | takerFundingReceived => exact LockedAmounts.entries_push _ _ _ _
    | _ => rfl
  entries_cleanUp m l :=
    LockedAmounts.entries_retainOthers_of_entries (LockedAmounts.entries_retainOthers _ _ _) _

end MakerSwap

namespace TakerSwap

/-- What the taker is going to pay: its volume, the fee and the premium. -/
def lockedAmountInfo (X : External) (m : TakerSwapStateMachine) (takerPaymentFee : TradeFee) :
    LockedAmountInfo where
  swapUuid := m.uuid
  lockedAmount :=
    { coin := X.takerCoin.ticker
      amount := m.takerVolume + (m.dexFee X).totalSpendAmount + m.takerPremium
      tradeFee := some takerPaymentFee }

def onEvent (X : External) (m : TakerSwapStateMachine) (event : TakerSwapEvent)
    (l : LockedAmounts) : LockedAmounts :=
  match event with
  | .initialized _ _ takerPaymentFee _ =>
    l.push X.takerCoin.ticker (lockedAmountInfo X m takerPaymentFee)
  | .takerFundingSent .. => l.retainOthers X.takerCoin.ticker m.uuid
  | _ => l

def onKickstartEvent (X : External) (m : TakerSwapStateMachine) (event : TakerSwapEvent)
    (l : LockedAmounts) : LockedAmounts :=
  match event with
  | .initialized _ _ takerPaymentFee _ =>
    l.push X.takerCoin.ticker (lockedAmountInfo X m takerPaymentFee)
  | .negotiated _ _ _ takerPaymentFee _ =>
    l.push X.takerCoin.ticker (lockedAmountInfo X m takerPaymentFee)
  | _ => l

def cleanUpContext (X : External) (m : TakerSwapStateMachine) (l : LockedAmounts) :
    LockedAmounts :=
  (l.retainOthers X.makerCoin.ticker m.uuid).retainOthers X.takerCoin.ticker m.uuid

def locking (X : External) : Locking (phases X) where
  uuid m := m.uuid
  reprUuid r := r.uuid
  ticker := X.takerCoin.ticker
  isFirst event := event.kind == .initialized
  isPaid event := event.kind == .takerFundingSent
  onEvent := onEvent X
  onKickstartEvent := onKickstartEvent X
  cleanUpContext := cleanUpContext X
  stored _ := rfl
  recreated h := by
    obtain ⟨rfl, -⟩ := exists_of_recreateMachine h
    rfl
  first h hs := by
    cases h with
    | initialized => rfl
    | aborted => cases hs
  not_first h := by
    cases h with
    | paymentSentAtOnce =>
      unfold paymentSent
      split <;> rfl
    | paymentSent =>
      unfold paymentSent
      split <;> rfl
    | _ => rfl
  phase_first {event} h := by
    cases event <;> first | rfl | cases h
  paid h := by
    cases h
    rfl
  not_paid h := by
    cases h with
    | paymentSentAtOnce =>
      unfold paymentSent
      split <;> rfl
    | paymentSent =>
      unfold paymentSent
      split <;> rfl
    | _ => rfl
  entries_onEvent m event l := by
    cases event with
    | initialized => exact LockedAmounts.entries_push _ _ _ _
    | takerFundingSent => exact LockedAmounts.entries_retainOthers _ _ _
    | _ => rfl
  entries_kickstart m event := by
    cases event with
    | initialized => exact LockedAmounts.entries_push _ _ _ _
    | negotiated => exact LockedAmounts.entries_push _ _ _ _
    | _ => rfl
  entries_cleanUp m l := LockedAmounts.entries_retainOthers _ _ _

end TakerSwap

/-- In every run, with any messages, crashes and restarts, in which a broadcast payment is answered
as sent and gets on record, and neither the lock nor the storage fails while the amount is locked,
the own coin has one entry for the swap from its first event to its payment while it runs, and
else none. -/
theorem locked_amounts_exact (X : External) :
    (∀ m l now es, l.entries X.makerCoin.ticker m.uuid = 0 →
      Runs.Meets (fun x e => some (((MakerSwap.locking X).machine m).step x e))
        (MakerSwap.locking X).StaysSteady ((MakerSwap.makerSwap X).startIn l m now) es →
      (MakerSwap.locking X).Exact m (((MakerSwap.locking X).machine m).run
        ((MakerSwap.makerSwap X).startIn l m now) es)) ∧
    ∀ m l now es, l.entries X.takerCoin.ticker m.uuid = 0 →
      Runs.Meets (fun x e => some (((TakerSwap.locking X).machine m).step x e))
        (TakerSwap.locking X).StaysSteady ((TakerSwap.takerSwap X).startIn l m now) es →
      (TakerSwap.locking X).Exact m (((TakerSwap.locking X).machine m).run
        ((TakerSwap.takerSwap X).startIn l m now) es) := by
  constructor
  · intro m l now es hl hes
    exact Locking.exact_of_run (MakerSwap.sound X) hl hes
  · intro m l now es hl hes
    exact Locking.exact_of_run (TakerSwap.sound X) hl hes

theorem staysSteady_smooth {T : Transitions .raw Mach State Ev Repr}
    {M : SwapMachine .raw Mach State Ev Repr} {P : Phases T M} (L : Locking P) (m : Mach)
    {startedAt lockDuration : ℕ} {recorded : Bool} {n : ℕ}
    (x : Config (Call .raw Ev Repr) Call.Answer (NodeWorld .raw Ev Repr) (Mach × Stage State)) :
    Runs.Meets (fun x e => some ((L.machine m).step x e)) L.StaysSteady x
      (List.replicate n (.reply (smooth startedAt lockDuration recorded))) := by
  apply Runs.meets_of_all
  intro x e he
  obtain rfl := List.eq_of_mem_replicate he
  unfold Locking.StaysSteady
  split
  · rename_i c _ _ _ hr
    obtain rfl := Event.reply.inj hr
    cases c with
    | storeEvent event => exact ⟨fun _ _ => rfl, nofun, nofun⟩
    | pollSwapV2Msg field waitUntil => cases field <;> exact ⟨nofun, nofun, nofun⟩
    | _ => exact ⟨fun _ => rfl, fun h => h, nofun⟩
  · trivial

/-- Without trouble, the maker to its payment and the taker to its end. -/
theorem locked_amounts_exact_smooth :
    (MakerSwap.locking .raw).Exact (MakerSwap.sampleMaker 1700000000)
      (((MakerSwap.locking .raw).machine (MakerSwap.sampleMaker 1700000000)).run
        ((MakerSwap.makerSwap .raw).startIn .empty (MakerSwap.sampleMaker 1700000000) 1700000000)
        (MakerSwap.smoothEvents 1700000000 false 25)) ∧
    (TakerSwap.locking .raw).Exact (TakerSwap.sampleTaker true)
      (((TakerSwap.locking .raw).machine (TakerSwap.sampleTaker true)).run
        ((TakerSwap.takerSwap .raw).startIn .empty (TakerSwap.sampleTaker true) 1700000000)
        (TakerSwap.smoothEvents false 48)) := by
  obtain ⟨hmaker, htaker⟩ := locked_amounts_exact .raw
  exact ⟨hmaker _ _ _ _ rfl (staysSteady_smooth _ _ _),
    htaker _ _ _ _ rfl (staysSteady_smooth _ _ _)⟩

/-- Without trouble, but that no event can be stored. -/
def storageFails (c : Call .raw Ev Repr) : Reply c.Answer :=
  match c with
  | .storeEvent _ =>
    { delay := 0, reached := false, answer := some (.error "database is locked") }
  | c => smooth 1700000000 5400 false c

/-- The sample maker in a node that has locked nothing. -/
def sampleNodeRun (es : List (Event MakerSwap.RawCall Call.Answer)) :
    Config MakerSwap.RawCall Call.Answer (NodeWorld .raw MakerSwap.MakerSwapEvent
      MakerSwap.MakerSwapDbRepr) (MakerSwap.MakerSwapStateMachine ×
        Stage (MakerSwap.MakerState .raw)) :=
  ((MakerSwap.locking .raw).machine (MakerSwap.sampleMaker 1700000000)).run
    ((MakerSwap.makerSwap .raw).startIn .empty (MakerSwap.sampleMaker 1700000000) 1700000000) es

/-- A new swap locks nothing before it is initialized, and a swap whose event could not be stored
leaves its amount locked when it stops. -/
theorem locked_amount_left :
    (¬ ∀ es c, (sampleNodeRun es).pending = some c →
      (sampleNodeRun es).world.swap.payments = 0 →
      ((MakerSwap.locking .raw).held (MakerSwap.sampleMaker 1700000000)
        (sampleNodeRun es).world.locked c).entries "RICK" 0 = 1) ∧
    ¬ ∀ es, (sampleNodeRun es).status = .down →
      (sampleNodeRun es).world.locked.entries "RICK" 0 = 0 := by
  constructor
  · intro h
    have hfirst := h [] .acquireReentrancyLock rfl rfl
    exact absurd hfirst (by decide)
  · intro h
    have hleft := h (MakerSwap.smoothEvents 1700000000 false 12 ++
      List.replicate 5 (.reply storageFails)) rfl
    exact absurd hleft (by decide +kernel)

end DeXFG.SwapV2
