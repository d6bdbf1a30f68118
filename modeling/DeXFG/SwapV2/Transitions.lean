import DeXFG.Library.Outcomes
import DeXFG.SwapV2.Observed

/-!
# What a state's code may lead to

The code of a state calls the coins and the other party until it changes to
another state, enters its own state again or finishes. A side says once which
states may follow which, and which calls send its payment; the invariants of its
runs are read off from that.
-/
namespace DeXFG.SwapV2
open Library.Process Library.DurableMachine

variable {X : External} {Mach State Ev Repr V : Type}

/-- The call neither writes to the storage nor sends an own payment. -/
def Call.isPlain : Call X Ev Repr → Bool
  | .acquireReentrancyLock => false
  | .hasRecordFor => false
  | .storeRepr _ => false
  | .storeEvent _ => false
  | .markFinished => false
  | .sendMakerPaymentV2 _ => false
  | .sendTakerFunding _ => false
  | _ => true

/-- The call sends an own payment. -/
def Call.isPayment : Call X Ev Repr → Bool
  | .sendMakerPaymentV2 _ => true
  | .sendTakerFunding _ => true
  | _ => false

/-- The call has sent an own payment. -/
def Call.isSent : (c : Call X Ev Repr) → c.Answer → Bool
  | .sendMakerPaymentV2 _, .ok _ => true
  | .sendTakerFunding _, .ok _ => true
  | _, _ => false

/-- The storage or the lock has failed, which ends the run. -/
def Call.failed : (c : Call X Ev Repr) → c.Answer → Bool
  | .acquireReentrancyLock, .error _ => true
  | .hasRecordFor, .error _ => true
  | .storeRepr _, .error _ => true
  | .storeEvent _, .error _ => true
  | .markFinished, .error _ => true
  | _, _ => false

theorem Call.not_failed_of_isPlain {c : Call X Ev Repr} (hc : c.isPlain = true) (a : c.Answer) :
    c.failed a = false := by
  cases c <;> first | rfl | cases hc

theorem Call.not_failed_of_isPayment {c : Call X Ev Repr} (hc : c.isPayment = true)
    (a : c.Answer) : c.failed a = false := by
  cases c <;> first | rfl | cases hc

/-- The states that may follow each stage of a side, without its payment and with it, and the calls
by which it pays. -/
structure Transitions (X : External) (Mach State Ev Repr : Type) where
  getEvent : State → Ev
  next : ((c : Call X Ev Repr) → c.Answer → Prop) → Mach → Stage State → State → Prop
  paid : ((c : Call X Ev Repr) → c.Answer → Prop) → Mach → Stage State → State → Prop
  pays : Mach → Stage State → Call X Ev Repr → Prop
  ends : State → Prop

namespace Transitions

variable (T : Transitions X Mach State Ev Repr) (R : (c : Call X Ev Repr) → c.Answer → Prop)

/-- The state that follows a payment's answer. -/
def AfterPayment (m : Mach) (stage : Stage State) (isSent : Bool) (next : State) : Prop :=
  if isSent then T.paid R m stage next else T.next R m stage next

/-- The exits of a stage. A payment is one: whatever is answered, the stage is left. Only the last
states finish. -/
inductive Exits (m : Mach) (stage : Stage State) : SwapProc X Ev Repr (SwapResult Mach State) → Prop
  | change {next} (h : T.next R m stage next) : Exits m stage (changeState T.getEvent m next)
  | again : Exits m stage (.done (.changeState (m, stage)))
  | pay {c} {k : c.Answer → SwapProc X Ev Repr (SwapResult Mach State)} (hc : T.pays m stage c)
      (hk : ∀ a, R c a → ∃ next, T.AfterPayment R m stage (c.isSent a) next ∧
        k a = changeState T.getEvent m next) : Exits m stage (.call c k)
  | finish {state} (hstage : stage = .entered state) (h : T.ends state) :
      Exits m stage (.done .finish)

/-- The code of a stage calls and exits as it may. -/
abbrev Follows (m : Mach) (stage : Stage State)
    (p : SwapProc X Ev Repr (SwapResult Mach State)) : Prop :=
  p.Until R (fun c => c.isPlain = true) (T.Exits R m stage)

/-- The code of a side follows its transitions, whatever is answered. -/
structure Sound (M : SwapMachine X Mach State Ev Repr) : Prop where
  pays : ∀ {m stage c}, T.pays m stage c → c.isPayment = true
  onInitialize : ∀ R m, T.Follows R m .start (M.onInitialize m)
  onChanged : ∀ R m state, T.Follows R m (.entered state) (M.onChanged m state)

section Rules

variable {T R} {m : Mach} {stage : Stage State}

theorem follows_change {next : State} (h : T.next R m stage next) :
    T.Follows R m stage (changeState T.getEvent m next) :=
  until_exit (.change h)

theorem follows_again : T.Follows R m stage (.done (.changeState (m, stage))) :=
  until_exit .again

theorem follows_finish {state : State} (h : T.ends state) :
    T.Follows R m (.entered state) (.done .finish) :=
  until_exit (.finish rfl h)

theorem follows_ask {c : Call X Ev Repr}
    {k : c.Answer → SwapProc X Ev Repr (SwapResult Mach State)} (hc : c.isPlain = true)
    (hk : ∀ a, R c a → T.Follows R m stage (k a)) : T.Follows R m stage (ask c >>= k) :=
  until_call hc hk

theorem follows_pay {c : Call X Ev Repr}
    {k : c.Answer → SwapProc X Ev Repr (SwapResult Mach State)} (hc : T.pays m stage c)
    (hk : ∀ a, R c a → ∃ next, T.AfterPayment R m stage (c.isSent a) next ∧
      k a = changeState T.getEvent m next) : T.Follows R m stage (ask c >>= k) :=
  until_exit (.pay hc hk)

/-- A message that is received is one that a poll may answer. -/
theorem recvLoop_sat {field : MsgField} {started timeout waitUntil passes : ℕ} :
    (@recvLoop X Ev Repr field started timeout waitUntil passes).Sat R
      (fun c => c.isPlain = true)
      (fun res => ∀ msg, res = .ok msg → R (.pollSwapV2Msg field waitUntil) (some msg)) := by
  induction passes with
  | zero => simp [recvLoop]
  | succ passes ih =>
    constructor
    · rfl
    · rintro (_ | msg) ha
      · intro now
        change Proc.Sat _ _ (if now > waitUntil then _ else _) _
        split
        · simp
        · exact ih
      · rintro _ ⟨⟩
        exact ha

theorem follows_recv {field : MsgField} {timeout : ℕ}
    {k : Except String field.Message → SwapProc X Ev Repr (SwapResult Mach State)}
    (hk : ∀ res, (∀ msg, res = .ok msg → ∃ waitUntil, R (.pollSwapV2Msg field waitUntil)
      (some msg)) → T.Follows R m stage (k res)) :
    T.Follows R m stage (recvSwapV2Msg field timeout >>= k) := by
  apply until_bind (Q := fun res => ∀ msg, res = .ok msg →
    ∃ waitUntil, R (.pollSwapV2Msg field waitUntil) (some msg))
  · intro started
    apply sat_mono (fun _ h => h) _ recvLoop_sat
    exact fun res h msg hmsg => ⟨_, h msg hmsg⟩
  · exact hk

end Rules

end Transitions

/-! ## Invariants of the stages -/

/-- The calls before a run gets to its first state. -/
inductive OnStart (M : SwapMachine X Mach State Ev Repr) (m : Mach) : Call X Ev Repr → Prop
  | lock : OnStart M m .acquireReentrancyLock
  | lookup : OnStart M m .hasRecordFor
  | record : OnStart M m (.storeRepr (M.toDbRepr m))

/-- The call may be made, leaves a stopped machine in order when it fails or is never answered, and
else leads to `Q`. -/
def Handles (E : Env (Call X Ev Repr) Call.Answer V) (K : Contract (Call X Ev Repr) Call.Answer V)
    (c : Call X Ev Repr) (Q : c.Answer → V → Prop) (v : V) : Prop :=
  K.pre v c ∧ ∀ r, K.allowed v c r →
    (r.answer = none → K.stopped (E.react v c r)) ∧
    ∀ a, r.answer = some a →
      (c.failed a = true → K.stopped (E.react v c r)) ∧ (c.failed a = false → Q a (E.react v c r))

/-- An invariant of the stages, which every call of a side keeps. -/
structure Upkeep (T : Transitions X Mach State Ev Repr) (M : SwapMachine X Mach State Ev Repr)
    (R : (c : Call X Ev Repr) → c.Answer → Prop) (E : Env (Call X Ev Repr) Call.Answer V)
    (K : Contract (Call X Ev Repr) Call.Answer V) where
  here : Mach × Stage State → V → Prop
  answers : ∀ {v c r a}, K.allowed v c r → r.answer = some a → R c a
  plain : ∀ {p v c}, here p v → c.isPlain = true ∨ OnStart M p.1 c →
    Handles E K c (fun _ => here p) v
  change : ∀ {m stage v next}, here (m, stage) v → T.next R m stage next →
    Handles E K (.storeEvent (T.getEvent next)) (fun _ => here (m, .entered next)) v
  pay : ∀ {m stage v c}, here (m, stage) v → T.pays m stage c →
    Handles E K c (fun a v' => ∀ next, T.AfterPayment R m stage (c.isSent a) next →
      Handles E K (.storeEvent (T.getEvent next)) (fun _ => here (m, .entered next)) v') v
  finish : ∀ {m state v}, here (m, .entered state) v → T.ends state →
    Handles E K .markFinished (fun _ => K.stopped) v

namespace Upkeep

variable {T : Transitions X Mach State Ev Repr} {M : SwapMachine X Mach State Ev Repr}
  {R : (c : Call X Ev Repr) → c.Answer → Prop} {E : Env (Call X Ev Repr) Call.Answer V}
  {K : Contract (Call X Ev Repr) Call.Answer V} (U : Upkeep T M R E K)

/-- What holds when a swap is about to finish. -/
def Ending (p : Mach × Stage State) (v : V) : Prop :=
  U.here p v ∧ ∃ state, p.2 = .entered state ∧ T.ends state

variable {U} {p s : Mach × Stage State} {v : V}

theorem wp_changeState {m : Mach} {next : State}
    (h : Handles E K (.storeEvent (T.getEvent next)) (fun _ => U.here (m, .entered next)) v) :
    (changeState T.getEvent m next).wp E K (Post K U.here U.Ending s) v := by
  apply (wp_call _ _).mpr
  refine ⟨h.1, fun r hr => ⟨(h.2 r hr).1, ?_⟩⟩
  rintro (e | _) ha
  · exact ((h.2 r hr).2 _ ha).1 rfl
  · exact ((h.2 r hr).2 _ ha).2 rfl

theorem wp_of_follows {process : SwapProc X Ev Repr (SwapResult Mach State)} (hT : T.Sound M)
    (hfollows : T.Follows R p.1 p.2 process) (h : U.here p v) :
    process.wp E K (Post K U.here U.Ending p) v := by
  apply wp_of_until (I := U.here p) _ _ _ hfollows h
  · intro v c hv hc
    exact (U.plain hv (.inl hc)).1
  · intro v c r hv hc hr
    have hplain := (U.plain hv (.inl hc)).2 r hr
    refine ⟨hplain.1, fun a ha => ⟨U.answers hr ha, ?_⟩⟩
    exact (hplain.2 a ha).2 (Call.not_failed_of_isPlain hc a)
  · intro process v hexit hv
    cases hexit with
    | change hnext => exact wp_changeState (U.change hv hnext)
    | again => exact hv
    | pay hc hk =>
      have hpay := U.pay hv hc
      apply (wp_call _ _).mpr
      refine ⟨hpay.1, fun r hr => ⟨(hpay.2 r hr).1, fun a ha => ?_⟩⟩
      obtain ⟨next, hnext, heq⟩ := hk a (U.answers hr ha)
      rw [heq]
      exact wp_changeState
        (((hpay.2 r hr).2 a ha).2 (Call.not_failed_of_isPayment (hT.pays hc) a) next hnext)
    | finish hstage hends => exact ⟨hv, _, hstage, hends⟩

/-- Starting and restarting. -/
theorem wp_runFrom (h : U.here p v) :
    (runFrom M.toDbRepr p.1 p.2).wp E K (Post K U.here U.Ending p) v := by
  have hlock := U.plain h (.inr .lock)
  apply (wp_call _ _).mpr
  refine ⟨hlock.1, fun r hr => ⟨(hlock.2 r hr).1, ?_⟩⟩
  rintro (e | _) ha
  · exact ((hlock.2 r hr).2 _ ha).1 rfl
  have hlookup := U.plain (((hlock.2 r hr).2 _ ha).2 rfl) (.inr .lookup)
  apply (wp_call _ _).mpr
  refine ⟨hlookup.1, fun r hr => ⟨(hlookup.2 r hr).1, ?_⟩⟩
  rintro (e | _ | _) ha
  · exact ((hlookup.2 r hr).2 _ ha).1 rfl
  · have hrecord := U.plain (((hlookup.2 r hr).2 _ ha).2 rfl) (.inr .record)
    apply (wp_call _ _).mpr
    refine ⟨hrecord.1, fun r hr => ⟨(hrecord.2 r hr).1, ?_⟩⟩
    rintro (e | _) ha
    · exact ((hrecord.2 r hr).2 _ ha).1 rfl
    · exact ((hrecord.2 r hr).2 _ ha).2 rfl
  · exact ((hlookup.2 r hr).2 _ ha).2 rfl

theorem wp_onFinished (h : U.Ending p v) :
    (@onFinished X Ev Repr).wp E K (fun _ => K.stopped) v := by
  obtain ⟨m, stage⟩ := p
  obtain ⟨hv, state, rfl, hends⟩ := h
  have hfinish := U.finish hv hends
  apply (wp_call _ _).mpr
  refine ⟨hfinish.1, fun r hr => ⟨(hfinish.2 r hr).1, ?_⟩⟩
  rintro (e | _) ha
  · exact ((hfinish.2 r hr).2 _ ha).1 rfl
  · exact ((hfinish.2 r hr).2 _ ha).2 rfl

theorem wp_onChanged (hT : T.Sound M) (h : U.here p v) :
    (M.machine.onChanged p).wp E K (Post K U.here U.Ending p) v := by
  obtain ⟨m, _ | state⟩ := p
  · exact wp_of_follows (p := (m, .start)) hT (hT.onInitialize R m) h
  · exact wp_of_follows (p := (m, .entered state)) hT (hT.onChanged R m state) h

/-- A side whose restart finds the invariant again keeps the contract in every run. -/
theorem verified (hT : T.Sound M) {abs : World X Ev Repr → V}
    (habs : Abstraction World.env E abs) (helapse : ∀ v d, K.stopped v → K.stopped (E.elapse v d))
    (hrestore : ∀ w p, K.stopped (abs w) → M.restore w = some p → U.here p (abs w)) :
    Verified M.machine E abs K U.here U.Ending where
  abstraction := habs
  onChanged _ _ h := wp_onChanged hT h
  onFinished _ _ h := wp_onFinished h
  elapse := helapse
  resume w p hkept hp := wp_runFrom (p := p) (hrestore w p hkept hp)

end Upkeep

end DeXFG.SwapV2
