import DeXFG.SwapV2.StateMachine

/-!
# What an observer sees of a swap

A property of a run looks at the clock, at the last stored event and at a digest
of the calls made so far. `Observer` folds the log into such a digest; a view
keeps the digest in place of the log, and moves with the world.
-/
namespace DeXFG.SwapV2
open Library.Process Library.DurableMachine

variable {X : External} {Mach State Ev Repr D : Type}

/-- A digest of the log, call by call. -/
structure Observer (X : External) (Ev Repr D : Type) where
  init : D
  note : Entry X Ev Repr → D → D

structure View (Ev Repr D : Type) where
  now : ℕ
  repr : Option Repr
  last : Option Ev
  data : D

namespace View

/-- What a call does to the stored swap. -/
def store (v : View Ev Repr D) : (c : Call X Ev Repr) → Reply c.Answer → View Ev Repr D
  | .storeRepr repr, r => if r.took then { v with repr := some repr } else v
  | .storeEvent event, r => if r.took then { v with last := some event } else v
  | _, _ => v

def react (o : Observer X Ev Repr D) (v : View Ev Repr D) (c : Call X Ev Repr)
    (r : Reply c.Answer) : View Ev Repr D :=
  { v with now := v.now + r.delay, data := o.note ⟨v.now, c, r⟩ v.data }.store c r

def env (o : Observer X Ev Repr D) : Env (Call X Ev Repr) Call.Answer (View Ev Repr D) where
  clock := now
  elapse v delay := { v with now := v.now + delay }
  react := react o

@[simp] theorem store_now (v : View Ev Repr D) (c : Call X Ev Repr) (r : Reply c.Answer) :
    (v.store c r).now = v.now := by
  cases c <;> simp only [store] <;> split <;> rfl

@[simp] theorem store_data (v : View Ev Repr D) (c : Call X Ev Repr) (r : Reply c.Answer) :
    (v.store c r).data = v.data := by
  cases c <;> simp only [store] <;> split <;> rfl

@[simp] theorem react_now (o : Observer X Ev Repr D) (v : View Ev Repr D) (c : Call X Ev Repr)
    (r : Reply c.Answer) : (v.react o c r).now = v.now + r.delay := store_now _ c r

@[simp] theorem react_data (o : Observer X Ev Repr D) (v : View Ev Repr D) (c : Call X Ev Repr)
    (r : Reply c.Answer) : (v.react o c r).data = o.note ⟨v.now, c, r⟩ v.data := store_data _ c r

theorem react_repr (o : Observer X Ev Repr D) (v : View Ev Repr D) {c : Call X Ev Repr}
    (hc : ∀ repr, c ≠ .storeRepr repr) (r : Reply c.Answer) : (v.react o c r).repr = v.repr := by
  cases c with
  | storeRepr repr => exact absurd rfl (hc repr)
  | storeEvent event =>
    simp only [react, store]
    split <;> rfl
  | _ => rfl

theorem react_storeRepr (o : Observer X Ev Repr D) (v : View Ev Repr D) (repr : Repr)
    (r : Reply (Except String Unit)) :
    (v.react o (.storeRepr repr) r).repr = if r.took then some repr else v.repr := by
  simp only [react, store]
  split <;> rfl

theorem react_last (o : Observer X Ev Repr D) (v : View Ev Repr D) {c : Call X Ev Repr}
    (hc : ∀ event, c ≠ .storeEvent event) (r : Reply c.Answer) :
    (v.react o c r).last = v.last := by
  cases c with
  | storeEvent event => exact absurd rfl (hc event)
  | storeRepr repr =>
    simp only [react, store]
    split <;> rfl
  | _ => rfl

theorem react_storeEvent (o : Observer X Ev Repr D) (v : View Ev Repr D) (event : Ev)
    (r : Reply (Except String Unit)) :
    (v.react o (.storeEvent event) r).last = if r.took then some event else v.last := by
  simp only [react, store]
  split <;> rfl

end View

namespace Observer

/-- The view of a world. -/
def view (o : Observer X Ev Repr D) (w : World X Ev Repr) : View Ev Repr D where
  now := w.now
  repr := w.repr
  last := w.events.getLast?
  data := w.log.foldr o.note o.init

theorem view_store (o : Observer X Ev Repr D) (w : World X Ev Repr) (c : Call X Ev Repr)
    (r : Reply c.Answer) : o.view (w.store c r) = (o.view w).store c r := by
  cases c with
  | storeRepr repr =>
    simp only [World.store, View.store]
    split <;> rfl
  | storeEvent event =>
    simp only [World.store, View.store]
    split
    · simp [view]
    · rfl
  | markFinished =>
    simp only [World.store, View.store]
    split <;> rfl
  | _ => rfl

/-- The view moves with the world. -/
theorem abstraction (o : Observer X Ev Repr D) :
    Abstraction World.env (View.env o) o.view where
  clock _ := rfl
  elapse _ _ := rfl
  react _ c r := o.view_store _ c r

end Observer

/-! ## Rules for what both sides do -/

section Rules

variable {o : Observer X Ev Repr D} {K : Contract (Call X Ev Repr) Call.Answer (View Ev Repr D)}
  {v : View Ev Repr D}

/-- A state change: whatever comes of the record, the stopped machine keeps the contract, and the
next state is entered with its record. -/
theorem wp_changeState {getEvent : State → Ev} {mach : Mach} {next : State}
    {Q : SwapResult Mach State → View Ev Repr D → Prop}
    (hpre : K.pre v (.storeEvent (getEvent next)))
    (hstopped : ∀ (r : Reply (Except String Unit)) v',
      K.allowed v (.storeEvent (getEvent next)) r → v'.repr = v.repr →
      v'.last = (if r.took then some (getEvent next) else v.last) →
      v'.data = o.note ⟨v.now, .storeEvent (getEvent next), r⟩ v.data →
      K.stopped v' ∧ Q .error v')
    (hnext : ∀ (r : Reply (Except String Unit)) v',
      K.allowed v (.storeEvent (getEvent next)) r → r.answer = some (.ok ()) →
      v'.now = v.now + r.delay → v'.repr = v.repr → v'.last = some (getEvent next) →
      v'.data = o.note ⟨v.now, .storeEvent (getEvent next), r⟩ v.data →
      Q (.changeState (mach, .entered next)) v') :
    (changeState getEvent mach next).wp (View.env o) K Q v := by
  refine (wp_call _ _).mpr ⟨hpre, fun r hr => ?_⟩
  have hrepr := View.react_repr o v (c := .storeEvent (getEvent next)) (by rintro _ ⟨⟩) r
  have hlast := View.react_storeEvent o v (getEvent next) r
  have hdata := View.react_data o v (.storeEvent (getEvent next)) r
  have hdown := hstopped r _ hr hrepr hlast hdata
  refine ⟨fun _ => hdown.1, fun a ha => ?_⟩
  cases a with
  | error e => exact hdown.2
  | ok u =>
    rw [Reply.took_of_ok ha, if_pos rfl] at hlast
    exact hnext r _ hr ha (View.react_now _ _ _ _) hrepr hlast hdata

/-- Waiting for a message, under an invariant of its polls. -/
theorem wp_recvSwapV2Msg {I : View Ev Repr D → Prop} {field : MsgField} {timeout : ℕ}
    {Q : Except String field.Message → View Ev Repr D → Prop} (hI : I v)
    (hpre : ∀ v', I v' →
      K.pre v' (.pollSwapV2Msg field (v.now + (basicCommTimeout + timeout))))
    (hkeep : ∀ v' r, I v' → I (v'.react o (.pollSwapV2Msg field
      (v.now + (basicCommTimeout + timeout))) r))
    (hstopped : ∀ v', I v' → K.stopped v') (herror : ∀ e v', I v' → Q (.error e) v')
    (hok : ∀ v' r msg, I v' → r.answer = some (some msg) → Q (.ok msg) (v'.react o
      (.pollSwapV2Msg field (v.now + (basicCommTimeout + timeout))) r)) :
    (recvSwapV2Msg field timeout).wp (View.env o) K Q v := by
  change (recvLoop field v.now (basicCommTimeout + timeout)
    (v.now + (basicCommTimeout + timeout)) _).wp _ _ _ _
  generalize v.now + (basicCommTimeout + timeout) = waitUntil at *
  generalize basicCommTimeout + timeout + 1 = passes
  generalize v.now = started
  induction passes generalizing v with
  | zero => exact herror _ _ hI
  | succ passes ih =>
    refine (wp_call _ _).mpr ⟨hpre v hI, fun r _ => ⟨fun _ => hstopped _ (hkeep v r hI), ?_⟩⟩
    rintro (_ | msg) ha
    · change Proc.wp _ _ (if v.now + r.delay > waitUntil then _ else _) _ _
      split
      · exact herror _ _ (hkeep v r hI)
      · exact ih (hkeep v r hI)
    · exact hok v r msg hI ha

end Rules

end DeXFG.SwapV2
