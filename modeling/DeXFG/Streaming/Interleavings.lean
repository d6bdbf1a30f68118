import DeXFG.Library.Ownership
import DeXFG.Library.Runs
import DeXFG.Streaming.Manager

/-!
# The streaming manager under interleaved calls

Calls of the manager, streamers that die and clients that go, in any order. A call of `add` takes
the lock three times and spawns its streamer without it.
-/
namespace DeXFG.Streaming
open Library Library.Runs
open Library.SetMap (SetIteration sortedSetIteration)
open StreamingManagerInner

variable {S E : Type}

/-! ## Channels -/

/-- The channel that comes with a client handle, which removes the client after its receiver is
gone. -/
structure Channel (E : Type) where
  clientId : ClientId
  queue : List E
  isOpen : Bool
  onDropCallback : Bool

def channelCapacity : ℕ := 1024

/-- An event for a channel that is full or closed is lost. -/
def Channel.trySend (channel : Channel E) (event : E) : Channel E :=
  if channel.isOpen ∧ channel.queue.length < channelCapacity then
    { channel with queue := channel.queue ++ [event] }
  else channel

/-- Sends an event to clients, one after the other. -/
def sendEvent (m : StreamingManagerInner S) (event : E) :
    List ClientId → (ℕ → Channel E) → ℕ → Channel E
  | [], channels => channels
  | clientId :: clientIds, channels =>
    sendEvent m event clientIds <|
      match m.clients clientId with
      | some info => Function.update channels info.channel ((channels info.channel).trySend event)
      | none => channels

/-- The clients are those of the event's streamer. -/
def broadcast (it : SetIteration ClientId) (origin : E → S) (m : StreamingManagerInner S)
    (event : E) (channels : ℕ → Channel E) : ℕ → Channel E :=
  match m.streamers (origin event) with
  | some info => sendEvent m event (it.toList info.clients) channels
  | none => channels

theorem sendEvent_apply {m : StreamingManagerInner S}
    (hinj : ∀ {c c' ch}, m.channel c = some ch → m.channel c' = some ch → c = c') (event : E)
    {cs : List ClientId} (hcs : cs.Nodup) (channels : ℕ → Channel E) (ch : ℕ) :
    sendEvent m event cs channels ch =
      if ∃ c ∈ cs, m.channel c = some ch then (channels ch).trySend event else channels ch := by
  induction cs generalizing channels with
  | nil => simp [sendEvent]
  | cons c cs ih =>
    rw [List.nodup_cons] at hcs
    rw [sendEvent, ih hcs.2]
    cases hc : m.clients c with
    | none =>
      have hchannel : m.channel c = none := by rw [channel, hc]; rfl
      simp [hchannel]
    | some info =>
      have hchannel : m.channel c = some info.channel := by rw [channel, hc]; rfl
      by_cases hch : ch = info.channel
      · -- no other client has the channel
        have hnot : ¬∃ c' ∈ cs, m.channel c' = some ch := by
          rintro ⟨c', hc', hchannel'⟩
          rw [hinj hchannel' (hch ▸ hchannel)] at hc'
          exact hcs.1 hc'
        rw [if_neg hnot, if_pos ⟨c, List.mem_cons_self, hch ▸ hchannel⟩, hch]
        exact Function.update_self _ _ _
      · have hiff : (∃ c' ∈ c :: cs, m.channel c' = some ch) ↔
            ∃ c' ∈ cs, m.channel c' = some ch := by
          simp [hchannel, Ne.symm hch]
        dsimp only
        rw [Function.update_of_ne hch]
        simp only [hiff]

section

variable {m : StreamingManagerInner S} (h : m.Consistent)
  (hinj : ∀ {c c' ch}, m.channel c = some ch → m.channel c' = some ch → c = c')
  (it : SetIteration ClientId) (origin : E → S) (event : E) (channels : ℕ → Channel E) {ch : ℕ}

include h hinj

/-- A broadcast tries the channels of the clients that listen. -/
theorem broadcast_listening {c : ClientId} (hc : m.channel c = some ch)
    (hlistening : origin event ∈ m.listening c) :
    broadcast it origin m event channels ch = (channels ch).trySend event := by
  rw [h.inverse] at hlistening
  unfold broadcast
  cases hs : m.streamers (origin event) with
  | none =>
    rw [serves_eq_empty hs] at hlistening
    exact absurd hlistening (Finset.notMem_empty c)
  | some info =>
    rw [serves_of_streamers hs] at hlistening
    dsimp only
    rw [sendEvent_apply hinj event (it.nodup_toList _), if_pos]
    exact ⟨c, (it.mem_toList _ _).mpr hlistening, hc⟩

theorem broadcast_not_listening
    (hnot : ∀ c, m.channel c = some ch → origin event ∉ m.listening c) :
    broadcast it origin m event channels ch = channels ch := by
  unfold broadcast
  cases hs : m.streamers (origin event) with
  | none => rfl
  | some info =>
    dsimp only
    rw [sendEvent_apply hinj event (it.nodup_toList _), if_neg]
    rintro ⟨c, hmem, hc⟩
    apply hnot c hc
    rw [h.inverse, serves_of_streamers hs]
    exact (it.mem_toList _ _).mp hmem

end

/-! ## The world of a manager -/

/-- Where a call of `add` is. From the spawning on it holds the shutdown handle. -/
inductive AddPhase where
  | removeIfDown
  | preChecks
  | spawn
  | spawning (shutdown : ℕ)
  | register (shutdown : ℕ)

def AddPhase.held : AddPhase → Option ℕ
  | .spawning shutdown => some shutdown
  | .register shutdown => some shutdown
  | _ => none

structure AddCall (S : Type) where
  clientId : ClientId
  streamerId : S
  phase : AddPhase

/-- The manager, the calls of `add` by their tasks, the ids of the streamers that have been
spawned, the handles that are dropped, the streamers that are over and the channels. -/
structure World (S E : Type) where
  inner : StreamingManagerInner S
  adds : ℕ → Option (AddCall S)
  spawned : List S
  dropped : Finset ℕ
  down : Finset ℕ
  channels : ℕ → Channel E
  opened : ℕ

/-- A step between two points where the lock is free. -/
inductive Event (S E : Type) where
  | callAdd (task : ℕ) (clientId : ClientId) (streamerId : S)
  /-- The task goes on with its call; `ready` says how the streamer starts. -/
  | advance (task : ℕ) (ready : Bool)
  | cancelAdd (task : ℕ)
  | stop (clientId : ClientId) (streamerId : S)
  | newClient (clientId : ClientId)
  | removeClient (clientId : ClientId)
  | dropReceiver (channel : ℕ)
  | dropCallback (channel : ℕ)
  | receive (channel : ℕ)
  | streamerDies (shutdown : ℕ)
  | broadcast (event : E)

namespace World

def initial : World S E where
  inner := empty
  adds _ := none
  spawned := []
  dropped := ∅
  down := ∅
  channels _ := { clientId := 0, queue := [], isOpen := false, onDropCallback := false }
  opened := 0

def after {α : Type} (w : World S E) (o : Outcome S α) : World S E :=
  { w with inner := o.inner, dropped := w.dropped ∪ o.dropped.toFinset }

def setAdd (w : World S E) (task : ℕ) (call : Option (AddCall S)) : World S E :=
  { w with adds := Function.update w.adds task call }

def setChannel (w : World S E) (id : ℕ) (channel : Channel E) : World S E :=
  { w with channels := Function.update w.channels id channel }

variable [DecidableEq S] (it : SetIteration S) (itClients : SetIteration ClientId) (origin : E → S)

/-- The next step of a call of `add`. -/
def advance (w : World S E) (task : ℕ) (ready : Bool) (call : AddCall S) : World S E :=
  match call.phase with
  | .removeIfDown =>
    (w.after (w.inner.removeStreamerIfDown itClients (· ∈ w.down) call.streamerId)).setAdd task
      (some { call with phase := .preChecks })
  | .preChecks =>
    let o := w.inner.preChecks call.clientId call.streamerId
    match o.result with
    | .ok true => (w.after o).setAdd task (some { call with phase := .spawn })
    | _ => (w.after o).setAdd task none
  | .spawn =>
    { w with spawned := w.spawned ++ [call.streamerId] }.setAdd task
      (some { call with phase := .spawning w.spawned.length })
  | .spawning shutdown =>
    if ready then w.setAdd task (some { call with phase := .register shutdown })
    else { w with dropped := insert shutdown w.dropped }.setAdd task none
  | .register shutdown =>
    (w.after (w.inner.register call.clientId call.streamerId shutdown)).setAdd task none

def step (w : World S E) : Event S E → Option (World S E)
  | .callAdd task clientId streamerId =>
    match w.adds task with
    | some _ => none
    | none => some (w.setAdd task (some { clientId, streamerId, phase := .removeIfDown }))
  | .advance task ready => (w.adds task).map (w.advance itClients task ready)
  | .cancelAdd task =>
    (w.adds task).map fun call =>
      { w with dropped := w.dropped ∪ call.phase.held.toFinset }.setAdd task none
  | .stop clientId streamerId => some (w.after (w.inner.stop clientId streamerId))
  | .newClient clientId =>
    let o := w.inner.newClient clientId w.opened
    match o.result with
    | .ok _ =>
      some ({ w.after o with opened := w.opened + 1 }.setChannel w.opened
        { clientId, queue := [], isOpen := true, onDropCallback := true })
    | .error _ => some w
  | .removeClient clientId => some (w.after (w.inner.removeClient it clientId))
  | .dropReceiver channel =>
    if (w.channels channel).isOpen then
      some (w.setChannel channel { w.channels channel with queue := [], isOpen := false })
    else none
  | .dropCallback channel =>
    if ¬(w.channels channel).isOpen ∧ (w.channels channel).onDropCallback then
      some ((w.after (w.inner.removeClient it (w.channels channel).clientId)).setChannel channel
        { w.channels channel with onDropCallback := false })
    else none
  | .receive channel =>
    if (w.channels channel).isOpen then
      some (w.setChannel channel
        { w.channels channel with queue := (w.channels channel).queue.tail })
    else none
  | .streamerDies shutdown =>
    if shutdown < w.spawned.length then some { w with down := insert shutdown w.down } else none
  | .broadcast event =>
    some { w with channels := Streaming.broadcast itClients origin w.inner event w.channels }

/-! ## The invariant -/

/-- A streamer's handle belongs to its registration or to the call that spawns it. -/
def ledger (w : World S E) : Ledger (S ⊕ ℕ) where
  holds := Sum.elim w.inner.handle fun task => (w.adds task).bind fun call => call.phase.held
  created := w.spawned.length
  released := w.dropped

structure Good (w : World S E) : Prop where
  consistent : w.inner.Consistent
  owned : w.ledger.Sound
  streamerOf : ∀ {s h}, w.inner.handle s = some h → w.spawned[h]? = some s
  addOf : ∀ {task call h}, w.adds task = some call → call.phase.held = some h →
    w.spawned[h]? = some call.streamerId
  channelOf : ∀ {c ch}, w.inner.channel c = some ch →
    ch < w.opened ∧ (w.channels ch).clientId = c

section

variable {w : World S E} {task : ℕ} {call : AddCall S}

omit [DecidableEq S] in
theorem Good.channel_inj (h : w.Good) {c c' : ClientId} {ch : ℕ}
    (hc : w.inner.channel c = some ch) (hc' : w.inner.channel c' = some ch) : c = c' := by
  rw [← (h.channelOf hc).2, (h.channelOf hc').2]

omit [DecidableEq S] in
theorem good_initial : (initial : World S E).Good where
  consistent := consistent_empty
  owned := by
    have hledger : (initial : World S E).ledger =
        { holds := fun _ => none, created := 0, released := ∅ } := by
      rw [ledger]
      congr 1
      ext1 o
      cases o <;> rfl
    rw [hledger]
    exact Ledger.sound_empty
  streamerOf h := by cases h
  addOf h := by cases h
  channelOf h := by cases h

theorem holds_setAdd (w : World S E) (task : ℕ) (call : Option (AddCall S)) :
    (w.setAdd task call).ledger.holds =
      Function.update w.ledger.holds (.inr task) (call.bind fun call => call.phase.held) := by
  ext1 o
  cases o with
  | inl s => rfl
  | inr t =>
    by_cases ht : t = task
    · subst ht
      simp [ledger, setAdd]
    · simp [ledger, setAdd, ht]

omit [DecidableEq S] in
/-- An operation of the manager that drops the handles of what it takes out. -/
theorem Good.after {α : Type} (h : w.Good) {o : Outcome S α} (hconsistent : o.inner.Consistent)
    (hdrops : Drops w.inner o.inner o.dropped)
    (hchannel : ∀ c ch, o.inner.channel c = some ch → w.inner.channel c = some ch) :
    (w.after o).Good where
  consistent := hconsistent
  owned := by
    have hreleases : w.ledger.Releases o.dropped (w.after o).ledger := by
      constructor
      · rfl
      · rfl
      · intro owner r hr
        cases owner with
        | inl s =>
          have hs : w.ledger.holds (.inl s) = some r := hdrops.sub hr
          refine ⟨hs, fun hmem => ?_⟩
          obtain ⟨s', hs', hnone⟩ := hdrops.owned hmem
          have hsame : (Sum.inl s : S ⊕ ℕ) = .inl s' := h.owned.unique hs hs'
          cases hsame
          rw [show o.inner.handle s = some r from hr] at hnone
          cases hnone
        | inr t =>
          have ht : w.ledger.holds (.inr t) = some r := hr
          refine ⟨ht, fun hmem => ?_⟩
          obtain ⟨s', hs', -⟩ := hdrops.owned hmem
          have hsame : (Sum.inr t : S ⊕ ℕ) = .inl s' := h.owned.unique ht hs'
          cases hsame
      · intro owner r hr hnot
        cases owner with
        | inl s => exact (hdrops.kept hr).resolve_right hnot
        | inr t => exact hr
      · intro r hmem
        obtain ⟨s, hs, -⟩ := hdrops.owned hmem
        exact ⟨.inl s, hs⟩
    exact h.owned.release hreleases
  streamerOf hs := h.streamerOf (hdrops.sub hs)
  addOf := h.addOf
  channelOf hc := h.channelOf (hchannel _ _ hc)

/-- A call that holds the same handle as before, or still none. -/
theorem Good.setAdd (h : w.Good) {call : Option (AddCall S)}
    (hheld : (call.bind fun call => call.phase.held) = w.ledger.holds (.inr task))
    (hadd : ∀ call' shutdown, call = some call' → call'.phase.held = some shutdown →
      w.spawned[shutdown]? = some call'.streamerId) : (w.setAdd task call).Good where
  consistent := h.consistent
  owned := by
    have hledger : (w.setAdd task call).ledger = w.ledger := by
      rw [show (w.setAdd task call).ledger =
        { w.ledger with holds := (w.setAdd task call).ledger.holds } from rfl, holds_setAdd, hheld,
        Function.update_eq_self]
    rw [hledger]
    exact h.owned
  streamerOf := h.streamerOf
  addOf {t call' shutdown} ht hshutdown := by
    rw [World.setAdd] at ht
    dsimp only at ht
    rw [Function.update_apply] at ht
    split_ifs at ht
    · exact hadd call' shutdown ht hshutdown
    · exact h.addOf ht hshutdown
  channelOf := h.channelOf

omit [DecidableEq S] in
theorem holds_task (h : w.adds task = some call) :
    w.ledger.holds (.inr task) = call.phase.held := by
  change (w.adds task).bind _ = _
  rw [h, Option.bind_some]

/-- The task's call drops what it holds, if it holds something, and is over. -/
theorem Good.dropHeld (h : w.Good) (hcall : w.adds task = some call) :
    ({ w with dropped := w.dropped ∪ call.phase.held.toFinset }.setAdd task none).Good where
  consistent := h.consistent
  owned := by
    have hheld := holds_task hcall
    have hreleases : w.ledger.Releases call.phase.held.toList
        ({ w with dropped := w.dropped ∪ call.phase.held.toFinset }.setAdd task none).ledger := by
      constructor
      · rfl
      · change w.dropped ∪ _ = w.dropped ∪ _
        congr 1
        ext r
        simp
      · intro owner r hr
        rw [holds_setAdd, Function.update_apply] at hr
        split_ifs at hr with howner
        · cases hr
        · refine ⟨hr, fun hmem => howner ?_⟩
          rw [Option.mem_toList, ← hheld] at hmem
          exact h.owned.unique hr hmem
      · intro owner r hr hnot
        rw [holds_setAdd, Function.update_of_ne]
        · exact hr
        · rintro rfl
          rw [hheld] at hr
          exact hnot (Option.mem_toList.mpr hr)
      · intro r hmem
        rw [Option.mem_toList, ← hheld] at hmem
        exact ⟨.inr task, hmem⟩
    exact h.owned.release hreleases
  streamerOf := h.streamerOf
  addOf {t call' shutdown} ht hshutdown := by
    rw [World.setAdd] at ht
    dsimp only at ht
    rw [Function.update_apply] at ht
    split_ifs at ht
    exact h.addOf ht hshutdown
  channelOf := h.channelOf

/-- A call spawns its streamer and holds its handle. -/
theorem Good.spawn (h : w.Good) (hcall : w.adds task = some call) (hheld : call.phase.held = none) :
    ({ w with spawned := w.spawned ++ [call.streamerId] }.setAdd task
      (some { call with phase := .spawning w.spawned.length })).Good where
  consistent := h.consistent
  owned := by
    apply h.owned.create ((holds_task hcall).trans hheld)
    · exact List.length_append
    · rfl
    · rw [holds_setAdd]
      rfl
  streamerOf hs := by
    have hold := h.streamerOf hs
    exact (List.getElem?_append_left (List.getElem?_eq_some_iff.mp hold).1).trans hold
  addOf {t call' shutdown} ht hshutdown := by
    rw [World.setAdd] at ht ⊢
    dsimp only at ht ⊢
    rw [Function.update_apply] at ht
    split_ifs at ht
    · cases ht
      cases hshutdown
      simp
    · have hold := h.addOf ht hshutdown
      exact (List.getElem?_append_left (List.getElem?_eq_some_iff.mp hold).1).trans hold
  channelOf := h.channelOf

/-- The handle goes from the call to the registration, unless it is dropped. -/
theorem Good.register (h : w.Good) {shutdown : ℕ} (hcall : w.adds task = some call)
    (hphase : call.phase = .register shutdown) :
    ((w.after (w.inner.register call.clientId call.streamerId shutdown)).setAdd task
      none).Good := by
  have hheld : call.phase.held = some shutdown := by rw [hphase]; rfl
  have hchannel := channel_register w.inner call.clientId call.streamerId shutdown
  have hconsistent := consistent_register h.consistent call.clientId call.streamerId shutdown
  rcases register_cases w.inner call.clientId call.streamerId shutdown with
    ⟨hdropped, hhandle⟩ | ⟨hdropped, hvacant, hhandle⟩
  · -- the handle is dropped with the end of the call
    have hover := h.dropHeld hcall
    rw [hheld] at hover
    constructor
    · exact hconsistent
    · have hledger :
          ((w.after (w.inner.register call.clientId call.streamerId shutdown)).setAdd task
            none).ledger =
          ({ w with dropped := w.dropped ∪ (some shutdown).toFinset }.setAdd task none).ledger := by
        simp [ledger, World.after, World.setAdd, hdropped, hhandle]
      rw [hledger]
      exact hover.owned
    · intro s r hr
      exact h.streamerOf ((congrFun hhandle s).symm.trans hr)
    · exact hover.addOf
    · intro c ch hc
      exact h.channelOf ((congrFun hchannel c).symm.trans hc)
  · constructor
    · exact hconsistent
    · have hvacant' : w.ledger.holds (.inl call.streamerId) = none := hvacant
      apply h.owned.move ((holds_task hcall).trans hheld) hvacant'
      · rfl
      · simp [ledger, World.after, World.setAdd, hdropped]
      · rw [holds_setAdd]
        ext1 owner
        cases owner with
        | inl s =>
          change (w.inner.register call.clientId call.streamerId shutdown).inner.handle s = _
          rw [hhandle]
          by_cases hs : s = call.streamerId
          · rw [hs, Function.update_self, Function.update_self]
          · rw [Function.update_of_ne hs, Function.update_of_ne (by simpa using hs)]
            rfl
        | inr t =>
          rw [Function.update_of_ne Sum.inr_ne_inl]
          rfl
    · intro s r hr
      have hr' := (congrFun hhandle s).symm.trans hr
      rw [Function.update_apply] at hr'
      split_ifs at hr' with hs
      · rw [hs, ← Option.some.inj hr']
        exact h.addOf hcall hheld
      · exact h.streamerOf hr'
    · exact (h.dropHeld hcall).addOf
    · intro c ch hc
      exact h.channelOf ((congrFun hchannel c).symm.trans hc)

theorem Good.advance (h : w.Good) (it : SetIteration ClientId) (ready : Bool)
    (hcall : w.adds task = some call) : (w.advance it task ready call).Good := by
  have hholds := holds_task hcall
  have hmem {shutdown : ℕ} (hheld : call.phase.held = some shutdown) := h.addOf hcall hheld
  unfold World.advance
  cases hphase : call.phase with
  | removeIfDown =>
    rw [hphase] at hholds
    apply (h.after (consistent_removeStreamerIfDown h.consistent it _ _)
      (drops_removeStreamerIfDown _ it _ _) _).setAdd
    · exact hholds.symm
    · intro call' shutdown heq hheld
      cases heq
      cases hheld
    · intro c ch hc
      rwa [channel_removeStreamerIfDown] at hc
  | preChecks =>
    rw [hphase] at hholds
    have hafter := h.after (consistent_preChecks h.consistent call.clientId call.streamerId)
      (drops_preChecks _ _ _) fun c ch hc => by rwa [channel_preChecks] at hc
    dsimp only
    split
    · apply hafter.setAdd
      · exact hholds.symm
      · intro call' shutdown heq hheld
        cases heq
        cases hheld
    · apply hafter.setAdd
      · exact hholds.symm
      · intro call' shutdown heq
        cases heq
  | spawn => exact h.spawn hcall (by rw [hphase]; rfl)
  | spawning shutdown =>
    rw [hphase] at hholds hmem
    dsimp only
    split
    · apply h.setAdd
      · exact hholds.symm
      · intro call' shutdown' heq hheld
        cases heq
        exact hmem hheld
    · have hover := h.dropHeld hcall
      rw [hphase] at hover
      rw [Finset.insert_eq, Finset.union_comm]
      exact hover
  | register shutdown => exact h.register hcall hphase

omit [DecidableEq S] in
/-- A channel that changes but for its client. -/
theorem Good.setChannel (h : w.Good) {id : ℕ} {channel : Channel E}
    (hclient : channel.clientId = (w.channels id).clientId) : (w.setChannel id channel).Good where
  consistent := h.consistent
  owned := h.owned
  streamerOf := h.streamerOf
  addOf := h.addOf
  channelOf {c ch} hc := by
    rw [World.setChannel]
    dsimp only
    rw [Function.update_apply]
    split_ifs with hch
    · rw [hclient, ← hch]
      exact h.channelOf hc
    · exact h.channelOf hc

omit [DecidableEq S] in
theorem Good.newClient (h : w.Good) {clientId : ClientId} {channel : Channel E}
    (hclient : channel.clientId = clientId)
    (hok : (w.inner.newClient clientId w.opened).result = .ok ()) :
    ({ w.after (w.inner.newClient clientId w.opened) with opened := w.opened + 1 }.setChannel
      w.opened channel).Good := by
  obtain ⟨hhandle, hdropped, hchannel⟩ := newClient_eq_ok hok
  constructor
  · exact consistent_newClient h.consistent clientId w.opened
  · have hledger : ({ w.after (w.inner.newClient clientId w.opened) with
        opened := w.opened + 1 }.setChannel w.opened channel).ledger = w.ledger := by
      simp [ledger, World.after, World.setChannel, hdropped, hhandle]
    rw [hledger]
    exact h.owned
  · intro s r hr
    exact h.streamerOf ((congrFun hhandle s).symm.trans hr)
  · exact h.addOf
  · intro c ch hc
    have hc' := (congrFun hchannel c).symm.trans hc
    rw [World.setChannel]
    dsimp only
    rw [Function.update_apply] at hc' ⊢
    split_ifs at hc' with hcc
    · rw [← Option.some.inj hc', if_pos rfl]
      exact ⟨Nat.lt_succ_self _, hclient.trans hcc.symm⟩
    · have hold := h.channelOf hc'
      rw [if_neg hold.1.ne]
      exact ⟨hold.1.trans (Nat.lt_succ_self _), hold.2⟩

theorem Good.removeClient (h : w.Good) (it : SetIteration S) (c : ClientId) :
    (w.after (w.inner.removeClient it c)).Good :=
  h.after (consistent_removeClient h.consistent it c) (drops_removeClient _ it c)
    fun _ _ => channel_removeClient

theorem good_step (it : SetIteration S) (itClients : SetIteration ClientId) (origin : E → S)
    {w' : World S E} {e : Event S E} (h : w.Good) (hstep : w.step it itClients origin e = some w') :
    w'.Good := by
  cases e with
  | callAdd task clientId streamerId =>
    rw [step] at hstep
    split at hstep
    · cases hstep
    next hnone =>
      cases hstep
      apply h.setAdd
      · change none = (w.adds task).bind _
        rw [hnone]
        rfl
      · intro call shutdown heq hheld
        cases heq
        cases hheld
  | advance task ready =>
    obtain ⟨call, hcall, rfl⟩ := Option.map_eq_some_iff.mp hstep
    exact h.advance itClients ready hcall
  | cancelAdd task =>
    obtain ⟨call, hcall, rfl⟩ := Option.map_eq_some_iff.mp hstep
    exact h.dropHeld hcall
  | stop clientId streamerId =>
    cases hstep
    apply h.after (consistent_stop h.consistent clientId streamerId) (drops_stop _ _ _)
    intro c ch hc
    rwa [channel_stop] at hc
  | newClient clientId =>
    rw [step] at hstep
    dsimp only at hstep
    split at hstep
    next hok =>
      cases hstep
      exact h.newClient rfl hok
    next =>
      cases hstep
      exact h
  | removeClient clientId =>
    cases hstep
    exact h.removeClient it clientId
  | dropReceiver channel =>
    rw [step] at hstep
    split at hstep
    · cases hstep
      exact h.setChannel rfl
    · cases hstep
  | dropCallback channel =>
    rw [step] at hstep
    split at hstep
    · cases hstep
      exact (h.removeClient it _).setChannel rfl
    · cases hstep
  | receive channel =>
    rw [step] at hstep
    split at hstep
    · cases hstep
      exact h.setChannel rfl
    · cases hstep
  | streamerDies shutdown =>
    rw [step] at hstep
    split at hstep
    · cases hstep
      exact ⟨h.consistent, h.owned, h.streamerOf, h.addOf, h.channelOf⟩
    · cases hstep
  | broadcast event =>
    cases hstep
    refine ⟨h.consistent, h.owned, h.streamerOf, h.addOf, fun {c ch} hc => ?_⟩
    obtain ⟨hlt, hclient⟩ := h.channelOf hc
    refine ⟨hlt, ?_⟩
    by_cases hlistening : origin event ∈ w.inner.listening c
    · dsimp only
      rw [broadcast_listening h.consistent h.channel_inj itClients origin event _ hc hlistening,
        Channel.trySend]
      split <;> exact hclient
    · dsimp only
      rw [broadcast_not_listening h.consistent h.channel_inj]
      · exact hclient
      · intro c' hc'
        rw [h.channel_inj hc' hc]
        exact hlistening

theorem good_of_reachable {it : SetIteration S} {itClients : SetIteration ClientId}
    {origin : E → S} (h : Reachable (step it itClients origin) (· = initial) w) : w.Good := by
  apply h.invariant
  · rintro _ rfl
    exact good_initial
  · intro w e w' hgood hstep
    exact good_step it itClients origin hgood hstep

end

/-! ## What holds whenever the lock is free -/

/-- The streamer of the handle is registered. -/
def Registered (w : World S E) (shutdown : ℕ) : Prop := ∃ s, w.inner.handle s = some shutdown

/-- A call of `add` holds the handle of the streamer that it spawns or has just spawned. -/
def BeingAdded (w : World S E) (shutdown : ℕ) : Prop :=
  ∃ task call, w.adds task = some call ∧ call.phase.held = some shutdown

/-- The client listens to the streamer of the event and its channel is open and not full. -/
def Reaches (w : World S E) (origin : E → S) (event : E) (clientId : ClientId) (ch : ℕ) : Prop :=
  w.inner.channel clientId = some ch ∧ origin event ∈ w.inner.listening clientId ∧
    (w.channels ch).isOpen ∧ (w.channels ch).queue.length < channelCapacity

/-- At every point where the lock is free, under all interleavings: the two maps are inverse, a
registered streamer has a client, no two of one id are registered, an event reaches the listening
clients whose channel is open and not full and no others, and a handle that is not dropped is that
of a registered streamer or of one that is being added. -/
theorem streaming_manager_consistent (it : SetIteration S) (itClients : SetIteration ClientId)
    (origin : E → S) (w : World S E)
    (h : Reachable (step it itClients origin) (· = initial) w) :
    (∀ c s, s ∈ w.inner.listening c ↔ c ∈ w.inner.serves s) ∧
    (∀ s info, w.inner.streamers s = some info → info.clients.Nonempty) ∧
    (∀ r r' s, w.spawned[r]? = some s → w.spawned[r']? = some s → w.Registered r →
      w.Registered r' → r = r') ∧
    (∀ event w', w.step it itClients origin (.broadcast event) = some w' → ∀ ch,
      (∀ c, w.Reaches origin event c ch →
        (w'.channels ch).queue = (w.channels ch).queue ++ [event]) ∧
      ((∀ c, ¬w.Reaches origin event c ch) → w'.channels ch = w.channels ch)) ∧
    (∀ r < w.spawned.length, r ∉ w.dropped ↔ w.Registered r ∨ w.BeingAdded r) := by
  have hgood := good_of_reachable h
  refine ⟨hgood.consistent.inverse, hgood.consistent.nonempty, ?_, ?_, ?_⟩
  · rintro r r' s hr hr' ⟨t, ht⟩ ⟨t', ht'⟩
    -- both are registered under the id that they were spawned for
    have hts := hgood.streamerOf ht
    have hts' := hgood.streamerOf ht'
    rw [hr] at hts
    rw [hr'] at hts'
    rw [← Option.some.inj hts] at ht
    rw [← Option.some.inj hts', ht] at ht'
    exact Option.some.inj ht'
  · intro event w' hstep ch
    cases hstep
    constructor
    · rintro c ⟨hc, hlistening, hopen, hroom⟩
      dsimp only
      rw [broadcast_listening hgood.consistent hgood.channel_inj _ _ _ _ hc hlistening,
        Channel.trySend, if_pos ⟨hopen, hroom⟩]
    · intro hnot
      dsimp only
      by_cases hlistening : ∃ c, w.inner.channel c = some ch ∧ origin event ∈ w.inner.listening c
      · obtain ⟨c, hc, hlistening⟩ := hlistening
        rw [broadcast_listening hgood.consistent hgood.channel_inj _ _ _ _ hc hlistening,
          Channel.trySend, if_neg fun hroom => hnot c ⟨hc, hlistening, hroom.1, hroom.2⟩]
      · rw [broadcast_not_listening hgood.consistent hgood.channel_inj]
        intro c hc hlistening'
        exact hlistening ⟨c, hc, hlistening'⟩
  · intro r hr
    constructor
    · intro hlive
      obtain ⟨owner, howner⟩ := hgood.owned.held hr hlive
      cases owner with
      | inl s => exact Or.inl ⟨s, howner⟩
      | inr task =>
        obtain ⟨call, hcall, hheld⟩ := Option.bind_eq_some_iff.mp howner
        exact Or.inr ⟨task, call, hcall, hheld⟩
    · rintro (⟨s, hs⟩ | ⟨task, call, hcall, hheld⟩)
      · have howner : w.ledger.holds (.inl s) = some r := hs
        exact (hgood.owned.live howner).2
      · have howner : w.ledger.holds (.inr task) = some r := (holds_task hcall).trans hheld
        exact (hgood.owned.live howner).2

/-! ## A client that goes -/

def sampleStep : World ℕ ℕ → Event ℕ ℕ → Option (World ℕ ℕ) :=
  step sortedSetIteration sortedSetIteration id

/-- A client comes and its streamer is being spawned. -/
def spawningEvents : List (Event ℕ ℕ) :=
  [.newClient 1, .callAdd 0 1 5, .advance 0 true, .advance 0 true, .advance 0 true]

/-- The streamer is registered, and the client's receiver is dropped before its callback runs. -/
def goneEvents : List (Event ℕ ℕ) :=
  spawningEvents ++ [.advance 0 true, .advance 0 true, .dropReceiver 0]

theorem sampleStep_registered :
    ∃ w : World ℕ ℕ, Reachable sampleStep (· = initial) w ∧ w.inner.listening 1 = {5} ∧
      w.Registered 0 ∧ 0 ∉ w.dropped := by
  have hreach : ∃ w, run sampleStep initial goneEvents = some w ∧ w.inner.listening 1 = {5} ∧
      w.Registered 0 ∧ w.spawned.length = 1 := ⟨_, rfl, rfl, ⟨5, rfl⟩, rfl⟩
  obtain ⟨w, hrun, hlistening, hregistered, hspawned⟩ := hreach
  have hw : Reachable sampleStep (· = initial) w := ⟨initial, goneEvents, rfl, hrun⟩
  refine ⟨w, hw, hlistening, hregistered, ?_⟩
  have hall := streaming_manager_consistent sortedSetIteration sortedSetIteration id w hw
  exact (hall.2.2.2.2 0 (by omega)).mpr (Or.inl hregistered)

/-- An event does not reach a client whose receiver is gone, though its channel is not full, and a
streamer that is being spawned has a handle that is neither registered nor dropped. -/
theorem closed_channel_misses_event :
    (∃ w : World ℕ ℕ, Reachable sampleStep (· = initial) w ∧
      w.inner.channel 1 = some 0 ∧ 5 ∈ w.inner.listening 1 ∧
      (w.channels 0).queue.length < channelCapacity ∧
      ∀ w', sampleStep w (.broadcast 5) = some w' → w'.channels 0 = w.channels 0) ∧
    ∃ w : World ℕ ℕ, Reachable sampleStep (· = initial) w ∧
      0 < w.spawned.length ∧ 0 ∉ w.dropped ∧ ¬w.Registered 0 := by
  constructor
  · have hreach : ∃ w, run sampleStep initial goneEvents = some w ∧ w.inner.channel 1 = some 0 ∧
        w.inner.listening 1 = {5} ∧ (w.channels 0).queue = [] ∧ (w.channels 0).isOpen = false :=
      ⟨_, rfl, rfl, rfl, rfl, rfl⟩
    obtain ⟨w, hrun, hchannel, hlistening, hqueue, hclosed⟩ := hreach
    have hw : Reachable sampleStep (· = initial) w := ⟨initial, goneEvents, rfl, hrun⟩
    have hgood := good_of_reachable hw
    have hlistens : 5 ∈ w.inner.listening 1 := by simp [hlistening]
    refine ⟨w, hw, hchannel, hlistens, by simp [hqueue, channelCapacity], fun w' hstep => ?_⟩
    cases hstep
    dsimp only
    rw [broadcast_listening hgood.consistent hgood.channel_inj _ id 5 _ hchannel hlistens,
      Channel.trySend, if_neg]
    simp [hclosed]
  · have hreach : ∃ w, run sampleStep initial spawningEvents = some w ∧ w.spawned.length = 1 ∧
        w.dropped = ∅ ∧ ∀ s, w.inner.handle s = none := ⟨_, rfl, rfl, rfl, fun _ => rfl⟩
    obtain ⟨w, hrun, hspawned, hdropped, hhandle⟩ := hreach
    refine ⟨w, ⟨initial, spawningEvents, rfl, hrun⟩, by omega, by simp [hdropped], ?_⟩
    rintro ⟨s, hs⟩
    rw [hhandle] at hs
    cases hs

end World

end DeXFG.Streaming
