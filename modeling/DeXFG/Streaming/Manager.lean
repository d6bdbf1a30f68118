import DeXFG.Library.SetMap

/-!
# The streaming manager

The two maps of the manager and what its operations do to them while they hold the lock. A
streamer's shutdown handle is a number, and an operation says which handles it drops.
-/
namespace DeXFG.Streaming
open Library.SetMap (SetIteration)

abbrev ClientId := ℕ

inductive StreamingManagerError where
  | streamerNotFound
  | spawnError (e : String)
  | unknownClient
  | clientExists
  | clientAlreadyListening
  deriving DecidableEq, Repr

structure StreamerInfo where
  clients : Finset ClientId
  shutdown : ℕ

/-- A client's channel is a number too. -/
structure ClientInfo (S : Type) where
  listeningTo : Finset S
  channel : ℕ

structure StreamingManagerInner (S : Type) where
  streamers : S → Option StreamerInfo
  clients : ClientId → Option (ClientInfo S)

/-- What an operation leaves, the handles that it drops and its result. -/
structure Outcome (S α : Type) where
  inner : StreamingManagerInner S
  dropped : List ℕ := []
  result : Except StreamingManagerError α

variable {S : Type}

namespace StreamingManagerInner

def empty : StreamingManagerInner S where
  streamers _ := none
  clients _ := none

variable (m : StreamingManagerInner S)

/-- The clients of a registered streamer. -/
def serves (s : S) : Finset ClientId := ((m.streamers s).map StreamerInfo.clients).getD ∅

/-- What a registered client listens to. -/
def listening (c : ClientId) : Finset S := ((m.clients c).map ClientInfo.listeningTo).getD ∅

def handle (s : S) : Option ℕ := (m.streamers s).map StreamerInfo.shutdown

structure Consistent : Prop where
  inverse : ∀ c s, s ∈ m.listening c ↔ c ∈ m.serves s
  nonempty : ∀ s info, m.streamers s = some info → info.clients.Nonempty

variable [DecidableEq S]

/-! ## The operations -/

/-- Registers the client as a listener of a streamer that is registered. -/
def join (clientId : ClientId) (clientInfo : ClientInfo S) (streamerId : S) (info : StreamerInfo) :
    StreamingManagerInner S where
  streamers := Function.update m.streamers streamerId
    (some { info with clients := insert clientId info.clients })
  clients := Function.update m.clients clientId
    (some { clientInfo with listeningTo := insert streamerId clientInfo.listeningTo })

/-- The checks before a streamer is spawned, which is not needed for one that is registered. -/
def preChecks (clientId : ClientId) (streamerId : S) : Outcome S Bool :=
  match m.clients clientId with
  | none => { inner := m, result := .error .unknownClient }
  | some clientInfo =>
    if streamerId ∈ clientInfo.listeningTo then
      { inner := m, result := .error .clientAlreadyListening }
    else
      match m.streamers streamerId with
      | some info => { inner := m.join clientId clientInfo streamerId info, result := .ok false }
      | none => { inner := m, result := .ok true }

/-- Registers the streamer that has been spawned, unless another one was registered meanwhile or
the client has gone. -/
def register (clientId : ClientId) (streamerId : S) (shutdown : ℕ) : Outcome S Unit :=
  match m.clients clientId with
  | some clientInfo =>
    match m.streamers streamerId with
    | some info =>
      { inner := m.join clientId clientInfo streamerId info
        dropped := [shutdown]
        result := .ok () }
    | none =>
      { inner := m.join clientId clientInfo streamerId { clients := ∅, shutdown }
        result := .ok () }
  | none => { inner := m, dropped := [shutdown], result := .error .unknownClient }

/-- Removes the client from a streamer and terminates it if there are no more listening clients. -/
def removeListener (clientId : ClientId) (streamerId : S) : StreamingManagerInner S × List ℕ :=
  match m.streamers streamerId with
  | none => (m, [])
  | some info =>
    let clients := info.clients.erase clientId
    if clients.card = 0 then
      ({ m with streamers := Function.update m.streamers streamerId none }, [info.shutdown])
    else
      ({ m with
          streamers := Function.update m.streamers streamerId (some { info with clients }) }, [])

def stop (clientId : ClientId) (streamerId : S) : Outcome S Unit :=
  match m.clients clientId with
  | none => { inner := m, result := .error .unknownClient }
  | some clientInfo =>
    let m : StreamingManagerInner S := { m with
      clients := Function.update m.clients clientId
        (some { clientInfo with listeningTo := clientInfo.listeningTo.erase streamerId }) }
    match m.streamers streamerId with
    | none => { inner := m, result := .error .streamerNotFound }
    | some _ =>
      let (m, dropped) := m.removeListener clientId streamerId
      { inner := m, dropped, result := .ok () }

def removeListeners (clientId : ClientId) :
    List S → StreamingManagerInner S → StreamingManagerInner S × List ℕ
  | [], m => (m, [])
  | streamerId :: streamerIds, m =>
    let (m, dropped) := m.removeListener clientId streamerId
    let (m, dropped') := removeListeners clientId streamerIds m
    (m, dropped ++ dropped')

def newClient (clientId : ClientId) (channel : ℕ) : Outcome S Unit :=
  match m.clients clientId with
  | some _ => { inner := m, result := .error .clientExists }
  | none =>
    { inner := { m with
        clients := Function.update m.clients clientId (some { listeningTo := ∅, channel }) }
      result := .ok () }

def removeClient (it : SetIteration S) (clientId : ClientId) : Outcome S Unit :=
  match m.clients clientId with
  | none => { inner := m, result := .error .unknownClient }
  | some clientInfo =>
    let m : StreamingManagerInner S := { m with
      clients := Function.update m.clients clientId none }
    let (m, dropped) := removeListeners clientId (it.toList clientInfo.listeningTo) m
    { inner := m, dropped, result := .ok () }

def removeStreamer (streamerId : S) :
    List ClientId → (ClientId → Option (ClientInfo S)) → ClientId → Option (ClientInfo S)
  | [], clients => clients
  | clientId :: clientIds, clients =>
    removeStreamer streamerId clientIds <|
      match clients clientId with
      | some info => Function.update clients clientId
          (some { info with listeningTo := info.listeningTo.erase streamerId })
      | none => clients

/-- Removes a streamer that died by itself and delists it from all clients. -/
def removeStreamerIfDown (it : SetIteration ClientId) (isDown : ℕ → Bool) (streamerId : S) :
    Outcome S Unit :=
  match m.streamers streamerId with
  | none => { inner := m, result := .ok () }
  | some info =>
    if isDown info.shutdown then
      { inner :=
          { streamers := Function.update m.streamers streamerId none
            clients := removeStreamer streamerId (it.toList info.clients) m.clients }
        dropped := [info.shutdown]
        result := .ok () }
    else { inner := m, result := .ok () }

end StreamingManagerInner

/-! ## What an operation may drop -/

open StreamingManagerInner

/-- The handles that are dropped are those of the streamers that are no longer registered. -/
structure Drops (m m' : StreamingManagerInner S) (dropped : List ℕ) : Prop where
  sub : ∀ {s h}, m'.handle s = some h → m.handle s = some h
  kept : ∀ {s h}, m.handle s = some h → m'.handle s = some h ∨ h ∈ dropped
  owned : ∀ {h}, h ∈ dropped → ∃ s, m.handle s = some h ∧ m'.handle s = none

section

variable {m m' m'' : StreamingManagerInner S} {c : ClientId} {s : S}

theorem Drops.of_handle_eq (h : m'.handle = m.handle) : Drops m m' [] where
  sub hs := h ▸ hs
  kept hs := Or.inl (h ▸ hs)
  owned hs := by simp at hs

theorem Drops.congr_left {ds : List ℕ} (h : Drops m m' ds) (heq : m.handle = m''.handle) :
    Drops m'' m' ds where
  sub hs := heq ▸ h.sub hs
  kept hs := h.kept (heq ▸ hs)
  owned hr := by
    obtain ⟨s, hs, hnone⟩ := h.owned hr
    exact ⟨s, heq ▸ hs, hnone⟩

theorem Drops.trans {ds ds' : List ℕ} (h : Drops m m' ds) (h' : Drops m' m'' ds') :
    Drops m m'' (ds ++ ds') where
  sub hs := h.sub (h'.sub hs)
  kept hs := by
    rw [List.mem_append]
    rcases h.kept hs with hs | hs
    · rcases h'.kept hs with hs | hs
      · exact Or.inl hs
      · exact Or.inr (Or.inr hs)
    · exact Or.inr (Or.inl hs)
  owned {r} hr := by
    rw [List.mem_append] at hr
    rcases hr with hr | hr
    · obtain ⟨s, hs, hnone⟩ := h.owned hr
      refine ⟨s, hs, ?_⟩
      cases hs'' : m''.handle s with
      | none => rfl
      | some r' => rw [h'.sub hs''] at hnone; cases hnone
    · obtain ⟨s, hs, hnone⟩ := h'.owned hr
      exact ⟨s, h.sub hs, hnone⟩

variable [DecidableEq S]

theorem Drops.erase {info : StreamerInfo} (hs : m.streamers s = some info)
    (hstreamers : m'.streamers = Function.update m.streamers s none) :
    Drops m m' [info.shutdown] where
  sub {t r} ht := by
    rw [handle, hstreamers, Function.update_apply] at ht
    split_ifs at ht
    · cases ht
    · exact ht
  kept {t r} ht := by
    rcases eq_or_ne t s with rfl | hne
    · rw [handle, hs] at ht
      cases ht
      exact Or.inr (List.mem_singleton_self _)
    · left
      rw [handle, hstreamers, Function.update_of_ne hne]
      exact ht
  owned {r} hr := by
    rw [List.mem_singleton] at hr
    subst hr
    refine ⟨s, ?_, ?_⟩
    · rw [handle, hs]
      rfl
    · rw [handle, hstreamers, Function.update_self]
      rfl

end

/-! ## The two maps stay inverse -/

namespace StreamingManagerInner

/-- The channel of a registered client. -/
def channel (m : StreamingManagerInner S) (c : ClientId) : Option ℕ :=
  (m.clients c).map ClientInfo.channel

variable {m : StreamingManagerInner S} {c c' : ClientId} {s s' : S} {info : StreamerInfo}
  {clientInfo : ClientInfo S}

theorem serves_of_streamers (h : m.streamers s = some info) : m.serves s = info.clients := by
  rw [serves, h]
  rfl

@[simp] theorem serves_clients (clients : ClientId → Option (ClientInfo S)) :
    serves { m with clients } s = m.serves s := rfl

theorem serves_eq_empty (h : m.streamers s = none) : m.serves s = ∅ := by
  rw [serves, h]
  rfl

theorem listening_of_clients (h : m.clients c = some clientInfo) :
    m.listening c = clientInfo.listeningTo := by
  rw [listening, h]
  rfl

theorem listening_eq_empty (h : m.clients c = none) : m.listening c = ∅ := by
  rw [listening, h]
  rfl

theorem consistent_empty : (empty : StreamingManagerInner S).Consistent where
  inverse c s := by simp [empty, listening, serves]
  nonempty s info h := by cases h

variable [DecidableEq S]

/-! ### Joining -/

theorem serves_join : (m.join c clientInfo s info).serves s' =
    if s' = s then insert c info.clients else m.serves s' := by
  rw [serves, join]
  by_cases h : s' = s
  · subst h
    simp
  · simp [h, serves]

theorem listening_join : (m.join c clientInfo s info).listening c' =
    if c' = c then insert s clientInfo.listeningTo else m.listening c' := by
  rw [listening, join]
  by_cases h : c' = c
  · subst h
    simp
  · simp [h, listening]

theorem channel_join (hc : m.clients c = some clientInfo) :
    (m.join c clientInfo s info).channel = m.channel := by
  ext1 c'
  rw [channel, join]
  by_cases h : c' = c
  · subst h
    simp [channel, hc]
  · simp [h, channel]

theorem handle_join : (m.join c clientInfo s info).handle =
    Function.update m.handle s (some info.shutdown) := by
  ext1 s'
  rw [handle, join]
  by_cases h : s' = s
  · subst h
    simp
  · simp [h, handle]

theorem Consistent.join (h : m.Consistent) (hc : m.clients c = some clientInfo)
    (hs : m.serves s = info.clients) : (m.join c clientInfo s info).Consistent where
  inverse c' s' := by
    have hinverse := h.inverse c' s'
    rw [serves_join, listening_join]
    by_cases hc' : c' = c <;> by_cases hs' : s' = s
    · simp [hc', hs']
    · rw [hc', listening_of_clients hc] at hinverse
      simp [hc', hs', hinverse]
    · rw [hs', hs] at hinverse
      simp [hc', hs', hinverse]
    · rw [if_neg hc', if_neg hs', hinverse]
  nonempty s' info' hinfo := by
    rw [StreamingManagerInner.join] at hinfo
    dsimp only at hinfo
    rw [Function.update_apply] at hinfo
    split_ifs at hinfo with hs'
    · cases hinfo
      exact Finset.insert_nonempty _ _
    · exact h.nonempty s' info' hinfo

theorem consistent_preChecks (h : m.Consistent) (c : ClientId) (s : S) :
    (m.preChecks c s).inner.Consistent := by
  unfold preChecks
  cases hc : m.clients c with
  | none => exact h
  | some clientInfo =>
    dsimp only
    split
    · exact h
    cases hs : m.streamers s with
    | none => exact h
    | some info => exact h.join hc (serves_of_streamers hs)

theorem consistent_register (h : m.Consistent) (c : ClientId) (s : S) (shutdown : ℕ) :
    (m.register c s shutdown).inner.Consistent := by
  unfold register
  cases hc : m.clients c with
  | none => exact h
  | some clientInfo =>
    cases hs : m.streamers s with
    | none => exact h.join hc (serves_eq_empty hs)
    | some info => exact h.join hc (serves_of_streamers hs)

/-! ### Leaving -/

@[simp] theorem clients_removeListener (m : StreamingManagerInner S) (c : ClientId) (s : S) :
    (m.removeListener c s).1.clients = m.clients := by
  unfold removeListener
  split
  · rfl
  · dsimp only
    split <;> rfl

theorem serves_removeListener (m : StreamingManagerInner S) (c : ClientId) (s s' : S) :
    (m.removeListener c s).1.serves s' = if s' = s then (m.serves s).erase c else m.serves s' := by
  unfold removeListener
  by_cases hs' : s' = s
  · subst hs'
    rw [if_pos rfl]
    cases hs : m.streamers s' with
    | none => simp [serves, hs]
    | some info =>
      dsimp only
      split
      next hcard => simp [serves, hs, Finset.card_eq_zero.mp hcard]
      next => simp [serves, hs]
  · rw [if_neg hs']
    cases hs : m.streamers s with
    | none => rfl
    | some info =>
      dsimp only
      split <;> simp [serves, hs']

theorem nonempty_removeListener
    (h : ∀ s info, m.streamers s = some info → info.clients.Nonempty) (c : ClientId) (s : S) :
    ∀ s' info, (m.removeListener c s).1.streamers s' = some info → info.clients.Nonempty := by
  intro s' info' hinfo
  unfold removeListener at hinfo
  cases hs : m.streamers s with
  | none =>
    rw [hs] at hinfo
    exact h s' info' hinfo
  | some info =>
    rw [hs] at hinfo
    dsimp only at hinfo
    split at hinfo
    next =>
      dsimp only at hinfo
      rw [Function.update_apply] at hinfo
      split_ifs at hinfo
      exact h s' info' hinfo
    next hcard =>
      dsimp only at hinfo
      rw [Function.update_apply] at hinfo
      split_ifs at hinfo
      · cases hinfo
        exact Finset.card_ne_zero.mp hcard
      · exact h s' info' hinfo

theorem drops_removeListener (m : StreamingManagerInner S) (c : ClientId) (s : S) :
    Drops m (m.removeListener c s).1 (m.removeListener c s).2 := by
  unfold removeListener
  cases hs : m.streamers s with
  | none => exact Drops.of_handle_eq rfl
  | some info =>
    dsimp only
    split
    · exact Drops.erase hs rfl
    · apply Drops.of_handle_eq
      ext1 s'
      by_cases hs' : s' = s
      · subst hs'
        simp [handle, hs]
      · simp [handle, hs']

section Listeners

variable (c : ClientId) (ss : List S)

@[simp] theorem clients_removeListeners (m : StreamingManagerInner S) :
    (removeListeners c ss m).1.clients = m.clients := by
  induction ss generalizing m with
  | nil => rfl
  | cons s ss ih =>
    rw [removeListeners]
    dsimp only
    rw [ih, clients_removeListener]

theorem serves_removeListeners (m : StreamingManagerInner S) (s : S) :
    (removeListeners c ss m).1.serves s = if s ∈ ss then (m.serves s).erase c else m.serves s := by
  induction ss generalizing m with
  | nil => rfl
  | cons t ss ih =>
    rw [removeListeners]
    dsimp only
    rw [ih, serves_removeListener]
    by_cases hst : s = t
    · subst hst
      simp
    · simp [hst]

theorem nonempty_removeListeners {m : StreamingManagerInner S}
    (h : ∀ s info, m.streamers s = some info → info.clients.Nonempty) :
    ∀ s info, (removeListeners c ss m).1.streamers s = some info → info.clients.Nonempty := by
  induction ss generalizing m with
  | nil => exact h
  | cons s ss ih =>
    rw [removeListeners]
    exact ih (nonempty_removeListener h c s)

theorem drops_removeListeners (m : StreamingManagerInner S) :
    Drops m (removeListeners c ss m).1 (removeListeners c ss m).2 := by
  induction ss generalizing m with
  | nil => exact Drops.of_handle_eq rfl
  | cons s ss ih =>
    rw [removeListeners]
    exact (drops_removeListener m c s).trans (ih _)

end Listeners

theorem consistent_stop (h : m.Consistent) (c : ClientId) (s : S) :
    (m.stop c s).inner.Consistent := by
  unfold stop
  cases hc : m.clients c with
  | none => exact h
  | some clientInfo =>
    dsimp only
    have hlistening := listening_of_clients hc
    cases hs : m.streamers s with
    | none =>
      -- the client did not listen to the streamer either
      have hnot : s ∉ clientInfo.listeningTo := by
        rw [← hlistening, h.inverse, serves_eq_empty hs]
        exact Finset.notMem_empty c
      dsimp only
      rw [Finset.erase_eq_of_notMem hnot, ← hc, Function.update_eq_self]
      exact h
    | some info =>
      dsimp only
      constructor
      · intro c' s'
        rw [serves_removeListener, serves_clients, serves_clients, listening,
          clients_removeListener]
        have hinverse := h.inverse c' s'
        by_cases hc' : c' = c <;> by_cases hs' : s' = s
        · simp [hc', hs']
        · rw [hc', hlistening] at hinverse
          simpa [hc', hs'] using hinverse
        · rw [hs'] at hinverse
          simpa [hc', hs', listening] using hinverse
        · simpa [hc', hs', listening] using hinverse
      · apply nonempty_removeListener
        exact h.nonempty

omit [DecidableEq S] in
theorem consistent_newClient (h : m.Consistent) (c : ClientId) (channel : ℕ) :
    (m.newClient c channel).inner.Consistent := by
  unfold newClient
  cases hc : m.clients c with
  | some clientInfo => exact h
  | none =>
    constructor
    · intro c' s'
      rw [serves_clients, ← h.inverse, listening, listening]
      by_cases hc' : c' = c
      · simp [hc', hc]
      · simp [hc']
    · exact h.nonempty

theorem consistent_removeClient (h : m.Consistent) (it : SetIteration S) (c : ClientId) :
    (m.removeClient it c).inner.Consistent := by
  unfold removeClient
  cases hc : m.clients c with
  | none => exact h
  | some clientInfo =>
    constructor
    · intro c' s'
      have hinverse := h.inverse c' s'
      have hmem : s' ∈ it.toList clientInfo.listeningTo ↔ c ∈ m.serves s' := by
        rw [it.mem_toList, ← listening_of_clients hc, h.inverse]
      dsimp only
      rw [serves_removeListeners, serves_clients, listening, clients_removeListeners]
      simp only [hmem]
      by_cases hc' : c' = c
      · subst hc'
        split
        next => simp
        next hnot => simpa using hnot
      · rw [listening] at hinverse
        simp only [Function.update_of_ne hc', hinverse]
        split
        · rw [Finset.mem_erase, and_iff_right hc']
        · rfl
    · exact nonempty_removeListeners c _ h.nonempty

/-! ### Streamers that died -/

theorem removeStreamer_apply (s : S) (cs : List ClientId)
    (clients : ClientId → Option (ClientInfo S)) (c : ClientId) :
    removeStreamer s cs clients c =
      if c ∈ cs then
        (clients c).map fun info => { info with listeningTo := info.listeningTo.erase s }
      else clients c := by
  induction cs generalizing clients with
  | nil => rfl
  | cons d cs ih =>
    rw [removeStreamer, ih]
    by_cases hcd : c = d
    · subst hcd
      cases hc : clients c with
      | none => simp [hc]
      | some info => simp
    · cases hd : clients d with
      | none => simp [hcd]
      | some info => simp [hcd]

theorem consistent_removeStreamerIfDown (h : m.Consistent) (it : SetIteration ClientId)
    (isDown : ℕ → Bool) (s : S) : (m.removeStreamerIfDown it isDown s).inner.Consistent := by
  unfold removeStreamerIfDown
  cases hs : m.streamers s with
  | none => exact h
  | some info =>
    dsimp only
    split
    · constructor
      · intro c s'
        have hinverse := h.inverse c s'
        rw [listening, serves]
        dsimp only
        simp only [removeStreamer_apply, it.mem_toList]
        by_cases hs' : s' = s
        · subst hs'
          rw [serves_of_streamers hs] at hinverse
          rw [Function.update_self]
          by_cases hmem : c ∈ info.clients
          · rw [if_pos hmem]
            cases m.clients c <;> simp
          · rw [if_neg hmem, ← listening, hinverse]
            simpa using hmem
        · rw [Function.update_of_ne hs', ← serves, ← hinverse, listening]
          split
          · cases m.clients c <;> simp [hs']
          · rfl
      · intro s' info' hinfo
        dsimp only at hinfo
        rw [Function.update_apply] at hinfo
        split_ifs at hinfo
        exact h.nonempty s' info' hinfo
    · exact h

/-! ### Handles and channels -/

theorem handle_join_self (hs : m.streamers s = some info) :
    (m.join c clientInfo s info).handle = m.handle := by
  rw [handle_join, ← show m.handle s = some info.shutdown by rw [handle, hs]; rfl,
    Function.update_eq_self]

theorem drops_preChecks (m : StreamingManagerInner S) (c : ClientId) (s : S) :
    Drops m (m.preChecks c s).inner (m.preChecks c s).dropped := by
  unfold preChecks
  cases hc : m.clients c with
  | none => exact Drops.of_handle_eq rfl
  | some clientInfo =>
    dsimp only
    split
    · exact Drops.of_handle_eq rfl
    cases hs : m.streamers s with
    | none => exact Drops.of_handle_eq rfl
    | some info => exact Drops.of_handle_eq (handle_join_self hs)

theorem channel_preChecks (m : StreamingManagerInner S) (c : ClientId) (s : S) :
    (m.preChecks c s).inner.channel = m.channel := by
  unfold preChecks
  cases hc : m.clients c with
  | none => rfl
  | some clientInfo =>
    dsimp only
    split
    · rfl
    cases hs : m.streamers s with
    | none => rfl
    | some info => exact channel_join hc

theorem channel_register (m : StreamingManagerInner S) (c : ClientId) (s : S) (shutdown : ℕ) :
    (m.register c s shutdown).inner.channel = m.channel := by
  unfold register
  cases hc : m.clients c with
  | none => rfl
  | some clientInfo =>
    cases hs : m.streamers s with
    | none => exact channel_join hc
    | some info => exact channel_join hc

omit [DecidableEq S] in
theorem channel_update_listening (hc : m.clients c = some clientInfo) (listeningTo : Finset S) :
    channel { m with
      clients := Function.update m.clients c (some { clientInfo with listeningTo }) } =
        m.channel := by
  ext1 c'
  rw [channel, channel]
  by_cases hc' : c' = c
  · subst hc'
    simp [hc]
  · simp [hc']

omit [DecidableEq S] in
theorem channel_of_clients {m' : StreamingManagerInner S} (h : m'.clients = m.clients) :
    m'.channel = m.channel := by
  ext1 c
  rw [channel, channel, h]

theorem drops_stop (m : StreamingManagerInner S) (c : ClientId) (s : S) :
    Drops m (m.stop c s).inner (m.stop c s).dropped := by
  unfold stop
  cases hc : m.clients c with
  | none => exact Drops.of_handle_eq rfl
  | some clientInfo =>
    dsimp only
    cases hs : m.streamers s with
    | none => exact Drops.of_handle_eq rfl
    | some info =>
      exact (drops_removeListener _ c s).congr_left rfl

theorem channel_stop (m : StreamingManagerInner S) (c : ClientId) (s : S) :
    (m.stop c s).inner.channel = m.channel := by
  unfold stop
  cases hc : m.clients c with
  | none => rfl
  | some clientInfo =>
    dsimp only
    cases hs : m.streamers s with
    | none => exact channel_update_listening hc _
    | some info =>
      dsimp only
      rw [channel_of_clients (clients_removeListener _ c s)]
      exact channel_update_listening hc _

theorem drops_removeClient (m : StreamingManagerInner S) (it : SetIteration S) (c : ClientId) :
    Drops m (m.removeClient it c).inner (m.removeClient it c).dropped := by
  unfold removeClient
  cases hc : m.clients c with
  | none => exact Drops.of_handle_eq rfl
  | some clientInfo =>
    exact (drops_removeListeners c _ _).congr_left rfl

theorem channel_removeClient {it : SetIteration S} {channel : ℕ}
    (h : (m.removeClient it c).inner.channel c' = some channel) :
    m.channel c' = some channel := by
  unfold removeClient at h
  cases hc : m.clients c with
  | none =>
    rw [hc] at h
    exact h
  | some clientInfo =>
    rw [hc] at h
    dsimp only at h
    rw [channel_of_clients (clients_removeListeners c _ _), StreamingManagerInner.channel] at h
    dsimp only at h
    by_cases hc' : c' = c
    · rw [hc', Function.update_self] at h
      cases h
    · rw [Function.update_of_ne hc'] at h
      exact h

theorem drops_removeStreamerIfDown (m : StreamingManagerInner S) (it : SetIteration ClientId)
    (isDown : ℕ → Bool) (s : S) :
    Drops m (m.removeStreamerIfDown it isDown s).inner
      (m.removeStreamerIfDown it isDown s).dropped := by
  unfold removeStreamerIfDown
  cases hs : m.streamers s with
  | none => exact Drops.of_handle_eq rfl
  | some info =>
    dsimp only
    split
    · exact Drops.erase hs rfl
    · exact Drops.of_handle_eq rfl

theorem channel_removeStreamerIfDown (m : StreamingManagerInner S) (it : SetIteration ClientId)
    (isDown : ℕ → Bool) (s : S) :
    (m.removeStreamerIfDown it isDown s).inner.channel = m.channel := by
  unfold removeStreamerIfDown
  cases hs : m.streamers s with
  | none => rfl
  | some info =>
    dsimp only
    split
    · ext1 c
      rw [channel, channel]
      dsimp only
      rw [removeStreamer_apply]
      split
      · cases m.clients c <;> rfl
      · rfl
    · rfl

omit [DecidableEq S] in
theorem newClient_eq_ok {channel : ℕ} (h : (m.newClient c channel).result = .ok ()) :
    (m.newClient c channel).inner.handle = m.handle ∧ (m.newClient c channel).dropped = [] ∧
      (m.newClient c channel).inner.channel = Function.update m.channel c (some channel) := by
  unfold newClient at h ⊢
  cases hc : m.clients c with
  | some clientInfo =>
    rw [hc] at h
    cases h
  | none =>
    refine ⟨rfl, rfl, ?_⟩
    ext1 c'
    rw [StreamingManagerInner.channel]
    by_cases hc' : c' = c
    · subst hc'
      simp
    · simp [hc', StreamingManagerInner.channel]

/-- What the registration makes of the handle of the new streamer. -/
theorem register_cases (m : StreamingManagerInner S) (c : ClientId) (s : S) (shutdown : ℕ) :
    ((m.register c s shutdown).dropped = [shutdown] ∧
        (m.register c s shutdown).inner.handle = m.handle) ∨
      ((m.register c s shutdown).dropped = [] ∧ m.handle s = none ∧
        (m.register c s shutdown).inner.handle = Function.update m.handle s (some shutdown)) := by
  unfold register
  cases hc : m.clients c with
  | none => exact Or.inl ⟨rfl, rfl⟩
  | some clientInfo =>
    cases hs : m.streamers s with
    | some info => exact Or.inl ⟨rfl, handle_join_self hs⟩
    | none =>
      right
      refine ⟨rfl, ?_, handle_join⟩
      rw [handle, hs]
      rfl

end StreamingManagerInner

end DeXFG.Streaming
