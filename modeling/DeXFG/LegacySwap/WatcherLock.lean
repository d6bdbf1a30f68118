import DeXFG.LegacySwap.Watcher
import DeXFG.Library.FiniteMap
import DeXFG.Library.Runs

/-!
# The lock of a watcher

A watcher locks the fee hash of its swap with an entry of a timed map, and the
entry is removed by its key when the watcher ends. Watchers run side by side:
each of them goes on whenever its pending call is answered.
-/
namespace DeXFG.LegacySwap
open Ordermatch (Uuid)
open Library Library.FiniteMap Library.Process Library.DurableMachine

/-- `TAKER_SWAP_ENTRY_TIMEOUT_SEC`. -/
def takerSwapEntryTimeoutSec : ℕ := 21600

/-- A spawned watcher, with what is left of the state that it is in. -/
structure Watcher where
  data : TakerSwapWatcherData
  todo : WatcherProc

def Watcher.feeHash (w : Watcher) : Bytes := w.data.takerFeeHash

/-- The clock, the swaps of the node itself, the timed map of the locked fee hashes with the times
at which the entries expire, and the watchers that run. -/
structure SwapsContext where
  now : ℕ
  swapMsgs : Finset Uuid
  takerSwapWatchers : HashMap Bytes ℕ
  watchers : List Watcher

namespace SwapsContext

def init (now : ℕ) : SwapsContext where
  now := now
  swapMsgs := ∅
  takerSwapWatchers := ∅
  watchers := []

variable (c : SwapsContext)

/-- The entry of the fee hash has not expired. -/
def Live (feeHash : Bytes) : Prop :=
  ∃ expiresAt ∈ c.takerSwapWatchers.lookup feeHash, c.now < expiresAt

instance (feeHash : Bytes) : Decidable (c.Live feeHash) :=
  match h : c.takerSwapWatchers.lookup feeHash with
  | none => isFalse (by simp [Live, h])
  | some expiresAt => decidable_of_iff (c.now < expiresAt) (by simp [Live, h])

/-- `insert_expirable`: the entry is renewed also when it has not expired. -/
def insertExpirable (feeHash : Bytes) (secs : ℕ) : SwapsContext :=
  { c with takerSwapWatchers := c.takerSwapWatchers.insert feeHash (c.now + secs) }

/-- `SwapWatcherLock::lock_taker`, with the answer whether there is a lock. -/
def lockTaker (feeHash : Bytes) : Bool × SwapsContext :=
  (¬ c.Live feeHash, c.insertExpirable feeHash takerSwapEntryTimeoutSec)

/-- `SwapWatcherLock::drop`. -/
def dropLock (feeHash : Bytes) : SwapsContext :=
  { c with takerSwapWatchers := c.takerSwapWatchers.erase feeHash }

def acceptsLockDuration (lockDuration : ℕ) : Bool :=
  lockDuration = paymentLocktime ∨ lockDuration = paymentLocktime * 4 ∨
    lockDuration = paymentLocktime * 10

/-- The message is not dropped before the lock is tried. -/
def Accepts (data : TakerSwapWatcherData) : Prop :=
  acceptsLockDuration data.lockDuration = true ∧ data.uuid ∉ c.swapMsgs

instance (data : TakerSwapWatcherData) : Decidable (c.Accepts data) :=
  inferInstanceAs (Decidable (_ ∧ _))

def spawnTakerSwapWatcher (conf : WatcherConf) (data : TakerSwapWatcherData)
    (verifiedPub : Bytes) : SwapsContext :=
  if !acceptsLockDuration data.lockDuration then c
  else if data.uuid ∈ c.swapMsgs then c
  else
    match c.lockTaker data.takerFeeHash with
    | (false, c) => c
    | (true, c) =>
      if data.takerFeeHash.length ≠ 32 then c.dropLock data.takerFeeHash
      else
        { c with watchers := c.watchers ++ [⟨data, takerSwapWatcher conf data verifiedPub⟩] }

end SwapsContext

/-- The watcher after its pending call was answered, `none` when it has ended. -/
def Watcher.wake (now : ℕ) (answer : (c : WatcherCall) → c.Answer) (w : Watcher) : Option Watcher :=
  match w.todo with
  | .done (.changeState (m, state)) => some { w with todo := state.onChanged m }
  | .done .finish => none
  | .done .error => none
  | .now k => some { w with todo := k now }
  | .call c k => some { w with todo := k (answer c) }

inductive WatcherEvent where
  | watcherMsg (data : TakerSwapWatcherData) (verifiedPub : Bytes)
  | elapse (secs : ℕ)
  /-- A swap of the node itself starts or ends. -/
  | swapMsgs (uuids : Finset Uuid)
  /-- The next step of a watcher. -/
  | wake (i : ℕ) (answer : (c : WatcherCall) → c.Answer)

namespace SwapsContext

/-- One watcher goes on. -/
def wake (c : SwapsContext) (i : ℕ) (answer : (c : WatcherCall) → c.Answer) : SwapsContext :=
  match c.watchers[i]? with
  | none => c
  | some w =>
    match w.wake c.now answer with
    | some w' => { c with watchers := c.watchers.set i w' }
    | none => { c with watchers := c.watchers.eraseIdx i }.dropLock w.feeHash

def step (conf : WatcherConf) (c : SwapsContext) : WatcherEvent → SwapsContext
  | .watcherMsg data verifiedPub => c.spawnTakerSwapWatcher conf data verifiedPub
  | .elapse secs => { c with now := c.now + secs }
  | .swapMsgs uuids => { c with swapMsgs := uuids }
  | .wake i answer => c.wake i answer

/-- The fee hashes of the running watchers. -/
def running (c : SwapsContext) : List Bytes := c.watchers.map Watcher.feeHash

/-- Each fee hash has one watcher at most, and no watcher is without its entry: a finishing one
has not removed it. -/
structure Single (c : SwapsContext) : Prop where
  nodup : c.running.Nodup
  locked : ∀ feeHash ∈ c.running, (c.takerSwapWatchers.lookup feeHash).isSome = true

theorem single_iff (c : SwapsContext) :
    c.Single ↔ c.running.Nodup ∧
      ∀ feeHash ∈ c.running, (c.takerSwapWatchers.lookup feeHash).isSome = true :=
  ⟨fun h => ⟨h.nodup, h.locked⟩, fun h => ⟨h.1, h.2⟩⟩

instance (c : SwapsContext) : Decidable c.Single := decidable_of_iff _ (single_iff c).symm

/-- A message for the fee hash of a running watcher comes before the entry expires that the last
accepted message for the hash made or renewed. -/
def InTime (c : SwapsContext) : WatcherEvent → Prop
  | .watcherMsg data _ =>
    c.Accepts data → data.takerFeeHash ∈ c.running → c.Live data.takerFeeHash
  | _ => True

/-- Only a hash of 32 bytes has a watcher. -/
def Hashed (c : SwapsContext) : Prop := ∀ feeHash ∈ c.running, feeHash.length = 32

variable {c : SwapsContext}

/-! ## What a message does -/

@[simp] theorem running_insertExpirable (feeHash : Bytes) (secs : ℕ) :
    (c.insertExpirable feeHash secs).running = c.running := rfl

@[simp] theorem running_dropLock (feeHash : Bytes) : (c.dropLock feeHash).running = c.running := rfl

/-- The context with a new watcher. -/
def spawn (c : SwapsContext) (w : Watcher) : SwapsContext :=
  { c with watchers := c.watchers ++ [w] }

@[simp] theorem running_spawn (w : Watcher) : (c.spawn w).running = c.running ++ [w.feeHash] := by
  simp [running, spawn]

section Message

variable {conf : WatcherConf} {data : TakerSwapWatcherData} {verifiedPub : Bytes}

theorem spawn_of_not_accepts (h : ¬ c.Accepts data) :
    c.spawnTakerSwapWatcher conf data verifiedPub = c := by
  unfold spawnTakerSwapWatcher
  split
  · rfl
  rename_i hduration
  split
  · rfl
  rename_i huuid
  exact absurd ⟨by simpa using hduration, huuid⟩ h

theorem spawn_of_accepts (h : c.Accepts data) :
    c.spawnTakerSwapWatcher conf data verifiedPub =
      if c.Live data.takerFeeHash then
        c.insertExpirable data.takerFeeHash takerSwapEntryTimeoutSec
      else if data.takerFeeHash.length = 32 then
        (c.insertExpirable data.takerFeeHash takerSwapEntryTimeoutSec).spawn
          ⟨data, takerSwapWatcher conf data verifiedPub⟩
      else
        (c.insertExpirable data.takerFeeHash takerSwapEntryTimeoutSec).dropLock
          data.takerFeeHash := by
  unfold spawnTakerSwapWatcher lockTaker
  rw [h.1]
  by_cases hlive : c.Live data.takerFeeHash
  · simp [h.2, hlive]
  · by_cases hlength : data.takerFeeHash.length = 32
    · simp [h.2, hlive, hlength, spawn]
    · simp [h.2, hlive, hlength]

/-- A renewed entry still locks its hash. -/
theorem Single.insertExpirable (h : c.Single) (feeHash : Bytes) (secs : ℕ) :
    (c.insertExpirable feeHash secs).Single where
  nodup := h.nodup
  locked := by
    intro other hother
    change ((c.takerSwapWatchers.insert feeHash _).lookup other).isSome = true
    by_cases hsame : other = feeHash
    · rw [hsame, Finmap.lookup_insert]
      rfl
    · rw [Finmap.lookup_insert_of_ne _ hsame]
      exact h.locked other hother

/-- An entry that is removed locked no running watcher. -/
theorem Single.dropLock (h : c.Single) {feeHash : Bytes} (hnot : feeHash ∉ c.running) :
    (c.dropLock feeHash).Single where
  nodup := h.nodup
  locked := by
    intro other hother
    have hne : other ≠ feeHash := ne_of_mem_of_not_mem hother hnot
    change ((c.takerSwapWatchers.erase feeHash).lookup other).isSome = true
    rw [Finmap.lookup_erase_ne hne]
    exact h.locked other hother

/-- A message keeps the watchers single exactly when it comes in time. -/
theorem single_spawn_iff (h : c.Single) (hhashed : c.Hashed) :
    (c.spawnTakerSwapWatcher conf data verifiedPub).Single ↔
      c.InTime (.watcherMsg data verifiedPub) := by
  by_cases haccepts : c.Accepts data
  · rw [spawn_of_accepts haccepts]
    have hrenewed := h.insertExpirable data.takerFeeHash takerSwapEntryTimeoutSec
    by_cases hlive : c.Live data.takerFeeHash
    · rw [if_pos hlive]
      exact ⟨fun _ _ _ => hlive, fun _ => hrenewed⟩
    rw [if_neg hlive]
    have hiff : c.InTime (.watcherMsg data verifiedPub) ↔ data.takerFeeHash ∉ c.running :=
      ⟨fun hin hmem => hlive (hin haccepts hmem), fun hnot _ hmem => absurd hmem hnot⟩
    rw [hiff]
    by_cases hlength : data.takerFeeHash.length = 32
    · rw [if_pos hlength]
      constructor
      · intro hsingle
        have hnodup := hsingle.nodup
        rw [running_spawn, List.nodup_append] at hnodup
        exact fun hmem => hnodup.2.2 _ hmem _ (List.mem_singleton_self _) rfl
      · intro hnot
        constructor
        · rw [running_spawn, List.nodup_append]
          refine ⟨h.nodup, List.nodup_singleton _, ?_⟩
          intro a ha b hb
          rw [List.mem_singleton.mp hb]
          exact ne_of_mem_of_not_mem ha hnot
        · intro feeHash hfeeHash
          rw [running_spawn, List.mem_append] at hfeeHash
          rcases hfeeHash with hold | hnew
          · exact hrenewed.locked feeHash hold
          · rw [List.mem_singleton.mp hnew]
            change ((c.takerSwapWatchers.insert data.takerFeeHash _).lookup _).isSome = true
            rw [Watcher.feeHash, Finmap.lookup_insert]
            rfl
    · rw [if_neg hlength]
      have hnot : data.takerFeeHash ∉ c.running := fun hmem => hlength (hhashed _ hmem)
      exact ⟨fun _ => hnot, fun _ => hrenewed.dropLock hnot⟩
  · rw [spawn_of_not_accepts haccepts]
    exact ⟨fun _ hin => absurd hin haccepts, fun _ => h⟩

theorem Hashed.spawn (h : c.Hashed) :
    (c.spawnTakerSwapWatcher conf data verifiedPub).Hashed := by
  by_cases haccepts : c.Accepts data
  · rw [spawn_of_accepts haccepts]
    split
    · exact h
    split
    · rename_i hlength
      intro feeHash hfeeHash
      rw [running_spawn, List.mem_append] at hfeeHash
      rcases hfeeHash with hold | hnew
      · exact h feeHash hold
      · rw [List.mem_singleton.mp hnew]
        exact hlength
    · exact h
  · rw [spawn_of_not_accepts haccepts]
    exact h

end Message

/-! ## What a watcher's step does -/

theorem Watcher.feeHash_wake {now : ℕ} {answer : (c : WatcherCall) → c.Answer} {w w' : Watcher}
    (h : w.wake now answer = some w') : w'.feeHash = w.feeHash := by
  unfold Watcher.wake at h
  split at h <;> cases h <;> rfl

section Wake

variable {i : ℕ} {answer : (c : WatcherCall) → c.Answer}

/-- A watcher goes on or ends, and then it removes the entry of its hash. -/
theorem wake_cases (c : SwapsContext) (i : ℕ) (answer : (c : WatcherCall) → c.Answer) :
    ((c.wake i answer).running = c.running ∧
      (c.wake i answer).takerSwapWatchers = c.takerSwapWatchers) ∨
    ∃ feeHash, c.running[i]? = some feeHash ∧
      (c.wake i answer).running = c.running.eraseIdx i ∧
      (c.wake i answer).takerSwapWatchers = c.takerSwapWatchers.erase feeHash := by
  unfold wake
  split
  · exact .inl ⟨rfl, rfl⟩
  rename_i w hw
  have hrunning : c.running[i]? = some w.feeHash := by
    rw [running, List.getElem?_map, hw, Option.map_some]
  split
  · rename_i w' hw'
    left
    constructor
    · change (c.watchers.set i w').map Watcher.feeHash = c.running
      obtain ⟨hi, hfeeHash⟩ := List.getElem?_eq_some_iff.mp hrunning
      rw [List.map_set, Watcher.feeHash_wake hw', ← hfeeHash]
      exact List.set_getElem_self hi
    · rfl
  · right
    refine ⟨w.feeHash, hrunning, ?_, rfl⟩
    change (c.watchers.eraseIdx i).map Watcher.feeHash = _
    rw [running, List.eraseIdx_map]

theorem Single.wake (h : c.Single) : (c.wake i answer).Single := by
  rcases wake_cases c i answer with ⟨hrunning, hentries⟩ | ⟨feeHash, hfeeHash, hrunning, hentries⟩
  · constructor
    · rw [hrunning]
      exact h.nodup
    · rw [hrunning, hentries]
      exact h.locked
  · obtain ⟨hi, rfl⟩ := List.getElem?_eq_some_iff.mp hfeeHash
    constructor
    · rw [hrunning]
      exact h.nodup.eraseIdx i
    · rw [hrunning, hentries]
      intro other hother
      rw [← h.nodup.erase_getElem i hi] at hother
      obtain ⟨hne, hmem⟩ := h.nodup.mem_erase_iff.mp hother
      rw [Finmap.lookup_erase_ne hne]
      exact h.locked other hmem

theorem Hashed.wake (h : c.Hashed) : (c.wake i answer).Hashed := by
  intro feeHash hfeeHash
  rcases wake_cases c i answer with ⟨hrunning, -⟩ | ⟨_, -, hrunning, -⟩
  · rw [hrunning] at hfeeHash
    exact h feeHash hfeeHash
  · rw [hrunning] at hfeeHash
    exact h feeHash (List.mem_of_mem_eraseIdx hfeeHash)

end Wake

/-! ## Every run -/

/-- A step keeps the watchers single exactly when the message that it brings is in time. -/
theorem single_step_iff {conf : WatcherConf} {e : WatcherEvent} (h : c.Single)
    (hhashed : c.Hashed) : (c.step conf e).Single ↔ c.InTime e := by
  cases e with
  | watcherMsg data verifiedPub => exact single_spawn_iff h hhashed
  | elapse secs => exact ⟨fun _ => trivial, fun _ => ⟨h.nodup, h.locked⟩⟩
  | swapMsgs uuids => exact ⟨fun _ => trivial, fun _ => ⟨h.nodup, h.locked⟩⟩
  | wake i answer => exact ⟨fun _ => trivial, fun _ => h.wake⟩

theorem Hashed.step {conf : WatcherConf} {e : WatcherEvent} (h : c.Hashed) :
    (c.step conf e).Hashed := by
  cases e with
  | watcherMsg data verifiedPub => exact h.spawn
  | elapse secs => exact h
  | swapMsgs uuids => exact h
  | wake i answer => exact h.wake

/-- In a run from a node without watchers there is one watcher at most for each fee hash, and each
releases only its own lock, exactly when every accepted message for the hash of a running watcher
comes before the hash's entry expires. -/
theorem single_iff_inTime (conf : WatcherConf) (now : ℕ) (es : List WatcherEvent) :
    Runs.Meets (fun c e => some (step conf c e)) InTime (init now) es ↔
      ∀ pre, pre <+: es → ∀ c, Runs.run (fun c e => some (step conf c e)) (init now) pre = some c →
        c.Single := by
  apply Runs.meets_iff_forall_append (I := Hashed)
  · exact fun c e => ⟨_, rfl⟩
  · rintro c e _ hhashed hsingle ⟨⟩
    exact single_step_iff hsingle hhashed
  · rintro c e _ hhashed - ⟨⟩
    exact hhashed.step
  · exact fun _ h => absurd h List.not_mem_nil
  · exact ⟨List.nodup_nil, fun _ h => absurd h List.not_mem_nil⟩

/-- A swap whose lock takes the longest of the accepted durations but one. -/
def sampleData : TakerSwapWatcherData where
  uuid := 0
  secretHash := []
  makerPaymentSpendPreimage := []
  takerPaymentRefundPreimage := []
  swapStartedAt := 1700000000
  lockDuration := paymentLocktime * 4
  takerCoin := "RICK"
  takerFeeHash := List.replicate 32 7
  takerPaymentHash := []
  takerCoinStartBlock := 0
  takerPaymentConfirmations := 1
  takerPaymentRequiresNota := none
  makerCoin := "MORTY"
  makerPub := []
  makerPaymentHash := []
  makerCoinStartBlock := 0

/-- The answers of coins on which the taker payment was sent and is not spent. -/
def unspent : (c : WatcherCall) → c.Answer
  | .lpCoinfind ticker => .ok (some { ticker, isSupportedByWatchers := true, isEth := false })
  | .sleep _ => ()
  | .watcherValidateTakerFee _ => .ok ()
  | .getTxHexByHash _ _ => .ok []
  | .waitForConfirmations _ => .ok ()
  | .watcherValidateTakerPayment _ => .ok ()
  | .watcherSearchForSwapTxSpend _ => .ok none
  | .waitForHtlcTxSpend _ => .error "timeout"
  | .extractSecret _ _ => .error "no secret"
  | .sendMakerPaymentSpendPreimage _ => .error ⟨"not sent", none⟩
  | .canRefundHtlc _ => .ok .canRefundNow
  | .sendTakerPaymentRefundPreimage _ => .ok []
  | .broadcastP2pTxMsg _ _ => ()

/-- A watcher waits for a spend for five minutes at a time, `n` times. -/
def waiting (i n : ℕ) : List WatcherEvent :=
  (List.replicate n ([.elapse 300] ++ List.replicate 4 (.wake i unspent))).flatten

/-- The node a quarter of an hour after the start of the swap. -/
def sampleRun (es : List WatcherEvent) : SwapsContext :=
  es.foldl (step {}) (init 1700000900)

/-- A watcher waits for the spend until its entry expires, and the message of its swap comes once
more. -/
def secondStart : List WatcherEvent :=
  [.watcherMsg sampleData []] ++ List.replicate 12 (.wake 0 unspent) ++ waiting 0 72 ++
    [.watcherMsg sampleData []]

/-- The second message starts a second watcher for the same fee hash, and the first one, when it
ends, leaves the second one without its entry. -/
theorem not_single_sample :
    ¬ (sampleRun secondStart).Single ∧
    (sampleRun (secondStart ++ waiting 0 84)).running = [sampleData.takerFeeHash] ∧
    ¬ (sampleRun (secondStart ++ waiting 0 84)).Single := by
  decide +kernel

end SwapsContext

end DeXFG.LegacySwap
