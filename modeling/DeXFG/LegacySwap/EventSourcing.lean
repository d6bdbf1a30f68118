import DeXFG.LegacySwap.Recoverability

/-!
# The saved log gives the swap back

At every point at which a swap may be stopped, what is loaded from its saved
log is compared with the swap in memory: the fields of its lock, its locktimes,
and the command with which it goes on. The taker differs after its payment
instructions and after two failures, and neither side can be loaded from a log
that begins with a failed start.
-/
namespace DeXFG.LegacySwap
open Ordermatch (Uuid)
open SwapV2 (Side)
open Library.Process Library.EventSourced Library.EventGrammar Library.DurableMachine

/-- Nothing happened on the chains while the swap was stopped. -/
def Quiet {ε : Type} :
    (c : StoreCall SwapCall ε) → StoreCall.Answer SwapCall.Answer c → Prop
  | .ext (.searchForSwapTxSpendMy _ _), a => a = .ok none
  | .ext (.searchForSwapTxSpendOther _ _), a => a = .ok none
  | _, _ => True

theorem exists_quiet {ε : Type} (c : StoreCall SwapCall ε) : ∃ a, Quiet c a := by
  cases c with
  | ext c =>
    use sampleAnswer c
    cases c <;> trivial
  | save e => exact ⟨.ok (), trivial⟩
  | overwrite log => exact ⟨.ok (), trivial⟩

/-- There is no reward of the watchers. -/
def Unrewarded : (c : SwapCall) → c.Answer → Prop
  | .useWatcherReward, b => b = false
  | _, _ => True

/-! ## The taker -/

namespace TakerSwap

/-- Every replay of the log gives the lock of the swap in memory, and its locktime. -/
def Replays (X : SwapEnv) (uuid : Uuid) (log : TakerSavedSwap) (s : TakerSwap) : Prop :=
  ∀ t data events, log = .started data :: events →
    (replay X uuid t data events).mutable = s.mutable ∧
      (replay X uuid t data events).makerPaymentLock = s.makerPaymentLock

/-- What is loaded when nothing happened meanwhile is the swap in memory; it goes on with the
command under way, or with the next one, and the command finds every field that it unwraps. -/
def Restores (X : SwapEnv) (uuid : Uuid) (log : TakerSavedSwap) (s : TakerSwap)
    (c : TakerSwapCommand) (next : Option TakerSwapCommand) : Prop :=
  (loadFromSaved X uuid log).Sat Quiet (fun _ => True) fun r => ∃ s' next',
    r = .ok (s', next') ∧ s'.mutable = s.mutable ∧ s'.makerPaymentLock = s.makerPaymentLock ∧
      (next' = next ∨ next' = some c) ∧ ∀ c', next' = some c' → Finds s' c'

/-- The points at which the log leads elsewhere: after the instructions alone, after a failed
start, and after a failure with which the running swap finishes. -/
def Diverges (log : TakerSavedSwap) (c : TakerSwapCommand) (next : Option TakerSwapCommand) :
    Prop :=
  (∃ i, log.getLast? = some (.takerPaymentInstructionsReceived i)) ∨
  (∃ err events, log = .startFailed err :: events) ∨
  ∃ d, log.getLast? = some d ∧ FailsApart d ∧ (c = .finish ∨ next = some .finish)

/-- There is no reward of the watchers; and a restart that finds the taker payment spent finds the
maker payment spent too. -/
def recording (log : TakerSavedSwap) : Contract SwapCall SwapCall.Answer ℕ where
  allowed _ c r :=
    match c, r with
    | .useWatcherReward, r => r.answer ≠ some true
    | .searchForSwapTxSpendOther .maker _, r =>
      log.getLast?.bind TakerSwapEvent.getCommand = some .waitForTakerPaymentSpend →
        r.answer ≠ some (.ok none)
    | _, _ => True
  pre _ _ := True
  stopped _ := True

section

variable {X : SwapEnv} {uuid : Uuid} {log events : TakerSavedSwap} {data : TakerSwapData}
  {s : TakerSwap} {c : TakerSwapCommand} {next : Option TakerSwapCommand}

/-- A quiet restart goes on with the command of the last event. -/
theorem loadFromSaved_quiet (h : grammar.Log (.started data :: events)) :
    (loadFromSaved X uuid (.started data :: events)).Sat Quiet (fun _ => True) fun r =>
      ∃ t, r = .ok (replay X uuid t data events, (events.getLastD (.started data)).getCommand) := by
  have hlast : (TakerSwapEvent.started data :: events).getLast? =
      some (events.getLastD (.started data)) := by
    simp [List.getLast?_cons]
  intro t
  have hpending {c : TakerSwapCommand}
      (hc : (events.getLastD (.started data)).getCommand = some c)
      (hne : c ≠ .validateMakerPayment) : Pending (.started data :: events) c := by
    rw [Pending, hlast]
    apply Resumes.next hc
    intro i hi
    rw [hi] at hc
    exact hne (Option.some.inj hc).symm
  change Proc.Sat _ _ (commandAfter X (replay X uuid t data events) _ _) _
  unfold commandAfter
  cases hc : (events.getLastD (.started data)).getCommand with
  | none => exact ⟨t, rfl⟩
  | some c =>
    have hgoesOn : ∃ t', (Except.ok (replay X uuid t data events, some c) : Except String _) =
        .ok (replay X uuid t' data events, some c) := ⟨t, rfl⟩
    have hrefund (hpayment : (replay X uuid t data events).mutable.takerPayment.isSome) :
        (onRefund X (replay X uuid t data events) (.started (refresh X data) :: events) c).Sat
          Quiet (fun _ => True)
          (fun r => ∃ t', r = .ok (replay X uuid t' data events, some c)) := by
      obtain ⟨payment, hpayment⟩ := Option.isSome_iff_exists.mp hpayment
      intro now
      unfold checkTakerPaymentSpend
      change Proc.Sat _ _ (if _ then _ else _) _
      split
      · exact hgoesOn
      · rw [hpayment]
        constructor
        · trivial
        · rintro _ rfl
          exact hgoesOn
    simp only
    split
    · intro now
      change Proc.Sat _ _ (if _ then _ else _) _
      split
      · exact hgoesOn
      · cases c with
        | waitForTakerPaymentSpend =>
          have hhas : Has (replay X uuid t data events) 3 :=
            has_of_pending h (hpending hc (by simp)) le_rfl (by decide)
          unfold onWaitForSpend checkTakerPaymentSpend
          obtain ⟨payment, hpayment⟩ := Option.isSome_iff_exists.mp hhas
          rw [hpayment]
          constructor
          · trivial
          · rintro _ rfl
            exact hgoesOn
        | spendMakerPayment =>
          have hhas : Has (replay X uuid t data events) 2 :=
            has_of_pending h (hpending hc (by simp)) (by decide) (by decide)
          unfold checkMakerPaymentSpendAndAddEvent
          obtain ⟨payment, hpayment⟩ := Option.isSome_iff_exists.mp hhas
          rw [hpayment]
          constructor
          · trivial
          · rintro _ rfl
            exact hgoesOn
        | prepareForTakerPaymentRefund =>
          exact hrefund (has_of_pending (k := 3) h (hpending hc (by simp)) le_rfl (by decide))
        | refundTakerPayment =>
          exact hrefund (has_of_pending (k := 3) h (hpending hc (by simp)) le_rfl (by decide))
        | _ => exact hgoesOn
    · exact hgoesOn

/-- The swap in memory at a point of a run, and how its command stands to the log. -/
structure Point (X : SwapEnv) (uuid : Uuid) (log : TakerSavedSwap) (s : TakerSwap)
    (c : TakerSwapCommand) (next : Option TakerSwapCommand) : Prop where
  legal : grammar.Log log
  same : Same True (restored X uuid log) s
  place : Pending log c ∧ Recorded log c ∨ Stuck log c ∨
    ∃ d, log.getLast? = some d ∧ LeadsTo d next
  finishes : c = .finish → next ≠ some .prepareForTakerPaymentRefund
  refunds : c = .prepareForTakerPaymentRefund → next ≠ some .finish

theorem Handling.point (h : Handling True X uuid log s c) : Point X uuid log s c (some c) where
  legal := h.legal
  same := h.same
  place := h.pending.elim (fun hc => .inl ⟨hc, h.recorded trivial⟩) (fun hc => .inr (.inl hc))
  finishes hc := by simp [hc]
  refunds hc := by simp [hc]

theorem Saving.point {es : List TakerSwapEvent} (h : Saving True X uuid log s c es next) :
    Point X uuid log s c next where
  legal := h.legal.left
  same := h.same
  place := h.place.imp (fun hc => ⟨hc.1, hc.2 trivial⟩) .inr
  finishes hc := by simp [h.turns.1 hc]
  refunds hc := by simp [h.turns.2 hc]

theorem Point.replays (h : Point X uuid log s c next) : Replays X uuid log s := by
  rintro t data events rfl
  have hreplay : Same True _ (replay X uuid t data events) := same_replay
  constructor
  · rw [hreplay.strict trivial, h.same.strict trivial]
  · rw [hreplay.makerPaymentLock, h.same.makerPaymentLock]

/-- The command of the last event is the one under way or the next one, where the log leads
nowhere else. -/
theorem Point.getCommand {d : TakerSwapEvent} (h : Point X uuid log s c next)
    (hlast : log.getLast? = some d) (hdiverges : ¬ Diverges log c next) :
    d.getCommand = next ∨ d.getCommand = some c := by
  have happart (hd : FailsApart d) (hfinish : c = .finish ∨ next = some .finish) : False :=
    hdiverges (.inr (.inr ⟨d, hlast, hd, hfinish⟩))
  obtain ⟨hc, hrecorded⟩ | ⟨-, hstuck⟩ | ⟨d', hd', hleads⟩ := h.place
  · rw [Pending, hlast] at hc
    cases hc with
    | next hc _ => exact .inr hc
    | secretNotExtracted err => exact (happart trivial (.inl rfl)).elim
    | makerPaymentNotSpent err => exact (happart trivial (.inl rfl)).elim
    | discovered hd => exact absurd rfl (hrecorded d hlast hd)
  · exact absurd (.inl hstuck) hdiverges
  · obtain rfl := Option.some.inj (hlast.symm.trans hd')
    obtain hc | ⟨hd, hnext⟩ := hleads
    · exact .inl hc
    · exact (happart hd (.inr hnext)).elim

/-- The log gives the swap and its step back exactly where it does not lead elsewhere. -/
theorem Point.restores_iff (h : Point X uuid log s c next) (hne : log ≠ []) :
    Restores X uuid log s c next ↔ ¬ Diverges log c next := by
  cases log with
  | nil => exact absurd rfl hne
  | cons e events =>
    cases h.legal.head with
    | refundedByWatcher tx hc => simp at hc
    | startFailed err =>
      constructor
      · rintro ⟨s', next', hr, -⟩
        cases hr
      · exact fun hdiverges => absurd (.inr (.inl ⟨err, events, rfl⟩)) hdiverges
    | started data =>
      have hlast : (TakerSwapEvent.started data :: events).getLast? =
          some (events.getLastD (.started data)) := by
        simp [List.getLast?_cons]
      constructor
      · intro hrestores hdiverges
        obtain ⟨r, ⟨s', next', rfl, hmut, -, hnext, hfinds⟩, t, hr⟩ := sat_exists
          (exists_quiet (ε := TakerSwapEvent))
          (sat_and hrestores (loadFromSaved_quiet h.legal))
        obtain ⟨rfl, rfl⟩ := Prod.mk.inj (Except.ok.inj hr)
        obtain ⟨i, hi⟩ | ⟨err, events', hhead⟩ | ⟨d, hd, happart, hfinish⟩ := hdiverges
        · have hstuck : Stuck (.started data :: events) .validateMakerPayment := ⟨rfl, i, hi⟩
          have hnone := @Stuck.makerPayment X uuid _ _ hstuck h.legal
          rw [hlast] at hi
          have hsome := hfinds .validateMakerPayment (by rw [Option.some.inj hi]; rfl)
          simp only [Finds, hmut, h.same.strict trivial, hnone] at hsome
          cases hsome
        · cases hhead
        · obtain rfl := Option.some.inj (hlast.symm.trans hd)
          have hprepare : (events.getLastD (.started data)).getCommand =
              some .prepareForTakerPaymentRefund := by
            revert happart
            cases events.getLastD (.started data) <;> simp [FailsApart, TakerSwapEvent.getCommand]
          rw [hprepare] at hnext
          obtain rfl | rfl := hfinish
          · obtain hnext | hnext := hnext
            · exact h.finishes rfl hnext.symm
            · cases hnext
          · obtain hnext | hnext := hnext
            · cases hnext
            · exact h.refunds (Option.some.inj hnext).symm rfl
      · intro hdiverges
        apply sat_mono (fun _ h => h) _ (loadFromSaved_quiet h.legal)
        rintro _ ⟨t, rfl⟩
        have hreplays := h.replays t data events rfl
        refine ⟨_, _, rfl, hreplays.1, hreplays.2, h.getCommand hlast hdiverges, ?_⟩
        intro c' hc'
        apply finds_of_pending h.legal
        rw [Pending, hlast]
        apply Resumes.next hc'
        intro i hi
        exact hdiverges (.inl ⟨i, hi ▸ hlast⟩)

theorem surroundings_recording : Surroundings True Unrewarded recording where
  answers {_ _ c r a} hr ha := by
    cases c with
    | useWatcherReward =>
      cases a with
      | true => exact absurd ha hr
      | false => rfl
    | _ => trivial
  looks _ := trivial
  reward _ _ hb := hb
  discovers {log _ d _ _} _ hlast hd hr := hr (by rw [hlast]; exact hd)

theorem recording_invariant :
    Invariant (system X uuid) recording grammar.Log (Along True X uuid) := by
  apply along_invariant surroundings_recording
  intro log s c t _
  exact wp_mono _ (fun _ _ _ => trivial) (wp_of_sat (fun _ _ _ _ _ _ => trivial)
    (fun _ _ _ => trivial) (fun _ => trivial) (handleCommand_sat (R := fun _ _ => True) c))

/-- Wherever a run is at a command, its log and its memory make a point. -/
theorem point_of_run {s₀ : TakerSwap} {now : ℕ}
    {es : List (Library.DurableMachine.Event (StoreCall SwapCall TakerSwapEvent)
      (StoreCall.Answer SwapCall.Answer))}
    (hs : Fresh s₀)
    (hes : AllowedRun (system X uuid) recording grammar.Log (System.begin s₀ .start now) es)
    (h : AtCommand ((system X uuid).machine.run (System.begin s₀ .start now) es) s c next) :
    Point X uuid ((system X uuid).machine.run (System.begin s₀ .start now) es).world.log s c
      next := by
  obtain ⟨henters, rfl⟩ | ⟨events, henters⟩ := h
  · have hhandling := recording_invariant.enters (good_begin hs.handling) hes henters
    exact Handling.point hhandling
  · have hsaving := recording_invariant.enters (good_begin hs.handling) hes henters
    exact Saving.point hsaving

end

end TakerSwap

/-! ## The maker -/

namespace MakerSwap

/-- Every replay of the log gives the lock of the swap in memory, and its locktime. -/
def Replays (X : SwapEnv) (uuid : Uuid) (log : MakerSavedSwap) (s : MakerSwap) : Prop :=
  ∀ t data events, log = .started data :: events →
    (replay X uuid t data events).mutable = s.mutable ∧
      (replay X uuid t data events).takerPaymentLock = s.takerPaymentLock

/-- What is loaded is the swap in memory; it goes on with the command under way, or with the next
one, and the command finds every field that it unwraps. -/
def Restores (X : SwapEnv) (uuid : Uuid) (log : MakerSavedSwap) (s : MakerSwap)
    (c : MakerSwapCommand) (next : Option MakerSwapCommand) : Prop :=
  (loadFromSaved X uuid log).Sat Quiet (fun _ => True) fun r => ∃ s' next',
    r = .ok (s', next') ∧ s'.mutable = s.mutable ∧ s'.takerPaymentLock = s.takerPaymentLock ∧
      (next' = next ∨ next' = some c) ∧ ∀ c', next' = some c' → Finds s' c'

/-- The log of a failed start cannot be loaded. -/
def Diverges (log : MakerSavedSwap) : Prop := ∃ err events, log = .startFailed err :: events

/-- There is no reward of the watchers. -/
def recording (_ : MakerSavedSwap) : Contract SwapCall SwapCall.Answer ℕ where
  allowed _ c r :=
    match c, r with
    | .useWatcherReward, r => r.answer ≠ some true
    | _, _ => True
  pre _ _ := True
  stopped _ := True

section

variable {X : SwapEnv} {uuid : Uuid} {log : MakerSavedSwap} {s : MakerSwap} {c : MakerSwapCommand}
  {next : Option MakerSwapCommand}

/-- The swap in memory at a point of a run, and how its command stands to the log. -/
structure Point (X : SwapEnv) (uuid : Uuid) (log : MakerSavedSwap) (s : MakerSwap)
    (c : MakerSwapCommand) (next : Option MakerSwapCommand) : Prop where
  legal : grammar.Log log
  same : Same True (restored X uuid log) s
  place : Pending log c ∨ ∃ d, log.getLast? = some d ∧ d.getCommand = next

theorem Handling.point (h : Handling True X uuid log s c) : Point X uuid log s c (some c) where
  legal := h.legal
  same := h.same
  place := .inl h.pending

theorem Saving.point {es : List MakerSwapEvent} (h : Saving True X uuid log s c es next) :
    Point X uuid log s c next where
  legal := h.legal.left
  same := h.same
  place := h.place

theorem Point.replays (h : Point X uuid log s c next) : Replays X uuid log s := by
  rintro t data events rfl
  have hreplay : Same True _ (replay X uuid t data events) := same_replay
  constructor
  · rw [hreplay.strict trivial, h.same.strict trivial]
  · rw [hreplay.takerPaymentLock, h.same.takerPaymentLock]

theorem Point.getCommand {d : MakerSwapEvent} (h : Point X uuid log s c next)
    (hlast : log.getLast? = some d) : d.getCommand = next ∨ d.getCommand = some c := by
  obtain hc | ⟨d', hd', hnext⟩ := h.place
  · rw [Pending, hlast] at hc
    exact .inr hc
  · obtain rfl := Option.some.inj (hlast.symm.trans hd')
    exact .inl hnext

/-- The log gives the swap and its step back exactly where the start did not fail. -/
theorem Point.restores_iff (h : Point X uuid log s c next) (hne : log ≠ []) :
    Restores X uuid log s c next ↔ ¬ Diverges log := by
  cases log with
  | nil => exact absurd rfl hne
  | cons e events =>
    cases h.legal.head with
    | failed hfails => cases hfails
    | startFailed err =>
      constructor
      · rintro ⟨s', next', hr, -⟩
        cases hr
      · exact fun hdiverges => absurd ⟨err, events, rfl⟩ hdiverges
    | started data =>
      have hlast : (MakerSwapEvent.started data :: events).getLast? =
          some (events.getLastD (.started data)) := by
        simp [List.getLast?_cons]
      constructor
      · rintro - ⟨err, events', hhead⟩
        cases hhead
      · intro _ t
        have hreplays := h.replays t data events rfl
        refine ⟨_, _, rfl, hreplays.1, hreplays.2, h.getCommand hlast, ?_⟩
        intro c' hc'
        apply finds_of_pending h.legal
        rw [Pending, hlast]
        exact hc'

theorem surroundings_recording : Surroundings True Unrewarded recording where
  answers {_ _ c r a} hr ha := by
    cases c with
    | useWatcherReward =>
      cases a with
      | true => exact absurd ha hr
      | false => rfl
    | _ => trivial
  reward _ _ hb := hb

theorem recording_invariant :
    Invariant (system X uuid) recording grammar.Log (Along True X uuid) := by
  apply along_invariant surroundings_recording
  intro log s c t _
  exact wp_mono _ (fun _ _ _ => trivial) (wp_of_sat (fun _ _ _ _ _ _ => trivial)
    (fun _ _ _ => trivial) (fun _ => trivial) (handleCommand_sat (R := fun _ _ => True) c))

/-- Wherever a run is at a command, its log and its memory make a point. -/
theorem point_of_run {s₀ : MakerSwap} {now : ℕ}
    {es : List (Library.DurableMachine.Event (StoreCall SwapCall MakerSwapEvent)
      (StoreCall.Answer SwapCall.Answer))}
    (hs : Fresh s₀)
    (hes : AllowedRun (system X uuid) recording grammar.Log (System.begin s₀ .start now) es)
    (h : AtCommand ((system X uuid).machine.run (System.begin s₀ .start now) es) s c next) :
    Point X uuid ((system X uuid).machine.run (System.begin s₀ .start now) es).world.log s c
      next := by
  obtain ⟨henters, rfl⟩ | ⟨events, henters⟩ := h
  · have hhandling := recording_invariant.enters (good_begin hs.handling) hes henters
    exact Handling.point hhandling
  · have hsaving := recording_invariant.enters (good_begin hs.handling) hes henters
    exact Saving.point hsaving

end

end MakerSwap

/-! ## Both sides -/

/-- At every point of every run without a reward of the watchers the log replays to the memory, and
what is loaded goes on as the run does, if and only if the log does not lead elsewhere. -/
theorem event_sourcing (X : SwapEnv) (uuid : Uuid) (now : ℕ) :
    (∀ s₀ es s c next, MakerSwap.Fresh s₀ →
      AllowedRun (MakerSwap.system X uuid) MakerSwap.recording MakerSwap.grammar.Log
        (System.begin s₀ .start now) es →
      let x := (MakerSwap.system X uuid).machine.run (System.begin s₀ .start now) es
      AtCommand x s c next → x.world.log ≠ [] → MakerSwap.Replays X uuid x.world.log s ∧
        (MakerSwap.Restores X uuid x.world.log s c next ↔ ¬ MakerSwap.Diverges x.world.log)) ∧
    ∀ s₀ es s c next, TakerSwap.Fresh s₀ →
      AllowedRun (TakerSwap.system X uuid) TakerSwap.recording TakerSwap.grammar.Log
        (System.begin s₀ .start now) es →
      let x := (TakerSwap.system X uuid).machine.run (System.begin s₀ .start now) es
      AtCommand x s c next → x.world.log ≠ [] → TakerSwap.Replays X uuid x.world.log s ∧
        (TakerSwap.Restores X uuid x.world.log s c next ↔
          ¬ TakerSwap.Diverges x.world.log c next) := by
  constructor
  · intro s₀ es s c next hs hes x hx hne
    have hpoint := MakerSwap.point_of_run hs hes hx
    exact ⟨hpoint.replays, hpoint.restores_iff hne⟩
  · intro s₀ es s c next hs hes x hx hne
    have hpoint := TakerSwap.point_of_run hs hes hx
    exact ⟨hpoint.replays, hpoint.restores_iff hne⟩

/-! ## A taker that is stopped after its instructions -/

def sampleTaker : TakerSwap where
  makerAmount := 1
  takerAmount := 1
  myPersistentPub := [3]
  makerPubkey := [1]
  uuid := 0
  confSettings :=
    { makerCoinConfs := 1, makerCoinNota := false, takerCoinConfs := 1, takerCoinNota := false }
  paymentLocktime := 7800

/-- What the same coins and a maker answer that negotiates and pays. -/
def sampleMakerAnswer : (c : SwapCall) → c.Answer
  | .recvNegotiation _ =>
    .ok (.v1 1000 (1000 + sampleEnv.makerLockDuration 7800) (List.replicate 20 7) [1])
  | .recvNegotiated _ _ => .ok true
  | .recvMakerPayment _ _ => .ok (.regular [5])
  | .searchForSwapTxSpendOther _ _ => .ok (some (.spent [10]))
  | c => sampleAnswer c

/-- The sample taker after so many steps. -/
def sampleTakerRun (steps : ℕ) :
    System.RunConfig SwapCall SwapCall.Answer TakerSwap TakerSwapEvent TakerSwapCommand :=
  (TakerSwap.system sampleEnv 0).machine.run (System.begin sampleTaker .start 1000)
    (List.replicate steps (.reply (answered sampleMakerAnswer)))

/-- The machine is about to save what is left of a command. -/
def Saves {S E K : Type} (x : System.RunConfig SwapCall SwapCall.Answer S E K) : Bool :=
  match x.status with
  | .running _ (.done (.changeState (.saving _ _ _ _))) => true
  | _ => false

theorem exists_atCommand {S E K : Type} {x : System.RunConfig SwapCall SwapCall.Answer S E K}
    (h : Saves x = true) : ∃ s c next, AtCommand x s c next := by
  unfold Saves at h
  split at h
  · rename_i ph s c es next hstatus
    exact ⟨s, c, next, .inr ⟨es, ph, hstatus⟩⟩
  · cases h

theorem sampleTakerRun_allowed (steps : ℕ) :
    AllowedRun (TakerSwap.system sampleEnv 0) TakerSwap.recording TakerSwap.grammar.Log
      (System.begin sampleTaker .start 1000)
      (List.replicate steps (.reply (answered sampleMakerAnswer))) := by
  apply allowedRun_replicate
  rintro w (c | _ | _)
  · cases c with
    | useWatcherReward => simp [contract, TakerSwap.recording, answered, sampleMakerAnswer,
        sampleAnswer]
    | searchForSwapTxSpendOther side input =>
      cases side <;> simp [contract, TakerSwap.recording, answered, sampleMakerAnswer]
    | _ => trivial
  · trivial
  · trivial

theorem event_sourcing_sample : ∃ s c next, AtCommand (sampleTakerRun 31) s c next ∧
    TakerSwap.Replays sampleEnv 0 (sampleTakerRun 31).world.log s ∧
      (TakerSwap.Restores sampleEnv 0 (sampleTakerRun 31).world.log s c next ↔
        ¬ TakerSwap.Diverges (sampleTakerRun 31).world.log c next) := by
  obtain ⟨s, c, next, h⟩ := exists_atCommand (x := sampleTakerRun 31) (by decide +kernel)
  exact ⟨s, c, next, h, (event_sourcing sampleEnv 0 1000).2 sampleTaker _ s c next ⟨rfl, rfl⟩
    (sampleTakerRun_allowed 31) h (by decide +kernel)⟩

/-- The log of a taker that is stopped after its instructions loads into a swap that panics. -/
theorem taker_log_diverges : ¬ ∀ X uuid now s₀ es s c next, TakerSwap.Fresh s₀ →
    let x := (TakerSwap.system X uuid).machine.run (System.begin s₀ .start now) es
    AtCommand x s c next → x.world.log ≠ [] →
      TakerSwap.Replays X uuid x.world.log s ∧
        TakerSwap.Restores X uuid x.world.log s c next := by
  intro hclaim
  obtain ⟨s, c, next, h⟩ := exists_atCommand (x := sampleTakerRun 31) (by decide +kernel)
  have hpoint := TakerSwap.point_of_run ⟨rfl, rfl⟩ (sampleTakerRun_allowed 31) h
  have hne : (sampleTakerRun 31).world.log ≠ [] := by decide +kernel
  have hlast : (sampleTakerRun 31).world.log.getLast? =
      some (.takerPaymentInstructionsReceived none) := by decide +kernel
  apply (hpoint.restores_iff hne).mp _ (.inl ⟨none, hlast⟩)
  exact (hclaim sampleEnv 0 1000 sampleTaker _ s c next ⟨rfl, rfl⟩ h hne).2

end DeXFG.LegacySwap
