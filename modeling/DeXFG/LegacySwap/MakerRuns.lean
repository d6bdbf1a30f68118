import DeXFG.LegacySwap.MakerLog

/-!
# The runs of the maker

In every run of a maker swap the saved log follows the grammar, the command
under way is the one that goes on after it, and the swap in memory is the one
that the log gives back, but for the reward of the watchers.
-/
namespace DeXFG.LegacySwap
open Ordermatch (MmNumber Uuid)
open SwapV2 (Side TransactionIdentifier)
open Library.Process Library.EventSourced Library.EventGrammar

namespace MakerSwap

/-! ## The swap of a log -/

/-- The log with its out-dated contract addresses replaced. -/
def refreshed (X : SwapEnv) : MakerSavedSwap → MakerSavedSwap
  | .started data :: events => .started (refresh X data) :: events
  | saved => saved

/-- The swap that the log gives back. -/
def restored (X : SwapEnv) (uuid : Uuid) (log : MakerSavedSwap) : MakerSwap :=
  (refreshed X log).foldl (applyEvent 0) (ofData X uuid {})

/-- The same swap for all that its commands do later; with `strict`, in every field of the
lock. -/
structure Same (strict : Prop) (a b : MakerSwap) : Prop where
  takerPaymentLock : b.takerPaymentLock = a.takerPaymentLock
  mutable : ∃ watcherReward, b.mutable = { a.mutable with watcherReward }
  strict : strict → b.mutable = a.mutable

section Same

variable {X : SwapEnv} {uuid : Uuid} {strict : Prop} {a b : MakerSwap} {log es : MakerSavedSwap}

theorem Same.applyEvent (h : Same strict a b) (t t' : ℕ) (e : MakerSwapEvent) :
    Same strict (applyEvent t a e) (applyEvent t' b e) := by
  obtain ⟨hlock, ⟨r, hmut⟩, hstrict⟩ := h
  constructor
  · cases e <;> simp [MakerSwap.applyEvent, w, pushError, hlock]
  · use r
    cases e <;> simp [MakerSwap.applyEvent, w, pushError, hmut]
  · intro hs
    cases e <;> simp [MakerSwap.applyEvent, w, pushError, hstrict hs]

theorem Same.foldl (h : Same strict a b) (t t' : ℕ) :
    Same strict (log.foldl (MakerSwap.applyEvent t) a) (log.foldl (MakerSwap.applyEvent t') b) := by
  induction log generalizing a b with
  | nil => exact h
  | cons e log ih => exact ih (h.applyEvent t t' e)

theorem restored_append (h : log ≠ [] ∨ refreshed X es = es) :
    restored X uuid (log ++ es) = es.foldl (MakerSwap.applyEvent 0) (restored X uuid log) := by
  have happend : refreshed X (log ++ es) = refreshed X log ++ es := by
    cases log with
    | nil => simpa [refreshed] using h
    | cons e log => cases e <;> rfl
  rw [restored, happend, List.foldl_append, restored]

theorem same_replay {data : MakerSwapData} {events : MakerSavedSwap} {t : ℕ} :
    Same strict (restored X uuid (.started data :: events)) (replay X uuid t data events) := by
  apply Same.foldl
  exact ⟨rfl, ⟨_, rfl⟩, fun _ => rfl⟩

end Same

/-! ## What holds along a run -/

structure Handling (strict : Prop) (X : SwapEnv) (uuid : Uuid) (log : MakerSavedSwap)
    (s : MakerSwap) (c : MakerSwapCommand) : Prop where
  legal : grammar.Log log
  same : Same strict (restored X uuid log) s
  pending : Pending log c

/-- The events of the command `c` that are not saved yet are `es`. -/
structure Saving (strict : Prop) (X : SwapEnv) (uuid : Uuid) (log : MakerSavedSwap)
    (s : MakerSwap) (c : MakerSwapCommand) (es : List MakerSwapEvent)
    (next : Option MakerSwapCommand) : Prop where
  legal : grammar.Log (log ++ es)
  same : Same strict (restored X uuid log) s
  first : log ≠ [] ∨ refreshed X es = es
  pending : ∀ c, next = some c → Pending (log ++ es) c
  leads : ∀ e ∈ es, e.getCommand = next ∨ e.getCommand = some c
  place : Pending log c ∨ ∃ d, log.getLast? = some d ∧ d.getCommand = next

/-- What holds of the log and the phase in every run. -/
def Along (strict : Prop) (X : SwapEnv) (uuid : Uuid) (log : MakerSavedSwap) :
    Phase MakerSwap MakerSwapEvent MakerSwapCommand → Prop
  | .loading _ => grammar.Log log
  | .handling s c => Handling strict X uuid log s c
  | .saving s c es next => Saving strict X uuid log s c es next

/-- The environment of a run answers in `R`; with `strict` there is no reward of the watchers. -/
structure Surroundings (strict : Prop) (R : (c : SwapCall) → c.Answer → Prop)
    (K : MakerSavedSwap → Contract SwapCall SwapCall.Answer ℕ) : Prop where
  answers : ∀ {log t c r a}, (K log).allowed t c r → r.answer = some a → R c a
  reward : strict → ∀ b, R .useWatcherReward b → b = false

section Along

variable {X : SwapEnv} {uuid : Uuid} {strict : Prop} {R : (c : SwapCall) → c.Answer → Prop}
  {s s' : MakerSwap} {c : MakerSwapCommand} {next : Option MakerSwapCommand}
  {log es : MakerSavedSwap} {e : MakerSwapEvent}

theorem Along.legal {ph : Phase MakerSwap MakerSwapEvent MakerSwapCommand}
    (h : Along strict X uuid log ph) : grammar.Log log := by
  cases ph with
  | loading _ => exact h
  | handling s c => exact Handling.legal h
  | saving s c es next => exact (Saving.legal h).left

/-- A command changes nothing in memory but the reward of the watchers, at the start. -/
theorem Outcome.same (h : Outcome X R s c s' next es) :
    s' = s ∨ c = .start ∧ ∃ watcherReward, R .useWatcherReward watcherReward ∧
      s' = s.w ({ · with watcherReward }) := by
  cases h with
  | started data _ watcherReward hreward => exact .inr ⟨rfl, watcherReward, hreward, rfl⟩
  | _ => exact .inl rfl

theorem Outcome.refreshed (h : Outcome X R s c s' next es) : MakerSwap.refreshed X es = es := by
  cases h with
  | started data hdata _ _ =>
    have h := hdata.makerCoinSwapContractAddress
    have h' := hdata.takerCoinSwapContractAddress
    cases data
    simp_all [MakerSwap.refreshed, refresh]
  | failed hfails => cases hfails <;> rfl
  | _ => rfl

/-- The events of a command lead to the next command, or take up the same one again. -/
theorem Outcome.leads (h : Outcome X R s c s' next es) (he : e ∈ es) :
    e.getCommand = next ∨ e.getCommand = some c := by
  cases h with
  | failed hfails =>
    left
    simp only [List.mem_cons, List.not_mem_nil, or_false] at he
    obtain rfl | rfl := he
    · cases hfails <;> rfl
    · rfl
  | takerFeeValidated instructions tx =>
    simp only [List.mem_cons, List.not_mem_nil, or_false] at he
    obtain rfl | rfl := he
    · exact .inr rfl
    · exact .inl rfl
  | refundWaits => cases he
  | _ =>
    left
    simp only [List.mem_cons, List.not_mem_nil, or_false] at he
    first
    | (obtain rfl := he; rfl)
    | (obtain rfl | rfl := he <;> rfl)

theorem Outcome.saving (h : Outcome X R s c s' next es)
    (hreward : strict → ∀ b, R .useWatcherReward b → b = false)
    (hhandling : Handling strict X uuid log s c) : Saving strict X uuid log s' c es next where
  legal := (h.grammatical hhandling.legal hhandling.pending).1
  same := by
    obtain rfl | ⟨rfl, b, hb, rfl⟩ := h.same
    · exact hhandling.same
    · obtain ⟨hlock, ⟨r, hmut⟩, hstrict⟩ := hhandling.same
      constructor
      · exact hlock
      · exact ⟨b, by simp [w, hmut]⟩
      · intro hs
        obtain rfl := hreward hs b hb
        obtain rfl := hhandling.pending.start
        simp [w, hstrict hs, restored, MakerSwap.refreshed, ofData]
  first := .inr h.refreshed
  pending := (h.grammatical hhandling.legal hhandling.pending).2
  leads _ he := h.leads he
  place := .inl hhandling.pending

/-- Every command keeps what holds along a run. -/
theorem Handling.handled (h : Handling strict X uuid log s c)
    (hreward : strict → ∀ b, R .useWatcherReward b → b = false) :
    (handleCommand X c s).Sat R (Makes c) fun r =>
      ∀ s' next es, r = .ok (s', next, es) → Saving strict X uuid log s' c es next := by
  apply sat_mono (fun _ h => h) _ (handleCommand_sat c)
  rintro r hr s' next es rfl
  exact Outcome.saving hr hreward h

theorem Saving.saved (h : Saving strict X uuid log s c (e :: es) next) (t : ℕ) :
    Saving strict X uuid (log ++ [e]) (applyEvent t s e) c es next where
  legal := by simpa using h.legal
  same := by
    rw [restored_append]
    · exact h.same.applyEvent 0 t e
    · apply h.first.imp_right
      intro hfirst
      cases e <;> simp_all [refreshed]
  first := by simp
  pending := by simpa using h.pending
  leads d hd := h.leads d (List.mem_cons_of_mem _ hd)
  place := by
    obtain he | he := h.leads e List.mem_cons_self
    · exact .inr ⟨e, by simp, he⟩
    · exact .inl (pending_snoc.mpr he)

theorem Saving.goesOn {c' : MakerSwapCommand} (h : Saving strict X uuid log s c [] (some c')) :
    Handling strict X uuid log s c' where
  legal := by simpa using h.legal
  same := h.same
  pending := by simpa using h.pending c' rfl

/-- A maker swap that is loaded goes on with the command of its last event. -/
theorem loadFromSaved_wp {K : MakerSavedSwap → Contract SwapCall SwapCall.Answer ℕ} {t : ℕ}
    (hlog : grammar.Log log) :
    (loadFromSaved X uuid log).wp storeEnv (contract K grammar.Log)
      (fun r w => grammar.Log w.log ∧
        ∀ s c, r = .ok (s, some c) → Handling strict X uuid w.log s c) ⟨t, log⟩ := by
  cases log with
  | nil => exact ⟨hlog, by simp⟩
  | cons e events =>
    cases e with
    | started data =>
      change grammar.Log _ ∧ ∀ s c, Except.ok _ = _ → _
      constructor
      · exact hlog
      · intro s c hr
        obtain ⟨rfl, hc⟩ := Prod.mk.inj (Except.ok.inj hr)
        constructor
        · exact hlog
        · exact same_replay
        · simpa [Pending, List.getLast?_cons] using hc
    | _ => exact ⟨hlog, by simp⟩

/-- What holds along the runs of the maker is kept by every step of them, when the commands keep
the contract. -/
theorem along_invariant {K : MakerSavedSwap → Contract SwapCall SwapCall.Answer ℕ}
    (hK : Surroundings strict R K)
    (hcommands : ∀ log s c t, Handling strict X uuid log s c →
      (handleCommand X c s).wp clockEnv (K log) (fun _ _ => True) t) :
    Invariant (system X uuid) K grammar.Log (Along strict X uuid) where
  log := Along.legal
  handled t h := by
    apply wp_mono _ _ (wp_and_sat (fun _ _ _ hr _ => hK.answers hr) (hcommands _ _ _ t h)
      (h.handled hK.reward))
    rintro r t' ⟨-, hr⟩
    exact hr
  saved t h := h.saved t
  next h := h.goesOn
  loaded t h := loadFromSaved_wp h

/-- A swap before its first event, as `MakerSwap::new` makes it. -/
structure Fresh (s : MakerSwap) : Prop where
  takerPaymentLock : s.takerPaymentLock = 0
  mutable : s.mutable = {}

theorem Fresh.handling (h : Fresh s) : Handling strict X uuid [] s .start where
  legal := .nil
  same := ⟨h.takerPaymentLock, ⟨_, h.mutable⟩, fun _ => h.mutable⟩
  pending := rfl

/-- What holds along a run holds with every environment. -/
theorem free_invariant :
    Invariant (system X uuid) (fun _ => free) grammar.Log (Along False X uuid) := by
  apply along_invariant (R := fun _ _ => True) ⟨fun _ _ => trivial, fun h => h.elim⟩
  intro log s c t _
  exact wp_mono _ (fun _ _ _ => trivial) (wp_of_sat (fun _ _ _ _ _ _ => trivial)
    (fun _ _ _ => trivial) (fun _ => trivial) (handleCommand_sat (R := fun _ _ => True) c))

/-- The log of every run of a new swap follows the grammar. -/
theorem legal_run (hs : Fresh s) (now : ℕ)
    (es : List (Library.DurableMachine.Event (StoreCall SwapCall MakerSwapEvent)
      (StoreCall.Answer SwapCall.Answer))) :
    grammar.Log ((system X uuid).machine.run (System.begin s .start now) es).world.log :=
  free_invariant.log_run .nil (good_begin hs.handling) allowedRun_free

end Along

end MakerSwap

end DeXFG.LegacySwap
