import DeXFG.SwapLock.FileLock

/-!
# One driver for each swap

Taking a lock over is a comparison and a write with anything in between. As long as no
takeover is decided on what the file no longer holds, or while another party is between emptying
the file and writing to it, one party at most drives the swap.
-/
namespace DeXFG.SwapLock
open Library.Runs

variable {P : Type}

namespace World

/-- No other party has a `FileLock`. -/
def Alone (w : World P) (p : P) : Prop := ∀ q s, q ≠ p → w.stage q = some s → ¬ s.Owns

/-- Holders touch at most 30 seconds apart. -/
def Timely (w : World P) : Prop := ∀ p, ∀ s ∈ w.stage p, s.Timely w.clock

/-- A party that takes the lock over finds in the file what it has read there, and no other party
is about to write to it. -/
def TakesOver (w : World P) (p : P) : Option Stage → Prop
  | some (.comparing _ timestamp) => expired w.clock timestamp →
    w.file.map LockFile.timestamp = some timestamp ∧ ∀ q, q ≠ p → ∀ t ∈ w.stage q, ¬ t.Busy
  | _ => True

/-- No takeover is disturbed. -/
def Undisturbed (w : World P) : Event P → Prop
  | .compare p => w.TakesOver p (w.stage p)
  | _ => True

/-- What the file is to a party that owns a lock. -/
def OwnFile (f : LockFile) : Stage → Prop
  | .acquiring (some (.truncated _ inode)) => f.inode = inode
  | .driving _ (some (.truncated _ inode)) => f.inode = inode
  | .driving touchedAt _ => f.timestamp = some (touchedAt / 1000)
  | _ => True

/-- One party at most owns a lock, and the file is its own. -/
structure Inv (w : World P) : Prop where
  unique : ∀ p s, w.stage p = some s → s.Owns → w.Alone p
  own : ∀ p s, w.stage p = some s → s.Owns → ∃ f, w.file = some f ∧ OwnFile f s

theorem inv_initial : Inv (initial : World P) := by
  constructor <;> simp [initial]

variable {w w' : World P} {p : P}

@[simp] theorem file_setFile (file : Option LockFile) : (w.setFile file).file = file := rfl

@[simp] theorem stage_setFile (file : Option LockFile) : (w.setFile file).stage = w.stage := rfl

@[simp] theorem stage_createFile : w.createFile.stage = w.stage := rfl

/-- A timestamp of a holder that touches in time does not expire. -/
theorem not_expired {clock touchedAt : ℕ} (h : clock ≤ touchedAt + 30000) :
    ¬ expired clock (some (touchedAt / 1000)) := by
  simp only [expired]
  omega

/-- Where a takeover is not disturbed, nobody owns the lock that is taken over. -/
theorem alone_of_expired (h : w.Inv) (htimely : w.Timely) {timestamp : Option ℕ}
    (hexpired : expired w.clock timestamp) (hfile : w.file.map LockFile.timestamp = some timestamp)
    (hbusy : ∀ q, q ≠ p → ∀ t ∈ w.stage q, ¬ t.Busy) : w.Alone p := by
  intro q s hq hs hown
  obtain ⟨f, hf, hownFile⟩ := h.own q s hs hown
  have hidle := hbusy q hq s hs
  rw [hf, Option.map_some, Option.some.injEq] at hfile
  subst hfile
  match s, hown with
  | .acquiring _, _ => exact hidle trivial
  | .driving _ (some (.truncated _ _)), _ => exact hidle trivial
  | .driving touchedAt none, _ =>
    rw [show f.timestamp = some (touchedAt / 1000) from hownFile] at hexpired
    exact not_expired (htimely q _ hs) hexpired
  | .driving touchedAt (some (.stamped _)), _ =>
    rw [show f.timestamp = some (touchedAt / 1000) from hownFile] at hexpired
    exact not_expired (htimely q _ hs) hexpired

variable [DecidableEq P]

theorem stage_setStage_self (stage : Option Stage) : (w.setStage p stage).stage p = stage :=
  Function.update_self ..

theorem stage_setStage_of_ne (stage : Option Stage) {q : P} (h : q ≠ p) :
    (w.setStage p stage).stage q = w.stage q := Function.update_of_ne h ..

/-- The party goes on, or ends, without a lock. -/
theorem Inv.setStage (h : w.Inv) {stage : Option Stage} (hstage : ∀ s ∈ stage, ¬ s.Owns) :
    (w.setStage p stage).Inv := by
  have hkept {q : P} {s : Stage} (hq : (w.setStage p stage).stage q = some s) (hs : s.Owns) :
      w.stage q = some s := by
    by_cases hqp : q = p
    · subst hqp
      rw [stage_setStage_self] at hq
      exact absurd hs (hstage s hq)
    · rwa [stage_setStage_of_ne _ hqp] at hq
  constructor
  · intro q s hq hs r t hr ht hown
    exact h.unique q s (hkept hq hs) hs r t hr (hkept ht hown) hown
  · intro q s hq hs
    exact h.own q s (hkept hq hs) hs

/-- The party owns the lock, and none of the others. -/
theorem inv_of_owner (halone : w.Alone p) {s : Stage} {f : LockFile} (hfile : w.file = some f)
    (hown : OwnFile f s) : (w.setStage p (some s)).Inv := by
  have honly {q : P} {t : Stage} (hq : (w.setStage p (some s)).stage q = some t) (ht : t.Owns) :
      q = p := by
    by_contra hqp
    rw [stage_setStage_of_ne _ hqp] at hq
    exact halone q t hqp hq ht
  constructor
  · intro q t hq ht r u hr hu hown'
    exact hr ((honly hu hown').trans (honly hq ht).symm)
  · intro q t hq ht
    obtain rfl := honly hq ht
    rw [stage_setStage_self] at hq
    obtain rfl := Option.some.inj hq
    exact ⟨f, hfile, hown⟩

/-- The party drops its lock and removes the file. -/
theorem inv_of_removal (halone : w.Alone p) : ((w.setFile none).setStage p none).Inv := by
  have hnone {q : P} {t : Stage}
      (hq : ((w.setFile none).setStage p none).stage q = some t) : ¬ t.Owns := by
    by_cases hqp : q = p
    · subst hqp
      rw [stage_setStage_self] at hq
      cases hq
    · rw [stage_setStage_of_ne _ hqp] at hq
      exact halone q t hqp hq
  constructor
  · exact fun q s hq hs => absurd hs (hnone hq)
  · exact fun q s hq hs => absurd hs (hnone hq)

/-- A touch of the owner empties its own file, which is there. -/
theorem Inv.truncate (h : w.Inv) {s : Stage} (hs : w.stage p = some s) (hown : s.Owns) (clock : ℕ)
    {withTouch : Option Touch → Stage}
    (hfile : ∀ f : LockFile, OwnFile f (withTouch (some (.truncated clock f.inode)))) :
    (w.truncate p clock withTouch).Inv := by
  obtain ⟨f, hf, -⟩ := h.own p s hs hown
  simp only [World.truncate, hf]
  have halone : (w.setFile (some { f with timestamp := none })).Alone p := h.unique p s hs hown
  exact inv_of_owner halone rfl (hfile { f with timestamp := none })

/-- What the owner writes goes to its own file. -/
theorem Inv.write (h : w.Inv) {s : Stage} (hs : w.stage p = some s) (hown : s.Owns)
    {clock inode : ℕ} (hfile : ∀ f, OwnFile f s → f.inode = inode) :
    (w.write p clock inode).Inv := by
  obtain ⟨f, hf, hownFile⟩ := h.own p s hs hown
  simp only [World.write, hf, Option.map_some, if_pos (hfile f hownFile)]
  have halone : (w.setFile (some { f with timestamp := some (clock / 1000) })).Alone p :=
    h.unique p s hs hown
  exact inv_of_owner halone rfl rfl

theorem inv_step (h : w.Inv) (htimely : w.Timely) {e : Event P} (hcalm : w.Undisturbed e)
    (hstep : w.step e = some w') : w'.Inv := by
  cases e with
  | start p =>
    simp only [step] at hstep
    split at hstep
    · cases hstep
      apply h.setStage
      simp [Stage.Owns]
    · cases hstep
  | createNew p =>
    simp only [step] at hstep
    split at hstep
    · next hs hfile =>
      cases hstep
      refine inv_of_owner (w := w.createFile) ?_ rfl trivial
      intro q t _ ht hown
      obtain ⟨f, hf, -⟩ := h.own q t ht hown
      rw [hfile] at hf
      cases hf
    · cases hstep
      apply h.setStage
      simp [Stage.Owns]
    · cases hstep
  | readTimestamp p =>
    simp only [step] at hstep
    split at hstep
    · cases hstep
      apply h.setStage
      simp [Stage.Owns]
    · cases hstep
      apply h.setStage
      simp
    · cases hstep
  | compare p =>
    simp only [step] at hstep
    split at hstep
    · next attempts timestamp hs =>
      split at hstep
      · next hexpired =>
        cases hstep
        rw [Undisturbed, hs] at hcalm
        obtain ⟨hfile, hbusy⟩ := hcalm hexpired
        have halone := alone_of_expired h htimely hexpired hfile hbusy
        obtain ⟨f, hf, -⟩ := Option.map_eq_some_iff.mp hfile
        exact inv_of_owner halone hf trivial
      · split at hstep
        · cases hstep
          apply h.setStage
          simp
        · cases hstep
          apply h.setStage
          simp [Stage.Owns]
    · cases hstep
  | wake p =>
    simp only [step] at hstep
    split at hstep
    · split at hstep
      · cases hstep
        apply h.setStage
        simp [Stage.Owns]
      · cases hstep
    · cases hstep
  | nowSec p =>
    simp only [step] at hstep
    split at hstep
    · next hs =>
      cases hstep
      obtain ⟨f, hf, -⟩ := h.own p _ hs trivial
      exact inv_of_owner (h.unique p _ hs trivial) hf trivial
    · next hs =>
      cases hstep
      obtain ⟨f, hf, hown⟩ := h.own p _ hs trivial
      exact inv_of_owner (h.unique p _ hs trivial) hf hown
    · cases hstep
  | truncate p =>
    simp only [step] at hstep
    split at hstep
    · next hs =>
      cases hstep
      exact h.truncate hs trivial _ fun _ => rfl
    · next hs =>
      cases hstep
      exact h.truncate hs trivial _ fun _ => rfl
    · cases hstep
  | write p =>
    simp only [step] at hstep
    split at hstep
    · next hs =>
      cases hstep
      exact h.write hs trivial fun _ hf => hf
    · next hs =>
      cases hstep
      exact h.write hs trivial fun _ hf => hf
    · cases hstep
  | fail p =>
    simp only [step] at hstep
    split at hstep
    · cases hstep
      apply h.setStage
      simp
    · cases hstep
      apply h.setStage
      simp
    · next hs =>
      cases hstep
      exact inv_of_removal (h.unique p _ hs trivial)
    · cases hstep
  | drop p =>
    simp only [step] at hstep
    split at hstep
    · next hs =>
      cases hstep
      exact inv_of_removal (h.unique p _ hs trivial)
    · cases hstep
  | crash p =>
    cases hstep
    apply h.setStage
    simp
  | tick milliseconds =>
    cases hstep
    exact ⟨h.unique, h.own⟩

end World

open World

variable [DecidableEq P]

/-- In every run of parties that touch in time, and whose takeovers are not disturbed, one party
at most drives the swap, the file of a driving party is there with its timestamp in it unless it
touches the file, and no drop removes the file of another one. -/
theorem swap_lock_exclusive {events : List (Event P)} {w : World P}
    (hmeets : Meets step (fun w e => w.Timely ∧ w.Undisturbed e) initial events)
    (hrun : run step initial events = some w) :
    (∀ p q s t, w.stage p = some s → w.stage q = some t → s.Drives → t.Drives → p = q) ∧
      (∀ p s, w.stage p = some s → s.Drives → ∃ f, w.file = some f ∧ OwnFile f s) ∧
      ∀ p w', w.step (.drop p) = some w' → ∀ q t, w'.stage q = some t → ¬ t.Drives := by
  have h : w.Inv := invariant_run (fun w e w' h hG hstep => inv_step h hG.1 hG.2 hstep)
    inv_initial hmeets hrun
  have howns {s : Stage} (hs : s.Drives) : s.Owns := by
    cases s with
    | driving touchedAt touch => trivial
    | _ => exact hs.elim
  constructor
  · intro p q s t hp hq hs ht
    by_contra hne
    exact h.unique p s hp (howns hs) q t (Ne.symm hne) hq (howns ht)
  · constructor
    · exact fun p s hp hs => h.own p s hp (howns hs)
    · intro p w' hstep q t hq ht
      simp only [step] at hstep
      split at hstep
      · next hs =>
        cases hstep
        by_cases hqp : q = p
        · subst hqp
          rw [stage_setStage_self] at hq
          cases hq
        · rw [stage_setStage_of_ne _ hqp] at hq
          exact h.unique p _ hs trivial q t hqp hq (howns ht)
      · cases hstep

/-! ## Two parties and a lock file -/

instance decidableTakesOver [Fintype P] (w : World P) (p : P) : DecidablePred (w.TakesOver p)
  | some (.comparing _ timestamp) => inferInstanceAs (Decidable (expired w.clock timestamp →
      w.file.map LockFile.timestamp = some timestamp ∧ ∀ q, q ≠ p → ∀ t ∈ w.stage q, ¬ t.Busy))
  | none | some (.locking _) | some (.reading _) | some (.sleeping _ _) | some (.acquiring _)
  | some (.driving _ _) => isTrue trivial

instance decidableUndisturbed [Fintype P] (w : World P) : DecidablePred w.Undisturbed
  | .compare p => inferInstanceAs (Decidable (w.TakesOver p (w.stage p)))
  | .start _ | .createNew _ | .readTimestamp _ | .wake _ | .nowSec _ | .truncate _ | .write _
  | .fail _ | .drop _ | .crash _ | .tick _ => isTrue trivial

instance decidableTimely [Fintype P] (w : World P) : Decidable w.Timely :=
  inferInstanceAs (Decidable (∀ p, ∀ s ∈ w.stage p, s.Timely w.clock))

/-- One party has the lock and the other one waits. -/
def waitingRun : List (Event Bool) :=
  [.start false, .createNew false, .nowSec false, .truncate false, .write false, .start true,
    .createNew true, .tick 1000, .readTimestamp true, .compare true]

theorem waiting_sample : ∃ w, run step initial waitingRun = some w ∧
    w.stage false = some (.driving 0 none) ∧
    ∀ p s, w.stage p = some s → s.Drives → p = false := by
  have hmeets : Meets step (fun w e => w.Timely ∧ w.Undisturbed e) initial waitingRun := by decide
  refine ⟨_, rfl, rfl, ?_⟩
  intro p s hp hs
  exact (swap_lock_exclusive hmeets rfl).1 p false s (.driving 0 none) hp rfl hs trivial

/-- The file has been made by one party and has no timestamp yet when the other one reads it. -/
def emptyFileRun : List (Event Bool) :=
  [.start false, .start true, .createNew false, .createNew true, .readTimestamp true,
    .compare true, .nowSec true, .truncate true, .write true, .nowSec false, .truncate false,
    .write false]

/-- Both parties drive the swap, and when one of them is done it removes the file of the other. -/
theorem empty_file_taken_over :
    Meets step (fun w _ => w.Timely) initial emptyFileRun ∧
      (∃ w, run step initial emptyFileRun = some w ∧
        w.stage false = some (.driving 0 none) ∧ w.stage true = some (.driving 0 none)) ∧
      ∃ w, run step initial (emptyFileRun ++ [.drop false]) = some w ∧
        w.stage true = some (.driving 0 none) ∧ w.file = none := by
  constructor
  · decide
  · constructor
    · exact ⟨_, rfl, rfl, rfl⟩
    · exact ⟨_, rfl, rfl, rfl⟩

end DeXFG.SwapLock
