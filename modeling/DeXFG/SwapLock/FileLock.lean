import DeXFG.Library.Runs

/-!
# The lock file of a swap

The parties that want to drive one swap, and the single operations on its lock file between which
any of them may be interrupted. Times are milliseconds of one clock.
-/
namespace DeXFG.SwapLock

/-- A file and the timestamp in it. It is empty from its creation or truncation to the next
write. -/
structure LockFile where
  inode : ℕ
  timestamp : Option ℕ
  deriving DecidableEq, Repr

/-- Where a touch is. It takes the time, opens the file, which truncates it, and writes. -/
inductive Touch where
  | stamped (clock : ℕ)
  | truncated (clock inode : ℕ)
  deriving DecidableEq, Repr

/-- Where a party is, from its first attempt to take the lock to the end of the swap. A driving
party holds the lock; the time of its last touch is no part of the lock. -/
inductive Stage where
  | locking (attempts : ℕ)
  | reading (attempts : ℕ)
  | comparing (attempts : ℕ) (timestamp : Option ℕ)
  | sleeping (attempts wakeAt : ℕ)
  | acquiring (touch : Option Touch)
  | driving (touchedAt : ℕ) (touch : Option Touch)
  deriving DecidableEq, Repr

namespace Stage

/-- The party has a `FileLock`. -/
def Owns : Stage → Prop
  | acquiring _ => True
  | driving _ _ => True
  | _ => False

def Drives : Stage → Prop
  | driving _ _ => True
  | _ => False

/-- The party is about to write to a file that is empty, or to empty it. -/
def Busy : Stage → Prop
  | acquiring _ => True
  | driving _ (some (.truncated _ _)) => True
  | _ => False

/-- The last touch is at most 30 seconds old. -/
def Timely (clock : ℕ) : Stage → Prop
  | driving touchedAt _ => clock ≤ touchedAt + 30000
  | _ => True

instance : DecidablePred Owns := fun s => by cases s <;> unfold Owns <;> infer_instance

instance : DecidablePred Drives := fun s => by cases s <;> unfold Drives <;> infer_instance

instance : DecidablePred Busy
  | acquiring _ => isTrue trivial
  | driving _ (some (.truncated _ _)) => isTrue trivial
  | driving _ (some (.stamped _)) => isFalse id
  | driving _ none => isFalse id
  | locking _ => isFalse id
  | reading _ => isFalse id
  | comparing _ _ => isFalse id
  | sleeping _ _ => isFalse id

instance (clock : ℕ) : DecidablePred (Timely clock) := fun s => by
  cases s <;> unfold Timely <;> infer_instance

end Stage

/-- The file at the path of the lock, the number of files made so far, and the parties. -/
structure World (P : Type) where
  clock : ℕ
  file : Option LockFile
  created : ℕ
  stage : P → Option Stage

inductive Event (P : Type) where
  | start (p : P)
  | createNew (p : P)
  | readTimestamp (p : P)
  | compare (p : P)
  | wake (p : P)
  /-- The time of the next touch is taken. -/
  | nowSec (p : P)
  | truncate (p : P)
  | write (p : P)
  /-- An operation of an attempt fails; the lock it may have is dropped. -/
  | fail (p : P)
  | drop (p : P)
  | crash (p : P)
  | tick (milliseconds : ℕ)
  deriving DecidableEq

namespace World

variable {P : Type}

def initial : World P where
  clock := 0
  file := none
  created := 0
  stage _ := none

variable [DecidableEq P]

def setStage (w : World P) (p : P) (stage : Option Stage) : World P :=
  { w with stage := Function.update w.stage p stage }

def setFile (w : World P) (file : Option LockFile) : World P := { w with file }

/-- A new file at the path. -/
def createFile (w : World P) : World P where
  clock := w.clock
  file := some { inode := w.created, timestamp := none }
  created := w.created + 1
  stage := w.stage

/-- The lock is 40 seconds old, or has no timestamp that can be read. -/
def expired (clock : ℕ) : Option ℕ → Prop
  | none => True
  | some lm => 1000 * lm + 40000 < clock

instance (clock : ℕ) : DecidablePred (expired clock) := fun t => by
  cases t <;> unfold expired <;> infer_instance

/-- `File::create` of a touch: the file is opened and emptied, or made. -/
def truncate (w : World P) (p : P) (clock : ℕ) (withTouch : Option Touch → Stage) : World P :=
  match w.file with
  | some f => (w.setFile (some { f with timestamp := none })).setStage p
      (some (withTouch (some (.truncated clock f.inode))))
  | none => w.createFile.setStage p (some (withTouch (some (.truncated clock w.created))))

/-- The write of a touch goes to the file that was opened, wherever that is now. -/
def write (w : World P) (p : P) (clock inode : ℕ) : World P :=
  (w.setFile (w.file.map fun f =>
    if f.inode = inode then { f with timestamp := some (clock / 1000) } else f)).setStage p
      (some (.driving clock none))

/-- The next operation of a party. -/
def step (w : World P) : Event P → Option (World P)
  | .start p =>
    match w.stage p with
    | none => some (w.setStage p (some (.locking 0)))
    | some _ => none
  | .createNew p =>
    match w.stage p, w.file with
    | some (.locking _), none => some (w.createFile.setStage p (some (.acquiring none)))
    | some (.locking attempts), some _ => some (w.setStage p (some (.reading attempts)))
    | _, _ => none
  | .readTimestamp p =>
    match w.stage p, w.file with
    | some (.reading attempts), some f =>
      some (w.setStage p (some (.comparing attempts f.timestamp)))
    | some (.reading _), none => some (w.setStage p none)
    | _, _ => none
  | .compare p =>
    match w.stage p with
    | some (.comparing attempts timestamp) =>
      if expired w.clock timestamp then some (w.setStage p (some (.acquiring none)))
      else if 1 ≤ attempts then some (w.setStage p none)
      else some (w.setStage p (some (.sleeping (attempts + 1) (w.clock + 40000))))
    | _ => none
  | .wake p =>
    match w.stage p with
    | some (.sleeping attempts wakeAt) =>
      if wakeAt ≤ w.clock then some (w.setStage p (some (.locking attempts))) else none
    | _ => none
  | .nowSec p =>
    match w.stage p with
    | some (.acquiring none) => some (w.setStage p (some (.acquiring (some (.stamped w.clock)))))
    | some (.driving touchedAt none) =>
      some (w.setStage p (some (.driving touchedAt (some (.stamped w.clock)))))
    | _ => none
  | .truncate p =>
    match w.stage p with
    | some (.acquiring (some (.stamped clock))) => some (w.truncate p clock .acquiring)
    | some (.driving touchedAt (some (.stamped clock))) =>
      some (w.truncate p clock (.driving touchedAt))
    | _ => none
  | .write p =>
    match w.stage p with
    | some (.acquiring (some (.truncated clock inode))) => some (w.write p clock inode)
    | some (.driving _ (some (.truncated clock inode))) => some (w.write p clock inode)
    | _ => none
  | .fail p =>
    match w.stage p with
    | some (.locking _) => some (w.setStage p none)
    | some (.reading _) => some (w.setStage p none)
    | some (.acquiring _) => some ((w.setFile none).setStage p none)
    | _ => none
  | .drop p =>
    match w.stage p with
    | some (.driving _ none) => some ((w.setFile none).setStage p none)
    | _ => none
  | .crash p => some (w.setStage p none)
  | .tick milliseconds => some { w with clock := w.clock + milliseconds }

end World

end DeXFG.SwapLock
