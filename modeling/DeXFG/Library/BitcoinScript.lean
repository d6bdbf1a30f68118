import Mathlib.Data.Nat.Digits.Lemmas
import Mathlib.Data.List.Basic
import Mathlib.Tactic

/-!
# Bitcoin scripts

The consensus reading of scripts, for the opcodes of hash and time locks. A
script is bytes; it decodes to instructions, which mean operations on a stack of
byte strings. Hashing and the check of a signature are parameters. Policy rules
and limits on sizes are left out.

A piece of code that leaves the open conditionals as they are is a block: it
does to the stack what a function says where it is executed, and nothing where
it is skipped. Blocks compose, so that a script is read branch by branch.
-/
namespace DeXFG.Library.BitcoinScript

abbrev Bytes := List UInt8

/-- The top of the stack is the head of the list. -/
abbrev Stack := List Bytes

/-! ## Numbers and truth values -/

/-- The unsigned little-endian number in some bytes. -/
def readLe (bytes : Bytes) : ℕ := Nat.ofDigits 256 (bytes.map UInt8.toNat)

/-- The signed little-endian number in at most `size` bytes: the sign is the top bit. -/
def scriptNum (size : ℕ) (bytes : Bytes) : Option ℤ :=
  if size < bytes.length then none
  else if 2 ^ (8 * bytes.length) ≤ 2 * readLe bytes then
    some (-((readLe bytes - 2 ^ (8 * bytes.length - 1) : ℕ) : ℤ))
  else some (readLe bytes : ℤ)

/-- The shortest bytes of a number, with a zero byte where the top bit would be read as a sign. -/
def encodeNat (n : ℕ) : Bytes :=
  let bytes := (Nat.digits 256 n).map UInt8.ofNat
  if 2 ^ (8 * bytes.length) ≤ 2 * n then bytes ++ [0] else bytes

/-- Anything but zeros is true, except for a negative zero. -/
def castToBool : Bytes → Bool
  | [] => false
  | [b] => b ≠ 0 && b ≠ 0x80
  | b :: bytes => b ≠ 0 || castToBool bytes

def ofBool (b : Bool) : Bytes := if b then [1] else []

@[simp] theorem castToBool_ofBool (b : Bool) : castToBool (ofBool b) = b := by
  cases b <;> rfl

theorem map_toNat_ofNat {digits : List ℕ} (h : ∀ d ∈ digits, d < 256) :
    (digits.map UInt8.ofNat).map UInt8.toNat = digits := by
  induction digits with
  | nil => rfl
  | cons d digits ih =>
    rw [List.forall_mem_cons] at h
    rw [List.map_cons, List.map_cons, ih h.2, UInt8.toNat_ofNat_of_lt' h.1]

/-- The number is read back: the zero byte in front of the sign adds nothing. -/
theorem readLe_encodeNat (n : ℕ) : readLe (encodeNat n) = n := by
  have hread : readLe ((Nat.digits 256 n).map UInt8.ofNat) = n := by
    rw [readLe, map_toNat_ofNat fun d hd => Nat.digits_lt_base (by norm_num) hd,
      Nat.ofDigits_digits]
  unfold encodeNat
  dsimp only
  split
  · simpa [readLe, Nat.ofDigits_append] using hread
  · exact hread

/-- A number is encoded in one way. -/
theorem encodeNat_inj {m n : ℕ} : encodeNat m = encodeNat n ↔ m = n := by
  constructor
  · intro heq
    rw [← readLe_encodeNat m, heq, readLe_encodeNat]
  · exact fun heq => congrArg encodeNat heq

/-! ## Decoding -/

/-- An instruction, with the bytes it pushes if it pushes bytes that follow it. -/
structure Instr where
  opcode : UInt8
  data : Bytes
  deriving DecidableEq, Repr

def takeExact (n : ℕ) (script : Bytes) : Option (Bytes × Bytes) :=
  if n ≤ script.length then some (script.take n, script.drop n) else none

/-- The number of bytes that say how long the pushed data is, for the three long pushes. -/
def lengthWidth (opcode : UInt8) : ℕ :=
  if opcode = 0x4c then 1 else if opcode = 0x4d then 2 else 4

/-- The instruction of an opcode and what follows it. -/
def readInstr (opcode : UInt8) (rest : Bytes) : Option (Instr × Bytes) :=
  if opcode ≤ 0x4b then do
    let (data, rest) ← takeExact opcode.toNat rest
    some ({ opcode := opcode, data := data }, rest)
  else if opcode ≤ 0x4e then do
    let (length, rest) ← takeExact (lengthWidth opcode) rest
    let (data, rest) ← takeExact (readLe length) rest
    some ({ opcode := opcode, data := data }, rest)
  else
    some ({ opcode := opcode, data := [] }, rest)

def decodeFrom : ℕ → Bytes → Option (List Instr)
  | _, [] => some []
  | 0, _ :: _ => none
  | fuel + 1, opcode :: rest => do
    let (instr, rest) ← readInstr opcode rest
    let instrs ← decodeFrom fuel rest
    some (instr :: instrs)

/-- All instructions of a script, if its last one is complete. -/
def decode (script : Bytes) : Option (List Instr) := decodeFrom script.length script

variable {script rest rest' data : Bytes} {opcode : UInt8} {instr : Instr} {n fuel : ℕ}

theorem takeExact_append (data rest : Bytes) :
    takeExact data.length (data ++ rest) = some (data, rest) := by
  simp [takeExact]

theorem takeExact_eq_some (h : takeExact n script = some (data, rest)) :
    data.length = n ∧ script = data ++ rest := by
  unfold takeExact at h
  split at h
  · simp only [Option.some.injEq, Prod.mk.injEq] at h
    obtain ⟨rfl, rfl⟩ := h
    constructor
    · rw [List.length_take]
      omega
    · exact (List.take_append_drop n script).symm
  · cases h

theorem length_le_of_readInstr (h : readInstr opcode rest = some (instr, rest')) :
    rest'.length ≤ rest.length := by
  unfold readInstr at h
  split at h
  · obtain ⟨⟨data, after⟩, htake, heq⟩ := Option.bind_eq_some_iff.mp h
    obtain ⟨_, rfl⟩ := takeExact_eq_some htake
    cases heq
    simp
  · split at h
    · obtain ⟨⟨length, after⟩, hlength, h⟩ := Option.bind_eq_some_iff.mp h
      obtain ⟨⟨data, after'⟩, htake, heq⟩ := Option.bind_eq_some_iff.mp h
      obtain ⟨_, rfl⟩ := takeExact_eq_some hlength
      obtain ⟨_, rfl⟩ := takeExact_eq_some htake
      cases heq
      simp
      omega
    · cases h
      exact le_rfl

theorem opcode_of_readInstr (h : readInstr opcode rest = some (instr, rest')) :
    instr.opcode = opcode := by
  unfold readInstr at h
  split at h
  · obtain ⟨_, _, heq⟩ := Option.bind_eq_some_iff.mp h
    cases heq
    rfl
  · split at h
    · obtain ⟨_, _, h⟩ := Option.bind_eq_some_iff.mp h
      obtain ⟨_, _, heq⟩ := Option.bind_eq_some_iff.mp h
      cases heq
      rfl
    · cases h
      rfl

/-- Fuel beyond the length of the script changes nothing. -/
theorem decodeFrom_of_le (h : script.length ≤ fuel) : decodeFrom fuel script = decode script := by
  have hall : ∀ fuel fuel' (script : Bytes), script.length ≤ fuel → script.length ≤ fuel' →
      decodeFrom fuel script = decodeFrom fuel' script := by
    intro fuel
    induction fuel with
    | zero =>
      intro fuel' script hle _
      obtain rfl := List.length_eq_zero_iff.mp (Nat.le_zero.mp hle)
      cases fuel' <;> rfl
    | succ fuel ih =>
      intro fuel' script hle hle'
      cases script with
      | nil => cases fuel' <;> rfl
      | cons opcode rest =>
        cases fuel' with
        | zero => simp at hle'
        | succ fuel' =>
          rw [List.length_cons] at hle hle'
          simp only [decodeFrom]
          cases hread : readInstr opcode rest with
          | none => rfl
          | some read =>
            have hlength := length_le_of_readInstr hread
            simp only [Option.bind_eq_bind, Option.bind_some]
            rw [ih fuel' read.2 (by omega) (by omega)]
  exact hall fuel script.length script h le_rfl

@[simp] theorem decode_nil : decode [] = some [] := rfl

theorem decode_cons (opcode : UInt8) (rest : Bytes) :
    decode (opcode :: rest) = (readInstr opcode rest).bind fun read =>
      (decode read.2).map fun instrs => read.1 :: instrs := by
  simp only [decode, List.length_cons, decodeFrom]
  cases hread : readInstr opcode rest with
  | none => rfl
  | some read =>
    simp only [Option.bind_eq_bind, Option.bind_some]
    rw [decodeFrom_of_le (length_le_of_readInstr hread), decode]
    cases decodeFrom read.2.length read.2 <;> rfl

/-- An opcode that pushes no data from the script. -/
theorem decode_plain (h : 0x4e < opcode) (rest : Bytes) :
    decode (opcode :: rest) =
      (decode rest).map fun instrs => { opcode := opcode, data := [] } :: instrs := by
  have hread : readInstr opcode rest = some ({ opcode := opcode, data := [] }, rest) := by
    have hshort : ¬ opcode ≤ 0x4b := by
      have hbetween : (0x4b : UInt8) < 0x4e := by decide
      exact UInt8.not_le.mpr (UInt8.lt_trans hbetween h)
    rw [readInstr, if_neg hshort, if_neg (UInt8.not_le.mpr h)]
  rw [decode_cons, hread, Option.bind_some]

/-- Data of up to 75 bytes behind its length. -/
theorem decode_short (data : Bytes) (h : data.length ≤ 0x4b) (rest : Bytes) :
    decode (UInt8.ofNat data.length :: (data ++ rest)) =
      (decode rest).map fun instrs =>
        { opcode := UInt8.ofNat data.length, data := data } :: instrs := by
  have hnat : (UInt8.ofNat data.length).toNat = data.length :=
    UInt8.toNat_ofNat_of_lt' (lt_of_le_of_lt h (by norm_num))
  have hle : UInt8.ofNat data.length ≤ 0x4b := by
    rw [UInt8.le_iff_toNat_le, hnat]
    exact h
  have hread : readInstr (UInt8.ofNat data.length) (data ++ rest) =
      some ({ opcode := UInt8.ofNat data.length, data := data }, rest) := by
    rw [readInstr, if_pos hle, hnat, takeExact_append]
    rfl
  rw [decode_cons, hread, Option.bind_some]

/-- Data behind the bytes that say how long it is. -/
theorem decode_long (length : Bytes) (hop : opcode = 0x4c ∨ opcode = 0x4d ∨ opcode = 0x4e)
    (hwidth : length.length = lengthWidth opcode) (hlength : readLe length = data.length)
    (rest : Bytes) :
    decode (opcode :: (length ++ (data ++ rest))) =
      (decode rest).map fun instrs => { opcode := opcode, data := data } :: instrs := by
  have hread : readInstr opcode (length ++ (data ++ rest)) =
      some ({ opcode := opcode, data := data }, rest) := by
    have hshort : ¬ opcode ≤ 0x4b := by
      rcases hop with rfl | rfl | rfl <;> decide
    have hlong : opcode ≤ 0x4e := by
      rcases hop with rfl | rfl | rfl <;> decide
    rw [readInstr, if_neg hshort, if_pos hlong, ← hwidth, takeExact_append]
    simp only [Option.bind_eq_bind, Option.bind_some]
    rw [hlength, takeExact_append]
    rfl
  rw [decode_cons, hread, Option.bind_some]

/-- The first instruction of a script is that of its first byte. -/
theorem of_decode_cons {instrs : List Instr} (h : decode script = some (instr :: instrs)) :
    ∃ rest rest', script = instr.opcode :: rest ∧
      readInstr instr.opcode rest = some (instr, rest') ∧ decode rest' = some instrs := by
  cases script with
  | nil => cases h
  | cons opcode rest =>
    rw [decode_cons] at h
    obtain ⟨⟨read, rest'⟩, hread, h⟩ := Option.bind_eq_some_iff.mp h
    obtain ⟨after, hafter, heq⟩ := Option.map_eq_some_iff.mp h
    obtain ⟨rfl, rfl⟩ := List.cons.inj heq
    rw [opcode_of_readInstr hread]
    exact ⟨rest, rest', rfl, hread, hafter⟩

/-- What a push of up to 75 bytes is read from. -/
theorem of_decode_short {instrs : List Instr} (h : decode script = some (instr :: instrs))
    (hshort : instr.opcode ≤ 0x4b) :
    ∃ rest, script = UInt8.ofNat instr.data.length :: (instr.data ++ rest) ∧
      instr.data.length = instr.opcode.toNat ∧ decode rest = some instrs := by
  obtain ⟨rest, rest', rfl, hread, hrest⟩ := of_decode_cons h
  rw [readInstr, if_pos hshort] at hread
  obtain ⟨⟨data, after⟩, htake, heq⟩ := Option.bind_eq_some_iff.mp hread
  obtain ⟨hlength, rfl⟩ := takeExact_eq_some htake
  simp only [Option.some.injEq, Prod.mk.injEq] at heq
  obtain ⟨hinstr, rfl⟩ := heq
  have hdata : data = instr.data := congrArg Instr.data hinstr
  subst hdata
  refine ⟨after, ?_, hlength, hrest⟩
  rw [hlength, UInt8.ofNat_toNat]

/-- What a push of up to 255 bytes is read from. -/
theorem of_decode_long {instrs : List Instr} (h : decode script = some (instr :: instrs))
    (hlong : instr.opcode = 0x4c) :
    ∃ rest, script = 0x4c :: UInt8.ofNat instr.data.length :: (instr.data ++ rest) ∧
      decode rest = some instrs := by
  obtain ⟨rest, rest', rfl, hread, hrest⟩ := of_decode_cons h
  rw [hlong, readInstr, if_neg (by decide), if_pos (by decide)] at hread
  obtain ⟨⟨length, after⟩, hwidth, hread⟩ := Option.bind_eq_some_iff.mp hread
  obtain ⟨⟨data, after'⟩, htake, heq⟩ := Option.bind_eq_some_iff.mp hread
  obtain ⟨hone, rfl⟩ := takeExact_eq_some hwidth
  obtain ⟨hlength, rfl⟩ := takeExact_eq_some htake
  simp only [Option.some.injEq, Prod.mk.injEq] at heq
  obtain ⟨hinstr, rfl⟩ := heq
  have hdata : data = instr.data := congrArg Instr.data hinstr
  subst hdata
  refine ⟨after', ?_, hrest⟩
  obtain ⟨byte, rfl⟩ := List.length_eq_one_iff.mp hone
  have hbyte : readLe [byte] = byte.toNat := by simp [readLe]
  rw [hlength, hbyte, UInt8.ofNat_toNat, hlong]
  rfl

/-! ## Operations -/

/-- What an instruction means. -/
inductive Op where
  | push (data : Bytes)
  | opIf
  | opNotif
  | opElse
  | opEndif
  | drop
  | size
  | equal
  | equalVerify
  | hash160
  | checkSig
  | checkSigVerify
  | checkLockTimeVerify
  | other (opcode : UInt8)
  deriving DecidableEq, Repr

def Instr.op (instr : Instr) : Op :=
  if instr.opcode ≤ 0x4e then .push instr.data
  else if instr.opcode = 0x4f then .push [0x81]
  else if 0x51 ≤ instr.opcode ∧ instr.opcode ≤ 0x60 then .push [instr.opcode - 0x50]
  else match instr.opcode.toNat with
    | 0x63 => .opIf
    | 0x64 => .opNotif
    | 0x67 => .opElse
    | 0x68 => .opEndif
    | 0x75 => .drop
    | 0x82 => .size
    | 0x87 => .equal
    | 0x88 => .equalVerify
    | 0xa9 => .hash160
    | 0xac => .checkSig
    | 0xad => .checkSigVerify
    | 0xb1 => .checkLockTimeVerify
    | _ => .other instr.opcode

/-- An instruction that a script with pushes only may have: one up to `OP_16`. -/
def Instr.isPush (instr : Instr) : Bool := instr.opcode ≤ 0x60

/-- The bytes an operation takes in a script, at most. -/
def Op.width : Op → ℕ
  | .push data => data.length + 5
  | _ => 1

theorem one_le_width (op : Op) : 1 ≤ op.width := by
  cases op with
  | push data => exact Nat.le_add_left 1 (data.length + 4)
  | _ => exact le_rfl

theorem length_readInstr_le (h : readInstr opcode rest = some (instr, rest')) :
    rest.length + 1 ≤ instr.op.width + rest'.length := by
  unfold readInstr at h
  split at h
  · rename_i hshort
    obtain ⟨⟨data, after⟩, htake, heq⟩ := Option.bind_eq_some_iff.mp h
    obtain ⟨_, rfl⟩ := takeExact_eq_some htake
    cases heq
    have hpush : opcode ≤ 0x4e := UInt8.le_trans hshort (by decide)
    have hop : Instr.op { opcode := opcode, data := data } = .push data := if_pos hpush
    rw [hop, Op.width, List.length_append]
    omega
  · split at h
    · rename_i hlong
      obtain ⟨⟨length, after⟩, hlength, h⟩ := Option.bind_eq_some_iff.mp h
      obtain ⟨⟨data, after'⟩, htake, heq⟩ := Option.bind_eq_some_iff.mp h
      obtain ⟨hwidth, rfl⟩ := takeExact_eq_some hlength
      obtain ⟨_, rfl⟩ := takeExact_eq_some htake
      cases heq
      have hop : Instr.op { opcode := opcode, data := data } = .push data := if_pos hlong
      have hle : lengthWidth opcode ≤ 4 := by
        unfold lengthWidth
        split
        · omega
        · split <;> omega
      rw [hop, Op.width, List.length_append, List.length_append]
      omega
    · cases h
      have hone := one_le_width (Instr.op { opcode := opcode, data := [] })
      omega

theorem length_le_of_decode {instrs : List Instr} (h : decode script = some instrs) :
    script.length ≤ ((instrs.map Instr.op).map Op.width).sum := by
  induction hlength : script.length using Nat.strong_induction_on generalizing script instrs with
  | _ n ih =>
    cases script with
    | nil =>
      rw [← hlength]
      exact Nat.zero_le _
    | cons opcode rest =>
      rw [decode_cons] at h
      obtain ⟨⟨instr, rest'⟩, hread, htail⟩ := Option.bind_eq_some_iff.mp h
      obtain ⟨after, hafter, rfl⟩ := Option.map_eq_some_iff.mp htail
      have hle := length_le_of_readInstr hread
      have hstep := length_readInstr_le hread
      rw [List.length_cons] at hlength
      have hrest := ih rest'.length (by omega) hafter rfl
      simp only [List.map_cons, List.sum_cons]
      omega
/-- What a script is checked against: the transaction that spends, and how its input is signed. -/
structure Context where
  hash160 : Bytes → Bytes
  /-- The signature, with its hash type, verifies for the key. -/
  checkSig : Bytes → Bytes → Bool
  lockTime : ℕ
  /-- The sequence number of the input is not the final one. -/
  notFinal : Bool

/-- Lock times below are block heights, the others are times. -/
def lockTimeThreshold : ℕ := 500000000

/-- `OP_CHECKLOCKTIMEVERIFY` with the given operand. -/
def Context.reached (ctx : Context) (operand : Bytes) : Bool :=
  match scriptNum 5 operand with
  | none => false
  | some n =>
    decide (0 ≤ n) && decide (n < lockTimeThreshold ↔ ctx.lockTime < lockTimeThreshold) &&
      decide (n ≤ ctx.lockTime) && ctx.notFinal

/-- An operation on the stack; the conditionals are not among them. -/
def exec (ctx : Context) : Op → Stack → Option Stack
  | .push data, stack => some (data :: stack)
  | .drop, _ :: stack => some stack
  | .size, x :: stack => some (encodeNat x.length :: x :: stack)
  | .equal, x :: y :: stack => some (ofBool (x = y) :: stack)
  | .equalVerify, x :: y :: stack => if x = y then some stack else none
  | .hash160, x :: stack => some (ctx.hash160 x :: stack)
  | .checkSig, key :: sig :: stack => some (ofBool (ctx.checkSig sig key) :: stack)
  | .checkSigVerify, key :: sig :: stack => if ctx.checkSig sig key then some stack else none
  | .checkLockTimeVerify, x :: stack => if ctx.reached x then some (x :: stack) else none
  | _, _ => none

section Exec

variable (ctx : Context) (x y key sig : Bytes) (stack : Stack)

@[simp] theorem exec_push : exec ctx (.push x) stack = some (x :: stack) := rfl

@[simp] theorem exec_drop : exec ctx .drop (x :: stack) = some stack := rfl

@[simp] theorem exec_size :
    exec ctx .size (x :: stack) = some (encodeNat x.length :: x :: stack) := rfl

@[simp] theorem exec_equal :
    exec ctx .equal (x :: y :: stack) = some (ofBool (x = y) :: stack) := rfl

@[simp] theorem exec_equalVerify :
    exec ctx .equalVerify (x :: y :: stack) = if x = y then some stack else none := rfl

@[simp] theorem exec_hash160 :
    exec ctx .hash160 (x :: stack) = some (ctx.hash160 x :: stack) := rfl

@[simp] theorem exec_checkSig :
    exec ctx .checkSig (key :: sig :: stack) = some (ofBool (ctx.checkSig sig key) :: stack) := rfl

@[simp] theorem exec_checkSigVerify :
    exec ctx .checkSigVerify (key :: sig :: stack) =
      if ctx.checkSig sig key then some stack else none := rfl

@[simp] theorem exec_checkLockTimeVerify :
    exec ctx .checkLockTimeVerify (x :: stack) =
      if ctx.reached x then some (x :: stack) else none := rfl

@[simp] theorem exec_size_nil : exec ctx .size [] = none := rfl

@[simp] theorem exec_checkSig_nil : exec ctx .checkSig [key] = none := rfl

@[simp] theorem exec_checkSigVerify_nil : exec ctx .checkSigVerify [key] = none := rfl

end Exec

/-- The stack, and for each open conditional whether its branch is executed. -/
structure State where
  stack : Stack
  conditions : List Bool

def State.executing (s : State) : Bool := s.conditions.all id

/-- A conditional that is not executed opens a branch that is not executed. -/
def State.openIf (s : State) (wanted : Bool) : Option State :=
  if s.executing then
    match s.stack with
    | [] => none
    | x :: stack =>
      some { stack := stack, conditions := (castToBool x == wanted) :: s.conditions }
  else
    some { s with conditions := false :: s.conditions }

def step (ctx : Context) (s : State) : Op → Option State
  | .opIf => s.openIf true
  | .opNotif => s.openIf false
  | .opElse =>
    match s.conditions with
    | [] => none
    | c :: conditions => some { s with conditions := (!c) :: conditions }
  | .opEndif =>
    match s.conditions with
    | [] => none
    | _ :: conditions => some { s with conditions := conditions }
  | op =>
    if s.executing then (exec ctx op s.stack).map fun stack => { s with stack := stack }
    else some s

def run (ctx : Context) (code : List Op) (s : State) : Option State := code.foldlM (step ctx) s

/-- The stack a script leaves, if all its conditionals are closed. -/
def evalScript (ctx : Context) (script : Bytes) (stack : Stack) : Option Stack := do
  let instrs ← decode script
  let s ← run ctx (instrs.map Instr.op) { stack := stack, conditions := [] }
  if s.conditions = [] then some s.stack else none

/-- The top of the stack is true. -/
def success : Stack → Bool
  | [] => false
  | x :: _ => castToBool x

/-- A script is satisfied by a stack. -/
def accepts (ctx : Context) (script : Bytes) (stack : Stack) : Bool :=
  match evalScript ctx script stack with
  | none => false
  | some stack => success stack

/-- The script of an output that pays to the hash of another script. -/
def payToScriptHash (hash : Bytes) : Bytes := 0xa9 :: 0x14 :: (hash ++ [0x87])

/-- An input that spends an output paid to a script hash: its script only pushes, the last item
is a script of the hash, and the items below satisfy that script. -/
def spends (ctx : Context) (scriptSig hash : Bytes) : Bool :=
  match decode scriptSig with
  | none => false
  | some instrs =>
    instrs.all Instr.isPush &&
      match evalScript ctx scriptSig [] with
      | none => false
      | some [] => false
      | some (redeem :: stack) =>
        accepts ctx (payToScriptHash hash) (redeem :: stack) && accepts ctx redeem stack

/-! ## Blocks -/

variable {ctx : Context} {code code₁ code₂ : List Op} {f g : Stack → Option Stack}
  {stack : Stack} {op : Op}

/-- Code that leaves the open conditionals as they are, with what it does to the stack. -/
structure Block (ctx : Context) (code : List Op) (f : Stack → Option Stack) : Prop where
  executed : ∀ s : State, s.executing = true →
    run ctx code s = (f s.stack).map fun stack => { s with stack := stack }
  skipped : ∀ s : State, s.executing = false → run ctx code s = some s

/-- An operation that opens or closes no conditional. -/
def Op.isPlain : Op → Bool
  | .opIf => false
  | .opNotif => false
  | .opElse => false
  | .opEndif => false
  | _ => true

theorem step_plain (h : op.isPlain = true) (s : State) :
    step ctx s op =
      if s.executing then (exec ctx op s.stack).map fun stack => { s with stack := stack }
      else some s := by
  cases op <;> first | rfl | cases h

theorem Block.nil : Block ctx [] some :=
  ⟨fun _ _ => rfl, fun _ _ => rfl⟩

theorem Block.append (h₁ : Block ctx code₁ f) (h₂ : Block ctx code₂ g) :
    Block ctx (code₁ ++ code₂) fun stack => (f stack).bind g := by
  constructor
  · intro s hs
    rw [run, List.foldlM_append, ← run, h₁.executed s hs]
    cases f s.stack with
    | none => rfl
    | some stack => exact h₂.executed { s with stack := stack } hs
  · intro s hs
    rw [run, List.foldlM_append, ← run, h₁.skipped s hs]
    exact h₂.skipped s hs

theorem Block.single (h : op.isPlain = true) : Block ctx [op] (exec ctx op) := by
  constructor
  · intro s hs
    rw [run, List.foldlM_cons, step_plain h, if_pos hs]
    cases exec ctx op s.stack <;> rfl
  · intro s hs
    rw [run, List.foldlM_cons, step_plain h, hs]
    rfl

theorem Block.cons (h : op.isPlain = true) (hcode : Block ctx code f) :
    Block ctx (op :: code) fun stack => (exec ctx op stack).bind f :=
  (Block.single h).append hcode

/-- What a conditional does: the top of the stack chooses the branch. -/
def choose (f g : Stack → Option Stack) : Stack → Option Stack
  | [] => none
  | x :: stack => if castToBool x then f stack else g stack

/-- One branch of a conditional is executed and the other is skipped. -/
theorem Block.ifElse (h₁ : Block ctx code₁ f) (h₂ : Block ctx code₂ g) :
    Block ctx (.opIf :: (code₁ ++ .opElse :: (code₂ ++ [.opEndif]))) (choose f g) := by
  have hrun : ∀ s : State, run ctx (.opIf :: (code₁ ++ .opElse :: (code₂ ++ [.opEndif]))) s =
      (((s.openIf true).bind (run ctx code₁)).bind fun s => (step ctx s .opElse).bind fun s =>
        (run ctx code₂ s).bind fun s => step ctx s .opEndif) := by
    intro s
    simp [run, step, List.foldlM_append, Option.bind_assoc]
  constructor
  · intro s hs
    rw [hrun, State.openIf, if_pos hs]
    cases hstack : s.stack with
    | nil => rfl
    | cons x stack =>
      have hinner : ∀ (b : Bool) (stack : Stack),
          State.executing { stack := stack, conditions := b :: s.conditions } = b := by
        intro b stack
        change (b && s.conditions.all id) = b
        rw [show s.conditions.all id = true from hs, Bool.and_true]
      cases hx : castToBool x with
      | true =>
        simp only [choose, hx, beq_self_eq_true, Option.bind_some, if_true]
        rw [h₁.executed _ (hinner true stack)]
        cases f stack with
        | none => rfl
        | some after =>
          simp only [Option.map_some, Option.bind_some, step, Bool.not_true]
          rw [h₂.skipped _ (hinner false after)]
          rfl
      | false =>
        simp only [choose, hx, Option.bind_some]
        have hskip : (false == true) = false := rfl
        rw [hskip, h₁.skipped _ (hinner false stack)]
        simp only [Option.bind_some, step, Bool.not_false]
        rw [h₂.executed _ (hinner true stack)]
        cases g stack with
        | none => simp
        | some after => simp
  · intro s hs
    have hinner : ∀ b : Bool,
        State.executing { s with conditions := b :: s.conditions } = false := by
      intro b
      change (b && s.conditions.all id) = false
      rw [show s.conditions.all id = false from hs, Bool.and_false]
    rw [hrun, State.openIf, hs]
    simp only [Bool.false_eq_true, if_false, Option.bind_some]
    rw [h₁.skipped _ (hinner false)]
    simp only [Option.bind_some, step, Bool.not_false]
    rw [h₂.skipped _ (hinner true)]
    rfl

/-- A script whose code is a block does what the block does. -/
theorem Block.evalScript {instrs : List Instr} (hcode : Block ctx (instrs.map Instr.op) f)
    (hdecode : decode script = some instrs) : evalScript ctx script stack = f stack := by
  rw [BitcoinScript.evalScript, hdecode]
  simp only [Option.bind_eq_bind, Option.bind_some]
  rw [hcode.executed { stack := stack, conditions := [] } rfl]
  cases f stack <;> rfl

/-- What is left of a stack is true on top. -/
def satisfied (f : Stack → Option Stack) (stack : Stack) : Bool :=
  match f stack with
  | none => false
  | some stack => success stack

theorem Block.accepts {instrs : List Instr} (hcode : Block ctx (instrs.map Instr.op) f)
    (hdecode : decode script = some instrs) : accepts ctx script stack = satisfied f stack := by
  rw [BitcoinScript.accepts, hcode.evalScript hdecode, satisfied]

theorem satisfied_choose_cons (x : Bytes) (stack : Stack) :
    satisfied (choose f g) (x :: stack) =
      if castToBool x then satisfied f stack else satisfied g stack := by
  simp only [satisfied, choose]
  cases castToBool x <;> rfl

/-! ## Scripts that only push -/

/-- A script that pushes the given items, the last of them on top, with one instruction each. -/
structure Pushes (script : Bytes) (instrs : List Instr) (items : List Bytes) : Prop where
  decode : decode script = some instrs
  isPush : ∀ instr ∈ instrs, instr.isPush = true
  items : instrs.map Instr.op = items.map Op.push

theorem run_pushes (items : List Bytes) (stack : Stack) :
    run ctx (items.map Op.push) { stack := stack, conditions := [] } =
      some { stack := items.reverse ++ stack, conditions := [] } := by
  induction items generalizing stack with
  | nil => rfl
  | cons x items ih =>
    change run ctx (items.map Op.push) { stack := x :: stack, conditions := [] } = _
    rw [ih, List.reverse_cons, List.append_assoc, List.singleton_append]

/-- A script that runs through and only has push instructions pushes something with each. -/
theorem items_of_run {instrs : List Instr} (hpush : ∀ instr ∈ instrs, instr.isPush = true)
    {s s' : State} (hs : s.executing = true) (hrun : run ctx (instrs.map Instr.op) s = some s') :
    ∃ items : List Bytes, instrs.map Instr.op = items.map Op.push := by
  induction instrs generalizing s with
  | nil => exact ⟨[], rfl⟩
  | cons instr instrs ih =>
    rw [List.forall_mem_cons] at hpush
    obtain ⟨after, hstep, hrest⟩ := Option.bind_eq_some_iff.mp hrun
    have hle : instr.opcode ≤ 0x60 := by simpa [Instr.isPush] using hpush.1
    have hop : (∃ data, instr.op = .push data) ∨ ∃ opcode, instr.op = .other opcode := by
      unfold Instr.op
      split
      · exact Or.inl ⟨_, rfl⟩
      · split
        · exact Or.inl ⟨_, rfl⟩
        · split
          · exact Or.inl ⟨_, rfl⟩
          · rename_i hmissing
            right
            rw [UInt8.le_iff_toNat_le] at hle
            change instr.opcode.toNat ≤ 96 at hle
            split <;> first | exact ⟨_, rfl⟩ | omega
    rcases hop with ⟨data, hdata⟩ | ⟨opcode, hother⟩
    · have hafter : after.executing = true := by
        rw [hdata] at hstep
        simp only [step, hs, if_true, exec_push, Option.map_some, Option.some.injEq] at hstep
        rw [← hstep]
        exact hs
      obtain ⟨items, hitems⟩ := ih hpush.2 hafter hrest
      exact ⟨data :: items, by rw [List.map_cons, List.map_cons, hdata, hitems]⟩
    · rw [hother] at hstep
      simp [step, hs, exec] at hstep

theorem Pushes.evalScript {instrs : List Instr} {items : List Bytes}
    (hpushes : Pushes script instrs items) :
    evalScript ctx script stack = some (items.reverse ++ stack) := by
  rw [BitcoinScript.evalScript, hpushes.decode]
  simp only [Option.bind_eq_bind, Option.bind_some]
  rw [hpushes.items, run_pushes]
  rfl

/-- The script of an output paid to a hash compares the hash of the top. -/
theorem accepts_payToScriptHash {hash : Bytes} (hhash : hash.length = 20) (redeem : Bytes) :
    accepts ctx (payToScriptHash hash) (redeem :: stack) =
      decide (ctx.hash160 redeem = hash) := by
  have hdecode : decode (payToScriptHash hash) = some [⟨0xa9, []⟩, ⟨0x14, hash⟩, ⟨0x87, []⟩] := by
    have hpush := decode_short hash (by omega) [0x87]
    rw [show decode [0x87] = some [⟨0x87, []⟩] from rfl, hhash] at hpush
    have hpush' : decode (0x14 :: (hash ++ [0x87])) = some [⟨0x14, hash⟩, ⟨0x87, []⟩] := hpush
    rw [payToScriptHash, decode_plain (by decide), hpush']
    rfl
  have hblock : Block ctx [.hash160, .push hash, .equal] _ :=
    Block.cons rfl (Block.cons rfl (Block.single rfl))
  rw [BitcoinScript.accepts, Block.evalScript (f := _) hblock hdecode]
  simp only [exec_hash160, exec_push, exec_equal, Option.bind_some, success, castToBool_ofBool]
  exact decide_eq_decide.mpr eq_comm

/-- An input whose script pushes the given script on top of a stack. -/
theorem Pushes.spends {scriptSig hash redeem : Bytes} {instrs : List Instr}
    (hpushes : Pushes scriptSig instrs (redeem :: stack).reverse) (hhash : hash.length = 20) :
    spends ctx scriptSig hash =
      (decide (ctx.hash160 redeem = hash) && BitcoinScript.accepts ctx redeem stack) := by
  have hall : instrs.all Instr.isPush = true := List.all_eq_true.mpr hpushes.isPush
  unfold BitcoinScript.spends
  simp only [hpushes.decode, hpushes.evalScript, List.append_nil, List.reverse_reverse,
    accepts_payToScriptHash hhash, hall, Bool.true_and]

/-- An input spends an output paid to a hash by pushing a script of the hash and below it what
satisfies the script. -/
theorem spends_iff {scriptSig hash : Bytes} (hhash : hash.length = 20) :
    spends ctx scriptSig hash = true ↔
      ∃ instrs redeem stack, Pushes scriptSig instrs (redeem :: stack).reverse ∧
        ctx.hash160 redeem = hash ∧ accepts ctx redeem stack = true := by
  constructor
  · intro hspends
    unfold spends at hspends
    cases hdecode : decode scriptSig with
    | none => simp [hdecode] at hspends
    | some instrs =>
      simp only [hdecode, Bool.and_eq_true, List.all_eq_true] at hspends
      obtain ⟨hpush, hspends⟩ := hspends
      cases heval : evalScript ctx scriptSig [] with
      | none => simp [heval] at hspends
      | some after =>
        have hitems : ∃ items, Pushes scriptSig instrs items := by
          rw [BitcoinScript.evalScript, hdecode] at heval
          simp only [Option.bind_eq_bind, Option.bind_some] at heval
          obtain ⟨s', hrun, _⟩ := Option.bind_eq_some_iff.mp heval
          obtain ⟨items, hitems⟩ := items_of_run hpush rfl hrun
          exact ⟨items, hdecode, hpush, hitems⟩
        obtain ⟨items, hitems⟩ := hitems
        rw [hitems.evalScript, List.append_nil] at heval
        cases heval
        rw [hitems.evalScript, List.append_nil] at hspends
        cases hrev : items.reverse with
        | nil => simp [hrev] at hspends
        | cons redeem stack =>
          simp only [hrev, accepts_payToScriptHash hhash, Bool.and_eq_true,
            decide_eq_true_eq] at hspends
          refine ⟨instrs, redeem, stack, ?_, hspends⟩
          rwa [← hrev, List.reverse_reverse]
  · intro hspends
    obtain ⟨instrs, redeem, stack, hpushes, hhash', haccepts⟩ := hspends
    rw [hpushes.spends hhash, haccepts, Bool.and_true]
    exact decide_eq_true hhash'

end DeXFG.Library.BitcoinScript
