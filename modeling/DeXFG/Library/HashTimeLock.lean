import DeXFG.Library.BitcoinScript

/-!
# Hash locks and time locks

The pieces that contracts on hashes and times are put together from: a check of
a signature, a preimage of 32 bytes, a time that has come. Each is known by the
stacks that satisfy it and what follows it.
-/
namespace DeXFG.Library.BitcoinScript

/-- What code without conditionals does to the stack. -/
def execAll (ctx : Context) (code : List Op) (stack : Stack) : Option Stack :=
  code.foldlM (fun stack op => exec ctx op stack) stack

/-- The signature of a key. -/
def signedBy (key : Bytes) : List Op := [.push key, .checkSig]

/-- The signature of a key, with more to come. -/
def signedAlsoBy (key : Bytes) : List Op := [.push key, .checkSigVerify]

/-- A preimage of 32 bytes. -/
def hashLock (hash : Bytes) : List Op :=
  [.size, .push [32], .equalVerify, .hash160, .push hash, .equalVerify]

/-- A time that the transaction must have reached. -/
def timeLock (operand : Bytes) : List Op := [.push operand, .checkLockTimeVerify, .drop]

@[simp] theorem execAll_nil (ctx : Context) (stack : Stack) : execAll ctx [] stack = some stack :=
  rfl

@[simp] theorem execAll_cons (ctx : Context) (op : Op) (code : List Op) (stack : Stack) :
    execAll ctx (op :: code) stack = (exec ctx op stack).bind (execAll ctx code) := rfl

variable {ctx : Context} {code : List Op} {f g : Stack → Option Stack} {stack : Stack}
  {key hash operand : Bytes}

theorem Block.ofPlain (hplain : ∀ op ∈ code, op.isPlain = true) :
    Block ctx code (execAll ctx code) := by
  induction code with
  | nil => exact Block.nil
  | cons op code ih =>
    rw [List.forall_mem_cons] at hplain
    exact Block.cons hplain.1 (ih hplain.2)

theorem satisfied_choose :
    satisfied (choose f g) stack = true ↔
      ∃ x rest, stack = x :: rest ∧
        (if castToBool x then satisfied f rest = true else satisfied g rest = true) := by
  cases stack with
  | nil => simp [satisfied, choose]
  | cons x rest =>
    rw [satisfied_choose_cons]
    cases hx : castToBool x <;> simp [hx]

theorem satisfied_signedBy :
    satisfied (execAll ctx (signedBy key)) stack = true ↔
      ∃ sig rest, stack = sig :: rest ∧ ctx.checkSig sig key = true := by
  cases stack with
  | nil => simp [satisfied, signedBy]
  | cons sig rest => simp [satisfied, signedBy, success]

theorem satisfied_signedAlsoBy :
    satisfied (execAll ctx (signedAlsoBy key ++ code)) stack = true ↔
      ∃ sig rest, stack = sig :: rest ∧ ctx.checkSig sig key = true ∧
        satisfied (execAll ctx code) rest = true := by
  cases stack with
  | nil => simp [satisfied, signedAlsoBy]
  | cons sig rest =>
    cases hsig : ctx.checkSig sig key with
    | false => simp [satisfied, signedAlsoBy, hsig]
    | true => simp [satisfied, signedAlsoBy, hsig]

/-- The size of the preimage is compared with the byte 32, which is the number 32. -/
theorem satisfied_hashLock :
    satisfied (execAll ctx (hashLock hash ++ code)) stack = true ↔
      ∃ preimage rest, stack = preimage :: rest ∧ preimage.length = 32 ∧
        ctx.hash160 preimage = hash ∧ satisfied (execAll ctx code) rest = true := by
  have hnumber : encodeNat 32 = [32] := by
    simp [encodeNat]
  cases stack with
  | nil => simp [satisfied, hashLock]
  | cons preimage rest =>
    have hsize : [32] = encodeNat preimage.length ↔ preimage.length = 32 := by
      rw [← hnumber, encodeNat_inj, eq_comm]
    by_cases hlength : preimage.length = 32
    · by_cases hhash : hash = ctx.hash160 preimage
      · simp [satisfied, hashLock, hlength, hnumber, ← hhash]
      · simp [satisfied, hashLock, hlength, hnumber, hhash, Ne.symm hhash]
    · simp [satisfied, hashLock, hsize, hlength]

theorem satisfied_timeLock :
    satisfied (execAll ctx (timeLock operand ++ code)) stack = true ↔
      ctx.reached operand = true ∧ satisfied (execAll ctx code) stack = true := by
  cases hreached : ctx.reached operand with
  | false => simp [satisfied, timeLock, hreached]
  | true => simp [satisfied, timeLock, hreached]

/-! ## Times -/

/-- The transaction is locked to the time or a later one, and the lock is in force. -/
def Context.TimeReached (ctx : Context) (time : ℕ) : Prop :=
  (time < lockTimeThreshold ↔ ctx.lockTime < lockTimeThreshold) ∧ time ≤ ctx.lockTime ∧
    ctx.notFinal = true

/-- An operand without the sign bit is the time it spells. -/
theorem reached_iff_of_unsigned (hlength : operand.length ≤ 5)
    (hsign : 2 * readLe operand < 2 ^ (8 * operand.length)) :
    ctx.reached operand = true ↔ ctx.TimeReached (readLe operand) := by
  unfold Context.reached Context.TimeReached scriptNum
  rw [if_neg (by omega), if_neg (by omega)]
  simp [and_assoc]

/-- An operand with the sign bit is no positive number, hence no time. -/
theorem lockTime_lt_of_reached (hsign : 2 ^ (8 * operand.length) ≤ 2 * readLe operand)
    (hreached : ctx.reached operand = true) : ctx.lockTime < lockTimeThreshold := by
  unfold Context.reached scriptNum at hreached
  split at hreached
  · cases hreached
  · rename_i n hn
    split at hn
    · cases hn
    · simp only [Option.some.injEq] at hn
      subst hn
      simp only [Bool.and_eq_true, decide_eq_true_eq] at hreached
      obtain ⟨⟨⟨hnonneg, hkind⟩, _⟩, _⟩ := hreached
      apply hkind.mp
      have hpos : 0 < lockTimeThreshold := by decide
      omega

end DeXFG.Library.BitcoinScript
