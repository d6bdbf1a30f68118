import DeXFG.Utxo.ScriptAnalysis

/-!
# Scripts that can be analysed

Which scripts every classifier and every walk gets through, and which addresses come back
from the scripts that pay them.
-/
namespace DeXFG.Utxo
open Library.BitcoinScript

namespace Script

variable (platform : Platform) (script : Script)

/-! ## What is asked for -/

/-- All instructions from a position on, if each of them can be read. -/
def instructionsFrom (pc : ℕ) : Option (List Instruction) :=
  if script.length ≤ pc then some []
  else
    match _h : script.instructionAt platform pc with
    | .error _ => none
    | .ok x => (instructionsFrom (pc + x.step)).map (x :: ·)
termination_by script.length - pc
decreasing_by
  have := one_le_of_instructionAt _h
  have := lt_of_instructionAt _h
  omega

def isKeyInstruction (x : Instruction) : Bool := x.opcode.isKeyPush

/-- The signature operations of some instructions when a multisig is one of 20 keys. -/
def sigopsBound (instrs : List Instruction) : ℕ :=
  instrs.countP (·.opcode.isChecksig) +
    maxPubkeysPerMultisig * instrs.countP (·.opcode.isCheckmultisig)

/-- The ends of a script are those of a multisig. -/
def MultisigFrame : Prop :=
  3 ≤ script.length ∧ ∃ siglen keylen, script.numberAt 0 = some (some siglen) ∧
    script.numberAt (script.length - 2) = some (some keylen) ∧ siglen ≤ keylen ∧
    script[script.length - 1]? = some Opcode.opCheckmultisig

/-! ## Instructions -/

variable {platform script} {pc : ℕ} {x : Instruction} {instrs : List Instruction}

theorem instructionsFrom_of_le (h : script.length ≤ pc) :
    script.instructionsFrom platform pc = some [] := by
  rw [instructionsFrom, if_pos h]

theorem instructionsFrom_of_ok (h : script.instructionAt platform pc = .ok x) :
    script.instructionsFrom platform pc =
      (script.instructionsFrom platform (pc + x.step)).map (x :: ·) := by
  rw [instructionsFrom, if_neg (not_le.mpr (lt_of_instructionAt h))]
  split
  · rename_i e herror
    rw [h] at herror
    cases herror
  · rename_i y hok
    rw [h] at hok
    cases hok
    rfl

theorem instructionsFrom_of_error {e : ScriptFault} (hlt : pc < script.length)
    (h : script.instructionAt platform pc = .error e) :
    script.instructionsFrom platform pc = none := by
  rw [instructionsFrom, if_neg (not_le.mpr hlt)]
  split
  · rfl
  · rename_i y hok
    rw [h] at hok
    cases hok

/-- Nothing is left, or an instruction is and others after it. -/
theorem instructionsFrom_cases (h : script.instructionsFrom platform pc = some instrs) :
    (script.length ≤ pc ∧ instrs = []) ∨
      ∃ x rest, script.instructionAt platform pc = .ok x ∧
        script.instructionsFrom platform (pc + x.step) = some rest ∧ instrs = x :: rest := by
  by_cases hle : script.length ≤ pc
  · rw [instructionsFrom_of_le hle] at h
    cases h
    exact .inl ⟨hle, rfl⟩
  · cases hat : script.instructionAt platform pc with
    | error e =>
      rw [instructionsFrom_of_error (not_le.mp hle) hat] at h
      cases h
    | ok x =>
      rw [instructionsFrom_of_ok hat] at h
      obtain ⟨rest, hrest, rfl⟩ := Option.map_eq_some_iff.mp h
      exact .inr ⟨x, rest, rfl, hrest, rfl⟩

/-- Instruction by instruction, from the end of the script. -/
theorem instructions_induction {motive : ℕ → List Instruction → Prop}
    (done : ∀ pc, script.length ≤ pc → motive pc [])
    (next : ∀ pc x rest, script.instructionAt platform pc = .ok x →
      motive (pc + x.step) rest → motive pc (x :: rest))
    (h : script.instructionsFrom platform pc = some instrs) : motive pc instrs := by
  induction instrs generalizing pc with
  | nil =>
    cases instructionsFrom_cases h with
    | inl hend => exact done pc hend.1
    | inr hmore =>
      obtain ⟨x, rest, _, _, heq⟩ := hmore
      cases heq
  | cons x instrs ih =>
    cases instructionsFrom_cases h with
    | inl hend => cases hend.2
    | inr hmore =>
      obtain ⟨y, rest, hat, hrest, heq⟩ := hmore
      cases heq
      exact next pc x instrs hat (ih hrest)

theorem opcodesNext_of_le (h : script.length ≤ pc) : script.opcodesNext platform pc = none :=
  if_pos h

theorem opcodesNext_of_ok (h : script.instructionAt platform pc = .ok x) :
    script.opcodesNext platform pc = some (.ok x.opcode, pc + x.step) := by
  rw [opcodesNext, if_neg (not_le.mpr (lt_of_instructionAt h)), h]

theorem instructionsNext_of_ok (h : script.instructionAt platform pc = .ok x) :
    script.instructionsNext platform pc = some (.ok x, pc + x.step) := by
  rw [instructionsNext, if_neg (not_le.mpr (lt_of_instructionAt h)), h]

/-- Opcodes come to an end only where all instructions can be read. -/
theorem exists_of_ends (h : Ends (script.opcodesNext platform) pc) :
    ∃ instrs, script.instructionsFrom platform pc = some instrs := by
  induction h with
  | @done position hnone =>
    by_cases hle : script.length ≤ position
    · exact ⟨[], instructionsFrom_of_le hle⟩
    · rw [opcodesNext, if_neg hle] at hnone
      cases hat : script.instructionAt platform position <;> simp [hat] at hnone
  | @step position position' item hnext _ _ ih =>
    by_cases hle : script.length ≤ position
    · exact ⟨[], instructionsFrom_of_le hle⟩
    · rw [opcodesNext, if_neg hle] at hnext
      cases hat : script.instructionAt platform position with
      | error e =>
        -- the iterator has not moved
        simp only [hat, Option.some.injEq, Prod.mk.injEq] at hnext
        obtain ⟨-, rfl⟩ := hnext
        exact ih
      | ok x =>
        simp only [hat, Option.some.injEq, Prod.mk.injEq] at hnext
        obtain ⟨-, rfl⟩ := hnext
        obtain ⟨rest, hrest⟩ := ih
        exact ⟨x :: rest, by rw [instructionsFrom_of_ok hat, hrest, Option.map_some]⟩

/-- An iterator that yields one item for each instruction. -/
theorem ends_of_instructions {α : Type} {next : ℕ → Option (Except ScriptFault α × ℕ)}
    {item : Instruction → α} (hend : ∀ pc, script.length ≤ pc → next pc = none)
    (hok : ∀ pc x, script.instructionAt platform pc = .ok x →
      next pc = some (.ok (item x), pc + x.step))
    (h : script.instructionsFrom platform pc = some instrs) : Ends next pc := by
  apply instructions_induction (motive := fun pc _ => Ends next pc) _ _ h
  · intro pc hle
    exact .done (hend pc hle)
  · intro pc x rest hat ih
    exact .step (hok pc x hat) (by simp) ih

theorem ends_opcodes (h : script.instructionsFrom platform pc = some instrs) :
    Ends (script.opcodesNext platform) pc :=
  ends_of_instructions (fun _ hle => if_pos hle) (fun _ _ hat => opcodesNext_of_ok hat) h

theorem ends_instructions (h : script.instructionsFrom platform pc = some instrs) :
    Ends (script.instructionsNext platform) pc :=
  ends_of_instructions (fun _ hle => if_pos hle) (fun _ _ hat => instructionsNext_of_ok hat) h

/-! ## Pushes -/

theorem fromU8_eq_some {u opcode : UInt8} (h : Opcode.fromU8 u = some opcode) : opcode = u := by
  unfold Opcode.fromU8 at h
  split at h
  · cases h
    rfl
  · cases h

theorem opcode_of_instructionAt (h : script.instructionAt platform pc = .ok x) :
    script[pc]? = some x.opcode := by
  have hget := getInstructionAt_of_instructionAt h
  unfold getInstructionAt at hget
  cases hbyte : script[pc]? with
  | none => simp [getOpcode, hbyte, bind, Except.bind] at hget
  | some u =>
    cases hknown : Opcode.fromU8 u with
    | none => simp [getOpcode, hbyte, hknown, bind, Except.bind] at hget
    | some opcode =>
      have hopcode := fromU8_eq_some hknown
      simp only [getOpcode, hbyte, hknown, bind, Except.bind] at hget
      repeat' split at hget
      all_goals cases hget
      all_goals rw [hopcode]

/-- A push of some bytes has as many as its opcode says. -/
theorem short_of_instructionAt (h : script.instructionAt platform pc = .ok x)
    (hshort : x.opcode ≤ Opcode.opPushbytes75) :
    ∃ data, x.data = some data ∧ data.length = x.opcode.toNat ∧ x.step = x.opcode.toNat + 1 ∧
      pc + x.step ≤ script.length := by
  have hget := getInstructionAt_of_instructionAt h
  unfold getInstructionAt at hget
  cases hopcode : script.getOpcode pc with
  | error e => simp [hopcode, bind, Except.bind] at hget
  | ok opcode =>
    simp only [hopcode, bind, Except.bind] at hget
    by_cases hlong : opcode = Opcode.opPushdata1 ∨ opcode = Opcode.opPushdata2 ∨
        opcode = Opcode.opPushdata4
    · -- a long push is no short one
      have hx : x.opcode = opcode := by
        rw [if_pos hlong] at hget
        repeat' split at hget
        all_goals cases hget
        all_goals rfl
      rw [hx] at hshort
      rcases hlong with rfl | rfl | rfl <;> exact absurd hshort (by decide)
    · rw [if_neg hlong] at hget
      by_cases hle : opcode ≤ Opcode.opPushbytes75
      · rw [if_pos hle] at hget
        cases htake : script.take (pc + 1) opcode.toNat with
        | error e => simp [htake] at hget
        | ok bytes =>
          simp only [htake, Except.ok.injEq] at hget
          subst hget
          refine ⟨bytes, rfl, length_of_take htake, rfl, ?_⟩
          unfold take at htake
          split at htake
          · cases htake
          · change pc + (opcode.toNat + 1) ≤ script.length
            omega
      · rw [if_neg hle] at hget
        cases hget
        exact absurd hshort hle

/-- Any other opcode is an instruction of its own. -/
theorem plain_of_instructionAt (h : script.instructionAt platform pc = .ok x)
    (hplain : Opcode.opPushdata4 < x.opcode) : x.step = 1 ∧ x.data = none := by
  have hbyte := opcode_of_instructionAt h
  have hget := getInstructionAt_of_instructionAt h
  have hshort : ¬ x.opcode ≤ Opcode.opPushbytes75 :=
    UInt8.not_le.mpr (UInt8.lt_trans (by decide) hplain)
  have hlong : ¬ (x.opcode = Opcode.opPushdata1 ∨ x.opcode = Opcode.opPushdata2 ∨
      x.opcode = Opcode.opPushdata4) := by
    intro hlong
    rcases hlong with heq | heq | heq <;> rw [heq] at hplain <;> exact absurd hplain (by decide)
  unfold getInstructionAt at hget
  cases hknown : Opcode.fromU8 x.opcode with
  | none => simp [getOpcode, hbyte, hknown, bind, Except.bind] at hget
  | some opcode =>
    obtain rfl := fromU8_eq_some hknown
    simp only [getOpcode, hbyte, hknown, bind, Except.bind, if_neg hlong, if_neg hshort,
      Except.ok.injEq] at hget
    rw [← hget]
    exact ⟨rfl, rfl⟩

theorem isKeyPush_cases {opcode : Opcode} (h : opcode.isKeyPush = true) :
    opcode = Opcode.opPushbytes33 ∨ opcode = Opcode.opPushbytes65 := by
  simpa [Opcode.isKeyPush] using h

/-- The push of a key. -/
theorem key_of_instructionAt (h : script.instructionAt platform pc = .ok x)
    (hkey : x.opcode.isKeyPush = true) :
    ∃ data, x.data = some data ∧ (data.length = 33 ∨ data.length = 65) ∧
      pc + 34 ≤ script.length := by
  cases isKeyPush_cases hkey with
  | inl h33 =>
    obtain ⟨data, hdata, hlength, hstep, hle⟩ := short_of_instructionAt h (by rw [h33]; decide)
    rw [h33] at hlength hstep
    exact ⟨data, hdata, .inl hlength, by rw [hstep] at hle; exact hle⟩
  | inr h65 =>
    obtain ⟨data, hdata, hlength, hstep, hle⟩ := short_of_instructionAt h (by rw [h65]; decide)
    rw [h65] at hlength hstep
    refine ⟨data, hdata, .inr hlength, ?_⟩
    rw [hstep] at hle
    exact le_trans (Nat.add_le_add_left (by decide) pc) hle

/-- With 64 bits no push is too long. -/
theorem not_endOverflows (held : HeldScript .bits64) (position : ℕ) :
    held.data.endOverflows .bits64 position = false := by
  rw [endOverflows]
  cases held.data.getOpcode position with
  | error e => rfl
  | ok opcode =>
    cases htake : held.data.take (position + 1) 4 with
    | error e => rfl
    | ok slice =>
      have hlength : slice.length = 4 := length_of_take htake
      have hread := readUsize_eq slice
      rw [hlength] at hread
      have hlt : readLe slice < 256 ^ 4 := by
        rw [← hlength, ← List.length_map UInt8.toNat, readLe]
        apply Nat.ofDigits_lt_base_pow_length (by norm_num)
        simp only [List.forall_mem_map]
        exact fun byte _ => byte.toNat_lt
      have hle : position + 1 + 4 ≤ held.data.length := by
        unfold take at htake
        split at htake
        · cases htake
        · omega
      have hheld := held.length_lt
      have hlimit : ¬ Platform.bits64.usizeLimit ≤ position + 1 + 4 + readLe slice := by
        change ¬ 2 ^ 64 ≤ _
        change _ < 2 ^ 64 at hheld
        omega
      simp [hread, hlimit]

/-! ## Keys -/

theorem keysFrom_of_ok (hlt : pc < script.length - 2)
    (h : script.instructionAt platform pc = .ok x) (keys : ℕ) :
    script.keysFrom platform pc keys =
      if isKeyInstruction x then
        if keys = 255 then none else script.keysFrom platform (pc + x.step) (keys + 1)
      else some none := by
  rw [keysFrom, if_pos hlt]
  split
  · rename_i herror
    rw [h] at herror
    cases herror
  · rename_i e herror
    rw [h] at herror
    cases herror
  · rename_i y hok
    rw [h] at hok
    cases hok
    rfl

/-- The counter overflows after 255 keys. -/
theorem keysFrom_eq_none_iff (h : script.instructionsFrom platform pc = some instrs) :
    ∀ keys ≤ 255, script.keysFrom platform pc keys = none ↔
      256 ≤ keys + (instrs.takeWhile isKeyInstruction).length := by
  apply instructions_induction (motive := fun pc instrs => ∀ keys ≤ 255,
    script.keysFrom platform pc keys = none ↔
      256 ≤ keys + (instrs.takeWhile isKeyInstruction).length) _ _ h
  · intro pc hle keys hkeys
    rw [keysFrom, if_neg (by omega)]
    simp
    omega
  · intro pc x rest hat ih keys hkeys
    by_cases hkey : isKeyInstruction x = true
    · obtain ⟨data, _, _, hle⟩ := key_of_instructionAt hat hkey
      rw [keysFrom_of_ok (by omega) hat, if_pos hkey, List.takeWhile_cons_of_pos hkey,
        List.length_cons]
      by_cases hlast : keys = 255
      · rw [if_pos hlast]
        simp
        omega
      · rw [if_neg hlast, ih (keys + 1) (by omega)]
        omega
    · rw [List.takeWhile_cons_of_neg hkey]
      by_cases hlt : pc < script.length - 2
      · rw [keysFrom_of_ok hlt hat, if_neg hkey]
        simp
        omega
      · rw [keysFrom, if_neg hlt]
        simp
        omega

/-! ## Classifiers -/

theorem getElem?_of_lt {i : ℕ} (h : i < script.length) : ∃ byte, script[i]? = some byte :=
  ⟨_, List.getElem?_eq_getElem h⟩

theorem hasBytes_ne_none {places : List (ℕ × Opcode)} (h : ∀ p ∈ places, p.1 < script.length) :
    script.hasBytes places ≠ none := by
  induction places with
  | nil => simp [hasBytes]
  | cons p places ih =>
    rw [List.forall_mem_cons] at h
    obtain ⟨byte, hbyte⟩ := getElem?_of_lt h.1
    simp only [hasBytes, hbyte, Option.bind_eq_bind, Option.bind_some]
    by_cases heq : byte = p.2
    · rw [if_pos heq]
      exact ih h.2
    · simp [heq]

theorem hasBytes_eq_true {places : List (ℕ × Opcode)} :
    script.hasBytes places = some true ↔ ∀ p ∈ places, script[p.1]? = some p.2 := by
  induction places with
  | nil => simp [hasBytes]
  | cons p places ih =>
    rw [List.forall_mem_cons, ← ih]
    cases hbyte : script[p.1]? with
    | none => simp [hasBytes, hbyte]
    | some byte =>
      simp only [hasBytes, hbyte, Option.bind_eq_bind, Option.bind_some, Option.some.injEq]
      by_cases heq : byte = p.2 <;> simp [heq]

/-- The bytes of a script of some length. -/
theorem hasBytes_of_length_ne_none {n : ℕ} {places : List (ℕ × Opcode)}
    (h : ∀ p ∈ places, p.1 < n) :
    (if script.length = n then script.hasBytes places else some false) ≠ none := by
  by_cases hlength : script.length = n
  · rw [if_pos hlength]
    exact hasBytes_ne_none (hlength ▸ h)
  · rw [if_neg hlength]
    exact Option.some_ne_none false

theorem isPayToPublicKeyHash_ne_none : script.isPayToPublicKeyHash ≠ none :=
  hasBytes_of_length_ne_none (by simp)

theorem isPayToScriptHash_ne_none : script.isPayToScriptHash ≠ none :=
  hasBytes_of_length_ne_none (by simp)

theorem isPayToWitnessKeyHash_ne_none : script.isPayToWitnessKeyHash ≠ none :=
  hasBytes_of_length_ne_none (by simp)

theorem isPayToWitnessScriptHash_ne_none : script.isPayToWitnessScriptHash ≠ none :=
  hasBytes_of_length_ne_none (by simp)

theorem isPayToPublicKey_ne_none : script.isPayToPublicKey ≠ none := by
  cases script with
  | nil => simp [isPayToPublicKey]
  | cons first rest =>
    change (if first = Opcode.opPushbytes33 then _ else _) ≠ none
    by_cases h33 : first = Opcode.opPushbytes33
    · rw [if_pos h33]
      exact hasBytes_of_length_ne_none (by simp)
    · rw [if_neg h33]
      by_cases h65 : first = Opcode.opPushbytes65
      · rw [if_pos h65]
        exact hasBytes_of_length_ne_none (by simp)
      · rw [if_neg h65]
        exact Option.some_ne_none false

theorem numberAt_of_lt (h : pc < script.length) : ∃ number, script.numberAt pc = some number := by
  obtain ⟨byte, hbyte⟩ := getElem?_of_lt h
  simp only [numberAt, hbyte, Option.bind_eq_bind, Option.bind_some]
  cases Opcode.fromU8 byte with
  | none => exact ⟨none, rfl⟩
  | some opcode =>
    by_cases h0 : opcode = Opcode.op0
    · exact ⟨some 0, if_pos h0⟩
    · by_cases hn : opcode.isWithinOpN = true <;> simp [h0, hn]

theorem opcode_of_numberAt {number : ℕ} (h : script.numberAt pc = some (some number)) :
    ∃ opcode : Opcode, script[pc]? = some opcode ∧
      (opcode = Opcode.op0 ∨ opcode.isWithinOpN = true) := by
  cases hbyte : script[pc]? with
  | none => simp [numberAt, hbyte] at h
  | some u =>
    simp only [numberAt, hbyte, Option.bind_eq_bind, Option.bind_some] at h
    cases hknown : Opcode.fromU8 u with
    | none => simp [hknown] at h
    | some opcode =>
      obtain rfl := fromU8_eq_some hknown
      refine ⟨opcode, rfl, ?_⟩
      by_contra hno
      push Not at hno
      simp [hknown, hno.1, hno.2] at h

/-- A number is an instruction of one byte. -/
theorem step_of_numberAt {number : ℕ} (hnumber : script.numberAt pc = some (some number))
    (h : script.instructionAt platform pc = .ok x) : x.step = 1 := by
  obtain ⟨opcode, hbyte, hkind⟩ := opcode_of_numberAt hnumber
  rw [opcode_of_instructionAt h, Option.some.injEq] at hbyte
  cases hkind with
  | inl h0 =>
    rw [h0] at hbyte
    obtain ⟨_, _, _, hstep, _⟩ := short_of_instructionAt h (by rw [hbyte]; decide)
    rw [hstep, hbyte]
    rfl
  | inr hn =>
    rw [← hbyte] at hn
    have hge : Opcode.op1 ≤ x.opcode := by
      simp only [Opcode.isWithinOpN, Bool.and_eq_true, decide_eq_true_eq] at hn
      exact hn.1
    exact (plain_of_instructionAt h (UInt8.lt_of_lt_of_le (by decide) hge)).1

/-- The instructions after a first one of one byte. -/
theorem instructionsFrom_one (hlt : 0 < script.length)
    (hstep : ∀ x, script.instructionAt platform 0 = .ok x → x.step = 1)
    (h : script.instructionsFrom platform 0 = some instrs) :
    script.instructionsFrom platform 1 = some (instrs.drop 1) := by
  cases instructionsFrom_cases h with
  | inl hend => exact absurd hend.1 (not_le.mpr hlt)
  | inr hmore =>
    obtain ⟨x, rest, hat, hrest, rfl⟩ := hmore
    rw [hstep x hat] at hrest
    exact hrest

/-- A script has the frame of a multisig, or is none whatever its keys are. -/
theorem isMultisigScript_of_frame {siglen keylen : ℕ} (hlength : 3 ≤ script.length)
    (hfirst : script.numberAt 0 = some (some siglen))
    (hsecond : script.numberAt (script.length - 2) = some (some keylen)) (hle : siglen ≤ keylen)
    (hlast : script[script.length - 1]? = some Opcode.opCheckmultisig) :
    script.isMultisigScript platform =
      (script.keysFrom platform 1 0).map fun keys => decide (keys = some keylen) := by
  simp only [isMultisigScript, if_neg (not_lt.mpr hlength), hfirst, hsecond,
    if_neg (not_lt.mpr hle), hlast, Option.bind_eq_bind, Option.bind_some]
  cases script.keysFrom platform 1 0 with
  | none => simp
  | some keys => cases keys <;> simp

theorem isMultisigScript_of_not_frame (h : ¬ script.MultisigFrame) :
    script.isMultisigScript platform = some false := by
  by_cases hlength : 3 ≤ script.length
  · have hfirst : ∃ number, script.numberAt 0 = some number := numberAt_of_lt (by omega)
    have hsecond : ∃ number, script.numberAt (script.length - 2) = some number :=
      numberAt_of_lt (by omega)
    have hlast : ∃ byte, script[script.length - 1]? = some byte := getElem?_of_lt (by omega)
    obtain ⟨first, hfirst⟩ := hfirst
    obtain ⟨second, hsecond⟩ := hsecond
    obtain ⟨last, hlast⟩ := hlast
    simp only [isMultisigScript, if_neg (not_lt.mpr hlength), hfirst, hsecond, hlast,
      Option.bind_eq_bind, Option.bind_some]
    cases first with
    | none => rfl
    | some siglen =>
      cases second with
      | none => rfl
      | some keylen =>
        by_cases hlt : keylen < siglen
        · simp [hlt]
        · by_cases hop : last = Opcode.opCheckmultisig
          · rw [hop] at hlast
            exact absurd ⟨hlength, siglen, keylen, hfirst, hsecond, not_lt.mp hlt, hlast⟩ h
          · simp [hlt, hop]
  · rw [isMultisigScript, if_pos (by omega)]

theorem isMultisigScript_eq_none_iff (h : script.instructionsFrom platform 0 = some instrs) :
    script.isMultisigScript platform = none ↔
      script.MultisigFrame ∧ 256 ≤ ((instrs.drop 1).takeWhile isKeyInstruction).length := by
  by_cases hframe : script.MultisigFrame
  · have hcopy := hframe
    obtain ⟨hlength, siglen, keylen, hfirst, hsecond, hle, hlast⟩ := hcopy
    have hkeys := instructionsFrom_one (by omega) (fun x hat => step_of_numberAt hfirst hat) h
    rw [isMultisigScript_of_frame hlength hfirst hsecond hle hlast, Option.map_eq_none_iff,
      keysFrom_eq_none_iff hkeys 0 (Nat.zero_le 255), Nat.zero_add]
    simp [hframe]
  · rw [isMultisigScript_of_not_frame hframe]
    simp [hframe]

/-! ### Scripts of data -/

theorem getOpcode_subscript (position : ℕ) :
    (script.subscript 1).getOpcode position = script.getOpcode (position + 1) := by
  rw [getOpcode, getOpcode, subscript, List.getElem?_drop, Nat.add_comm 1 position]

theorem take_subscript (hne : 0 < script.length) (offset len : ℕ) :
    (script.subscript 1).take offset len = script.take (offset + 1) len := by
  rw [take, take, subscript, List.length_drop, List.drop_drop, Nat.add_comm 1 offset]
  by_cases hlt : offset + 1 + len > script.length
  · rw [if_pos hlt, if_pos (by omega)]
  · rw [if_neg hlt, if_neg (by omega)]

theorem getInstructionAt_subscript (hne : 0 < script.length) (position : ℕ) :
    (script.subscript 1).getInstructionAt position = script.getInstructionAt (position + 1) := by
  rw [getInstructionAt, getInstructionAt, getOpcode_subscript]
  simp only [take_subscript hne, Nat.add_right_comm _ _ 1]

/-- One byte further to the front there is no overflow either. -/
theorem endOverflows_subscript (hne : 0 < script.length) {position : ℕ}
    (h : script.endOverflows platform (position + 1) = false) :
    (script.subscript 1).endOverflows platform position = false := by
  rw [endOverflows, getOpcode_subscript, take_subscript hne]
  rw [endOverflows] at h
  cases hopcode : script.getOpcode (position + 1) with
  | error e => rfl
  | ok opcode =>
    cases htake : script.take (position + 1 + 1) 4 with
    | error e => rfl
    | ok slice =>
      rw [hopcode, htake] at h
      simp only at h ⊢
      cases hread : readUsize slice 4 with
      | error e => rfl
      | ok n =>
        simp only [hread, Bool.and_eq_false_iff, decide_eq_false_iff_not] at h ⊢
        cases h with
        | inl hop => exact .inl hop
        | inr hlt => exact .inr (by omega)

theorem instructionAt_subscript (h : script.instructionAt platform (pc + 1) = .ok x) :
    (script.subscript 1).instructionAt platform pc = .ok x := by
  have hlt := lt_of_instructionAt h
  have hget := getInstructionAt_of_instructionAt h
  have hoverflows : script.endOverflows platform (pc + 1) = false := by
    rw [instructionAt, if_neg (not_le.mpr hlt)] at h
    by_contra htrue
    rw [if_pos (by simpa using htrue)] at h
    cases h
  have hlength : ¬ (script.subscript 1).length ≤ pc := by
    rw [subscript, List.length_drop]
    omega
  rw [instructionAt, if_neg hlength, endOverflows_subscript (by omega) hoverflows,
    getInstructionAt_subscript (by omega), hget]
  rfl

theorem isPushOnlyFrom_of_ok (h : script.instructionAt platform pc = .ok x) :
    script.isPushOnlyFrom platform pc =
      if Opcode.op16 < x.opcode then some false
      else script.isPushOnlyFrom platform (pc + x.step) := by
  rw [isPushOnlyFrom, if_pos (lt_of_instructionAt h)]
  split
  · rename_i herror
    rw [h] at herror
    cases herror
  · rename_i e herror
    rw [h] at herror
    cases herror
  · rename_i y hok
    rw [h] at hok
    cases hok
    rfl

theorem isPushOnlyFrom_ne_none (h : script.instructionsFrom platform (pc + 1) = some instrs) :
    (script.subscript 1).isPushOnlyFrom platform pc ≠ none := by
  apply instructions_induction (motive := fun position _ => ∀ pc, position = pc + 1 →
    (script.subscript 1).isPushOnlyFrom platform pc ≠ none) _ _ h pc rfl
  · intro position hle pc hpc
    have hlength : ¬ pc < (script.subscript 1).length := by
      rw [subscript, List.length_drop]
      omega
    rw [isPushOnlyFrom, if_neg hlength]
    exact Option.some_ne_none true
  · intro position x rest hat ih pc hpc
    rw [hpc] at hat
    rw [isPushOnlyFrom_of_ok (instructionAt_subscript hat)]
    by_cases hplain : Opcode.op16 < x.opcode
    · rw [if_pos hplain]
      exact Option.some_ne_none false
    · rw [if_neg hplain]
      exact ih (pc + x.step) (by omega)

theorem isNullDataScript_ne_none (h : script.instructionsFrom platform 0 = some instrs) :
    script.isNullDataScript platform ≠ none := by
  cases script with
  | nil => simp [isNullDataScript]
  | cons first tail =>
    change (if first = Opcode.opReturn then _ else _) ≠ none
    by_cases hreturn : first = Opcode.opReturn
    · have hstep : ∀ x, instructionAt platform (first :: tail) 0 = .ok x → x.step = 1 := by
        intro x hat
        have hbyte : some first = some x.opcode := opcode_of_instructionAt hat
        rw [hreturn, Option.some.injEq] at hbyte
        exact (plain_of_instructionAt hat (by rw [← hbyte]; decide)).1
      rw [if_pos hreturn]
      exact isPushOnlyFrom_ne_none (instructionsFrom_one (Nat.succ_pos _) hstep h)
    · rw [if_neg hreturn]
      exact Option.some_ne_none false

theorem scriptType_ne_none (h : script.instructionsFrom platform 0 = some instrs)
    (hmultisig : script.isMultisigScript platform ≠ none) :
    script.scriptType platform ≠ none := by
  obtain ⟨pubKey, hpubKey⟩ := Option.ne_none_iff_exists'.mp script.isPayToPublicKey_ne_none
  obtain ⟨pubKeyHash, hpubKeyHash⟩ :=
    Option.ne_none_iff_exists'.mp script.isPayToPublicKeyHash_ne_none
  obtain ⟨scriptHash, hscriptHash⟩ :=
    Option.ne_none_iff_exists'.mp script.isPayToScriptHash_ne_none
  obtain ⟨multisig, hmultisig⟩ := Option.ne_none_iff_exists'.mp hmultisig
  obtain ⟨nullData, hnullData⟩ := Option.ne_none_iff_exists'.mp (isNullDataScript_ne_none h)
  obtain ⟨witnessKey, hwitnessKey⟩ :=
    Option.ne_none_iff_exists'.mp script.isPayToWitnessKeyHash_ne_none
  obtain ⟨witnessScript, hwitnessScript⟩ :=
    Option.ne_none_iff_exists'.mp script.isPayToWitnessScriptHash_ne_none
  simp only [scriptType, hpubKey, hpubKeyHash, hscriptHash, hmultisig, hnullData, hwitnessKey,
    hwitnessScript, Option.bind_eq_bind, Option.bind_some]
  repeat' split
  all_goals exact Option.some_ne_none _

/-! ## Signature operations -/

theorem sigopsFrom_of_ok (h : script.instructionAt platform pc = .ok x) (serialized : Bool)
    (last : Opcode) (total : ℕ) :
    script.sigopsFrom platform serialized pc last total =
      if platform.usizeLimit ≤ total + sigopsOf serialized last x.opcode then none
      else script.sigopsFrom platform serialized (pc + x.step) x.opcode
        (total + sigopsOf serialized last x.opcode) := by
  rw [sigopsFrom, if_neg (not_le.mpr (lt_of_instructionAt h))]
  split
  · rename_i herror
    rw [h] at herror
    cases herror
  · rename_i e herror
    rw [h] at herror
    cases herror
  · rename_i y hok
    rw [h] at hok
    cases hok
    rfl

theorem sigopsOf_le (serialized : Bool) (last opcode : Opcode) :
    sigopsOf serialized last opcode ≤ sigopsOf false last opcode := by
  unfold sigopsOf
  by_cases hsig : opcode.isChecksig = true
  · rw [if_pos hsig, if_pos hsig]
  · rw [if_neg hsig, if_neg hsig]
    by_cases hmulti : opcode.isCheckmultisig = true
    · rw [if_pos hmulti, if_pos hmulti]
      by_cases hn : (serialized && last.isWithinOpN) = true
      · rw [if_pos hn, Bool.false_and, if_neg Bool.false_ne_true]
        rw [Bool.and_eq_true] at hn
        have hle := hn.2
        simp only [Opcode.isWithinOpN, Bool.and_eq_true, decide_eq_true_eq,
          UInt8.le_iff_toNat_le] at hle
        have h16 : last.toNat ≤ 96 := hle.2
        change last.toNat - 80 ≤ 20
        omega
      · rw [if_neg hn, Bool.false_and, if_neg Bool.false_ne_true]
    · rw [if_neg hmulti, if_neg hmulti]

theorem sigopsBound_cons (last : Opcode) (x : Instruction) (instrs : List Instruction) :
    sigopsBound (x :: instrs) = sigopsOf false last x.opcode + sigopsBound instrs := by
  unfold sigopsBound sigopsOf maxPubkeysPerMultisig
  rw [List.countP_cons, List.countP_cons]
  by_cases hsig : x.opcode.isChecksig = true
  · have hmulti : x.opcode.isCheckmultisig = false := by
      simp only [Opcode.isChecksig, Bool.or_eq_true, decide_eq_true_eq] at hsig
      cases hsig with
      | inl heq => rw [heq]; decide
      | inr heq => rw [heq]; decide
    simp only [hsig, hmulti]
    simp
    omega
  · by_cases hmulti : x.opcode.isCheckmultisig = true
    · simp only [hsig, hmulti]
      simp
      omega
    · simp [hsig, hmulti]

/-- The count fits where the bound does. -/
theorem sigopsFrom_ne_none (h : script.instructionsFrom platform pc = some instrs)
    (serialized : Bool) : ∀ last total, total + sigopsBound instrs < platform.usizeLimit →
      script.sigopsFrom platform serialized pc last total ≠ none := by
  apply instructions_induction (motive := fun pc instrs => ∀ last total,
    total + sigopsBound instrs < platform.usizeLimit →
      script.sigopsFrom platform serialized pc last total ≠ none) _ _ h
  · intro pc hle last total _
    rw [sigopsFrom, if_pos hle]
    exact Option.some_ne_none total
  · intro pc x rest hat ih last total hbound
    have hle := sigopsOf_le serialized last x.opcode
    rw [sigopsBound_cons last] at hbound
    rw [sigopsFrom_of_ok hat, if_neg (by omega)]
    exact ih x.opcode _ (by omega)

/-- Without a number in front every multisig counts as one of 20 keys. -/
theorem bound_of_sigopsFrom (h : script.instructionsFrom platform pc = some instrs) :
    ∀ last total, total < platform.usizeLimit →
      script.sigopsFrom platform false pc last total ≠ none →
      total + sigopsBound instrs < platform.usizeLimit := by
  apply instructions_induction (motive := fun pc instrs => ∀ last total,
    total < platform.usizeLimit → script.sigopsFrom platform false pc last total ≠ none →
      total + sigopsBound instrs < platform.usizeLimit) _ _ h
  · intro pc _ last total htotal _
    exact htotal
  · intro pc x rest hat ih last total htotal hcount
    rw [sigopsFrom_of_ok hat] at hcount
    by_cases hlimit : platform.usizeLimit ≤ total + sigopsOf false last x.opcode
    · exact absurd (if_pos hlimit) hcount
    · rw [if_neg hlimit] at hcount
      have hfits := ih x.opcode _ (not_le.mp hlimit) hcount
      rw [sigopsBound_cons last]
      omega

/-! ## Destinations -/

variable {crypto : Bitcrypto}

/-- One test after the other. -/
theorem of_test {test : Option Bool} {kind found : ScriptType} {rest : Option ScriptType}
    (h : (test.bind fun b => if b = true then some kind else rest) = some found) :
    (test = some true ∧ found = kind) ∨ rest = some found := by
  obtain ⟨b, htest, hbranch⟩ := Option.bind_eq_some_iff.mp h
  cases b with
  | true =>
    cases hbranch
    exact .inl ⟨htest, rfl⟩
  | false => exact .inr hbranch

/-- What a script type says of a script. -/
theorem of_scriptType {kind : ScriptType} (h : script.scriptType platform = some kind) :
    match kind with
    | .pubKey => script.isPayToPublicKey = some true
    | .multisig => script.isMultisigScript platform = some true
    | .witnessKey => script.isPayToWitnessKeyHash = some true
    | .witnessScript => script.isPayToWitnessScriptHash = some true
    | _ => True := by
  simp only [scriptType, Option.bind_eq_bind] at h
  rcases of_test h with ⟨hpubKey, rfl⟩ | h
  · exact hpubKey
  rcases of_test h with ⟨_, rfl⟩ | h
  · trivial
  rcases of_test h with ⟨_, rfl⟩ | h
  · trivial
  rcases of_test h with ⟨hmultisig, rfl⟩ | h
  · exact hmultisig
  rcases of_test h with ⟨_, rfl⟩ | h
  · trivial
  rcases of_test h with ⟨hwitnessKey, rfl⟩ | h
  · exact hwitnessKey
  rcases of_test h with ⟨hwitnessScript, rfl⟩ | h
  · exact hwitnessScript
  · cases h
    trivial

theorem publicFromSlice_of_key {data : Bytes} (h : data.length = 33 ∨ data.length = 65) :
    publicFromSlice data = .ok ⟨data, h⟩ :=
  dif_pos h

theorem slice_of_le {start stop : ℕ} (hle : start ≤ stop) (hstop : stop ≤ script.length) :
    ∃ bytes, slice script start stop = .ok bytes ∧ bytes.length = stop - start := by
  refine ⟨(List.take stop script).drop start, if_pos ⟨hle, hstop⟩, ?_⟩
  rw [List.length_drop, List.length_take, min_eq_left hstop]

/-- A destination is a key hash or a script hash of a standard script, or the script is a witness
program. -/
def Destination (script : Script) (dst : ScriptAddress) : Prop :=
  dst.kind = .p2pkh ∨ dst.kind = .p2sh ∨
    (dst.kind = .p2wpkh ∧ dst.hash.isAddressHash = true ∧
      script.isPayToWitnessKeyHash = some true) ∨
    (dst.kind = .p2wsh ∧ dst.hash.isWitnessScriptHash = true ∧
      script.isPayToWitnessScriptHash = some true)

theorem hashAt_cases (kind : AddressScriptType) (start stop : ℕ) :
    (∃ hash, script.hashAt kind start stop = .ok ⟨kind, .addressHash hash⟩) ∨
      ∃ e, script.hashAt kind start stop = .error (.error e) := by
  rw [hashAt]
  cases slice script start stop with
  | error fault => exact .inr ⟨_, rfl⟩
  | ok bytes =>
    by_cases hlength : bytes.length = 20
    · exact .inl ⟨⟨bytes, hlength⟩, dif_pos hlength⟩
    · exact .inr ⟨_, dif_neg hlength⟩

theorem witnessHashAt_cases (start stop : ℕ) :
    (∃ hash, script.witnessHashAt start stop = .ok ⟨.p2wsh, .witnessScriptHash hash⟩) ∨
      ∃ e, script.witnessHashAt start stop = .error (.error e) := by
  rw [witnessHashAt]
  cases slice script start stop with
  | error fault => exact .inr ⟨_, rfl⟩
  | ok bytes =>
    by_cases hlength : bytes.length = 32
    · exact .inl ⟨⟨bytes, hlength⟩, dif_pos hlength⟩
    · exact .inr ⟨_, dif_neg hlength⟩

theorem publicAt_of_length {start stop : ℕ} (hle : start ≤ stop) (hstop : stop ≤ script.length)
    (hlength : stop - start = 33 ∨ stop - start = 65) :
    ∃ hash, script.publicAt crypto start stop = .ok ⟨.p2pkh, .addressHash hash⟩ := by
  obtain ⟨bytes, hslice, hbytes⟩ := slice_of_le hle hstop
  rw [← hbytes] at hlength
  refine ⟨crypto.dhash160 bytes, ?_⟩
  rw [publicAt, hslice]
  change (publicFromSlice bytes >>= _) = _
  rw [publicFromSlice_of_key hlength]
  rfl

theorem multisigDestinations_of_ok (hlt : pc < script.length - 2)
    (h : script.instructionAt platform pc = .ok x) {data : Bytes} (hdata : x.data = some data)
    (hlength : data.length = 33 ∨ data.length = 65) :
    script.multisigDestinations platform crypto pc =
      (script.multisigDestinations platform crypto (pc + x.step)).map fun addresses =>
        { kind := .p2pkh, hash := .addressHash (crypto.dhash160 data) } :: addresses := by
  rw [multisigDestinations, if_pos hlt]
  split
  · rename_i e herror
    rw [h] at herror
    cases herror
  · rename_i y hok
    rw [h] at hok
    cases hok
    rw [hdata]
    simp only [publicFromSlice_of_key hlength]
    cases script.multisigDestinations platform crypto (pc + x.step) <;> rfl

/-- Where the keys are counted they are also read. -/
theorem multisigDestinations_of_keysFrom {keys count : ℕ}
    (h : script.keysFrom platform pc keys = some (some count)) :
    ∃ addresses, script.multisigDestinations platform crypto pc = .ok addresses ∧
      ∀ dst ∈ addresses, dst.kind = .p2pkh := by
  fun_induction keysFrom platform script pc keys with
  | case1 pc keys hlt hat => cases h
  | case2 pc keys hlt e hat => cases h
  | case3 pc hlt x hat hkey => cases h
  | case4 pc keys hlt x hat hkey hkeys ih =>
    obtain ⟨data, hdata, hlength, _⟩ := key_of_instructionAt hat hkey
    obtain ⟨addresses, hok, hkinds⟩ := ih h
    refine ⟨_, by rw [multisigDestinations_of_ok hlt hat hdata hlength, hok]; rfl, ?_⟩
    rw [List.forall_mem_cons]
    exact ⟨rfl, hkinds⟩
  | case5 pc keys hlt x hat hkey => cases h
  | case6 pc keys hlt =>
    refine ⟨[], ?_, by simp⟩
    rw [multisigDestinations, if_neg hlt]

theorem keysFrom_of_isMultisigScript (h : script.isMultisigScript platform = some true) :
    ∃ count, script.keysFrom platform 1 0 = some (some count) := by
  by_cases hframe : script.MultisigFrame
  · obtain ⟨hlength, siglen, keylen, hfirst, hsecond, hle, hlast⟩ := hframe
    rw [isMultisigScript_of_frame hlength hfirst hsecond hle hlast] at h
    obtain ⟨keys, hkeys, hcount⟩ := Option.map_eq_some_iff.mp h
    exact ⟨keylen, by rw [hkeys, of_decide_eq_true hcount]⟩
  · rw [isMultisigScript_of_not_frame hframe] at h
    cases h

theorem publicKey_of_isPayToPublicKey (h : script.isPayToPublicKey = some true) :
    (script[0]? = some Opcode.opPushbytes33 ∧ script.length = 35) ∨
      (script[0]? = some Opcode.opPushbytes65 ∧ script.length = 67) := by
  cases script with
  | nil => simp [isPayToPublicKey] at h
  | cons first rest =>
    change (if first = Opcode.opPushbytes33 then _ else _) = _ at h
    by_cases h33 : first = Opcode.opPushbytes33
    · rw [if_pos h33] at h
      by_cases hlength : (first :: rest).length = 35
      · exact .inl ⟨congrArg some h33, hlength⟩
      · rw [if_neg hlength] at h
        cases h
    · rw [if_neg h33] at h
      by_cases h65 : first = Opcode.opPushbytes65
      · rw [if_pos h65] at h
        by_cases hlength : (first :: rest).length = 67
        · exact .inr ⟨congrArg some h65, hlength⟩
        · rw [if_neg hlength] at h
          cases h
      · rw [if_neg h65] at h
        cases h

/-- Destinations, each of a kind that fits the script, or an error. -/
theorem extractDestinations_cases (h : script.scriptType platform ≠ none) :
    (∃ dsts, script.extractDestinations platform crypto = .ok dsts ∧
      ∀ dst ∈ dsts, script.Destination dst) ∨
      ∃ e, script.extractDestinations platform crypto = .error (.error e) := by
  obtain ⟨kind, hkind⟩ := Option.ne_none_iff_exists'.mp h
  have hspec := of_scriptType hkind
  rw [extractDestinations, hkind]
  cases kind with
  | nonStandard => exact .inl ⟨[], rfl, by simp⟩
  | nullData => exact .inl ⟨[], rfl, by simp⟩
  | pubKey =>
    rcases publicKey_of_isPayToPublicKey hspec with ⟨hfirst, hlength⟩ | ⟨hfirst, hlength⟩
    · have hkey : ∃ hash, script.publicAt crypto 1 34 = .ok ⟨.p2pkh, .addressHash hash⟩ :=
        publicAt_of_length (by omega) (by omega) (.inl rfl)
      obtain ⟨hash, hkey⟩ := hkey
      refine .inl ⟨[⟨.p2pkh, .addressHash hash⟩], ?_, by simp [Destination]⟩
      simp only [hfirst, if_true, hkey]
      rfl
    · have hkey : ∃ hash, script.publicAt crypto 1 66 = .ok ⟨.p2pkh, .addressHash hash⟩ :=
        publicAt_of_length (by omega) (by omega) (.inr rfl)
      obtain ⟨hash, hkey⟩ := hkey
      have hother : Opcode.opPushbytes65 ≠ Opcode.opPushbytes33 := by decide
      refine .inl ⟨[⟨.p2pkh, .addressHash hash⟩], ?_, by simp [Destination]⟩
      simp only [hfirst, if_neg hother, if_true, hkey]
      rfl
  | pubKeyHash =>
    rcases script.hashAt_cases .p2pkh 3 23 with ⟨hash, hok⟩ | ⟨e, he⟩
    · exact .inl ⟨[⟨.p2pkh, .addressHash hash⟩], by simp only [hok]; rfl, by simp [Destination]⟩
    · exact .inr ⟨e, by simp only [he]; rfl⟩
  | scriptHash =>
    rcases script.hashAt_cases .p2sh 2 22 with ⟨hash, hok⟩ | ⟨e, he⟩
    · exact .inl ⟨[⟨.p2sh, .addressHash hash⟩], by simp only [hok]; rfl, by simp [Destination]⟩
    · exact .inr ⟨e, by simp only [he]; rfl⟩
  | multisig =>
    obtain ⟨count, hkeys⟩ := keysFrom_of_isMultisigScript hspec
    obtain ⟨addresses, hok, hkinds⟩ := multisigDestinations_of_keysFrom hkeys
    exact .inl ⟨addresses, hok, fun dst hdst => .inl (hkinds dst hdst)⟩
  | witnessKey =>
    rcases script.hashAt_cases .p2wpkh 2 22 with ⟨hash, hok⟩ | ⟨e, he⟩
    · refine .inl ⟨[⟨.p2wpkh, .addressHash hash⟩], by simp only [hok]; rfl, ?_⟩
      rw [List.forall_mem_singleton]
      exact .inr (.inr (.inl ⟨rfl, rfl, hspec⟩))
    · exact .inr ⟨e, by simp only [he]; rfl⟩
  | witnessScript =>
    rcases script.witnessHashAt_cases 2 34 with ⟨hash, hok⟩ | ⟨e, he⟩
    · refine .inl ⟨[⟨.p2wsh, .witnessScriptHash hash⟩], by simp only [hok]; rfl, ?_⟩
      rw [List.forall_mem_singleton]
      exact .inr (.inr (.inr ⟨rfl, rfl, hspec⟩))
    · exact .inr ⟨e, by simp only [he]; rfl⟩

/-! ## Scripts of one type -/

/-- A script that starts with no push of a key pays to no key. -/
theorem isPayToPublicKey_of_first {first : Opcode} (hfirst : script[0]? = some first)
    (h : first.isKeyPush = false) : script.isPayToPublicKey = some false := by
  cases script with
  | nil => cases hfirst
  | cons byte rest =>
    obtain rfl : byte = first := by simpa using hfirst
    simp only [Opcode.isKeyPush, Bool.or_eq_false_iff, decide_eq_false_iff_not] at h
    change (if byte = Opcode.opPushbytes33 then _ else _) = _
    rw [if_neg h.1, if_neg h.2]

theorem isNullDataScript_of_first {first : Opcode} (hfirst : script[0]? = some first)
    (h : first ≠ Opcode.opReturn) : script.isNullDataScript platform = some false := by
  cases script with
  | nil => cases hfirst
  | cons byte rest =>
    obtain rfl : byte = first := by simpa using hfirst
    change (if byte = Opcode.opReturn then _ else _) = _
    rw [if_neg h]

/-- A script that starts with no number is no multisig. -/
theorem isMultisigScript_of_first {first : Opcode} (hfirst : script[0]? = some first)
    (h0 : first ≠ Opcode.op0) (hn : first.isWithinOpN = false) :
    script.isMultisigScript platform = some false := by
  apply isMultisigScript_of_not_frame
  rintro ⟨_, siglen, _, hnumber, _⟩
  obtain ⟨opcode, hbyte, hkind⟩ := opcode_of_numberAt hnumber
  obtain rfl : first = opcode := Option.some.inj (hfirst.symm.trans hbyte)
  cases hkind with
  | inl heq => exact h0 heq
  | inr heq => exact absurd (hn.symm.trans heq) Bool.false_ne_true

theorem endOverflows_of_ne {opcode : Opcode} (hbyte : script[pc]? = some opcode)
    (h : opcode ≠ Opcode.opPushdata4) : script.endOverflows platform pc = false := by
  rw [endOverflows]
  cases hopcode : script.getOpcode pc with
  | error e => rfl
  | ok found =>
    have hfound : found = opcode := by
      rw [getOpcode, hbyte] at hopcode
      cases hknown : Opcode.fromU8 opcode with
      | none => simp [hknown] at hopcode
      | some known =>
        simp only [hknown, Except.ok.injEq] at hopcode
        rw [← hopcode, fromU8_eq_some hknown]
    cases script.take (pc + 1) 4 with
    | error e => rfl
    | ok slice => cases hread : readUsize slice 4 <;> simp [hread, hfound, h]

/-- Another push than that of a key ends the loop. -/
theorem keysFrom_of_not_key {opcode : Opcode} (hlt : pc < script.length - 2)
    (hbyte : script[pc]? = some opcode) (h4 : opcode ≠ Opcode.opPushdata4)
    (hkey : opcode.isKeyPush = false) (keys : ℕ) :
    script.keysFrom platform pc keys = some none := by
  cases hat : script.instructionAt platform pc with
  | ok x =>
    have hx : x.opcode = opcode :=
      Option.some.inj ((opcode_of_instructionAt hat).symm.trans hbyte)
    rw [keysFrom_of_ok hlt hat, if_neg (by rw [isKeyInstruction, hx, hkey]; decide)]
  | error e =>
    cases e with
    | panic =>
      rw [instructionAt, if_neg (by omega), endOverflows_of_ne hbyte h4] at hat
      cases hget : script.getInstructionAt pc <;> simp [hget] at hat
    | error e =>
      rw [keysFrom, if_pos hlt]
      split
      · rename_i hpanic
        rw [hat] at hpanic
        cases hpanic
      · rfl
      · rename_i y hok
        rw [hat] at hok
        cases hok

/-- A witness program is no multisig. -/
theorem isMultisigScript_of_second {opcode : Opcode} (hsecond : script[1]? = some opcode)
    (h4 : opcode ≠ Opcode.opPushdata4) (hkey : opcode.isKeyPush = false)
    (hlength : 3 < script.length) : script.isMultisigScript platform = some false := by
  by_cases hframe : script.MultisigFrame
  · obtain ⟨hle, siglen, keylen, hfirst, hnumber, hkeys, hlast⟩ := hframe
    rw [isMultisigScript_of_frame hle hfirst hnumber hkeys hlast,
      keysFrom_of_not_key (by omega) hsecond h4 hkey]
    simp
  · exact isMultisigScript_of_not_frame hframe

theorem witnessKey_places (h : script.isPayToWitnessKeyHash = some true) :
    script.length = 22 ∧ script[0]? = some Opcode.op0 ∧
      script[1]? = some Opcode.opPushbytes20 := by
  rw [isPayToWitnessKeyHash] at h
  by_cases hlength : script.length = 22
  · rw [if_pos hlength, hasBytes_eq_true] at h
    exact ⟨hlength, by simpa using h⟩
  · rw [if_neg hlength] at h
    cases h

theorem witnessScript_places (h : script.isPayToWitnessScriptHash = some true) :
    script.length = 34 ∧ script[0]? = some Opcode.op0 ∧
      script[1]? = some Opcode.opPushbytes32 := by
  rw [isPayToWitnessScriptHash] at h
  by_cases hlength : script.length = 34
  · rw [if_pos hlength, hasBytes_eq_true] at h
    exact ⟨hlength, by simpa using h⟩
  · rw [if_neg hlength] at h
    cases h

theorem scriptType_witnessKey (h : script.isPayToWitnessKeyHash = some true) :
    script.scriptType platform = some .witnessKey := by
  obtain ⟨hlength, hfirst, hsecond⟩ := witnessKey_places h
  simp [scriptType, isPayToPublicKey_of_first hfirst (by decide), isPayToPublicKeyHash, hlength,
    isPayToScriptHash, isMultisigScript_of_second hsecond (by decide) (by decide) (by omega),
    isNullDataScript_of_first hfirst (by decide), h]

theorem scriptType_witnessScript (h : script.isPayToWitnessScriptHash = some true) :
    script.scriptType platform = some .witnessScript := by
  obtain ⟨hlength, hfirst, hsecond⟩ := witnessScript_places h
  simp [scriptType, isPayToPublicKey_of_first hfirst (by decide), isPayToPublicKeyHash, hlength,
    isPayToScriptHash, isMultisigScript_of_second hsecond (by decide) (by decide) (by omega),
    isNullDataScript_of_first hfirst (by decide), isPayToWitnessKeyHash, h]

end Script

end DeXFG.Utxo
