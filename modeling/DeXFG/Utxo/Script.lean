import DeXFG.Library.BitcoinScript
import DeXFG.Utxo.Types

/-!
# Building and reading scripts

The builder appends to the bytes of a script, the iterator walks over them. What
the builder emits decodes to what it was given, and where a script decodes the
iterator yields its instructions.
-/
namespace DeXFG.Utxo
open Library.BitcoinScript

/-- An opcode is its byte. -/
abbrev Opcode := UInt8

namespace Opcode

abbrev op0 : Opcode := 0x00
abbrev opPushbytes32 : Opcode := 0x20
abbrev opPushbytes75 : Opcode := 0x4b
abbrev opPushdata1 : Opcode := 0x4c
abbrev opPushdata2 : Opcode := 0x4d
abbrev opPushdata4 : Opcode := 0x4e
abbrev op1 : Opcode := 0x51
abbrev opIf : Opcode := 0x63
abbrev opElse : Opcode := 0x67
abbrev opEndif : Opcode := 0x68
abbrev opReturn : Opcode := 0x6a
abbrev opDrop : Opcode := 0x75
abbrev opDup : Opcode := 0x76
abbrev opSize : Opcode := 0x82
abbrev opEqual : Opcode := 0x87
abbrev opEqualverify : Opcode := 0x88
abbrev opHash160 : Opcode := 0xa9
abbrev opChecksig : Opcode := 0xac
abbrev opChecksigverify : Opcode := 0xad
abbrev opChecklocktimeverify : Opcode := 0xb1

/-- The bytes that are opcodes: all of the script language, and four of Qtum. -/
def fromU8 (u : UInt8) : Option Opcode :=
  if u ≤ 0xb9 ∨ (0xc1 ≤ u ∧ u ≤ 0xc4) then some u else none

end Opcode

/-! ## The builder -/

structure Builder where
  data : Bytes

namespace Builder

def default : Builder where
  data := []

def pushOpcode (b : Builder) (opcode : Opcode) : Builder where
  data := b.data ++ [opcode]

/-- The opcode and the length in front of pushed data. -/
def pushHeader (len : ℕ) : Bytes :=
  if len < Opcode.opPushdata1.toNat then [UInt8.ofNat len]
  else if len < 0x100 then [Opcode.opPushdata1, UInt8.ofNat len]
  else if len < 0x10000 then
    [Opcode.opPushdata2, UInt8.ofNat len, UInt8.ofNat (len >>> 8)]
  else
    -- data of 2^32 bytes and more panics in the source
    [Opcode.opPushdata4, UInt8.ofNat len, UInt8.ofNat (len >>> 8), UInt8.ofNat (len >>> 16),
      UInt8.ofNat (len >>> 24)]

def pushData (b : Builder) (data : Bytes) : Builder where
  data := b.data ++ (pushHeader data.length ++ data)

def extendFromSlice (b : Builder) (bytes : Bytes) : Builder where
  data := b.data ++ bytes

def intoScript (b : Builder) : Script := b.data

def intoBytes (b : Builder) : Bytes := b.data

def buildP2pkh (address : H160) : Script :=
  (((((default.pushOpcode Opcode.opDup).pushOpcode Opcode.opHash160).pushData
    address.val).pushOpcode Opcode.opEqualverify).pushOpcode Opcode.opChecksig).intoScript

def buildP2sh (address : H160) : Script :=
  (((default.pushOpcode Opcode.opHash160).pushData address.val).pushOpcode
    Opcode.opEqual).intoScript

end Builder

/-! ## The iterator -/

structure Instruction where
  opcode : Opcode
  step : ℕ
  data : Option Bytes
  deriving DecidableEq, Repr

inductive ScriptError where
  | badOpcode
  deriving DecidableEq, Repr

namespace Script

/-- The positions asked for are in the script. -/
def getOpcode (script : Script) (position : ℕ) : Except ScriptError Opcode :=
  match script[position]? with
  | none => .error .badOpcode
  | some u =>
    match Opcode.fromU8 u with
    | none => .error .badOpcode
    | some opcode => .ok opcode

def take (script : Script) (offset len : ℕ) : Except ScriptError Bytes :=
  if offset + len > script.length then .error .badOpcode
  else .ok ((script.drop offset).take len)

def readUsize (data : Bytes) (size : ℕ) : Except ScriptError ℕ :=
  if data.length < size then .error .badOpcode
  else .ok (((data.take size).zipIdx.map fun x => x.1.toNat <<< (x.2 * 8)).sum)

def getInstructionAt (script : Script) (position : ℕ) : Except ScriptError Instruction := do
  let opcode ← script.getOpcode position
  if opcode = Opcode.opPushdata1 ∨ opcode = Opcode.opPushdata2 ∨ opcode = Opcode.opPushdata4 then
    let len := if opcode = Opcode.opPushdata1 then 1
      else if opcode = Opcode.opPushdata2 then 2 else 4
    let slice ← script.take (position + 1) len
    let n ← readUsize slice len
    let bytes ← script.take (position + 1 + len) n
    .ok { opcode := opcode, step := len + n + 1, data := some bytes }
  else if opcode ≤ Opcode.opPushbytes75 then
    let bytes ← script.take (position + 1) opcode.toNat
    .ok { opcode := opcode, step := opcode.toNat + 1, data := some bytes }
  else
    .ok { opcode := opcode, step := 1, data := none }

/-- The iterator from a position; it ends at the first error. -/
def iterFrom (script : Script) : ℕ → ℕ → List (Except ScriptError Instruction)
  | 0, _ => []
  | fuel + 1, position =>
    if script.length ≤ position then []
    else match script.getInstructionAt position with
      | .error e => [.error e]
      | .ok x => .ok x :: script.iterFrom fuel (position + x.step)

/-- Each instruction takes a byte at least. -/
def iter (script : Script) : List (Except ScriptError Instruction) :=
  script.iterFrom script.length 0

end Script

/-! ## What the builder emits -/

/-- The instruction that pushes data in the shortest way. -/
def pushInstr (data : Bytes) : Instr where
  opcode := if data.length < Opcode.opPushdata1.toNat then UInt8.ofNat data.length
    else if data.length < 0x100 then Opcode.opPushdata1
    else if data.length < 0x10000 then Opcode.opPushdata2 else Opcode.opPushdata4
  data := data

/-- The instruction of an opcode alone. -/
def plainInstr (opcode : Opcode) : Instr where
  opcode := opcode
  data := []

theorem pushInstr_opcode_le (data : Bytes) : (pushInstr data).opcode ≤ 0x4e := by
  unfold pushInstr
  dsimp only
  split
  · rename_i h
    rw [UInt8.le_iff_toNat_le, UInt8.toNat_ofNat_of_lt' (lt_trans h (by decide))]
    exact le_trans (le_of_lt h) (by decide)
  · split
    · decide
    · split <;> decide

@[simp] theorem pushInstr_op (data : Bytes) : (pushInstr data).op = .push data := by
  rw [Instr.op, if_pos (pushInstr_opcode_le data)]
  rfl

@[simp] theorem pushInstr_isPush (data : Bytes) : (pushInstr data).isPush = true := by
  have hle := UInt8.le_trans (pushInstr_opcode_le data) (by decide : (0x4e : UInt8) ≤ 0x60)
  simpa [Instr.isPush] using hle

theorem readLe_ofNat_bytes (len : ℕ) (h : len < 2 ^ 32) :
    readLe [UInt8.ofNat len, UInt8.ofNat (len >>> 8), UInt8.ofNat (len >>> 16),
      UInt8.ofNat (len >>> 24)] = len := by
  simp only [readLe, List.map_cons, List.map_nil, Nat.ofDigits_cons, Nat.ofDigits_nil,
    UInt8.toNat_ofNat', Nat.shiftRight_eq_div_pow]
  omega

theorem decode_pushData (data rest : Bytes) (h : data.length < 2 ^ 32) :
    decode (Builder.pushHeader data.length ++ (data ++ rest)) =
      (decode rest).map fun instrs => pushInstr data :: instrs := by
  unfold Builder.pushHeader pushInstr
  split
  · rename_i hshort
    exact decode_short data (Nat.le_of_lt_succ hshort) rest
  · split
    · rename_i hlen
      refine decode_long [UInt8.ofNat data.length] (Or.inl rfl) rfl ?_ rest
      simp [readLe, Nat.mod_eq_of_lt hlen]
    · split
      · rename_i hlen
        refine decode_long [UInt8.ofNat data.length, UInt8.ofNat (data.length >>> 8)]
          (Or.inr (Or.inl rfl)) rfl ?_ rest
        simp only [readLe, List.map_cons, List.map_nil, Nat.ofDigits_cons, Nat.ofDigits_nil,
          UInt8.toNat_ofNat', Nat.shiftRight_eq_div_pow]
        omega
      · exact decode_long _ (Or.inr (Or.inr rfl)) rfl (readLe_ofNat_bytes data.length h) rest

/-- The bytes of the builder decode to instructions, whatever is appended to them. -/
def Builder.Emits (b : Builder) (instrs : List Instr) : Prop :=
  ∀ rest, decode (b.data ++ rest) = (decode rest).map fun after => instrs ++ after

namespace Builder

variable {b : Builder} {instrs : List Instr}

theorem emits_default : default.Emits [] := by
  intro rest
  simp [default]

theorem Emits.pushOpcode (hb : b.Emits instrs) (opcode : Opcode) (h : 0x4e < opcode) :
    (b.pushOpcode opcode).Emits (instrs ++ [plainInstr opcode]) := by
  intro rest
  change decode (b.data ++ [opcode] ++ rest) = _
  rw [List.append_assoc, hb, List.singleton_append, decode_plain h]
  cases decode rest <;> simp [plainInstr]

theorem Emits.pushData (hb : b.Emits instrs) (data : Bytes) (h : data.length < 2 ^ 32) :
    (b.pushData data).Emits (instrs ++ [pushInstr data]) := by
  intro rest
  change decode (b.data ++ (pushHeader data.length ++ data) ++ rest) = _
  rw [List.append_assoc, List.append_assoc, hb, decode_pushData data rest h]
  cases decode rest <;> simp

/-- `OP_0` is the push of no data. -/
theorem Emits.pushOp0 (hb : b.Emits instrs) :
    (b.pushOpcode Opcode.op0).Emits (instrs ++ [pushInstr []]) :=
  hb.pushData [] (by norm_num)

theorem Emits.extendFromSlice {c : Builder} {after : List Instr} (hb : b.Emits instrs)
    (hc : c.Emits after) : (b.extendFromSlice c.data).Emits (instrs ++ after) := by
  intro rest
  change decode (b.data ++ c.data ++ rest) = _
  rw [List.append_assoc, hb, hc]
  cases decode rest <;> simp

theorem Emits.decode (hb : b.Emits instrs) : Library.BitcoinScript.decode b.data = some instrs := by
  have h := hb []
  simpa using h

end Builder

/-! ## What the iterator yields -/

/-- An instruction as the iterator yields it. -/
def toInstruction (instr : Instr) : Instruction where
  opcode := instr.opcode
  step :=
    if instr.opcode ≤ 0x4b then instr.data.length + 1
    else if instr.opcode ≤ 0x4e then lengthWidth instr.opcode + instr.data.length + 1 else 1
  data := if instr.opcode ≤ 0x4e then some instr.data else none

namespace Script

variable {script : Script} {position : ℕ} {opcode : UInt8} {rest rest' : Bytes} {instr : Instr}

theorem take_of_drop {offset : ℕ} {data : Bytes} (h : script.drop offset = data ++ rest)
    (hle : offset ≤ script.length) : script.take offset data.length = .ok data := by
  have hlength := congrArg List.length h
  rw [List.length_drop, List.length_append] at hlength
  unfold take
  rw [if_neg (by omega), h, List.take_left]

theorem readUsize_eq (data : Bytes) : readUsize data data.length = .ok (readLe data) := by
  have hsum : ∀ (data : Bytes) (k : ℕ),
      ((data.zipIdx k).map fun x => x.1.toNat <<< (x.2 * 8)).sum = readLe data * 2 ^ (8 * k) := by
    intro data
    induction data with
    | nil => simp [readLe]
    | cons b data ih =>
      intro k
      rw [List.zipIdx_cons, List.map_cons, List.sum_cons, ih (k + 1)]
      simp only [readLe, List.map_cons, Nat.ofDigits_cons, Nat.shiftLeft_eq]
      ring
  unfold readUsize
  rw [if_neg (lt_irrefl _), List.take_length, hsum data 0]
  simp

/-- The iterator reads what the decoder reads. -/
theorem getInstructionAt_of_readInstr (hdrop : script.drop position = opcode :: rest)
    (hknown : Opcode.fromU8 opcode = some opcode)
    (hread : readInstr opcode rest = some (instr, rest')) :
    script.getInstructionAt position = .ok (toInstruction instr) ∧
      script.drop (position + (toInstruction instr).step) = rest' := by
  have hlength := congrArg List.length hdrop
  rw [List.length_drop, List.length_cons] at hlength
  have hat : script[position]? = some opcode := by
    rw [← List.head?_drop, hdrop, List.head?_cons]
  have hopcode : script.getOpcode position = .ok opcode := by
    rw [getOpcode, hat]
    simp only [hknown]
  have hnext : script.drop (position + 1) = rest := by
    rw [← List.drop_drop, hdrop, List.drop_one, List.tail_cons]
  have hsteps : ∀ taken : Bytes, rest = taken ++ rest' →
      script.drop (position + (taken.length + 1)) = rest' := by
    intro taken heq
    rw [← Nat.add_assoc, Nat.add_right_comm, ← List.drop_drop, hnext, heq, List.drop_left]
  unfold readInstr at hread
  split at hread
  · rename_i hshort
    obtain ⟨⟨data, after⟩, htake, heq⟩ := Option.bind_eq_some_iff.mp hread
    obtain ⟨hdata, hrest⟩ := takeExact_eq_some htake
    cases heq
    have hop : ¬ (opcode = Opcode.opPushdata1 ∨ opcode = Opcode.opPushdata2 ∨
        opcode = Opcode.opPushdata4) := by
      intro hop
      rcases hop with rfl | rfl | rfl <;> exact absurd hshort (by decide)
    have hbytes : script.take (position + 1) opcode.toNat = .ok data := by
      rw [← hdata]
      exact take_of_drop (hnext.trans hrest) (by omega)
    constructor
    · have hpushes : opcode ≤ 0x4e := UInt8.le_trans hshort (by decide)
      rw [getInstructionAt, hopcode]
      change (if _ then _ else _) = _
      rw [if_neg hop, if_pos hshort, hbytes]
      simp [toInstruction, hshort, hpushes, hdata, bind, Except.bind]
    · simpa [toInstruction, hshort] using hsteps data hrest
  · split at hread
    · rename_i hshort hlong
      obtain ⟨⟨len, after⟩, hlen, hread⟩ := Option.bind_eq_some_iff.mp hread
      obtain ⟨⟨data, after'⟩, htake, heq⟩ := Option.bind_eq_some_iff.mp hread
      obtain ⟨hwidth, hrest⟩ := takeExact_eq_some hlen
      obtain ⟨hdata, hafter⟩ := takeExact_eq_some htake
      cases heq
      have hop : opcode = Opcode.opPushdata1 ∨ opcode = Opcode.opPushdata2 ∨
          opcode = Opcode.opPushdata4 := by
        rw [UInt8.le_iff_toNat_le] at hshort hlong
        simp only [← UInt8.toNat_inj]
        change ¬ opcode.toNat ≤ 75 at hshort
        change opcode.toNat ≤ 78 at hlong
        change opcode.toNat = 76 ∨ opcode.toNat = 77 ∨ opcode.toNat = 78
        omega
      have hall : rest = (len ++ data) ++ rest' := by
        rw [List.append_assoc, ← hafter, hrest]
      have hslice : script.take (position + 1) (lengthWidth opcode) = .ok len := by
        rw [← hwidth]
        exact take_of_drop (hnext.trans hrest) (by omega)
      have hbytes : script.take (position + 1 + lengthWidth opcode) (readLe len) = .ok data := by
        rw [← hdata, ← hwidth]
        refine @take_of_drop _ rest' _ _ ?_ ?_
        · rw [← List.drop_drop, hnext, hrest, List.drop_left, hafter]
        · rw [hrest, List.length_append] at hlength
          omega
      have hstep : (toInstruction { opcode := opcode, data := data }).step =
          (len ++ data).length + 1 := by
        simp [toInstruction, hshort, hlong, hwidth]
      constructor
      · rw [getInstructionAt, hopcode]
        change (if _ then _ else _) = _
        rw [if_pos hop]
        change (do
          let slice ← script.take (position + 1) (lengthWidth opcode)
          let n ← readUsize slice (lengthWidth opcode)
          let bytes ← script.take (position + 1 + lengthWidth opcode) n
          Except.ok ({ opcode := opcode, step := lengthWidth opcode + n + 1, data := some bytes } :
            Instruction)) = _
        rw [hslice]
        simp only [bind, Except.bind]
        rw [← hwidth, readUsize_eq, hwidth]
        simp only [hbytes]
        simp [toInstruction, hshort, hlong, hdata]
      · rw [hstep]
        exact hsteps (len ++ data) hall
    · rename_i hshort hlong
      cases hread
      have hop : ¬ (opcode = Opcode.opPushdata1 ∨ opcode = Opcode.opPushdata2 ∨
          opcode = Opcode.opPushdata4) := by
        intro hop
        rcases hop with rfl | rfl | rfl <;> exact absurd (by decide) hlong
      constructor
      · rw [getInstructionAt, hopcode]
        change (if _ then _ else _) = _
        rw [if_neg hop, if_neg hshort]
        simp [toInstruction, hshort, hlong]
      · simpa [toInstruction, hshort, hlong] using hsteps [] rfl

/-- Where a script decodes, and all its opcodes are known, the iterator yields its
instructions. -/
theorem iter_of_decode {instrs : List Instr} (hdecode : decode script = some instrs)
    (hknown : ∀ instr ∈ instrs, Opcode.fromU8 instr.opcode = some instr.opcode) :
    script.iter = instrs.map fun instr => .ok (toInstruction instr) := by
  suffices hall : ∀ (fuel position : ℕ) (instrs : List Instr),
      decode (script.drop position) = some instrs →
      (∀ instr ∈ instrs, Opcode.fromU8 instr.opcode = some instr.opcode) →
      script.length ≤ position + fuel →
      script.iterFrom fuel position = instrs.map fun instr => .ok (toInstruction instr) by
    exact hall script.length 0 instrs hdecode hknown (by omega)
  intro fuel
  induction fuel with
  | zero =>
    intro position instrs hdecode _ hle
    rw [List.drop_eq_nil_of_le (by omega), decode_nil] at hdecode
    cases hdecode
    rfl
  | succ fuel ih =>
    intro position instrs hdecode hknown hle
    rw [iterFrom]
    cases hdrop : script.drop position with
    | nil =>
      rw [hdrop, decode_nil] at hdecode
      cases hdecode
      rw [if_pos (List.drop_eq_nil_iff.mp hdrop)]
      rfl
    | cons opcode rest =>
      rw [hdrop, decode_cons] at hdecode
      obtain ⟨⟨instr, rest'⟩, hread, htail⟩ := Option.bind_eq_some_iff.mp hdecode
      obtain ⟨after, hafter, heq⟩ := Option.map_eq_some_iff.mp htail
      subst heq
      rw [List.forall_mem_cons] at hknown
      have hopcode : instr.opcode = opcode := opcode_of_readInstr hread
      rw [hopcode] at hknown
      obtain ⟨hget, hnext⟩ := getInstructionAt_of_readInstr hdrop hknown.1 hread
      have hlt : ¬ script.length ≤ position := by
        intro hle
        rw [List.drop_eq_nil_of_le hle] at hdrop
        cases hdrop
      have hstep : 1 ≤ (toInstruction instr).step := by
        unfold toInstruction
        dsimp only
        split
        · omega
        · split <;> omega
      rw [if_neg hlt, hget]
      dsimp only
      rw [ih _ after (by rw [hnext]; exact hafter) hknown.2 (by omega)]
      rfl

/-- The instructions of the iterator are read at positions of the script. -/
theorem exists_position {instruction : Instruction} (hmem : .ok instruction ∈ script.iter) :
    ∃ position, script.getInstructionAt position = .ok instruction := by
  suffices hall : ∀ fuel position, .ok instruction ∈ script.iterFrom fuel position →
      ∃ position, script.getInstructionAt position = .ok instruction by
    exact hall _ _ hmem
  intro fuel
  induction fuel with
  | zero =>
    intro position hmem
    cases hmem
  | succ fuel ih =>
    intro position hmem
    rw [iterFrom] at hmem
    split at hmem
    · cases hmem
    · cases hget : script.getInstructionAt position with
      | error e => simp [hget] at hmem
      | ok x =>
        simp only [hget, List.mem_cons, Except.ok.injEq] at hmem
        rcases hmem with rfl | hrest
        · exact ⟨position, hget⟩
        · exact ih _ hrest

theorem length_of_take {offset len : ℕ} {data : Bytes} (h : script.take offset len = .ok data) :
    data.length = len := by
  unfold take at h
  split at h
  · cases h
  · cases h
    rw [List.length_take, List.length_drop]
    omega

/-- The opcode of a short push says how many bytes it pushes. -/
theorem length_of_short {instruction : Instruction} {data : Bytes}
    (hget : script.getInstructionAt position = .ok instruction)
    (hshort : instruction.opcode ≤ Opcode.opPushbytes75) (hdata : instruction.data = some data) :
    data.length = instruction.opcode.toNat := by
  unfold getInstructionAt at hget
  cases hopcode : script.getOpcode position with
  | error e => simp [hopcode, bind, Except.bind] at hget
  | ok opcode =>
    simp only [hopcode, bind, Except.bind] at hget
    split at hget
    · rename_i hlong
      split at hget
      · cases hget
      · split at hget
        · cases hget
        · split at hget
          · cases hget
          · cases hget
            simp only at hshort
            rcases hlong with rfl | rfl | rfl <;> exact absurd hshort (by decide)
    · split at hget
      · cases htake : script.take (position + 1) opcode.toNat with
        | error e => simp [htake] at hget
        | ok bytes =>
          simp only [htake, Except.ok.injEq] at hget
          subst hget
          simp only [Option.some.injEq] at hdata
          subst hdata
          exact length_of_take htake
      · cases hget
        cases hdata

end Script

end DeXFG.Utxo
