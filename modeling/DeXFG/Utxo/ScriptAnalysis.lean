import DeXFG.Utxo.AddressRoundTrip
import DeXFG.Utxo.Script

/-!
# What a script says

The classifiers and walks that take any bytes as a script, with the places where they can
panic: an index, a failing `expect`, a number that leaves its type.
-/
namespace DeXFG.Utxo

/-- What a `usize` of the target holds. -/
inductive Platform where
  | bits32
  | bits64
  deriving DecidableEq

def Platform.usizeLimit : Platform → ℕ
  | bits32 => 2 ^ 32
  | bits64 => 2 ^ 64

/-- A script that is held in memory, which bounds its length. -/
structure HeldScript (platform : Platform) where
  data : Script
  length_lt : 2 * data.length < platform.usizeLimit

namespace Opcode

abbrev opPushbytes20 : Opcode := 0x14
abbrev opPushbytes33 : Opcode := 0x21
abbrev opPushbytes65 : Opcode := 0x41
abbrev op16 : Opcode := 0x60
abbrev opCheckmultisig : Opcode := 0xae
abbrev opCheckmultisigverify : Opcode := 0xaf

def isWithinOpN (opcode : Opcode) : Bool := op1 ≤ opcode && opcode ≤ op16

/-- Of an opcode within `OP_1` and `OP_16`. -/
def decodeOpN (opcode : Opcode) : ℕ := opcode.toNat - (op1.toNat - 1)

def isKeyPush (opcode : Opcode) : Bool := opcode = opPushbytes33 || opcode = opPushbytes65

def isChecksig (opcode : Opcode) : Bool := opcode = opChecksig || opcode = opChecksigverify

def isCheckmultisig (opcode : Opcode) : Bool :=
  opcode = opCheckmultisig || opcode = opCheckmultisigverify

end Opcode

inductive ScriptFault where
  | error (e : ScriptError)
  | panic
  deriving DecidableEq, Repr

namespace Script

variable (platform : Platform) (script : Script)

/-! ## Instructions -/

/-- The end of the data of a long push is past what a `usize` holds. -/
def endOverflows (position : ℕ) : Bool :=
  match script.getOpcode position, script.take (position + 1) 4 with
  | .ok opcode, .ok slice =>
    match readUsize slice 4 with
    | .ok n => opcode = Opcode.opPushdata4 && platform.usizeLimit ≤ position + 1 + 4 + n
    | .error _ => false
  | _, _ => false

/-- `get_instruction_at` with its index and its sum. -/
def instructionAt (position : ℕ) : Except ScriptFault Instruction :=
  if script.length ≤ position then .error .panic
  else if script.endOverflows platform position then .error .panic
  else match script.getInstructionAt position with
    | .ok x => .ok x
    | .error e => .error (.error e)

/-- `Instructions::next`: what it yields and where it stands then. -/
def instructionsNext (position : ℕ) : Option (Except ScriptFault Instruction × ℕ) :=
  if script.length ≤ position then none
  else match script.instructionAt platform position with
    | .ok x => some (.ok x, position + x.step)
    | .error e => some (.error e, script.length)

/-- `Opcodes::next` stays where it is after an error. -/
def opcodesNext (position : ℕ) : Option (Except ScriptFault Opcode × ℕ) :=
  if script.length ≤ position then none
  else match script.instructionAt platform position with
    | .ok x => some (.ok x.opcode, position + x.step)
    | .error e => some (.error e, position)

/-- An iterator comes to its end and does not panic. -/
inductive Ends {α : Type} (next : ℕ → Option (Except ScriptFault α × ℕ)) : ℕ → Prop
  | done {position : ℕ} : next position = none → Ends next position
  | step {position position' : ℕ} {item : Except ScriptFault α} :
      next position = some (item, position') → item ≠ .error .panic → Ends next position' →
      Ends next position

/-! ### Steps -/

variable {platform script} {position : ℕ} {x : Instruction}

theorem one_le_step (h : script.getInstructionAt position = .ok x) : 1 ≤ x.step := by
  unfold getInstructionAt at h
  cases hopcode : script.getOpcode position with
  | error e => simp [hopcode, bind, Except.bind] at h
  | ok opcode =>
    simp only [hopcode, bind, Except.bind] at h
    repeat' split at h
    all_goals cases h
    all_goals exact Nat.le_add_left 1 _

theorem getInstructionAt_of_instructionAt (h : script.instructionAt platform position = .ok x) :
    script.getInstructionAt position = .ok x := by
  unfold instructionAt at h
  split at h
  · cases h
  · split at h
    · cases h
    · cases hget : script.getInstructionAt position with
      | ok y =>
        rw [hget] at h
        cases h
        rfl
      | error e =>
        rw [hget] at h
        cases h

theorem one_le_of_instructionAt (h : script.instructionAt platform position = .ok x) :
    1 ≤ x.step :=
  one_le_step (getInstructionAt_of_instructionAt h)

theorem lt_of_instructionAt (h : script.instructionAt platform position = .ok x) :
    position < script.length := by
  by_contra hle
  rw [instructionAt, if_pos (not_lt.mp hle)] at h
  cases h

variable (platform script)

/-! ## Classifiers -/

/-- The bytes at some places, compared one after the other. -/
def hasBytes : List (ℕ × Opcode) → Option Bool
  | [] => some true
  | (i, opcode) :: rest => do
    let byte ← script[i]?
    if byte = opcode then hasBytes rest else some false

def isPayToPublicKeyHash : Option Bool :=
  if script.length = 25 then
    script.hasBytes [(0, Opcode.opDup), (1, Opcode.opHash160), (2, Opcode.opPushbytes20),
      (23, Opcode.opEqualverify), (24, Opcode.opChecksig)]
  else some false

def isPayToPublicKey : Option Bool :=
  if script.isEmpty then some false
  else do
    let first ← script[0]?
    if first = Opcode.opPushbytes33 then
      if script.length = 35 then script.hasBytes [(34, Opcode.opChecksig)] else some false
    else if first = Opcode.opPushbytes65 then
      if script.length = 67 then script.hasBytes [(66, Opcode.opChecksig)] else some false
    else some false

def isPayToScriptHash : Option Bool :=
  if script.length = 23 then
    script.hasBytes [(0, Opcode.opHash160), (1, Opcode.opPushbytes20), (22, Opcode.opEqual)]
  else some false

def isPayToWitnessKeyHash : Option Bool :=
  if script.length = 22 then
    script.hasBytes [(0, Opcode.op0), (1, Opcode.opPushbytes20)]
  else some false

def isPayToWitnessScriptHash : Option Bool :=
  if script.length = 34 then
    script.hasBytes [(0, Opcode.op0), (1, Opcode.opPushbytes32)]
  else some false

/-- The number an opcode at some place stands for, if it is one of numbers. -/
def numberAt (position : ℕ) : Option (Option ℕ) := do
  let u ← script[position]?
  match Opcode.fromU8 u with
  | none => some none
  | some opcode =>
    if opcode = Opcode.op0 then some (some 0)
    else if opcode.isWithinOpN then some (some opcode.decodeOpN)
    else some none

/-- The loop over the keys: their number, unless something else is pushed. -/
def keysFrom (pc keys : ℕ) : Option (Option ℕ) :=
  if pc < script.length - 2 then
    match _h : script.instructionAt platform pc with
    | .error .panic => none
    | .error (.error _) => some none
    | .ok instruction =>
      if instruction.opcode.isKeyPush then
        -- `keys` is an `u8`
        if keys = 255 then none else keysFrom (pc + instruction.step) (keys + 1)
      else some none
  else some (some keys)
termination_by script.length - pc
decreasing_by
  have := one_le_of_instructionAt _h
  have := lt_of_instructionAt _h
  omega

def isMultisigScript : Option Bool :=
  if script.length < 3 then some false
  else do
    match ← script.numberAt 0 with
    | none => some false
    | some siglen =>
      match ← script.numberAt (script.length - 2) with
      | none => some false
      | some keylen =>
        if keylen < siglen then some false
        else do
          let last ← script[script.length - 1]?
          if last ≠ Opcode.opCheckmultisig then some false
          else
            match ← script.keysFrom platform 1 0 with
            | none => some false
            | some keys => some (keys = keylen)

def subscript (start : ℕ) : Script := script.drop start

def isPushOnlyFrom (pc : ℕ) : Option Bool :=
  if pc < script.length then
    match _h : script.instructionAt platform pc with
    | .error .panic => none
    | .error (.error _) => some false
    | .ok instruction =>
      if Opcode.op16 < instruction.opcode then some false
      else isPushOnlyFrom (pc + instruction.step)
  else some true
termination_by script.length - pc
decreasing_by
  have := one_le_of_instructionAt _h
  have := lt_of_instructionAt _h
  omega

def isPushOnly : Option Bool := script.isPushOnlyFrom platform 0

def isNullDataScript : Option Bool :=
  if script.isEmpty then some false
  else do
    let first ← script[0]?
    if first = Opcode.opReturn then (script.subscript 1).isPushOnly platform else some false

inductive ScriptType where
  | nonStandard
  | pubKey
  | pubKeyHash
  | scriptHash
  | multisig
  | nullData
  | witnessScript
  | witnessKey
  deriving DecidableEq, Repr

def scriptType : Option ScriptType := do
  if ← script.isPayToPublicKey then some .pubKey
  else if ← script.isPayToPublicKeyHash then some .pubKeyHash
  else if ← script.isPayToScriptHash then some .scriptHash
  else if ← script.isMultisigScript platform then some .multisig
  else if ← script.isNullDataScript platform then some .nullData
  else if ← script.isPayToWitnessKeyHash then some .witnessKey
  else if ← script.isPayToWitnessScriptHash then some .witnessScript
  else some .nonStandard

/-! ## Signature operations -/

def maxPubkeysPerMultisig : ℕ := 20

/-- What an opcode adds after another one. -/
def sigopsOf (serializedScript : Bool) (lastOpcode opcode : Opcode) : ℕ :=
  if opcode.isChecksig then 1
  else if opcode.isCheckmultisig then
    if serializedScript && lastOpcode.isWithinOpN then lastOpcode.decodeOpN
    else maxPubkeysPerMultisig
  else 0

def sigopsFrom (serializedScript : Bool) (position : ℕ) (lastOpcode : Opcode) (total : ℕ) :
    Option ℕ :=
  if script.length ≤ position then some total
  else
    match _h : script.instructionAt platform position with
    | .error .panic => none
    -- if an invalid element is pushed, all previous ones are counted
    | .error (.error _) => some total
    | .ok x =>
      if platform.usizeLimit ≤ total + sigopsOf serializedScript lastOpcode x.opcode then none
      else
        sigopsFrom serializedScript (position + x.step) x.opcode
          (total + sigopsOf serializedScript lastOpcode x.opcode)
termination_by script.length - position
decreasing_by
  have := one_le_of_instructionAt _h
  have := lt_of_instructionAt _h
  omega

def sigopsCount (serializedScript : Bool) : Option ℕ :=
  script.sigopsFrom platform serializedScript 0 Opcode.op0 0

/-! ## Destinations -/

structure ScriptAddress where
  kind : AddressScriptType
  hash : AddressHashEnum
  deriving DecidableEq, Repr

/-- `Public::from_slice`. -/
def publicFromSlice (data : Bytes) : Except DecodeFault Public :=
  if h : data.length = 33 ∨ data.length = 65 then .ok ⟨data, h⟩
  else .error (.error "Invalid Public")

variable (crypto : Bitcrypto)

/-- A key in some place of a script. -/
def publicAt (start stop : ℕ) : Except DecodeFault ScriptAddress := do
  let pubkey ← publicFromSlice (← slice script start stop)
  return { kind := .p2pkh, hash := .addressHash (crypto.dhash160 pubkey.val) }

/-- A hash of 20 bytes in some place of a script. -/
def hashAt (kind : AddressScriptType) (start stop : ℕ) : Except DecodeFault ScriptAddress :=
  match slice script start stop with
  | .error _ => .error (.error "Invalid Address")
  | .ok bytes =>
    if h : bytes.length = 20 then .ok { kind := kind, hash := .addressHash ⟨bytes, h⟩ }
    else .error (.error "Invalid Address")

def witnessHashAt (start stop : ℕ) : Except DecodeFault ScriptAddress :=
  match slice script start stop with
  | .error _ => .error (.error "Invalid Address")
  | .ok bytes =>
    if h : bytes.length = 32 then .ok { kind := .p2wsh, hash := .witnessScriptHash ⟨bytes, h⟩ }
    else .error (.error "Invalid Address")

/-- The keys of a script whose type is known. -/
def multisigDestinations (pc : ℕ) : Except DecodeFault (List ScriptAddress) :=
  if pc < script.length - 2 then
    match _h : script.instructionAt platform pc with
    | .error _ => .error .panic
    | .ok instruction =>
      match instruction.data with
      | none => .error .panic
      | some data => do
        let pubkey ← publicFromSlice data
        let addresses ← multisigDestinations (pc + instruction.step)
        return { kind := .p2pkh, hash := .addressHash (crypto.dhash160 pubkey.val) } :: addresses
  else .ok []
termination_by script.length - pc
decreasing_by
  have := one_le_of_instructionAt _h
  have := lt_of_instructionAt _h
  omega

def extractDestinations : Except DecodeFault (List ScriptAddress) :=
  match script.scriptType platform with
  | none => .error .panic
  | some .nonStandard => .ok []
  | some .pubKey =>
    match script[0]? with
    | none => .error .panic
    | some first =>
      if first = Opcode.opPushbytes33 then return [← script.publicAt crypto 1 34]
      else if first = Opcode.opPushbytes65 then return [← script.publicAt crypto 1 66]
      -- unreachable
      else .error .panic
  | some .pubKeyHash => return [← script.hashAt .p2pkh 3 23]
  | some .scriptHash => return [← script.hashAt .p2sh 2 22]
  | some .multisig => script.multisigDestinations platform crypto 1
  | some .nullData => .ok []
  | some .witnessScript => return [← script.witnessHashAt 2 34]
  | some .witnessKey => return [← script.hashAt .p2wpkh 2 22]

end Script

/-! ## Addresses -/

/-- A coin as its configuration has it. -/
structure UtxoCoinFields where
  config : CoinConfig
  addressFormat : AddressFormat

namespace UtxoCoinFields

variable (coin : UtxoCoinFields)

def conf : UtxoCoinConf := coin.config.build

def defaultAddressFormat : AddressFormat := coin.config.addressFormat coin.addressFormat

def addrFormatForStandardScripts : AddressFormat :=
  match coin.defaultAddressFormat with
  | .segwit => .standard
  | format => format

/-- The format and the option for a destination. -/
def builderOf (dst : Script.ScriptAddress) : AddressBuilder :=
  match dst.kind with
  | .p2pkh => .ofConf coin.conf coin.addrFormatForStandardScripts (.pubkeyHash dst.hash)
  | .p2sh => .ofConf coin.conf coin.addrFormatForStandardScripts (.scriptHash dst.hash)
  | .p2wpkh => .ofConf coin.conf .segwit (.pubkeyHash dst.hash)
  | .p2wsh => .ofConf coin.conf .segwit (.scriptHash dst.hash)

/-- The address of a destination, whose properties are expected to be valid. -/
def addressOf (crypto : Bitcrypto) (dst : Script.ScriptAddress) : Except DecodeFault Address :=
  match (coin.builderOf dst).build crypto with
  | .ok address => .ok address
  | .error _ => .error .panic

def addressesFromScript (platform : Platform) (crypto : Bitcrypto) (script : Script) :
    Except DecodeFault (List Address) := do
  let destinations ← script.extractDestinations platform crypto
  destinations.mapM (coin.addressOf crypto)

end UtxoCoinFields

namespace Builder

/-- `build_p2pkh`, of a hash of any length. -/
def p2pkhOf (hash : AddressHashEnum) : Script :=
  (((((default.pushOpcode Opcode.opDup).pushOpcode Opcode.opHash160).pushData
    hash.toVec).pushOpcode Opcode.opEqualverify).pushOpcode Opcode.opChecksig).intoScript

/-- `build_p2sh`, of a hash of any length. -/
def p2shOf (hash : AddressHashEnum) : Script :=
  (((default.pushOpcode Opcode.opHash160).pushData hash.toVec).pushOpcode
    Opcode.opEqual).intoScript

def buildP2wpkh : AddressHashEnum → Except String Script
  | .addressHash hash => .ok ((default.pushOpcode Opcode.op0).pushData hash.val).intoScript
  | .witnessScriptHash _ => .error "Witness hash mismatched"

def buildP2wsh : AddressHashEnum → Except String Script
  | .witnessScriptHash hash => .ok ((default.pushOpcode Opcode.op0).pushData hash.val).intoScript
  | .addressHash _ => .error "Witness hash mismatched"

end Builder

def outputScript (address : Address) : Except String Script :=
  match address.scriptType with
  | .p2pkh => .ok (Builder.p2pkhOf address.hash)
  | .p2sh => .ok (Builder.p2shOf address.hash)
  | .p2wpkh => Builder.buildP2wpkh address.hash
  | .p2wsh => Builder.buildP2wsh address.hash

end DeXFG.Utxo
