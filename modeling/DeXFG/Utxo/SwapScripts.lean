import DeXFG.Library.HashTimeLock
import DeXFG.Utxo.Script

/-!
# The scripts of swap payments

The redeem scripts of the payments of both protocols, and the stacks that
satisfy them: a refund after a time, a secret of 32 bytes, or the signatures of
both sides.
-/
namespace DeXFG.Utxo
open Library.BitcoinScript

/-- `u32::to_le_bytes`. -/
def toLeBytes (n : UInt32) : Bytes :=
  [n.toUInt8, (n >>> 8).toUInt8, (n >>> 16).toUInt8, (n >>> 24).toUInt8]

/-- A hash of 32 bytes is hashed once more. -/
def lockedHash (crypto : Bitcrypto) (secretHash : Bytes) : Bytes :=
  if secretHash.length = 32 then (crypto.ripemd160 secretHash).val else secretHash

variable (crypto : Bitcrypto)

/-- The payment of the legacy protocol. -/
def paymentScript (timeLock : UInt32) (secretHash : Bytes) (pub0 pub1 : Public) : Script :=
  (Builder.default
    |>.pushOpcode Opcode.opIf
    |>.pushData (toLeBytes timeLock)
    |>.pushOpcode Opcode.opChecklocktimeverify
    |>.pushOpcode Opcode.opDrop
    |>.pushData pub0.val
    |>.pushOpcode Opcode.opChecksig
    |>.pushOpcode Opcode.opElse
    |>.pushOpcode Opcode.opSize
    |>.pushData [32]
    |>.pushOpcode Opcode.opEqualverify
    |>.pushOpcode Opcode.opHash160
    |>.pushData (lockedHash crypto secretHash)
    |>.pushOpcode Opcode.opEqualverify
    |>.pushData pub1.val
    |>.pushOpcode Opcode.opChecksig
    |>.pushOpcode Opcode.opEndif).intoScript

def takerFundingScript (timeLock : UInt32) (takerSecretHash : Bytes) (takerPub makerPub : Public) :
    Script :=
  (Builder.default
    |>.pushOpcode Opcode.opIf
    |>.pushData (toLeBytes timeLock)
    |>.pushOpcode Opcode.opChecklocktimeverify
    |>.pushOpcode Opcode.opDrop
    |>.pushData takerPub.val
    |>.pushOpcode Opcode.opChecksig
    |>.pushOpcode Opcode.opElse
    |>.pushOpcode Opcode.opIf
    |>.pushData takerPub.val
    |>.pushOpcode Opcode.opChecksigverify
    |>.pushData makerPub.val
    |>.pushOpcode Opcode.opChecksig
    |>.pushOpcode Opcode.opElse
    |>.pushOpcode Opcode.opSize
    |>.pushData [32]
    |>.pushOpcode Opcode.opEqualverify
    |>.pushOpcode Opcode.opHash160
    |>.pushData (lockedHash crypto takerSecretHash)
    |>.pushOpcode Opcode.opEqualverify
    |>.pushData takerPub.val
    |>.pushOpcode Opcode.opChecksig
    |>.pushOpcode Opcode.opEndif
    |>.pushOpcode Opcode.opEndif).intoScript

def takerPaymentScript (timeLock : UInt32) (makerSecretHash : Bytes) (takerPub makerPub : Public) :
    Script :=
  (Builder.default
    |>.pushOpcode Opcode.opIf
    |>.pushData (toLeBytes timeLock)
    |>.pushOpcode Opcode.opChecklocktimeverify
    |>.pushOpcode Opcode.opDrop
    |>.pushData takerPub.val
    |>.pushOpcode Opcode.opChecksig
    |>.pushOpcode Opcode.opElse
    |>.pushOpcode Opcode.opSize
    |>.pushData [32]
    |>.pushOpcode Opcode.opEqualverify
    |>.pushOpcode Opcode.opHash160
    |>.pushData (lockedHash crypto makerSecretHash)
    |>.pushOpcode Opcode.opEqualverify
    |>.pushData takerPub.val
    |>.pushOpcode Opcode.opChecksigverify
    |>.pushData makerPub.val
    |>.pushOpcode Opcode.opChecksig
    |>.pushOpcode Opcode.opEndif).intoScript

/-- The maker payment, with an immediate refund path. -/
def makerPaymentScript (timeLock : UInt32) (makerSecretHash takerSecretHash : Bytes)
    (makerPub takerPub : Public) : Script :=
  (Builder.default
    |>.pushOpcode Opcode.opIf
    |>.pushData (toLeBytes timeLock)
    |>.pushOpcode Opcode.opChecklocktimeverify
    |>.pushOpcode Opcode.opDrop
    |>.pushData makerPub.val
    |>.pushOpcode Opcode.opChecksig
    |>.pushOpcode Opcode.opElse
    |>.pushOpcode Opcode.opIf
    |>.pushOpcode Opcode.opSize
    |>.pushData [32]
    |>.pushOpcode Opcode.opEqualverify
    |>.pushOpcode Opcode.opHash160
    |>.pushData (lockedHash crypto makerSecretHash)
    |>.pushOpcode Opcode.opEqualverify
    |>.pushData takerPub.val
    |>.pushOpcode Opcode.opChecksig
    |>.pushOpcode Opcode.opElse
    |>.pushOpcode Opcode.opSize
    |>.pushData [32]
    |>.pushOpcode Opcode.opEqualverify
    |>.pushOpcode Opcode.opHash160
    |>.pushData (lockedHash crypto takerSecretHash)
    |>.pushOpcode Opcode.opEqualverify
    |>.pushData makerPub.val
    |>.pushOpcode Opcode.opChecksig
    |>.pushOpcode Opcode.opEndif
    |>.pushOpcode Opcode.opEndif).intoScript

/-- Which payment of a swap a transaction makes, with the hashes it is locked to. -/
inductive SwapTxTypeWithSecretHash where
  | takerOrMakerPayment (makerSecretHash : Bytes)
  | takerFunding (takerSecretHash : Bytes)
  | makerPaymentV2 (makerSecretHash takerSecretHash : Bytes)
  | takerPaymentV2 (makerSecretHash takerSecretHash : Bytes)

namespace SwapTxTypeWithSecretHash

/-- The script of the party that pays. -/
def redeemScript (timeLock : UInt32) (myPublic otherPublic : Public) :
    SwapTxTypeWithSecretHash → Script
  | takerOrMakerPayment makerSecretHash =>
    paymentScript crypto timeLock makerSecretHash myPublic otherPublic
  | takerFunding takerSecretHash =>
    takerFundingScript crypto timeLock takerSecretHash myPublic otherPublic
  | makerPaymentV2 makerSecretHash takerSecretHash =>
    makerPaymentScript crypto timeLock makerSecretHash takerSecretHash myPublic otherPublic
  | takerPaymentV2 makerSecretHash _ =>
    takerPaymentScript crypto timeLock makerSecretHash myPublic otherPublic

/-- All hashes are of 20 or 32 bytes. -/
def Sized : SwapTxTypeWithSecretHash → Prop
  | takerOrMakerPayment hash => hash.length = 20 ∨ hash.length = 32
  | takerFunding hash => hash.length = 20 ∨ hash.length = 32
  | makerPaymentV2 hash hash' =>
    (hash.length = 20 ∨ hash.length = 32) ∧ (hash'.length = 20 ∨ hash'.length = 32)
  | takerPaymentV2 hash hash' =>
    (hash.length = 20 ∨ hash.length = 32) ∧ (hash'.length = 20 ∨ hash'.length = 32)

end SwapTxTypeWithSecretHash

/-! ## The ways to spend -/

/-- How the network checks an input of a transaction. -/
structure InputCheck where
  checkSig : Bytes → Bytes → Bool
  lockTime : ℕ
  notFinal : Bool

def InputCheck.context (check : InputCheck) : Context where
  hash160 := fun bytes => (crypto.dhash160 bytes).val
  checkSig := check.checkSig
  lockTime := check.lockTime
  notFinal := check.notFinal

/-- The owner takes the payment back after a time. -/
def RefundPath (check : InputCheck) (reached : Prop) (owner : Public) (stack : Stack) : Prop :=
  reached ∧ ∃ sig below, stack = sig :: below ∧ check.checkSig sig owner.val = true

/-- A party shows the secret of a hash. -/
def SecretPath (check : InputCheck) (secretHash : Bytes) (pub : Public) (stack : Stack) : Prop :=
  ∃ secret sig below, stack = secret :: sig :: below ∧ secret.length = 32 ∧
    (crypto.dhash160 secret).val = lockedHash crypto secretHash ∧
    check.checkSig sig pub.val = true

/-- Both parties sign. -/
def JointPath (check : InputCheck) (pub0 pub1 : Public) (stack : Stack) : Prop :=
  ∃ sig0 sig1 below, stack = sig0 :: sig1 :: below ∧ check.checkSig sig0 pub0.val = true ∧
    check.checkSig sig1 pub1.val = true

/-- Both parties sign and the secret of a hash is shown. -/
def JointSecretPath (check : InputCheck) (secretHash : Bytes) (pub0 pub1 : Public)
    (stack : Stack) : Prop :=
  ∃ secret below, stack = secret :: below ∧ secret.length = 32 ∧
    (crypto.dhash160 secret).val = lockedHash crypto secretHash ∧ JointPath check pub0 pub1 below

/-- The top of the stack selects the first way or the second. -/
def Selects (first second : Stack → Prop) (stack : Stack) : Prop :=
  ∃ selector rest, stack = selector :: rest ∧
    if castToBool selector then first rest else second rest

/-- The ways to spend a payment other than the refund to the party that pays. -/
def SwapTxTypeWithSecretHash.OtherPath (check : InputCheck) (myPublic otherPublic : Public) :
    SwapTxTypeWithSecretHash → Stack → Prop
  | takerOrMakerPayment makerSecretHash => SecretPath crypto check makerSecretHash otherPublic
  | takerFunding takerSecretHash =>
    Selects (JointPath check myPublic otherPublic)
      (SecretPath crypto check takerSecretHash myPublic)
  | makerPaymentV2 makerSecretHash takerSecretHash =>
    Selects (SecretPath crypto check makerSecretHash otherPublic)
      (SecretPath crypto check takerSecretHash myPublic)
  | takerPaymentV2 makerSecretHash _ =>
    JointSecretPath crypto check makerSecretHash myPublic otherPublic

variable {crypto : Bitcrypto} {ctx : Context} {check : InputCheck} {f g : Stack → Option Stack}
  {P Q : Stack → Prop} {timeLock : UInt32} {secretHash takerHash : Bytes}
  {pub0 pub1 : Public} {stack : Stack}

/-! ## Their code -/

theorem readLe_toLeBytes (n : UInt32) : readLe (toLeBytes n) = n.toNat := by
  have hlt := n.toNat_lt
  simp only [readLe, toLeBytes, List.map_cons, List.map_nil, Nat.ofDigits_cons, Nat.ofDigits_nil,
    UInt32.toNat_toUInt8, UInt32.toNat_shiftRight, Nat.shiftRight_eq_div_pow]
  simp
  omega

theorem length_public_lt (pub : Public) : pub.val.length < 2 ^ 32 := by
  rcases pub.property with h | h <;> omega

theorem length_lockedHash (h : secretHash.length = 20 ∨ secretHash.length = 32) :
    (lockedHash crypto secretHash).length = 20 := by
  unfold lockedHash
  split
  · exact (crypto.ripemd160 secretHash).property
  · rename_i hne
    exact h.resolve_right hne

theorem length_lockedHash_lt (h : secretHash.length = 20 ∨ secretHash.length = 32) :
    (lockedHash crypto secretHash).length < 2 ^ 32 := by
  rw [length_lockedHash h]
  norm_num

/-- The refund branch of every script. -/
def refundCode (timeLock : UInt32) (pub : Public) : List Op :=
  Library.BitcoinScript.timeLock (toLeBytes timeLock) ++ signedBy pub.val

/-- A secret for a hash. -/
def secretCode (crypto : Bitcrypto) (secretHash : Bytes) : List Op :=
  hashLock (lockedHash crypto secretHash)

theorem paymentScript_code (h : secretHash.length = 20 ∨ secretHash.length = 32) :
    ∃ instrs, decode (paymentScript crypto timeLock secretHash pub0 pub1) = some instrs ∧
      instrs.map Instr.op = .opIf :: (refundCode timeLock pub0 ++ .opElse ::
        ((secretCode crypto secretHash ++ signedBy pub1.val) ++ [.opEndif])) := by
  have hemits := Builder.emits_default
    |>.pushOpcode Opcode.opIf (by decide)
    |>.pushData (toLeBytes timeLock) (by norm_num [toLeBytes])
    |>.pushOpcode Opcode.opChecklocktimeverify (by decide)
    |>.pushOpcode Opcode.opDrop (by decide)
    |>.pushData pub0.val (length_public_lt pub0)
    |>.pushOpcode Opcode.opChecksig (by decide)
    |>.pushOpcode Opcode.opElse (by decide)
    |>.pushOpcode Opcode.opSize (by decide)
    |>.pushData [32] (by norm_num)
    |>.pushOpcode Opcode.opEqualverify (by decide)
    |>.pushOpcode Opcode.opHash160 (by decide)
    |>.pushData (lockedHash crypto secretHash) (length_lockedHash_lt h)
    |>.pushOpcode Opcode.opEqualverify (by decide)
    |>.pushData pub1.val (length_public_lt pub1)
    |>.pushOpcode Opcode.opChecksig (by decide)
    |>.pushOpcode Opcode.opEndif (by decide)
  refine ⟨_, hemits.decode, ?_⟩
  simp only [List.nil_append, List.append_assoc, List.map_append, List.map_cons, List.map_nil,
    pushInstr_op]
  rfl

theorem takerFundingScript_code (h : secretHash.length = 20 ∨ secretHash.length = 32) :
    ∃ instrs, decode (takerFundingScript crypto timeLock secretHash pub0 pub1) = some instrs ∧
      instrs.map Instr.op = .opIf :: (refundCode timeLock pub0 ++ .opElse ::
        ((.opIf :: ((signedAlsoBy pub0.val ++ signedBy pub1.val) ++ .opElse ::
          ((secretCode crypto secretHash ++ signedBy pub0.val) ++ [.opEndif]))) ++
            [.opEndif])) := by
  have hemits := Builder.emits_default
    |>.pushOpcode Opcode.opIf (by decide)
    |>.pushData (toLeBytes timeLock) (by norm_num [toLeBytes])
    |>.pushOpcode Opcode.opChecklocktimeverify (by decide)
    |>.pushOpcode Opcode.opDrop (by decide)
    |>.pushData pub0.val (length_public_lt pub0)
    |>.pushOpcode Opcode.opChecksig (by decide)
    |>.pushOpcode Opcode.opElse (by decide)
    |>.pushOpcode Opcode.opIf (by decide)
    |>.pushData pub0.val (length_public_lt pub0)
    |>.pushOpcode Opcode.opChecksigverify (by decide)
    |>.pushData pub1.val (length_public_lt pub1)
    |>.pushOpcode Opcode.opChecksig (by decide)
    |>.pushOpcode Opcode.opElse (by decide)
    |>.pushOpcode Opcode.opSize (by decide)
    |>.pushData [32] (by norm_num)
    |>.pushOpcode Opcode.opEqualverify (by decide)
    |>.pushOpcode Opcode.opHash160 (by decide)
    |>.pushData (lockedHash crypto secretHash) (length_lockedHash_lt h)
    |>.pushOpcode Opcode.opEqualverify (by decide)
    |>.pushData pub0.val (length_public_lt pub0)
    |>.pushOpcode Opcode.opChecksig (by decide)
    |>.pushOpcode Opcode.opEndif (by decide)
    |>.pushOpcode Opcode.opEndif (by decide)
  refine ⟨_, hemits.decode, ?_⟩
  simp only [List.nil_append, List.append_assoc, List.map_append, List.map_cons, List.map_nil,
    pushInstr_op]
  rfl

theorem takerPaymentScript_code (h : secretHash.length = 20 ∨ secretHash.length = 32) :
    ∃ instrs, decode (takerPaymentScript crypto timeLock secretHash pub0 pub1) = some instrs ∧
      instrs.map Instr.op = .opIf :: (refundCode timeLock pub0 ++ .opElse ::
        ((secretCode crypto secretHash ++ (signedAlsoBy pub0.val ++ signedBy pub1.val)) ++
          [.opEndif])) := by
  have hemits := Builder.emits_default
    |>.pushOpcode Opcode.opIf (by decide)
    |>.pushData (toLeBytes timeLock) (by norm_num [toLeBytes])
    |>.pushOpcode Opcode.opChecklocktimeverify (by decide)
    |>.pushOpcode Opcode.opDrop (by decide)
    |>.pushData pub0.val (length_public_lt pub0)
    |>.pushOpcode Opcode.opChecksig (by decide)
    |>.pushOpcode Opcode.opElse (by decide)
    |>.pushOpcode Opcode.opSize (by decide)
    |>.pushData [32] (by norm_num)
    |>.pushOpcode Opcode.opEqualverify (by decide)
    |>.pushOpcode Opcode.opHash160 (by decide)
    |>.pushData (lockedHash crypto secretHash) (length_lockedHash_lt h)
    |>.pushOpcode Opcode.opEqualverify (by decide)
    |>.pushData pub0.val (length_public_lt pub0)
    |>.pushOpcode Opcode.opChecksigverify (by decide)
    |>.pushData pub1.val (length_public_lt pub1)
    |>.pushOpcode Opcode.opChecksig (by decide)
    |>.pushOpcode Opcode.opEndif (by decide)
  refine ⟨_, hemits.decode, ?_⟩
  simp only [List.nil_append, List.append_assoc, List.map_append, List.map_cons, List.map_nil,
    pushInstr_op]
  rfl

theorem makerPaymentScript_code (h : secretHash.length = 20 ∨ secretHash.length = 32)
    (h' : takerHash.length = 20 ∨ takerHash.length = 32) :
    ∃ instrs, decode (makerPaymentScript crypto timeLock secretHash takerHash pub0 pub1) =
        some instrs ∧
      instrs.map Instr.op = .opIf :: (refundCode timeLock pub0 ++ .opElse ::
        ((.opIf :: ((secretCode crypto secretHash ++ signedBy pub1.val) ++ .opElse ::
          ((secretCode crypto takerHash ++ signedBy pub0.val) ++ [.opEndif]))) ++
            [.opEndif])) := by
  have hemits := Builder.emits_default
    |>.pushOpcode Opcode.opIf (by decide)
    |>.pushData (toLeBytes timeLock) (by norm_num [toLeBytes])
    |>.pushOpcode Opcode.opChecklocktimeverify (by decide)
    |>.pushOpcode Opcode.opDrop (by decide)
    |>.pushData pub0.val (length_public_lt pub0)
    |>.pushOpcode Opcode.opChecksig (by decide)
    |>.pushOpcode Opcode.opElse (by decide)
    |>.pushOpcode Opcode.opIf (by decide)
    |>.pushOpcode Opcode.opSize (by decide)
    |>.pushData [32] (by norm_num)
    |>.pushOpcode Opcode.opEqualverify (by decide)
    |>.pushOpcode Opcode.opHash160 (by decide)
    |>.pushData (lockedHash crypto secretHash) (length_lockedHash_lt h)
    |>.pushOpcode Opcode.opEqualverify (by decide)
    |>.pushData pub1.val (length_public_lt pub1)
    |>.pushOpcode Opcode.opChecksig (by decide)
    |>.pushOpcode Opcode.opElse (by decide)
    |>.pushOpcode Opcode.opSize (by decide)
    |>.pushData [32] (by norm_num)
    |>.pushOpcode Opcode.opEqualverify (by decide)
    |>.pushOpcode Opcode.opHash160 (by decide)
    |>.pushData (lockedHash crypto takerHash) (length_lockedHash_lt h')
    |>.pushOpcode Opcode.opEqualverify (by decide)
    |>.pushData pub0.val (length_public_lt pub0)
    |>.pushOpcode Opcode.opChecksig (by decide)
    |>.pushOpcode Opcode.opEndif (by decide)
    |>.pushOpcode Opcode.opEndif (by decide)
  refine ⟨_, hemits.decode, ?_⟩
  simp only [List.nil_append, List.append_assoc, List.map_append, List.map_cons, List.map_nil,
    pushInstr_op]
  rfl

/-! ## What satisfies them -/

theorem satisfied_choose_iff (hf : ∀ stack, satisfied f stack = true ↔ P stack)
    (hg : ∀ stack, satisfied g stack = true ↔ Q stack) :
    satisfied (choose f g) stack = true ↔ Selects P Q stack := by
  simp only [satisfied_choose, hf, hg, Selects]

theorem satisfied_refundCode :
    satisfied (execAll (check.context crypto) (refundCode timeLock pub0)) stack = true ↔
      RefundPath check ((check.context crypto).reached (toLeBytes timeLock) = true) pub0 stack := by
  rw [refundCode, satisfied_timeLock, satisfied_signedBy]
  rfl

theorem satisfied_secretCode :
    satisfied (execAll (check.context crypto) (secretCode crypto secretHash ++ signedBy pub0.val))
        stack = true ↔ SecretPath crypto check secretHash pub0 stack := by
  rw [secretCode, satisfied_hashLock]
  simp only [satisfied_signedBy]
  constructor
  · intro h
    obtain ⟨secret, _, rfl, hlength, hhash, sig, below, rfl, hsig⟩ := h
    exact ⟨secret, sig, below, rfl, hlength, hhash, hsig⟩
  · intro h
    obtain ⟨secret, sig, below, rfl, hlength, hhash, hsig⟩ := h
    exact ⟨secret, _, rfl, hlength, hhash, sig, below, rfl, hsig⟩

theorem satisfied_jointCode :
    satisfied (execAll (check.context crypto) (signedAlsoBy pub0.val ++ signedBy pub1.val))
        stack = true ↔ JointPath check pub0 pub1 stack := by
  rw [satisfied_signedAlsoBy]
  simp only [satisfied_signedBy]
  constructor
  · intro h
    obtain ⟨sig0, _, rfl, hsig0, sig1, below, rfl, hsig1⟩ := h
    exact ⟨sig0, sig1, below, rfl, hsig0, hsig1⟩
  · intro h
    obtain ⟨sig0, sig1, below, rfl, hsig0, hsig1⟩ := h
    exact ⟨sig0, _, rfl, hsig0, sig1, below, rfl, hsig1⟩

theorem satisfied_jointSecretCode :
    satisfied (execAll (check.context crypto)
        (secretCode crypto secretHash ++ (signedAlsoBy pub0.val ++ signedBy pub1.val))) stack = true ↔
      JointSecretPath crypto check secretHash pub0 pub1 stack := by
  rw [secretCode, satisfied_hashLock]
  simp only [satisfied_jointCode]
  rfl

theorem plain_refundCode : ∀ op ∈ refundCode timeLock pub0, op.isPlain = true := by
  simp [refundCode, Library.BitcoinScript.timeLock, signedBy, Op.isPlain]

theorem plain_secretCode :
    ∀ op ∈ secretCode crypto secretHash ++ signedBy pub0.val, op.isPlain = true := by
  simp [secretCode, hashLock, signedBy, Op.isPlain]

theorem plain_jointCode :
    ∀ op ∈ signedAlsoBy pub0.val ++ signedBy pub1.val, op.isPlain = true := by
  simp [signedAlsoBy, signedBy, Op.isPlain]

theorem plain_jointSecretCode :
    ∀ op ∈ secretCode crypto secretHash ++ (signedAlsoBy pub0.val ++ signedBy pub1.val),
      op.isPlain = true := by
  simp [secretCode, hashLock, signedAlsoBy, signedBy, Op.isPlain]

/-- The refund branch of every script, before its other branch is known. -/
theorem accepts_of_code {script : Script} {instrs : List Instr} {code : List Op}
    (hdecode : decode script = some instrs)
    (hcode : instrs.map Instr.op =
      .opIf :: (refundCode timeLock pub0 ++ .opElse :: (code ++ [.opEndif])))
    (hblock : Block (check.context crypto) code g)
    (hg : ∀ stack, satisfied g stack = true ↔ Q stack) :
    accepts (check.context crypto) script stack = true ↔
      Selects (RefundPath check ((check.context crypto).reached (toLeBytes timeLock) = true) pub0)
        Q stack := by
  have hrefund : Block (check.context crypto) (refundCode timeLock pub0) _ :=
    Block.ofPlain plain_refundCode
  have hscript := hrefund.ifElse hblock
  rw [← hcode] at hscript
  rw [hscript.accepts hdecode]
  exact satisfied_choose_iff (fun _ => satisfied_refundCode) hg

theorem accepts_paymentScript (h : secretHash.length = 20 ∨ secretHash.length = 32) :
    accepts (check.context crypto) (paymentScript crypto timeLock secretHash pub0 pub1) stack =
        true ↔
      Selects (RefundPath check ((check.context crypto).reached (toLeBytes timeLock) = true) pub0)
        (SecretPath crypto check secretHash pub1) stack := by
  obtain ⟨_, hdecode, hcode⟩ := paymentScript_code h
  exact accepts_of_code hdecode hcode (Block.ofPlain plain_secretCode) fun _ =>
    satisfied_secretCode

theorem accepts_takerFundingScript (h : secretHash.length = 20 ∨ secretHash.length = 32) :
    accepts (check.context crypto) (takerFundingScript crypto timeLock secretHash pub0 pub1) stack =
        true ↔
      Selects (RefundPath check ((check.context crypto).reached (toLeBytes timeLock) = true) pub0)
        (Selects (JointPath check pub0 pub1) (SecretPath crypto check secretHash pub0)) stack := by
  obtain ⟨_, hdecode, hcode⟩ := takerFundingScript_code h
  exact accepts_of_code hdecode hcode
    ((Block.ofPlain plain_jointCode).ifElse (Block.ofPlain plain_secretCode))
    fun _ => satisfied_choose_iff (fun _ => satisfied_jointCode) fun _ => satisfied_secretCode

theorem accepts_takerPaymentScript (h : secretHash.length = 20 ∨ secretHash.length = 32) :
    accepts (check.context crypto) (takerPaymentScript crypto timeLock secretHash pub0 pub1) stack =
        true ↔
      Selects (RefundPath check ((check.context crypto).reached (toLeBytes timeLock) = true) pub0)
        (JointSecretPath crypto check secretHash pub0 pub1) stack := by
  obtain ⟨_, hdecode, hcode⟩ := takerPaymentScript_code h
  exact accepts_of_code hdecode hcode (Block.ofPlain plain_jointSecretCode) fun _ =>
    satisfied_jointSecretCode

theorem accepts_makerPaymentScript (h : secretHash.length = 20 ∨ secretHash.length = 32)
    (h' : takerHash.length = 20 ∨ takerHash.length = 32) :
    accepts (check.context crypto)
        (makerPaymentScript crypto timeLock secretHash takerHash pub0 pub1) stack = true ↔
      Selects (RefundPath check ((check.context crypto).reached (toLeBytes timeLock) = true) pub0)
        (Selects (SecretPath crypto check secretHash pub1)
          (SecretPath crypto check takerHash pub0)) stack := by
  obtain ⟨_, hdecode, hcode⟩ := makerPaymentScript_code h h'
  exact accepts_of_code hdecode hcode
    ((Block.ofPlain plain_secretCode).ifElse (Block.ofPlain plain_secretCode))
    fun _ => satisfied_choose_iff (fun _ => satisfied_secretCode) fun _ => satisfied_secretCode

/-- What satisfies the script of each payment. -/
theorem accepts_redeemScript {txType : SwapTxTypeWithSecretHash} (h : txType.Sized) :
    accepts (check.context crypto) (txType.redeemScript crypto timeLock pub0 pub1) stack = true ↔
      Selects (RefundPath check ((check.context crypto).reached (toLeBytes timeLock) = true) pub0)
        (txType.OtherPath crypto check pub0 pub1) stack := by
  cases txType with
  | takerOrMakerPayment hash => exact accepts_paymentScript h
  | takerFunding hash => exact accepts_takerFundingScript h
  | makerPaymentV2 hash hash' => exact accepts_makerPaymentScript h.1 h.2
  | takerPaymentV2 hash hash' => exact accepts_takerPaymentScript h.1

/-! ## The time they wait for -/

/-- The operand is read as a signed number: below 2^31 it is the time lock. -/
theorem reached_iff_of_lt (h : timeLock.toNat < 2 ^ 31) :
    ctx.reached (toLeBytes timeLock) = true ↔ ctx.TimeReached timeLock.toNat := by
  rw [← readLe_toLeBytes timeLock]
  apply reached_iff_of_unsigned
  · simp [toLeBytes]
  · rw [readLe_toLeBytes]
    change 2 * timeLock.toNat < 2 ^ 32
    omega

/-- From 2^31 on the operand is negative, and no lock time that has reached the time lock
satisfies it. -/
theorem not_reached_of_le (h : 2 ^ 31 ≤ timeLock.toNat) (hlock : timeLock.toNat ≤ ctx.lockTime) :
    ctx.reached (toLeBytes timeLock) = false := by
  by_contra hreached
  rw [Bool.not_eq_false] at hreached
  have hlt := @lockTime_lt_of_reached _ (toLeBytes timeLock) (by
    rw [readLe_toLeBytes]
    change 2 ^ 32 ≤ 2 * timeLock.toNat
    omega) hreached
  have hsmall : lockTimeThreshold < 2 ^ 31 := by decide
  omega

end DeXFG.Utxo
