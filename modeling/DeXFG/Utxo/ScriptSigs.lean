import DeXFG.Utxo.SwapScripts
import DeXFG.Utxo.Transaction

/-!
# The inputs that spend swap payments

How the functions that send, spend and refund payments put together the script
of an input: the signature, what selects a branch of the redeem script, and the
redeem script itself.
-/
namespace DeXFG.Utxo
open Library.BitcoinScript

/-- A signature is in DER form, which takes 72 bytes at most. -/
abbrev Signature := {bytes : Bytes // bytes.length ≤ 72}

/-- A signature with the byte of its hash type. -/
def withSighash (signature : Signature) (sighash : UInt8) : Bytes := signature.val ++ [sighash]

/-- `SIGHASH_ALL` with the fork id of the coin. -/
def scriptSig (signature : Signature) (forkId : UInt32) : Bytes :=
  withSighash signature (1 ||| forkId.toUInt8)

def p2shSpendWithSignature (unsignedInput : UnsignedTransactionInput)
    (redeemScript scriptData : Script) (forkId : UInt32) (signature : Signature) :
    TransactionInput where
  previousOutput := unsignedInput.previousOutput
  scriptSig :=
    (Builder.default
      |>.pushData (scriptSig signature forkId)
      |>.extendFromSlice scriptData
      |>.extendFromSlice (Builder.default.pushData redeemScript).intoBytes).intoBytes
  sequence := unsignedInput.sequence
  scriptWitness := []

/-! ## What follows the signature -/

/-- `refund_htlc_payment`. -/
def refundHtlcPaymentData : Script := (Builder.default.pushOpcode Opcode.op1).intoScript

/-- `send_maker_spends_taker_payment` and `send_taker_spends_maker_payment`. -/
def spendsPaymentData (secret : H256) : Script :=
  (Builder.default |>.pushData secret.val |>.pushOpcode Opcode.op0).intoScript

/-- `refund_taker_funding_secret` and `refund_maker_payment_v2_secret`. -/
def refundSecretData (takerSecret : H256) : Script :=
  (Builder.default
    |>.pushData takerSecret.val
    |>.pushOpcode Opcode.op0
    |>.pushOpcode Opcode.op0).intoScript

/-- `spend_maker_payment_v2`. -/
def spendMakerPaymentV2Data (makerSecret : H256) : Script :=
  (Builder.default
    |>.pushData makerSecret.val
    |>.pushOpcode Opcode.op1
    |>.pushOpcode Opcode.op0).intoScript

/-! ## The inputs both parties sign -/

/-- `sign_and_send_taker_funding_spend`. -/
def takerFundingSpendScriptSig (makerSignatureWithSighash takerSignatureWithSighash : Bytes)
    (redeemScript : Script) : Bytes :=
  (Builder.default
    |>.pushData makerSignatureWithSighash
    |>.pushData takerSignatureWithSighash
    |>.pushOpcode Opcode.op1
    |>.pushOpcode Opcode.op0
    |>.pushData redeemScript).intoBytes

/-- `sign_and_broadcast_taker_payment_spend`. -/
def takerPaymentSpendScriptSig (makerSignatureWithSighash takerSignatureWithSighash : Bytes)
    (secret : H256) (redeemScript : Script) : Bytes :=
  (Builder.default
    |>.pushData makerSignatureWithSighash
    |>.pushData takerSignatureWithSighash
    |>.pushData secret.val
    |>.pushOpcode Opcode.op0
    |>.pushData redeemScript).intoBytes

/-! ## What they push -/

variable {b c : Builder} {instrs : List Instr} {items items' : List Bytes} {crypto : Bitcrypto}
  {timeLock : UInt32} {pub0 pub1 : Public} {txType : SwapTxTypeWithSecretHash}

/-- A builder whose script pushes items. -/
def Builder.PushesItems (b : Builder) (items : List Bytes) : Prop :=
  ∃ instrs, b.Emits instrs ∧ (∀ instr ∈ instrs, instr.isPush = true) ∧
    instrs.map Instr.op = items.map Op.push

namespace Builder.PushesItems

theorem default : Builder.default.PushesItems [] :=
  ⟨[], emits_default, by simp, rfl⟩

theorem pushData (hb : b.PushesItems items) (data : Bytes) (h : data.length < 2 ^ 32) :
    (b.pushData data).PushesItems (items ++ [data]) := by
  obtain ⟨instrs, hemits, hpush, hitems⟩ := hb
  refine ⟨_, hemits.pushData data h, ?_, ?_⟩
  · intro instr hmem
    rcases List.mem_append.mp hmem with hold | hnew
    · exact hpush instr hold
    · rw [List.mem_singleton.mp hnew, pushInstr_isPush]
  · simp [hitems]

theorem pushOp0 (hb : b.PushesItems items) :
    (b.pushOpcode Opcode.op0).PushesItems (items ++ [[]]) :=
  hb.pushData [] (by norm_num)

theorem pushOp1 (hb : b.PushesItems items) :
    (b.pushOpcode Opcode.op1).PushesItems (items ++ [[1]]) := by
  obtain ⟨instrs, hemits, hpush, hitems⟩ := hb
  refine ⟨_, hemits.pushOpcode Opcode.op1 (by decide), ?_, ?_⟩
  · intro instr hmem
    rcases List.mem_append.mp hmem with hold | hnew
    · exact hpush instr hold
    · rw [List.mem_singleton.mp hnew]
      decide
  · rw [List.map_append, List.map_append, hitems]
    rfl

/-- Data of less than 256 bytes can be pushed by the opcode that one byte of length follows. -/
theorem pushdata1 (data : Bytes) (h : data.length < 256) :
    Builder.PushesItems ⟨Opcode.opPushdata1 :: UInt8.ofNat data.length :: data⟩ [data] := by
  have hpush : Opcode.opPushdata1 ≤ 0x60 := by decide
  refine ⟨[⟨Opcode.opPushdata1, data⟩], ?_, by simpa [Instr.isPush] using hpush, rfl⟩
  intro rest
  have hread : readLe [UInt8.ofNat data.length] = data.length := by
    simp [readLe, Nat.mod_eq_of_lt h]
  exact decode_long [UInt8.ofNat data.length] (Or.inl rfl) rfl hread rest

theorem extendFromSlice (hb : b.PushesItems items) (hc : c.PushesItems items') :
    (b.extendFromSlice c.data).PushesItems (items ++ items') := by
  obtain ⟨instrs, hemits, hpush, hitems⟩ := hb
  obtain ⟨instrs', hemits', hpush', hitems'⟩ := hc
  refine ⟨_, hemits.extendFromSlice hemits', ?_, ?_⟩
  · intro instr hmem
    rcases List.mem_append.mp hmem with hold | hnew
    · exact hpush instr hold
    · exact hpush' instr hnew
  · rw [List.map_append, List.map_append, hitems, hitems']

theorem pushes (hb : b.PushesItems items) : ∃ instrs, Pushes b.data instrs items := by
  obtain ⟨instrs, hemits, hpush, hitems⟩ := hb
  exact ⟨instrs, hemits.decode, hpush, hitems⟩

end Builder.PushesItems

/-- The bytes of some code, at most. -/
def codeWidth (code : List Op) : ℕ := (code.map Op.width).sum

@[simp] theorem codeWidth_nil : codeWidth [] = 0 := rfl

@[simp] theorem codeWidth_cons (op : Op) (code : List Op) :
    codeWidth (op :: code) = op.width + codeWidth code := rfl

@[simp] theorem codeWidth_append (code code' : List Op) :
    codeWidth (code ++ code') = codeWidth code + codeWidth code' := by
  simp [codeWidth]

theorem length_public_le (pub : Public) : pub.val.length ≤ 65 := by
  rcases pub.property with h | h <;> omega

theorem codeWidth_refundCode : codeWidth (refundCode timeLock pub0) ≤ 100 := by
  have hpub := length_public_le pub0
  simp [refundCode, Library.BitcoinScript.timeLock, signedBy, Op.width, toLeBytes]
  omega

theorem codeWidth_secretCode {secretHash : Bytes}
    (h : secretHash.length = 20 ∨ secretHash.length = 32) :
    codeWidth (secretCode crypto secretHash) ≤ 100 := by
  simp [secretCode, hashLock, Op.width, length_lockedHash h]

theorem codeWidth_signedBy : codeWidth (signedBy pub0.val) ≤ 100 := by
  have hpub := length_public_le pub0
  simp [signedBy, Op.width]
  omega

theorem codeWidth_signedAlsoBy : codeWidth (signedAlsoBy pub0.val) ≤ 100 := by
  have hpub := length_public_le pub0
  simp [signedAlsoBy, Op.width]
  omega

theorem length_redeemScript_lt (h : txType.Sized) :
    (txType.redeemScript crypto timeLock pub0 pub1).length < 2 ^ 32 := by
  have hrefund := @codeWidth_refundCode timeLock pub0
  have hsigned0 := @codeWidth_signedBy pub0
  have hsigned1 := @codeWidth_signedBy pub1
  have halso := @codeWidth_signedAlsoBy pub0
  have hcodes : ∃ instrs,
      decode (txType.redeemScript crypto timeLock pub0 pub1) = some instrs ∧
        codeWidth (instrs.map Instr.op) ≤ 1000 := by
    cases txType with
    | takerOrMakerPayment hash =>
      obtain ⟨instrs, hdecode, hcode⟩ := paymentScript_code h
      have hsecret := @codeWidth_secretCode crypto hash h
      refine ⟨instrs, hdecode, ?_⟩
      simp only [hcode, codeWidth_cons, codeWidth_append, codeWidth_nil, Op.width]
      omega
    | takerFunding hash =>
      obtain ⟨instrs, hdecode, hcode⟩ := takerFundingScript_code h
      have hsecret := @codeWidth_secretCode crypto hash h
      refine ⟨instrs, hdecode, ?_⟩
      simp only [hcode, codeWidth_cons, codeWidth_append, codeWidth_nil, Op.width]
      omega
    | makerPaymentV2 hash hash' =>
      obtain ⟨instrs, hdecode, hcode⟩ := makerPaymentScript_code h.1 h.2
      have hsecret := @codeWidth_secretCode crypto hash h.1
      have hsecret' := @codeWidth_secretCode crypto hash' h.2
      refine ⟨instrs, hdecode, ?_⟩
      simp only [hcode, codeWidth_cons, codeWidth_append, codeWidth_nil, Op.width]
      omega
    | takerPaymentV2 hash hash' =>
      obtain ⟨instrs, hdecode, hcode⟩ := takerPaymentScript_code h.1
      have hsecret := @codeWidth_secretCode crypto hash h.1
      refine ⟨instrs, hdecode, ?_⟩
      simp only [hcode, codeWidth_cons, codeWidth_append, codeWidth_nil, Op.width]
      omega
  obtain ⟨instrs, hdecode, hsum⟩ := hcodes
  exact lt_of_le_of_lt ((length_le_of_decode hdecode).trans hsum) (by norm_num)

end DeXFG.Utxo
