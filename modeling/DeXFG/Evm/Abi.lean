import DeXFG.Library.StaticAbi

/-!
# Contract calls

The functions of the swap contracts as their ABI files declare them, and the
encoding of calls. Selectors and the codec of tokens come from `ethabi` and
are a parameter.
-/
namespace DeXFG.Evm
open Library Library.StaticAbi

inductive AbiError where
  | invalidName (name : String)
  | invalidData
  | other (msg : String)
  deriving DecidableEq, Repr

structure AbiFunction where
  name : String
  inputs : List (String × ParamType)
  deriving DecidableEq, Repr

def AbiFunction.paramTypes (f : AbiFunction) : List ParamType := f.inputs.map (·.2)

abbrev Contract := List AbiFunction

def Contract.function (contract : Contract) (name : String) : Except AbiError AbiFunction :=
  match contract.find? (·.name = name) with
  | some f => .ok f
  | none => .error (.invalidName name)

/-- What is used of `ethabi`. -/
structure Ethabi where
  shortSignature : AbiFunction → FixedBytes 4
  encode : List Token → List UInt8
  decode : List ParamType → List UInt8 → Except AbiError (List Token)

/-- Decoding yields tokens of the declared types, and is inverse to encoding. -/
def Ethabi.Lawful (abi : Ethabi) : Prop :=
  ∀ types bytes tokens, abi.decode types bytes = .ok tokens ↔
    List.Forall₂ ParamType.Fits types tokens ∧ bytes = abi.encode tokens

/-- The codec of static types. -/
def Ethabi.ofStatic (shortSignature : AbiFunction → FixedBytes 4) : Ethabi where
  shortSignature := shortSignature
  encode := StaticAbi.encode
  decode types bytes :=
    match StaticAbi.decode types bytes with
    | some tokens => .ok tokens
    | none => .error .invalidData

theorem Ethabi.ofStatic_lawful (shortSignature : AbiFunction → FixedBytes 4) :
    (Ethabi.ofStatic shortSignature).Lawful := by
  intro types bytes tokens
  refine Iff.trans ?_ decode_eq_some_iff
  simp only [Ethabi.ofStatic]
  cases StaticAbi.decode types bytes <;> simp

/-- `Token::type_check`: fixed bytes may be shorter than declared. -/
def typeCheck : ParamType → Token → Bool
  | .fixedBytes size, .fixedBytes bytes => bytes.length ≤ size
  | .uint _, .uint _ => true
  | .address, .address _ => true
  | .bool, .bool _ => true
  | _, _ => false

def typesCheck (tokens : List Token) (types : List ParamType) : Bool :=
  types.length == tokens.length && (types.zip tokens).all fun p => typeCheck p.1 p.2

section Calls

variable (abi : Ethabi)

def AbiFunction.encodeInput (f : AbiFunction) (tokens : List Token) :
    Except AbiError (List UInt8) :=
  if typesCheck tokens f.paramTypes then .ok ((abi.shortSignature f).val ++ abi.encode tokens)
  else .error .invalidData

def AbiFunction.decodeInput (f : AbiFunction) (data : List UInt8) :
    Except AbiError (List Token) :=
  abi.decode f.paramTypes data

def decodeContractCall (f : AbiFunction) (contractCallBytes : List UInt8) :
    Except AbiError (List Token) :=
  if contractCallBytes.length < 4 then
    .error (.other
      "Contract call should contain at least 4 bytes known as a function signature")
  else if contractCallBytes.take 4 ≠ (abi.shortSignature f).val then
    .error (.other "Unexpected contract call signature")
  else f.decodeInput abi (contractCallBytes.drop 4)

end Calls

def getFunctionInputData (decoded : List Token) (f : AbiFunction) (index : ℕ) :
    Except String Token :=
  match decoded[index]? with
  | some token => .ok token
  | none => .error
    ("Missing input in function " ++ f.name ++ ": No input found at index " ++ toString index)

theorem typesCheck_of_fits {types : List ParamType} {tokens : List Token}
    (h : List.Forall₂ ParamType.Fits types tokens) : typesCheck tokens types = true := by
  induction h with
  | nil => rfl
  | @cons t v types tokens hv _ ih =>
    have ht : typeCheck t v = true := by
      cases t <;> cases v <;> simp_all [ParamType.Fits, typeCheck]
    simp only [typesCheck, Bool.and_eq_true, beq_iff_eq] at ih
    simp [typesCheck, ht, ih.1]
    simpa using ih.2

theorem AbiFunction.encodeInput_of_fits (abi : Ethabi) {f : AbiFunction} {tokens : List Token}
    (h : List.Forall₂ ParamType.Fits f.paramTypes tokens) :
    f.encodeInput abi tokens = .ok ((abi.shortSignature f).val ++ abi.encode tokens) := by
  unfold AbiFunction.encodeInput
  rw [if_pos (typesCheck_of_fits h)]

/-- A call decodes to the tokens that it was encoded from, and only such calls decode. -/
theorem decodeContractCall_eq_ok {abi : Ethabi} (habi : abi.Lawful) {f : AbiFunction}
    {data : List UInt8} {tokens : List Token} :
    decodeContractCall abi f data = .ok tokens ↔
      List.Forall₂ ParamType.Fits f.paramTypes tokens ∧
        data = (abi.shortSignature f).val ++ abi.encode tokens := by
  have hsig : (abi.shortSignature f).val.length = 4 := (abi.shortSignature f).property
  unfold decodeContractCall AbiFunction.decodeInput
  constructor
  · intro h
    split at h
    · cases h
    · split at h
      · cases h
      · rename_i htake
        push Not at htake
        have hd := (habi _ _ _).mp h
        refine ⟨hd.1, ?_⟩
        rw [← hd.2, ← htake, List.take_append_drop]
  · intro h
    have hlen : ¬ data.length < 4 := by
      rw [h.2, List.length_append, hsig]
      omega
    have htake : data.take 4 = (abi.shortSignature f).val := by
      rw [h.2, List.take_left' hsig]
    have hdrop : data.drop 4 = abi.encode tokens := by
      rw [h.2, List.drop_left' hsig]
    rw [if_neg hlen, if_neg (not_not.mpr htake), hdrop]
    exact (habi _ _ _).mpr ⟨h.1, rfl⟩

/-! The contracts. -/

def ethPayment : AbiFunction :=
  ⟨"ethPayment", [("id", .fixedBytes 32), ("receiver", .address), ("secretHash", .fixedBytes 20),
    ("lockTime", .uint 64)]⟩

def erc20Payment : AbiFunction :=
  ⟨"erc20Payment", [("id", .fixedBytes 32), ("amount", .uint 256), ("tokenAddress", .address),
    ("receiver", .address), ("secretHash", .fixedBytes 20), ("lockTime", .uint 64)]⟩

def payments : AbiFunction := ⟨"payments", [("", .fixedBytes 32)]⟩

def receiverSpend : AbiFunction :=
  ⟨"receiverSpend", [("id", .fixedBytes 32), ("amount", .uint 256), ("secret", .fixedBytes 32),
    ("tokenAddress", .address), ("sender", .address)]⟩

def senderRefund : AbiFunction :=
  ⟨"senderRefund", [("id", .fixedBytes 32), ("amount", .uint 256),
    ("secretHash", .fixedBytes 20), ("tokenAddress", .address), ("receiver", .address)]⟩

/-- `swap_contract_abi.json`; it has no function with a watcher reward. -/
def swapContract : Contract := [erc20Payment, ethPayment, payments, receiverSpend, senderRefund]

def ethTakerPayment : AbiFunction :=
  ⟨"ethTakerPayment", [("id", .fixedBytes 32), ("dexFee", .uint 256), ("receiver", .address),
    ("takerSecretHash", .fixedBytes 32), ("makerSecretHash", .fixedBytes 32),
    ("preApproveLockTime", .uint 32), ("paymentLockTime", .uint 32)]⟩

def erc20TakerPayment : AbiFunction :=
  ⟨"erc20TakerPayment", [("id", .fixedBytes 32), ("amount", .uint 256), ("dexFee", .uint 256),
    ("tokenAddress", .address), ("receiver", .address), ("takerSecretHash", .fixedBytes 32),
    ("makerSecretHash", .fixedBytes 32), ("preApproveLockTime", .uint 32),
    ("paymentLockTime", .uint 32)]⟩

def refundTakerPaymentSecret : AbiFunction :=
  ⟨"refundTakerPaymentSecret", [("id", .fixedBytes 32), ("amount", .uint 256),
    ("dexFee", .uint 256), ("maker", .address), ("takerSecret", .fixedBytes 32),
    ("makerSecretHash", .fixedBytes 32), ("tokenAddress", .address)]⟩

def refundTakerPaymentTimelock : AbiFunction :=
  ⟨"refundTakerPaymentTimelock", [("id", .fixedBytes 32), ("amount", .uint 256),
    ("dexFee", .uint 256), ("maker", .address), ("takerSecretHash", .fixedBytes 32),
    ("makerSecretHash", .fixedBytes 32), ("tokenAddress", .address)]⟩

def spendTakerPayment : AbiFunction :=
  ⟨"spendTakerPayment", [("id", .fixedBytes 32), ("amount", .uint 256), ("dexFee", .uint 256),
    ("taker", .address), ("takerSecretHash", .fixedBytes 32), ("makerSecret", .fixedBytes 32),
    ("tokenAddress", .address)]⟩

def takerPaymentApprove : AbiFunction :=
  ⟨"takerPaymentApprove", [("id", .fixedBytes 32), ("amount", .uint 256), ("dexFee", .uint 256),
    ("maker", .address), ("takerSecretHash", .fixedBytes 32),
    ("makerSecretHash", .fixedBytes 32), ("tokenAddress", .address)]⟩

def takerSwapV2 : Contract :=
  [erc20TakerPayment, ethTakerPayment, refundTakerPaymentSecret, refundTakerPaymentTimelock,
    spendTakerPayment, takerPaymentApprove]

def ethMakerPayment : AbiFunction :=
  ⟨"ethMakerPayment", [("id", .fixedBytes 32), ("taker", .address),
    ("takerSecretHash", .fixedBytes 32), ("makerSecretHash", .fixedBytes 32),
    ("paymentLockTime", .uint 32)]⟩

def erc20MakerPayment : AbiFunction :=
  ⟨"erc20MakerPayment", [("id", .fixedBytes 32), ("amount", .uint 256),
    ("tokenAddress", .address), ("taker", .address), ("takerSecretHash", .fixedBytes 32),
    ("makerSecretHash", .fixedBytes 32), ("paymentLockTime", .uint 32)]⟩

def refundMakerPaymentSecret : AbiFunction :=
  ⟨"refundMakerPaymentSecret", [("id", .fixedBytes 32), ("amount", .uint 256),
    ("taker", .address), ("takerSecret", .fixedBytes 32), ("makerSecretHash", .fixedBytes 32),
    ("tokenAddress", .address)]⟩

def refundMakerPaymentTimelock : AbiFunction :=
  ⟨"refundMakerPaymentTimelock", [("id", .fixedBytes 32), ("amount", .uint 256),
    ("taker", .address), ("takerSecretHash", .fixedBytes 32),
    ("makerSecretHash", .fixedBytes 32), ("tokenAddress", .address)]⟩

def spendMakerPayment : AbiFunction :=
  ⟨"spendMakerPayment", [("id", .fixedBytes 32), ("amount", .uint 256), ("maker", .address),
    ("takerSecretHash", .fixedBytes 32), ("makerSecret", .fixedBytes 32),
    ("tokenAddress", .address)]⟩

def makerSwapV2 : Contract :=
  [erc20MakerPayment, ethMakerPayment, refundMakerPaymentSecret, refundMakerPaymentTimelock,
    spendMakerPayment]

end DeXFG.Evm
