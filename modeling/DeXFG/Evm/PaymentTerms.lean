import DeXFG.Evm.TakerSwapV2
import DeXFG.Evm.MakerSwapV2

/-!
# What the swap contracts read in a call

The terms of a payment, as a contract finds them in the call that locks it and
in every later call: by the names of the declared inputs, where an amount that
is not declared is the value without the fee, a party that is not declared is
the caller, and a revealed secret stands for its hash.
-/
namespace DeXFG.Evm
open Library.StaticAbi

/-- The coin on the side of the owner of a key. -/
def EthCoin.ofOwner (coin : EthCoin) (lib : EvmLib) (pub : Public) : EthCoin :=
  { coin with singleAddr := some (lib.publicToAddress pub) }

def EthCoin.tokenAddress (coin : EthCoin) : Address :=
  match coin.coinType with
  | .erc20 _ tokenAddr => tokenAddr
  | _ => defaultAddress

structure PaymentTerms where
  id : List UInt8
  amount : U256
  dexFee : U256
  taker : Address
  maker : Address
  token : Address
  takerSecretHash : List UInt8
  makerSecretHash : List UInt8
  deriving DecidableEq

section Arguments

variable (f : AbiFunction) (tokens : List Token)

def argument (name : String) : Option Token :=
  ((f.inputs.map (·.1)).zip tokens).lookup name

def bytesArgument (name : String) : Option (List UInt8) :=
  match argument f tokens name with
  | some (.fixedBytes bytes) => some bytes
  | _ => none

def uintArgument (name : String) : Option U256 :=
  match argument f tokens name with
  | some (.uint n) => some n
  | _ => none

def addressArgument (name : String) : Option Address :=
  match argument f tokens name with
  | some (.address a) => some a
  | _ => none

end Arguments

/-- The terms in the arguments of a call. -/
def PaymentTerms.ofArguments (lib : EvmLib) (f : AbiFunction) (tokens : List Token)
    (caller : Address) (value : U256) : Option PaymentTerms := do
  let id ← bytesArgument f tokens "id"
  let dexFee := (uintArgument f tokens "dexFee").getD U256.zero
  let amount ← (uintArgument f tokens "amount").or (value.checkedSub dexFee)
  let maker := ((addressArgument f tokens "receiver").or
    (addressArgument f tokens "maker")).getD caller
  let taker := (addressArgument f tokens "taker").getD caller
  let token := (addressArgument f tokens "tokenAddress").getD defaultAddress
  let takerSecretHash ← (bytesArgument f tokens "takerSecretHash").or
    ((bytesArgument f tokens "takerSecret").map fun secret => (lib.sha256 secret).val)
  let makerSecretHash ← (bytesArgument f tokens "makerSecretHash").or
    ((bytesArgument f tokens "makerSecret").map fun secret => (lib.sha256 secret).val)
  pure ⟨id, amount, dexFee, taker, maker, token, takerSecretHash, makerSecretHash⟩

/-- The terms in a transaction that calls a function of a contract. -/
def termsOfCall (lib : EvmLib) (contract : Contract) (name : String) (caller : Address)
    (tx : UnsignedTx) : Option PaymentTerms :=
  match contract.function name with
  | .error _ => none
  | .ok f =>
    match decodeContractCall lib.abi f tx.data with
    | .error _ => none
    | .ok tokens => PaymentTerms.ofArguments lib f tokens caller tx.value

/-- The data of a call. -/
def callData (lib : EvmLib) (f : AbiFunction) (tokens : List Token) : List UInt8 :=
  (lib.abi.shortSignature f).val ++ lib.abi.encode tokens

section Calls

variable {lib : EvmLib} {contract : Contract} {name : String} {f : AbiFunction}
  {tokens : List Token}

theorem prepareCall_of_fits (hf : contract.function name = .ok f)
    (h : List.Forall₂ ParamType.Fits f.paramTypes tokens) :
    prepareCall lib contract name tokens = .ok (callData lib f tokens) := by
  simp [prepareCall, hf, f.encodeInput_of_fits lib.abi h, callData, Except.mapError, bind,
    Except.bind]

theorem decodeContractCall_callData (habi : lib.abi.Lawful)
    (h : List.Forall₂ ParamType.Fits f.paramTypes tokens) :
    decodeContractCall lib.abi f (callData lib f tokens) = .ok tokens :=
  (decodeContractCall_eq_ok habi).mpr ⟨h, rfl⟩

/-- The contract reads what was put into the call. -/
theorem termsOfCall_callData (habi : lib.abi.Lawful) (hf : contract.function name = .ok f)
    (h : List.Forall₂ ParamType.Fits f.paramTypes tokens) {caller : Address} {tx : UnsignedTx}
    (hdata : tx.data = callData lib f tokens) :
    termsOfCall lib contract name caller tx =
      PaymentTerms.ofArguments lib f tokens caller tx.value := by
  simp [termsOfCall, hf, hdata, decodeContractCall_callData habi h]

end Calls

/-- A later call, sent to the contract of the payment without value, carries its terms. -/
def CarriesTerms (lib : EvmLib) (contract : Contract) (name : String) (caller : Address)
    (payment : UnsignedTx) (terms : PaymentTerms) (call : Res TransactionErr UnsignedTx) : Prop :=
  ∃ tx, call = .ok tx ∧ tx.action = payment.action ∧ tx.value = U256.zero ∧
    termsOfCall lib contract name caller tx = some terms

theorem CarriesTerms.of_callData {lib : EvmLib} (habi : lib.abi.Lawful) {contract : Contract}
    {name : String} {f : AbiFunction} (hf : contract.function name = .ok f)
    {tokens : List Token} (hfits : List.Forall₂ ParamType.Fits f.paramTypes tokens)
    {caller : Address} {payment : UnsignedTx} {terms : PaymentTerms}
    {call : Res TransactionErr UnsignedTx}
    (hcall : call = .ok ⟨payment.action, U256.zero, callData lib f tokens⟩)
    (hterms : PaymentTerms.ofArguments lib f tokens caller U256.zero = some terms) :
    CarriesTerms lib contract name caller payment terms call := by
  refine ⟨_, hcall, rfl, rfl, ?_⟩
  rw [termsOfCall_callData habi hf hfits rfl]
  exact hterms

/-- A list that passes a check at each of its places is the list of expected tokens. -/
theorem checkTokens_eq_ok_iff {payment : String} {decoded : List Token} {f : AbiFunction}
    {checks : List (ℕ × Token × String)} (hindex : checks.map (·.1) = List.range checks.length)
    (hlen : decoded.length = checks.length) :
    checkTokens payment decoded f checks = .ok () ↔ decoded = checks.map (·.2.1) := by
  have hat : ∀ i (hi : i < checks.length), (checks[i]).1 = i := by
    intro i hi
    have h : (checks.map (·.1))[i]? = (List.range checks.length)[i]? := by rw [hindex]
    simpa [hi] using h
  rw [checkTokens_eq_ok]
  constructor
  · intro h
    apply List.ext_getElem
    · simp [hlen]
    · intro i hi hi'
      have hc : i < checks.length := by omega
      have hget := h checks[i] (List.getElem_mem hc)
      rw [hat i hc, List.getElem?_eq_getElem hi, Option.some.injEq] at hget
      simp [hget]
  · intro h c hc
    obtain ⟨i, hi, rfl⟩ := List.getElem_of_mem hc
    rw [hat i hi, h]
    simp [hi]

end DeXFG.Evm
