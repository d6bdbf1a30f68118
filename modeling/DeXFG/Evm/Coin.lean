import DeXFG.Evm.Abi

/-!
# EVM coins and their swap payments

What the two swap protocols share: amounts, keys and addresses, swap ids, and
the transactions that call a swap contract. Amounts before the conversion are
rational numbers; hashing and key arithmetic are parameters.
-/
namespace DeXFG.Evm
open Library.StaticAbi

abbrev Address := FixedBytes 20

/-- An uncompressed key without its first byte. -/
abbrev Public := FixedBytes 64

/-- The code under other crates that payments rest on. -/
structure EvmLib where
  abi : Ethabi
  sha256 : List UInt8 → FixedBytes 32
  ripemd160 : List UInt8 → FixedBytes 20
  publicToAddress : Public → Address
  /-- `PublicKey::from_slice`, serialized uncompressed. -/
  publicKeyFromSlice : List UInt8 → Except String Public
  /-- A fraction as a decimal, which may have to end before the fraction does. -/
  fromRatioToDec : ℚ → ℚ

/-- How a call fails: with an error of its own, or in a panic. -/
inductive Failure (ε : Type) where
  | error (e : ε)
  | panic (msg : String)
  deriving DecidableEq

abbrev Res (ε α : Type) := Except (Failure ε) α

def orErr {ε ε' α : Type} (r : Except ε α) (wrap : ε → ε') : Res ε' α :=
  r.mapError fun e => .error (wrap e)

def okOr {ε α : Type} (o : Option α) (e : ε) : Res ε α :=
  match o with
  | some a => .ok a
  | none => .error (.error e)

def fail {ε α : Type} (e : ε) : Res ε α := .error (.error e)

/-- An error unless a condition holds. -/
def ensure {ε : Type} (c : Prop) [Decidable c] (e : ε) : Res ε Unit :=
  if c then .ok () else fail e

@[simp] theorem ensure_eq_ok {ε : Type} {c : Prop} [Decidable c] {e : ε} :
    ensure c e = .ok () ↔ c := by
  unfold ensure
  split <;> simp_all [fail]

@[simp] theorem orErr_ok {ε ε' α : Type} (a : α) (wrap : ε → ε') :
    orErr (.ok a : Except ε α) wrap = .ok a := rfl

@[simp] theorem orErr_eq_ok {ε ε' α : Type} {r : Except ε α} {wrap : ε → ε'} {a : α} :
    orErr r wrap = .ok a ↔ r = .ok a := by
  cases r <;> simp [orErr, Except.mapError]

@[simp] theorem okOr_some {ε α : Type} (a : α) (e : ε) : okOr (some a) e = .ok a := rfl

@[simp] theorem except_ok_bind {ε α β : Type} (a : α) (f : α → Except ε β) :
    ((.ok a : Except ε α) >>= f) = f a := rfl

@[simp] theorem okOr_eq_ok {ε α : Type} {o : Option α} {e : ε} {a : α} :
    okOr o e = .ok a ↔ o = some a := by
  cases o <;> simp [okOr]

@[simp] theorem fail_ne_ok {ε α : Type} {e : ε} {a : α} : (fail e : Res ε α) ≠ .ok a := nofun

inductive EthCoinType where
  | eth
  | erc20 (platform : String) (tokenAddr : Address)
  | nft (platform : String)
  deriving DecidableEq

structure SwapV2Contracts where
  makerSwapV2Contract : Address
  takerSwapV2Contract : Address
  nftMakerSwapV2Contract : Address
  deriving DecidableEq

structure EthCoin where
  coinType : EthCoinType
  decimals : ℕ
  swapV2Contracts : Option SwapV2Contracts
  /-- The single address of the coin, or the enabled one of its wallet. -/
  singleAddr : Option Address
  deriving DecidableEq

/-- `ETH_DECIMALS`. -/
def ethDecimals : ℕ := 18

theorem length_defaultAddress : (List.replicate 20 (0 : UInt8)).length = 20 :=
  List.length_replicate

/-- `Address::default()`. -/
def defaultAddress : Address := ⟨List.replicate 20 0, length_defaultAddress⟩

def EthCoin.myAddr {ε : Type} (coin : EthCoin) : Res ε Address :=
  match coin.singleAddr with
  | some a => .ok a
  | none => .error (.panic "Getting enabled address should not fail!")

/-- `Public::from_slice` panics unless it gets 64 bytes. -/
def publicFromSlice {ε : Type} (bytes : List UInt8) : Res ε Public :=
  if h : bytes.length = 64 then .ok ⟨bytes, h⟩
  else .error (.panic "assertion failed: from_slice of another length")

@[simp] theorem publicFromSlice_val {ε : Type} (pub : Public) :
    (publicFromSlice pub.val : Res ε Public) = .ok pub := by
  simp [publicFromSlice, pub.property]

/-- `u256_from_big_decimal`: digits after `decimals` are cut off, a sign is no digit. -/
def u256FromBigDecimal (amount : ℚ) (decimals : ℕ) : Except String U256 :=
  if amount < 0 then .error "InvalidCharacter"
  else
    match U256.ofNat? ⌊amount * 10 ^ decimals⌋₊ with
    | some n => .ok n
    | none => .error "InvalidLength"

def addrFromRawPubkey (lib : EvmLib) (pubkey : List UInt8) : Except String Address :=
  (lib.publicKeyFromSlice pubkey).map lib.publicToAddress

/-- `try_to_address` of optional bytes. -/
def tryToAddress : Option (List UInt8) → Except String Address
  | none => .error "Cannot convert None to address"
  | some bytes =>
    if h : bytes.length = 20 then .ok ⟨bytes, h⟩
    else .error "Cannot construct an Ethereum address from 20 bytes slice"

/-- A slice as `&[u8; 32]`. -/
def tryInto32 (bytes : List UInt8) : Option (FixedBytes 32) :=
  if h : bytes.length = 32 then some ⟨bytes, h⟩ else none

theorem tryInto32_of_length {bytes : List UInt8} (h : bytes.length = 32) :
    tryInto32 bytes = some ⟨bytes, h⟩ := by
  simp [tryInto32, h]

theorem tryInto32_eq_some {bytes : List UInt8} {b : FixedBytes 32} :
    tryInto32 bytes = some b ↔ bytes = b.val := by
  unfold tryInto32
  split
  · simp only [Option.some.injEq]
    constructor
    · intro h
      rw [← h]
    · intro h
      exact Subtype.ext h
  · rename_i h
    simp only [reduceCtorEq, false_iff]
    intro e
    exact h (e ▸ b.property)

section SwapId

variable (lib : EvmLib)

def generateEtomicSwapId (timeLockBytes secretHash : List UInt8) : List UInt8 :=
  (lib.sha256 (timeLockBytes ++ secretHash)).val

def etomicSwapId (timeLock : UInt32) (secretHash : List UInt8) : List UInt8 :=
  generateEtomicSwapId lib (leBytes 4 timeLock.toNat) secretHash

def etomicSwapIdV2 (timeLock : UInt64) (secretHash : List UInt8) : List UInt8 :=
  generateEtomicSwapId lib (leBytes 8 timeLock.toNat) secretHash

@[simp] theorem etomicSwapId_length (timeLock : UInt32) (secretHash : List UInt8) :
    (etomicSwapId lib timeLock secretHash).length = 32 :=
  (lib.sha256 _).property

@[simp] theorem etomicSwapIdV2_length (timeLock : UInt64) (secretHash : List UInt8) :
    (etomicSwapIdV2 lib timeLock secretHash).length = 32 :=
  (lib.sha256 _).property

end SwapId

inductive Action where
  | call (target : Address)
  | create
  deriving DecidableEq

/-- What `sign_and_send_transaction` signs; nonce and gas are chosen there. -/
structure UnsignedTx where
  action : Action
  value : U256
  data : List UInt8
  deriving DecidableEq

structure SignedEthTx where
  sender : Address
  unsigned : UnsignedTx
  deriving DecidableEq

/-- What is wrong with a payment transaction. -/
inductive WrongPaymentTx where
  | sentFrom (expected : Address) (got : Option Address)
  | sentTo (expected : Address) (got : Option Address)
  | create
  | field (payment name : String) (found : Option Token) (expected : Token)
  | amount (payment : String) (expected got : U256)
  deriving DecidableEq

/-- `validate_from_to_addresses`. -/
def validateFromToAddresses (tx : SignedEthTx) (expectedFrom expectedTo : Address) :
    Except WrongPaymentTx Unit :=
  if tx.sender ≠ expectedFrom then .error (.sentFrom expectedFrom (some tx.sender))
  else
    match tx.unsigned.action with
    | .call actualTo =>
      if actualTo ≠ expectedTo then .error (.sentTo expectedTo (some actualTo)) else .ok ()
    | .create => .error .create

theorem validateFromToAddresses_eq_ok {tx : SignedEthTx} {expectedFrom expectedTo : Address} :
    validateFromToAddresses tx expectedFrom expectedTo = .ok () ↔
      tx.sender = expectedFrom ∧ tx.unsigned.action = .call expectedTo := by
  unfold validateFromToAddresses
  split
  · rename_i h
    simp [h]
  · rename_i h
    push Not at h
    cases ha : tx.unsigned.action with
    | call a =>
      by_cases hto : a = expectedTo
      · simp [h, hto]
      · simp [hto]
    | create => simp

/-- The causes of an error that a wrapper prints. -/
inductive Cause where
  | abi (e : AbiError)
  | numConvers (msg : String)
  | tryFromSlice
  | text (msg : String)
  deriving DecidableEq

inductive PrepareTxDataError where
  | abiError (e : AbiError)
  | internal (msg : String)
  | invalidTokenType (decoded : List Token)
  deriving DecidableEq

inductive TransactionErr where
  | plain (cause : Cause)
  | prepare (e : PrepareTxDataError)
  | protocolNotSupported
  deriving DecidableEq

inductive SwapTxTypeWithSecretHash where
  | takerOrMakerPayment (makerSecretHash : List UInt8)
  | takerFunding (takerSecretHash : List UInt8)
  | makerPaymentV2 (makerSecretHash takerSecretHash : List UInt8)
  | takerPaymentV2 (makerSecretHash takerSecretHash : List UInt8)

def noSwapV2Contracts : Cause :=
  .text "Expected swap_v2_contracts to be Some, but found None"

inductive ValidatePaymentError where
  | internalError (cause : Cause)
  | txDeserializationError (cause : Cause)
  | invalidParameter (msg : String)
  | txDoesNotExist
  | unexpectedPaymentState (status : U256)
  | transport (msg : String)
  | timelockOverflow
  | wrongPaymentTx (e : WrongPaymentTx)
  | protocolNotSupported
  deriving DecidableEq

/-- `validate_amount`. -/
def validateAmount (tradingAmount : ℚ) : Except String Unit :=
  if 0 < tradingAmount then .ok () else .error "trading_amount must be a positive value"

theorem validateAmount_eq_ok {tradingAmount : ℚ} :
    validateAmount tradingAmount = .ok () ↔ 0 < tradingAmount := by
  unfold validateAmount
  split <;> simp_all

/-- `check_decoded_length`. -/
def checkDecodedLength (decoded : List Token) (expectedLen : ℕ) :
    Except PrepareTxDataError Unit :=
  if decoded.length ≠ expectedLen then .error (.internal "Invalid number of tokens in decoded")
  else .ok ()

/-- `get_token_address`. -/
def EthCoin.getTokenAddress (coin : EthCoin) : Except String Address :=
  match coin.coinType with
  | .eth => .ok defaultAddress
  | .erc20 _ tokenAddr => .ok tokenAddr
  | .nft _ => .error "NFT protocol is not supported for ETH and ERC20 Swaps"

/-- A call of a function of a contract, by its name. -/
def prepareCall (lib : EvmLib) (contract : Contract) (name : String) (tokens : List Token) :
    Except PrepareTxDataError (List UInt8) := do
  let function ← (contract.function name).mapError .abiError
  (function.encodeInput lib.abi tokens).mapError .abiError

/-- `decoded[index]`, where the number of tokens has been checked. -/
def tokenAt (decoded : List Token) (index : ℕ) : Token :=
  decoded[index]?.getD (.bool false)

/-- The loop over the checks of a decoded payment: an index, the token expected there, and the
name of the field. -/
def checkTokens (payment : String) (decoded : List Token) (f : AbiFunction) :
    List (ℕ × Token × String) → Except (String ⊕ WrongPaymentTx) Unit
  | [] => .ok ()
  | (index, expected, name) :: checks =>
    match getFunctionInputData decoded f index with
    | .error e => .error (.inl e)
    | .ok token =>
      if token ≠ expected then .error (.inr (.field payment name decoded[index]? expected))
      else checkTokens payment decoded f checks

theorem checkTokens_eq_ok {payment : String} {decoded : List Token} {f : AbiFunction}
    {checks : List (ℕ × Token × String)} :
    checkTokens payment decoded f checks = .ok () ↔
      ∀ c ∈ checks, decoded[c.1]? = some c.2.1 := by
  induction checks with
  | nil => simp [checkTokens]
  | cons c checks ih =>
    obtain ⟨index, expected, name⟩ := c
    simp only [checkTokens, getFunctionInputData, List.forall_mem_cons]
    cases htok : decoded[index]? with
    | none => simp
    | some token =>
      by_cases h : token = expected
      · simp [h, ih]
      · simp [h]

end DeXFG.Evm
