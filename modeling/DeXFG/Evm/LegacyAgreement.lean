import DeXFG.Evm.LegacyPayment
import DeXFG.Evm.PaymentLifecycle

/-!
# Agreement on the payments of legacy swaps

A validation that succeeds should mean that the payment on chain is the one
that was negotiated, it should accept what the honest sender builds, and it
should not panic. This holds but for ERC20 payments without a watcher reward.
-/
namespace DeXFG.Evm
open Library.StaticAbi
open SwapV2 (except_bind_eq_ok except_mapError_eq_ok)

/-! ## Calls that do not panic -/

/-- A result or an error of the call. -/
def NoPanic {ε α : Type} (r : Res ε α) : Prop := ∀ msg, r ≠ .error (.panic msg)

section NoPanic

variable {ε ε' α β : Type}

@[simp] theorem noPanic_ok (a : α) : NoPanic (.ok a : Res ε α) := nofun

@[simp] theorem noPanic_pure (a : α) : NoPanic (pure a : Res ε α) := nofun

@[simp] theorem noPanic_fail (e : ε) : NoPanic (fail e : Res ε α) := nofun

@[simp] theorem noPanic_orErr (r : Except ε α) (wrap : ε → ε') : NoPanic (orErr r wrap) := by
  intro msg
  cases r <;> simp [orErr, Except.mapError]

@[simp] theorem noPanic_okOr (o : Option α) (e : ε) : NoPanic (okOr o e) := by
  cases o <;> exact nofun

@[simp] theorem noPanic_ensure (c : Prop) [Decidable c] (e : ε) : NoPanic (ensure c e) := by
  unfold ensure
  split <;> exact nofun

theorem NoPanic.bind {r : Res ε α} {f : α → Res ε β} (hr : NoPanic r)
    (hf : ∀ a, r = .ok a → NoPanic (f a)) : NoPanic (r >>= f) := by
  intro msg h
  cases hra : r with
  | ok a =>
    rw [hra] at h
    exact hf a hra msg h
  | error e =>
    rw [hra] at h
    simp only [Bind.bind, Except.bind, Except.error.injEq] at h
    exact hr msg (by rw [hra, h])

theorem noPanic_expectToken {decoded : List Token} {index shown : ℕ} {name : String}
    {expected : Token} (hindex : index < decoded.length) (hshown : shown < decoded.length) :
    NoPanic (expectToken decoded index shown name expected) := by
  unfold expectToken indexToken
  rw [List.getElem?_eq_getElem hindex, List.getElem?_eq_getElem hshown]
  simp only [except_ok_bind]
  split <;> exact nofun

end NoPanic

theorem expectToken_eq_ok {decoded : List Token} {index shown : ℕ} {name : String}
    {expected : Token} :
    expectToken decoded index shown name expected = .ok () ↔ decoded[index]? = some expected := by
  unfold expectToken indexToken
  cases decoded[index]? with
  | none => simp [bind, Except.bind]
  | some token =>
    by_cases h : token = expected
    · simp [h, pure, Except.pure]
    · cases decoded[shown]? <;> simp [h, bind, Except.bind, fail]

/-! ## What is negotiated -/

/-- The parameters of a payment on which the two sides of a swap have agreed. -/
structure NegotiatedPayment (lib : EvmLib) (coin : EthCoin) where
  timeLock : UInt64
  secretHash : List UInt8
  amount : ℚ
  /-- The amount in the smallest unit of the coin. -/
  units : U256
  swapContractAddress : Address
  senderPub : List UInt8
  sender : Address
  receiverPub : List UInt8
  receiver : Address
  watcherReward : Option WatcherReward
  timeLock_lt : timeLock.toNat < 2 ^ 32
  secretHash_length : secretHash.length = 20 ∨ secretHash.length = 32
  amount_eq : u256FromBigDecimal amount coin.decimals = .ok units
  sender_eq : addrFromRawPubkey lib senderPub = .ok sender
  receiver_eq : addrFromRawPubkey lib receiverPub = .ok receiver

namespace NegotiatedPayment

variable {lib : EvmLib} {coin : EthCoin} (p : NegotiatedPayment lib coin)

def swapId : List UInt8 := etomicSwapId lib p.timeLock.toUInt32 p.secretHash

/-- The arguments of the sender, whose reward may have another amount. -/
def sendArgs (rewardAmount : ℚ) : SendPaymentArgs where
  timeLock := p.timeLock
  otherPubkey := p.receiverPub
  secretHash := p.secretHash
  amount := p.amount
  swapContractAddress := some p.swapContractAddress.val
  watcherReward := p.watcherReward.map fun reward => { reward with amount := rewardAmount }

def input (paymentTx : List UInt8) : ValidatePaymentInput where
  paymentTx := paymentTx
  timeLock := p.timeLock
  otherPub := p.senderPub
  secretHash := p.secretHash
  amount := p.amount
  swapContractAddress := some p.swapContractAddress.val
  watcherReward := p.watcherReward

/-- The validation on the side of the receiver. -/
def validate (rewardLowerBoundary : UInt64 → UInt64) (node : EthNode) (paymentTx : List UInt8) :
    Res ValidatePaymentError Unit :=
  ({ coin with singleAddr := some p.receiver } : EthCoin).validatePayment lib swapContract
    rewardLowerBoundary node (p.input paymentTx)

def paymentName : String :=
  match coin.coinType with
  | .eth => getFunctionName "ethPayment" p.watcherReward.isSome
  | _ => getFunctionName "erc20Payment" p.watcherReward.isSome

/-- Whether a reward is part of the value of a payment. -/
def rewardInValue (coinType : EthCoinType) (reward : WatcherReward) : Bool :=
  match coinType, reward.rewardTarget with
  | _, .none | _, .paymentReceiver => reward.sendContractRewardOnSpend
  | .eth, _ | _, .contract | _, .paymentSender => true
  | _, .paymentSpender => false

/-- Whether a reward is part of the amount of tokens. -/
def rewardInAmount (coinType : EthCoinType) (reward : WatcherReward) : Bool :=
  decide (coinType ≠ .eth ∧ reward.rewardTarget = .paymentSpender)

/-- The unit in which a reward is counted. -/
def rewardUnits (coin : EthCoin) (reward : WatcherReward) (amount : ℚ) : Except String U256 :=
  match coin.coinType, reward.rewardTarget with
  | .eth, _ | _, .paymentSpender => u256FromBigDecimal amount coin.decimals
  | _, .contract | _, .paymentSender => u256FromBigDecimal amount ethDecimals
  | _, .none | _, .paymentReceiver =>
    if reward.sendContractRewardOnSpend then u256FromBigDecimal amount ethDecimals
    else .ok U256.zero

def rewardArguments (rewardAmount : U256) : List Token :=
  match p.watcherReward with
  | some reward => rewardTokens reward rewardAmount
  | none => []

def dueInValue (rewardAmount : U256) : ℕ :=
  match p.watcherReward with
  | some reward => if rewardInValue coin.coinType reward then rewardAmount.val else 0
  | none => 0

def dueInAmount (rewardAmount : U256) : ℕ :=
  match p.watcherReward with
  | some reward => if rewardInAmount coin.coinType reward then rewardAmount.val else 0
  | none => 0

def ethTokens : List Token := [
  .fixedBytes p.swapId,
  .address p.receiver,
  .fixedBytes (paymentSecretHash lib p.secretHash),
  .uint (.ofUInt64 p.timeLock)]

def erc20Tokens (amount : U256) (tokenAddr : Address) : List Token := [
  .fixedBytes p.swapId,
  .uint amount,
  .address tokenAddr,
  .address p.receiver,
  .fixedBytes (paymentSecretHash lib p.secretHash),
  .uint (.ofUInt64 p.timeLock)]

/-- The arguments and the value of the call are the negotiated ones, for some amount of the
reward. -/
def CallCarries (tx : Web3Tx) (f : AbiFunction) (rewardAmount : U256) : Prop :=
  match coin.coinType with
  | .eth =>
    tx.input = callData lib f (p.ethTokens ++ p.rewardArguments rewardAmount) ∧
      tx.value.val = p.units.val + p.dueInValue rewardAmount
  | .erc20 _ tokenAddr =>
    (∃ amount : U256, amount.val = p.units.val + p.dueInAmount rewardAmount ∧
      tx.input =
        callData lib f (p.erc20Tokens amount tokenAddr ++ p.rewardArguments rewardAmount)) ∧
      tx.value.val = p.dueInValue rewardAmount
  | .nft _ => False

/-- A transaction is the negotiated payment. -/
def Carries (tx : Web3Tx) : Prop :=
  tx.sender = some p.sender ∧ tx.target = some p.swapContractAddress ∧
    ∃ f rewardAmount, swapContract.function p.paymentName = .ok f ∧
      p.CallCarries tx f rewardAmount

/-- The validator takes the reward that the sender puts into its payment. -/
def RewardAccepted (rewardLowerBoundary : UInt64 → UInt64) (rewardAmount : ℚ) : Prop :=
  ∀ reward ∈ p.watcherReward, ∃ expected actual : U256,
    rewardUnits coin reward reward.amount = .ok expected ∧
    rewardUnits coin reward (rewardAmount * rewardOverpayFactor) = .ok actual ∧
    expected.val < 2 ^ 64 ∧ actual.val < 2 ^ 64 ∧
    validateWatcherReward rewardLowerBoundary (UInt64.ofNat expected.val)
      (UInt64.ofNat actual.val) reward.isExactAmount = .ok ()

/-- The node shows a call that the sender has made, and the contract has the payment. -/
def Shown (node : EthNode) (paymentTx : List UInt8) (call : UnsignedTx) : Prop :=
  ∃ hash target, call.action = .call target ∧ node.txHash paymentTx = .ok hash ∧
    node.paymentStatus p.swapContractAddress p.swapId = .ok paymentStateSent ∧
    node.transaction hash = .ok (some ⟨some p.sender, some target, call.value, call.data⟩)

/-- The two sides agree on a payment. -/
structure Agreement (rewardLowerBoundary : UInt64 → UInt64) : Prop where
  sound : ∀ node paymentTx, p.validate rewardLowerBoundary node paymentTx = .ok () →
    ∃ hash tx, node.txHash paymentTx = .ok hash ∧ node.transaction hash = .ok (some tx) ∧
      p.Carries tx
  complete : ∀ node paymentTx rewardAmount call,
    coin.sendHashTimeLockedPayment lib swapContract (p.sendArgs rewardAmount) (.ok ()) =
      .ok call →
    p.RewardAccepted rewardLowerBoundary rewardAmount → p.Shown node paymentTx call →
    p.validate rewardLowerBoundary node paymentTx = .ok ()
  noPanic : ∀ node paymentTx, NoPanic (p.validate rewardLowerBoundary node paymentTx)

end NegotiatedPayment

namespace NegotiatedPayment

variable {lib : EvmLib} {coin : EthCoin} {p : NegotiatedPayment lib coin}

theorem tryIntoU32_timeLock : tryIntoU32 p.timeLock = some p.timeLock.toUInt32 := by
  unfold tryIntoU32
  rw [if_pos p.timeLock_lt]

theorem tryToAddress_val (a : Address) : tryToAddress (some a.val) = .ok a := by
  simp [tryToAddress, a.property]

theorem paymentSecretHash_length : (paymentSecretHash lib p.secretHash).length = 20 := by
  unfold paymentSecretHash
  split
  · exact (lib.ripemd160 _).property
  · rename_i h
    exact p.secretHash_length.resolve_right h

theorem ethTokens_fits : List.Forall₂ ParamType.Fits ethPayment.paramTypes p.ethTokens := by
  simp [AbiFunction.paramTypes, ethPayment, ethTokens, ParamType.Fits, swapId,
    paymentSecretHash_length]

theorem erc20Tokens_fits (amount : U256) (tokenAddr : Address) :
    List.Forall₂ ParamType.Fits erc20Payment.paramTypes (p.erc20Tokens amount tokenAddr) := by
  simp [AbiFunction.paramTypes, erc20Payment, erc20Tokens, ParamType.Fits, swapId,
    paymentSecretHash_length]

/-- The validation of the call, after the transaction has been found. -/
def validateCall (p : NegotiatedPayment lib coin) (rewardLowerBoundary : UInt64 → UInt64)
    (paymentTx : List UInt8) (tx : Web3Tx) : Res ValidatePaymentError Unit :=
  let validator : EthCoin := { coin with singleAddr := some p.receiver }
  match coin.coinType with
  | .eth =>
    validator.validateEthPayment lib swapContract rewardLowerBoundary (p.input paymentTx) tx
      p.swapContractAddress p.receiver p.swapId (paymentSecretHash lib p.secretHash) p.units
  | .erc20 _ tokenAddr =>
    validator.validateErc20Payment lib swapContract rewardLowerBoundary (p.input paymentTx) tx
      p.swapContractAddress p.receiver tokenAddr p.swapId (paymentSecretHash lib p.secretHash)
      p.units
  | .nft _ => fail .protocolNotSupported

theorem validate_eq (rewardLowerBoundary : UInt64 → UInt64) (node : EthNode)
    (paymentTx : List UInt8) :
    p.validate rewardLowerBoundary node paymentTx = (do
      let hash ← orErr (node.txHash paymentTx) fun e => .txDeserializationError (.text e)
      let status ← orErr (node.paymentStatus p.swapContractAddress p.swapId) .transport
      ensure (status = paymentStateSent) (.unexpectedPaymentState status)
      let tx ← orErr (node.transaction hash) .transport
      let tx ← okOr tx .txDoesNotExist
      ensure (tx.sender = some p.sender) (.wrongPaymentTx (.sentFrom p.sender tx.sender))
      p.validateCall rewardLowerBoundary paymentTx tx) := by
  simp only [validate, EthCoin.validatePayment, input, tryToAddress_val, p.sender_eq,
    tryIntoU32_timeLock, p.amount_eq, okOr_some, orErr_ok, except_ok_bind]
  rfl

/-- The swap contract has no function for a payment with a reward. -/
theorem validateCall_reward {reward : WatcherReward} (hreward : p.watcherReward = some reward)
    (rewardLowerBoundary : UInt64 → UInt64) (paymentTx : List UInt8) (tx : Web3Tx) :
    ∃ e, p.validateCall rewardLowerBoundary paymentTx tx = fail e := by
  have heth : swapContract.function (getFunctionName "ethPayment" true) =
      .error (.invalidName "ethPaymentReward") := rfl
  have herc20 : swapContract.function (getFunctionName "erc20Payment" true) =
      .error (.invalidName "erc20PaymentReward") := rfl
  cases hcoin : coin.coinType with
  | eth =>
    simp only [validateCall, hcoin, EthCoin.validateEthPayment, input, hreward, Option.isSome_some,
      heth]
    by_cases htarget : tx.target = some p.swapContractAddress
    · exact ⟨_, by simp only [ensure, if_pos htarget]; rfl⟩
    · exact ⟨_, by simp only [ensure, if_neg htarget]; rfl⟩
  | erc20 platform tokenAddr =>
    simp only [validateCall, hcoin, EthCoin.validateErc20Payment, input, hreward,
      Option.isSome_some, herc20]
    by_cases htarget : tx.target = some p.swapContractAddress
    · exact ⟨_, by simp only [ensure, if_pos htarget]; rfl⟩
    · exact ⟨_, by simp only [ensure, if_neg htarget]; rfl⟩
  | nft platform =>
    refine ⟨.protocolNotSupported, ?_⟩
    simp only [validateCall, hcoin]

theorem validateCall_eth_eq_ok (habi : lib.abi.Lawful) (hcoin : coin.coinType = .eth)
    (hreward : p.watcherReward = none) {rewardLowerBoundary : UInt64 → UInt64}
    {paymentTx : List UInt8} {tx : Web3Tx} :
    p.validateCall rewardLowerBoundary paymentTx tx = .ok () ↔
      tx.target = some p.swapContractAddress ∧
        tx.input = callData lib ethPayment p.ethTokens ∧ tx.value = p.units := by
  have hf : swapContract.function (getFunctionName "ethPayment" false) = .ok ethPayment := rfl
  simp only [validateCall, hcoin, EthCoin.validateEthPayment, input, hreward, Option.isSome_none,
    hf, orErr_ok, except_ok_bind]
  simp only [except_bind_eq_ok, orErr_eq_ok, ensure_eq_ok, expectToken_eq_ok, Unique.exists_iff,
    PUnit.default_eq_unit]
  apply and_congr_right'
  constructor
  · rintro ⟨decoded, hdecode, h0, h1, h2, h3, hvalue⟩
    have hd := (decodeContractCall_eq_ok habi).mp hdecode
    have hlen : decoded.length = 4 := hd.1.length_eq.symm
    have htokens : decoded = p.ethTokens := by
      apply List.ext_getElem?
      intro i
      rcases i with _ | _ | _ | _ | i
      · exact h0
      · exact h1
      · exact h2
      · exact h3
      · simp [hlen, ethTokens]
    exact ⟨by rw [hd.2, htokens]; rfl, hvalue⟩
  · rintro ⟨hinput, hvalue⟩
    refine ⟨p.ethTokens, ?_, rfl, rfl, rfl, rfl, hvalue⟩
    rw [hinput]
    exact decodeContractCall_callData habi ethTokens_fits

theorem validateCall_erc20_eq_ok (habi : lib.abi.Lawful) {platform : String} {tokenAddr : Address}
    (hcoin : coin.coinType = .erc20 platform tokenAddr) (hreward : p.watcherReward = none)
    {rewardLowerBoundary : UInt64 → UInt64} {paymentTx : List UInt8} {tx : Web3Tx} :
    p.validateCall rewardLowerBoundary paymentTx tx = .ok () ↔
      tx.target = some p.swapContractAddress ∧
        (∃ amount, tx.input = callData lib erc20Payment (p.erc20Tokens amount tokenAddr)) ∧
        tx.value = U256.zero := by
  have hf : swapContract.function (getFunctionName "erc20Payment" false) = .ok erc20Payment := rfl
  simp only [validateCall, hcoin, EthCoin.validateErc20Payment, input, hreward,
    Option.isSome_none, hf, orErr_ok, except_ok_bind]
  simp only [except_bind_eq_ok, orErr_eq_ok, ensure_eq_ok, expectToken_eq_ok, Unique.exists_iff,
    PUnit.default_eq_unit]
  apply and_congr_right'
  constructor
  · rintro ⟨decoded, hdecode, h0, h2, h3, h4, h5, hvalue⟩
    have hd := (decodeContractCall_eq_ok habi).mp hdecode
    have hlen : decoded.length = 6 := hd.1.length_eq.symm
    have h1 : 1 < decoded.length := by omega
    obtain ⟨amount, hamount⟩ : ∃ amount, decoded[1] = .uint amount := by
      have hfit : (ParamType.uint 256).Fits decoded[1] := hd.1.get (by decide) h1
      cases htoken : decoded[1] with
      | uint amount => exact ⟨amount, rfl⟩
      | _ => simp [htoken, ParamType.Fits] at hfit
    have htokens : decoded = p.erc20Tokens amount tokenAddr := by
      apply List.ext_getElem?
      intro i
      rcases i with _ | _ | _ | _ | _ | _ | i
      · exact h0
      · rw [zero_add, List.getElem?_eq_getElem h1, hamount]
        rfl
      · exact h2
      · exact h3
      · exact h4
      · exact h5
      · simp [hlen, erc20Tokens]
    exact ⟨⟨amount, by rw [hd.2, htokens]; rfl⟩, hvalue⟩
  · rintro ⟨⟨amount, hinput⟩, hvalue⟩
    refine ⟨p.erc20Tokens amount tokenAddr, ?_, rfl, rfl, rfl, rfl, rfl, hvalue⟩
    rw [hinput]
    exact decodeContractCall_callData habi (erc20Tokens_fits amount tokenAddr)

theorem noPanic_validateCall (habi : lib.abi.Lawful) (rewardLowerBoundary : UInt64 → UInt64)
    (paymentTx : List UInt8) (tx : Web3Tx) :
    NoPanic (p.validateCall rewardLowerBoundary paymentTx tx) := by
  cases hreward : p.watcherReward with
  | some reward =>
    obtain ⟨e, he⟩ := validateCall_reward hreward rewardLowerBoundary paymentTx tx
    rw [he]
    exact noPanic_fail e
  | none =>
    have hdecoded : ∀ (f : AbiFunction) (decoded : List Token),
        orErr (decodeContractCall lib.abi f tx.input)
          (fun e => ValidatePaymentError.txDeserializationError (.abi e)) = .ok decoded →
        decoded.length = f.inputs.length := by
      intro f decoded h
      have hd := (decodeContractCall_eq_ok habi).mp (orErr_eq_ok.mp h)
      rw [← hd.1.length_eq, AbiFunction.paramTypes, List.length_map]
    cases hcoin : coin.coinType with
    | eth =>
      have hf : swapContract.function (getFunctionName "ethPayment" false) = .ok ethPayment := rfl
      simp only [validateCall, hcoin, EthCoin.validateEthPayment, input, hreward,
        Option.isSome_none, hf, orErr_ok, except_ok_bind]
      apply NoPanic.bind (noPanic_ensure _ _)
      intro _ _
      apply NoPanic.bind (noPanic_orErr _ _)
      intro decoded hdec
      have hlen : decoded.length = 4 := hdecoded _ _ hdec
      apply NoPanic.bind (noPanic_expectToken (by omega) (by omega))
      intro _ _
      apply NoPanic.bind (noPanic_expectToken (by omega) (by omega))
      intro _ _
      apply NoPanic.bind (noPanic_expectToken (by omega) (by omega))
      intro _ _
      apply NoPanic.bind (noPanic_expectToken (by omega) (by omega))
      intro _ _
      exact noPanic_ensure _ _
    | erc20 platform tokenAddr =>
      have hf : swapContract.function (getFunctionName "erc20Payment" false) =
        .ok erc20Payment := rfl
      simp only [validateCall, hcoin, EthCoin.validateErc20Payment, input, hreward,
        Option.isSome_none, hf, orErr_ok, except_ok_bind]
      apply NoPanic.bind (noPanic_ensure _ _)
      intro _ _
      apply NoPanic.bind (noPanic_orErr _ _)
      intro decoded hdec
      have hlen : decoded.length = 6 := hdecoded _ _ hdec
      apply NoPanic.bind (noPanic_expectToken (by omega) (by omega))
      intro _ _
      apply NoPanic.bind (noPanic_expectToken (by omega) (by omega))
      intro _ _
      apply NoPanic.bind (noPanic_expectToken (by omega) (by omega))
      intro _ _
      apply NoPanic.bind (noPanic_expectToken (by omega) (by omega))
      intro _ _
      apply NoPanic.bind (noPanic_expectToken (by omega) (by omega))
      intro _ _
      exact noPanic_ensure _ _
    | nft platform =>
      simp only [validateCall, hcoin]
      exact noPanic_fail _

theorem noPanic_validate (habi : lib.abi.Lawful) (rewardLowerBoundary : UInt64 → UInt64)
    (node : EthNode) (paymentTx : List UInt8) :
    NoPanic (p.validate rewardLowerBoundary node paymentTx) := by
  rw [validate_eq]
  apply NoPanic.bind (noPanic_orErr _ _)
  intro hash _
  apply NoPanic.bind (noPanic_orErr _ _)
  intro status _
  apply NoPanic.bind (noPanic_ensure _ _)
  intro _ _
  apply NoPanic.bind (noPanic_orErr _ _)
  intro found _
  apply NoPanic.bind (noPanic_okOr _ _)
  intro tx _
  apply NoPanic.bind (noPanic_ensure _ _)
  intro _ _
  exact noPanic_validateCall habi rewardLowerBoundary paymentTx tx

theorem validate_eq_ok {rewardLowerBoundary : UInt64 → UInt64} {node : EthNode}
    {paymentTx : List UInt8} :
    p.validate rewardLowerBoundary node paymentTx = .ok () ↔
      ∃ hash tx, node.txHash paymentTx = .ok hash ∧
        node.paymentStatus p.swapContractAddress p.swapId = .ok paymentStateSent ∧
        node.transaction hash = .ok (some tx) ∧ tx.sender = some p.sender ∧
        p.validateCall rewardLowerBoundary paymentTx tx = .ok () := by
  rw [validate_eq]
  simp only [except_bind_eq_ok, orErr_eq_ok, okOr_eq_ok, ensure_eq_ok, Unique.exists_iff,
    PUnit.default_eq_unit]
  constructor
  · rintro ⟨hash, hhash, status, hstatus, rfl, found, hfound, tx, rfl, hsender, hcall⟩
    exact ⟨hash, tx, hhash, hstatus, hfound, hsender, hcall⟩
  · rintro ⟨hash, tx, hhash, hstatus, hfound, hsender, hcall⟩
    exact ⟨hash, hhash, _, hstatus, rfl, _, hfound, tx, rfl, hsender, hcall⟩

/-! ## The sender -/

theorem send_reward {reward : WatcherReward} (hreward : p.watcherReward = some reward)
    (rewardAmount : ℚ) (allowance : Except TransactionErr Unit) (call : UnsignedTx) :
    coin.sendHashTimeLockedPayment lib swapContract (p.sendArgs rewardAmount) allowance ≠
      .ok call := by
  have heth : swapContract.function (getFunctionName "ethPayment" true) =
      .error (.invalidName "ethPaymentReward") := rfl
  have herc20 : swapContract.function (getFunctionName "erc20Payment" true) =
      .error (.invalidName "erc20PaymentReward") := rfl
  simp only [EthCoin.sendHashTimeLockedPayment, sendArgs, p.receiver_eq, tryToAddress_val,
    tryIntoU32_timeLock, p.amount_eq, hreward, Option.map_some, Option.isSome_some, okOr_some,
    orErr_ok, except_ok_bind]
  cases coin.coinType with
  | eth =>
    simp only [heth]
    exact nofun
  | erc20 platform tokenAddr =>
    simp only [herc20]
    exact nofun
  | nft platform => exact nofun

theorem send_eth (hcoin : coin.coinType = .eth) (hreward : p.watcherReward = none)
    (rewardAmount : ℚ) (allowance : Except TransactionErr Unit) :
    coin.sendHashTimeLockedPayment lib swapContract (p.sendArgs rewardAmount) allowance =
      .ok ⟨.call p.swapContractAddress, p.units, callData lib ethPayment p.ethTokens⟩ := by
  have hf : swapContract.function (getFunctionName "ethPayment" false) = .ok ethPayment := rfl
  have hdata : ethPayment.encodeInput lib.abi p.ethTokens =
      .ok (callData lib ethPayment p.ethTokens) :=
    ethPayment.encodeInput_of_fits lib.abi ethTokens_fits
  unfold ethTokens swapId at hdata
  simp only [EthCoin.sendHashTimeLockedPayment, sendArgs, p.receiver_eq, tryToAddress_val,
    tryIntoU32_timeLock, p.amount_eq, hreward, hcoin, Option.map_none, Option.isSome_none, hf,
    okOr_some, orErr_ok, except_ok_bind, hdata]
  rfl

theorem send_nft {platform : String} (hcoin : coin.coinType = .nft platform)
    (rewardAmount : ℚ) (allowance : Except TransactionErr Unit) :
    coin.sendHashTimeLockedPayment lib swapContract (p.sendArgs rewardAmount) allowance =
      fail .protocolNotSupported := by
  simp only [EthCoin.sendHashTimeLockedPayment, sendArgs, p.receiver_eq, tryToAddress_val,
    tryIntoU32_timeLock, p.amount_eq, hcoin, okOr_some, orErr_ok, except_ok_bind]

/-! ## Agreement -/

/-- A node that shows an ERC20 payment of another amount. -/
def otherAmountNode (p : NegotiatedPayment lib coin) (amount : U256) (tokenAddr : Address) :
    EthNode where
  txHash _ := .ok (beBytes 32 0)
  paymentStatus _ _ := .ok paymentStateSent
  transaction _ := .ok (some ⟨some p.sender, some p.swapContractAddress, U256.zero,
    callData lib erc20Payment (p.erc20Tokens amount tokenAddr)⟩)

/-- Without a reward the validation takes every amount of tokens. -/
theorem validate_otherAmountNode (habi : lib.abi.Lawful) {platform : String} {tokenAddr : Address}
    (hcoin : coin.coinType = .erc20 platform tokenAddr) (hreward : p.watcherReward = none)
    (rewardLowerBoundary : UInt64 → UInt64) (amount : U256) (paymentTx : List UInt8) :
    p.validate rewardLowerBoundary (p.otherAmountNode amount tokenAddr) paymentTx = .ok () := by
  rw [validate_eq_ok]
  refine ⟨_, _, rfl, rfl, rfl, rfl, ?_⟩
  rw [validateCall_erc20_eq_ok habi hcoin hreward]
  exact ⟨rfl, ⟨amount, rfl⟩, rfl⟩

theorem not_agreement_erc20 (habi : lib.abi.Lawful) {platform : String} {tokenAddr : Address}
    (hcoin : coin.coinType = .erc20 platform tokenAddr) (hreward : p.watcherReward = none)
    (rewardLowerBoundary : UInt64 → UInt64) : ¬ p.Agreement rewardLowerBoundary := by
  intro hagree
  obtain ⟨amount, hother⟩ : ∃ amount : U256, amount ≠ p.units := by
    by_cases hzero : p.units = U256.zero
    · exact ⟨⟨1, by norm_num⟩, by rw [hzero]; decide⟩
    · exact ⟨U256.zero, fun h => hzero h.symm⟩
  have hok := validate_otherAmountNode habi hcoin hreward rewardLowerBoundary amount []
  obtain ⟨hash, tx, -, hfound, -, -, f, rewardAmount, hf, hcarries⟩ := hagree.sound _ _ hok
  simp only [otherAmountNode, Except.ok.injEq, Option.some.injEq] at hfound
  subst hfound
  have hname : swapContract.function p.paymentName = .ok erc20Payment := by
    simp only [paymentName, hcoin, hreward]
    rfl
  rw [hname, Except.ok.injEq] at hf
  subst hf
  simp only [CallCarries, hcoin, rewardArguments, dueInAmount, hreward, List.append_nil,
    add_zero] at hcarries
  obtain ⟨⟨amount', hamount', hinput⟩, -⟩ := hcarries
  -- the data of the call has one decoding
  have hdecode := decodeContractCall_callData habi (erc20Tokens_fits (p := p) amount tokenAddr)
  rw [hinput, decodeContractCall_callData habi (erc20Tokens_fits amount' tokenAddr)] at hdecode
  simp only [erc20Tokens, Except.ok.injEq, List.cons.injEq, Token.uint.injEq, true_and,
    and_true] at hdecode
  exact hother (by rw [← hdecode]; exact Subtype.ext hamount')

/-- The two sides agree on a payment unless it is an ERC20 payment without a watcher reward. -/
theorem agreement_iff (lib : EvmLib) (habi : lib.abi.Lawful) (coin : EthCoin)
    (p : NegotiatedPayment lib coin) (rewardLowerBoundary : UInt64 → UInt64) :
    p.Agreement rewardLowerBoundary ↔
      ∀ platform tokenAddr, coin.coinType = .erc20 platform tokenAddr → p.watcherReward ≠ none := by
  constructor
  · intro hagree platform tokenAddr hcoin hreward
    exact not_agreement_erc20 habi hcoin hreward rewardLowerBoundary hagree
  · intro hcond
    constructor
    case sound =>
      intro node paymentTx hok
      obtain ⟨hash, tx, hhash, -, hfound, hsender, hcall⟩ := validate_eq_ok.mp hok
      refine ⟨hash, tx, hhash, hfound, hsender, ?_⟩
      cases hreward : p.watcherReward with
      | some reward =>
        obtain ⟨e, he⟩ := validateCall_reward hreward rewardLowerBoundary paymentTx tx
        rw [he] at hcall
        cases hcall
      | none =>
        cases hcoin : coin.coinType with
        | erc20 platform tokenAddr => exact absurd hreward (hcond _ _ hcoin)
        | nft platform =>
          simp only [validateCall, hcoin] at hcall
          cases hcall
        | eth =>
          have hc := (validateCall_eth_eq_ok habi hcoin hreward).mp hcall
          refine ⟨hc.1, ethPayment, U256.zero, ?_, ?_⟩
          · simp only [paymentName, hcoin, hreward]
            rfl
          · simp only [CallCarries, hcoin, rewardArguments, dueInValue, hreward, List.append_nil,
              add_zero]
            exact ⟨hc.2.1, congrArg Subtype.val hc.2.2⟩
    case complete =>
      intro node paymentTx rewardAmount call hsend _ hshown
      cases hreward : p.watcherReward with
      | some reward => exact absurd hsend (send_reward hreward rewardAmount _ call)
      | none =>
        cases hcoin : coin.coinType with
        | erc20 platform tokenAddr => exact absurd hreward (hcond _ _ hcoin)
        | nft platform =>
          rw [send_nft hcoin] at hsend
          cases hsend
        | eth =>
          rw [send_eth hcoin hreward, Except.ok.injEq] at hsend
          subst hsend
          obtain ⟨hash, target, htarget, hhash, hstatus, hfound⟩ := hshown
          simp only [Action.call.injEq] at htarget
          apply validate_eq_ok.mpr
          refine ⟨hash, _, hhash, hstatus, hfound, rfl, ?_⟩
          apply (validateCall_eth_eq_ok habi hcoin hreward).mpr
          exact ⟨by rw [htarget], rfl, rfl⟩
    case noPanic => exact noPanic_validate habi rewardLowerBoundary

end NegotiatedPayment

namespace Sample

/-- One coin or token, locked by the taker. -/
def negotiated (coin : EthCoin) (units : U256) (h : u256FromBigDecimal 1 coin.decimals = .ok units) :
    NegotiatedPayment lib coin where
  timeLock := 1700007200
  secretHash := legacySecretHash
  amount := 1
  units := units
  swapContractAddress := beBytes 20 5
  senderPub := takerPubkey
  sender := publicToAddress takerPub
  receiverPub := makerPubkey
  receiver := publicToAddress makerPub
  watcherReward := none
  timeLock_lt := by decide
  secretHash_length := .inl (by simp [legacySecretHash])
  amount_eq := h
  sender_eq := by decide +kernel
  receiver_eq := by decide +kernel

def ethPayment : NegotiatedPayment lib ethCoin :=
  negotiated ethCoin ⟨1000000000000000000, by norm_num⟩ (by decide +kernel)

def erc20Payment : NegotiatedPayment lib erc20Coin :=
  negotiated erc20Coin ⟨1000000, million_fits⟩ (by decide +kernel)

end Sample

namespace NegotiatedPayment

theorem agreement_iff_sample :
    Sample.ethPayment.Agreement id ↔
      ∀ platform tokenAddr, Sample.ethCoin.coinType = .erc20 platform tokenAddr →
        Sample.ethPayment.watcherReward ≠ none :=
  agreement_iff Sample.lib (Ethabi.ofStatic_lawful Sample.shortSignature) Sample.ethCoin
    Sample.ethPayment id

/-- A payment of the smallest unit of a token passes for one of a million. -/
theorem agreement_not_sample :
    Sample.erc20Payment.units.val = 1000000 ∧
      Sample.erc20Payment.validate id
        (Sample.erc20Payment.otherAmountNode ⟨1, Sample.one_fits⟩ (beBytes 20 4)) [] = .ok () ∧
      ¬ Sample.erc20Payment.Agreement id := by
  refine ⟨rfl, by decide +kernel, ?_⟩
  exact not_agreement_erc20 (Ethabi.ofStatic_lawful Sample.shortSignature) rfl rfl id

end NegotiatedPayment

end DeXFG.Evm
