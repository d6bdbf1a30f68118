import DeXFG.Evm.Coin

/-!
# Payments of legacy swaps

The sender locks a payment in the swap contract, and the other side validates
it: the transaction is the one that the node has under its hash, its call and
its value are compared with what was negotiated. A payment may come with a
reward for watchers, in a function of its own.
-/
namespace DeXFG.Evm
open Library.StaticAbi

inductive RewardTarget where
  | none
  | contract
  | paymentSender
  | paymentSpender
  | paymentReceiver
  deriving DecidableEq, Repr

/-- `reward_target as u8`. -/
def RewardTarget.toU256 : RewardTarget → U256
  | .none => ⟨0, by norm_num⟩
  | .contract => ⟨1, by norm_num⟩
  | .paymentSender => ⟨2, by norm_num⟩
  | .paymentSpender => ⟨3, by norm_num⟩
  | .paymentReceiver => ⟨4, by norm_num⟩

structure WatcherReward where
  amount : ℚ
  isExactAmount : Bool
  rewardTarget : RewardTarget
  sendContractRewardOnSpend : Bool
  deriving DecidableEq

structure SendPaymentArgs where
  timeLock : UInt64
  otherPubkey : List UInt8
  secretHash : List UInt8
  amount : ℚ
  swapContractAddress : Option (List UInt8)
  watcherReward : Option WatcherReward

structure ValidatePaymentInput where
  paymentTx : List UInt8
  timeLock : UInt64
  otherPub : List UInt8
  secretHash : List UInt8
  amount : ℚ
  swapContractAddress : Option (List UInt8)
  watcherReward : Option WatcherReward

/-- `REWARD_OVERPAY_FACTOR`. -/
def rewardOverpayFactor : ℚ := 3 / 2

/-- `PaymentState::Sent`. -/
def paymentStateSent : U256 := ⟨1, by norm_num⟩

/-- A transaction as a node shows it. -/
structure Web3Tx where
  sender : Option Address
  target : Option Address
  value : U256
  input : List UInt8
  deriving DecidableEq

/-- The answers during a validation: the hash of the transaction that the bytes hold, the state of
a payment in the contract, and the transaction under a hash. -/
structure EthNode where
  txHash : List UInt8 → Except String (FixedBytes 32)
  paymentStatus : Address → List UInt8 → Except String U256
  transaction : FixedBytes 32 → Except String (Option Web3Tx)

def getFunctionName (name : String) (watcherReward : Bool) : String :=
  if watcherReward then name ++ "Reward" else name

/-- `value += reward`. -/
def addOrPanic {ε : Type} (a b : U256) : Res ε U256 :=
  match a.checkedAdd b with
  | some c => .ok c
  | none => .error (.panic "arithmetic operation overflow")

/-- `U256::as_u64`. -/
def asU64 {ε : Type} (n : U256) : Res ε UInt64 :=
  if n.val < 2 ^ 64 then .ok (UInt64.ofNat n.val)
  else .error (.panic "Integer overflow when casting to u64")

/-- `u64` as `u32`. -/
def tryIntoU32 (n : UInt64) : Option UInt32 :=
  if n.toNat < 2 ^ 32 then some n.toUInt32 else none

/-- `decoded[index]`. -/
def indexToken {ε : Type} (decoded : List Token) (index : ℕ) : Res ε Token :=
  match decoded[index]? with
  | some token => .ok token
  | none => .error (.panic "index out of bounds")

def intoUint : Token → Option U256
  | .uint n => some n
  | _ => none

/-- A check of one argument; `shown` is the index of the argument that the error prints. -/
def expectToken (decoded : List Token) (index shown : ℕ) (name : String) (expected : Token) :
    Res ValidatePaymentError Unit := do
  let token ← indexToken decoded index
  if token = expected then pure ()
  else
    let found ← indexToken decoded shown
    fail (.wrongPaymentTx (.field "Payment tx" name (some found) expected))

/-- `validate_watcher_reward`; the lower boundary is computed in floating point. -/
def validateWatcherReward (rewardLowerBoundary : UInt64 → UInt64)
    (expectedReward actualReward : UInt64) (isExact : Bool) : Except ValidatePaymentError Unit :=
  if isExact then
    if actualReward ≠ expectedReward then
      .error (.wrongPaymentTx (.amount "Payment tx reward_amount" (.ofUInt64 expectedReward)
        (.ofUInt64 actualReward)))
    else .ok ()
  else if actualReward < rewardLowerBoundary expectedReward then
    .error (.wrongPaymentTx (.amount "Provided watcher reward"
      (.ofUInt64 (rewardLowerBoundary expectedReward)) (.ofUInt64 actualReward)))
  else .ok ()

section Payment

variable (lib : EvmLib) (contract : Contract)

def paymentSecretHash (secretHash : List UInt8) : List UInt8 :=
  if secretHash.length = 32 then (lib.ripemd160 secretHash).val else secretHash

/-- The arguments that a watcher reward adds to a payment. -/
def rewardTokens (reward : WatcherReward) (rewardAmount : U256) : List Token :=
  [.uint reward.rewardTarget.toU256, .bool reward.sendContractRewardOnSpend, .uint rewardAmount]

def EthCoin.sendHashTimeLockedPayment (coin : EthCoin) (args : SendPaymentArgs)
    (allowance : Except TransactionErr Unit) : Res TransactionErr UnsignedTx := do
  let receiverAddr ← orErr (addrFromRawPubkey lib args.otherPubkey) fun e => .plain (.text e)
  let swapContractAddress ← orErr (tryToAddress args.swapContractAddress)
    fun e => .plain (.text e)
  let timeLock ← okOr (tryIntoU32 args.timeLock) (.plain (.text "TryFromIntError"))
  let swapId := etomicSwapId lib timeLock args.secretHash
  let tradeAmount ← orErr (u256FromBigDecimal args.amount coin.decimals)
    fun e => .plain (.numConvers e)
  let secretHash := paymentSecretHash lib args.secretHash
  match coin.coinType with
  | .eth =>
    let function ← orErr
      (contract.function (getFunctionName "ethPayment" args.watcherReward.isSome))
      fun e => .plain (.abi e)
    let tokens := [.fixedBytes swapId, .address receiverAddr, .fixedBytes secretHash,
      .uint (.ofUInt64 args.timeLock)]
    match args.watcherReward with
    | some reward =>
      let rewardAmount ← orErr
        (u256FromBigDecimal (reward.amount * rewardOverpayFactor) coin.decimals)
        fun e => .plain (.numConvers e)
      let value ←
        if reward.rewardTarget ≠ .none ∨ reward.sendContractRewardOnSpend = true then
          addOrPanic tradeAmount rewardAmount
        else .ok tradeAmount
      let data ← orErr (function.encodeInput lib.abi (tokens ++ rewardTokens reward rewardAmount))
        fun e => .plain (.abi e)
      pure ⟨.call swapContractAddress, value, data⟩
    | none =>
      let data ← orErr (function.encodeInput lib.abi tokens) fun e => .plain (.abi e)
      pure ⟨.call swapContractAddress, tradeAmount, data⟩
  | .erc20 _ tokenAddr =>
    let function ← orErr
      (contract.function (getFunctionName "erc20Payment" args.watcherReward.isSome))
      fun e => .plain (.abi e)
    let tokens (amount : U256) : List Token := [.fixedBytes swapId, .uint amount, .address tokenAddr,
      .address receiverAddr, .fixedBytes secretHash, .uint (.ofUInt64 args.timeLock)]
    match args.watcherReward with
    | some reward =>
      let rewardWithOverpay := reward.amount * rewardOverpayFactor
      let (value, amount, rewardAmount) ← (match reward.rewardTarget with
        | .contract | .paymentSender => do
          let ethRewardAmount ← orErr (u256FromBigDecimal rewardWithOverpay ethDecimals)
            fun e => .plain (.numConvers e)
          pure (ethRewardAmount, tradeAmount, ethRewardAmount)
        | .paymentSpender => do
          let tokenRewardAmount ← orErr (u256FromBigDecimal rewardWithOverpay coin.decimals)
            fun e => .plain (.numConvers e)
          let amount ← addOrPanic tradeAmount tokenRewardAmount
          pure (U256.zero, amount, tokenRewardAmount)
        | .none | .paymentReceiver =>
          if reward.sendContractRewardOnSpend then do
            let ethRewardAmount ← orErr (u256FromBigDecimal rewardWithOverpay ethDecimals)
              fun e => .plain (.numConvers e)
            pure (ethRewardAmount, tradeAmount, ethRewardAmount)
          else pure (U256.zero, tradeAmount, U256.zero) :
        Res TransactionErr (U256 × U256 × U256))
      let data ← orErr
        (function.encodeInput lib.abi (tokens amount ++ rewardTokens reward rewardAmount))
        fun e => .plain (.abi e)
      orErr allowance id
      pure ⟨.call swapContractAddress, value, data⟩
    | none =>
      let data ← orErr (function.encodeInput lib.abi (tokens tradeAmount))
        fun e => .plain (.abi e)
      orErr allowance id
      pure ⟨.call swapContractAddress, U256.zero, data⟩
  | .nft _ => fail .protocolNotSupported

/-- The validation of an ETH payment, once its sender has been compared. -/
def EthCoin.validateEthPayment (coin : EthCoin) (rewardLowerBoundary : UInt64 → UInt64)
    (input : ValidatePaymentInput) (tx : Web3Tx) (expectedSwapContractAddress myAddress : Address)
    (swapId secretHash : List UInt8) (tradeAmount : U256) : Res ValidatePaymentError Unit := do
  ensure (tx.target = some expectedSwapContractAddress)
    (.wrongPaymentTx (.sentTo expectedSwapContractAddress tx.target))
  let function ← orErr
    (contract.function (getFunctionName "ethPayment" input.watcherReward.isSome))
    fun e => .internalError (.abi e)
  let decoded ← orErr (decodeContractCall lib.abi function tx.input)
    fun e => .txDeserializationError (.abi e)
  expectToken decoded 0 0 "swap_id" (.fixedBytes swapId)
  expectToken decoded 1 1 "receiver" (.address myAddress)
  expectToken decoded 2 2 "secret_hash" (.fixedBytes secretHash)
  expectToken decoded 3 3 "time_lock" (.uint (.ofUInt64 input.timeLock))
  let expectedValue ← (match input.watcherReward with
    | some reward => do
      expectToken decoded 4 4 "reward target" (.uint reward.rewardTarget.toU256)
      expectToken decoded 5 5 "sends_contract_reward_on_spend"
        (.bool reward.sendContractRewardOnSpend)
      let expectedRewardAmount ← orErr (u256FromBigDecimal reward.amount coin.decimals)
        fun e => .internalError (.numConvers e)
      let token ← indexToken decoded 6
      let actualRewardAmount ← okOr (intoUint token)
        (.wrongPaymentTx (.field "Payment tx" "watcher reward" (some token) token))
      let expected ← asU64 expectedRewardAmount
      let actual ← asU64 actualRewardAmount
      orErr (validateWatcherReward rewardLowerBoundary expected actual reward.isExactAmount) id
      match reward.rewardTarget with
      | .none | .paymentReceiver =>
        if reward.sendContractRewardOnSpend then addOrPanic tradeAmount actualRewardAmount
        else .ok tradeAmount
      | .paymentSender | .paymentSpender | .contract => addOrPanic tradeAmount actualRewardAmount
    | none => .ok tradeAmount : Res ValidatePaymentError U256)
  ensure (tx.value = expectedValue)
    (.wrongPaymentTx (.amount "Payment tx value" tradeAmount tx.value))

/-- The validation of an ERC20 payment. The errors about the first two arguments of a reward print
other arguments, and the amount is compared under a reward only. -/
def EthCoin.validateErc20Payment (coin : EthCoin) (rewardLowerBoundary : UInt64 → UInt64)
    (input : ValidatePaymentInput) (tx : Web3Tx)
    (expectedSwapContractAddress myAddress tokenAddr : Address) (swapId secretHash : List UInt8)
    (tradeAmount : U256) : Res ValidatePaymentError Unit := do
  ensure (tx.target = some expectedSwapContractAddress)
    (.wrongPaymentTx (.sentTo expectedSwapContractAddress tx.target))
  let function ← orErr
    (contract.function (getFunctionName "erc20Payment" input.watcherReward.isSome))
    fun e => .internalError (.abi e)
  let decoded ← orErr (decodeContractCall lib.abi function tx.input)
    fun e => .txDeserializationError (.abi e)
  expectToken decoded 0 0 "swap_id" (.fixedBytes swapId)
  expectToken decoded 2 2 "token_addr" (.address tokenAddr)
  expectToken decoded 3 3 "receiver" (.address myAddress)
  expectToken decoded 4 4 "secret_hash" (.fixedBytes secretHash)
  expectToken decoded 5 5 "time_lock" (.uint (.ofUInt64 input.timeLock))
  let expectedValue ← (match input.watcherReward with
    | some reward => do
      expectToken decoded 6 4 "reward target" (.uint reward.rewardTarget.toU256)
      expectToken decoded 7 5 "sends_contract_reward_on_spend"
        (.bool reward.sendContractRewardOnSpend)
      let expectedRewardAmount ← (match reward.rewardTarget with
        | .contract | .paymentSender =>
          orErr (u256FromBigDecimal reward.amount ethDecimals)
            fun e => .internalError (.numConvers e)
        | .paymentSpender =>
          orErr (u256FromBigDecimal reward.amount coin.decimals)
            fun e => .internalError (.numConvers e)
        | .none | .paymentReceiver =>
          if reward.sendContractRewardOnSpend then
            orErr (u256FromBigDecimal reward.amount ethDecimals)
              fun e => .internalError (.numConvers e)
          else .ok U256.zero : Res ValidatePaymentError U256)
      let token ← orErr (getFunctionInputData decoded function 8)
        fun e => .txDeserializationError (.text e)
      let actualRewardAmount ← okOr (intoUint token)
        (.wrongPaymentTx (.field "Payment tx" "watcher reward" (some token) token))
      let expected ← asU64 expectedRewardAmount
      let actual ← asU64 actualRewardAmount
      orErr (validateWatcherReward rewardLowerBoundary expected actual reward.isExactAmount) id
      let (expectedValue, expectedAmount) ← (match reward.rewardTarget with
        | .paymentSender | .contract => do
          let value ← addOrPanic U256.zero actualRewardAmount
          pure (value, tradeAmount)
        | .paymentSpender => do
          let amount ← addOrPanic tradeAmount actualRewardAmount
          pure (U256.zero, amount)
        | .none | .paymentReceiver =>
          if reward.sendContractRewardOnSpend then do
            let value ← addOrPanic U256.zero actualRewardAmount
            pure (value, tradeAmount)
          else pure (U256.zero, tradeAmount) : Res ValidatePaymentError (U256 × U256))
      expectToken decoded 1 1 "amount" (.uint expectedAmount)
      pure expectedValue
    | none => .ok U256.zero : Res ValidatePaymentError U256)
  ensure (tx.value = expectedValue)
    (.wrongPaymentTx (.amount "Payment tx value" expectedValue tx.value))

def EthCoin.validatePayment (coin : EthCoin) (rewardLowerBoundary : UInt64 → UInt64)
    (node : EthNode) (input : ValidatePaymentInput) : Res ValidatePaymentError Unit := do
  let expectedSwapContractAddress ← orErr (tryToAddress input.swapContractAddress)
    .invalidParameter
  let txHash ← orErr (node.txHash input.paymentTx) fun e => .txDeserializationError (.text e)
  let sender ← orErr (addrFromRawPubkey lib input.otherPub) .invalidParameter
  let timeLock ← okOr (tryIntoU32 input.timeLock) .timelockOverflow
  let swapId := etomicSwapId lib timeLock input.secretHash
  let secretHash := paymentSecretHash lib input.secretHash
  let tradeAmount ← orErr (u256FromBigDecimal input.amount coin.decimals)
    fun e => .internalError (.numConvers e)
  let status ← orErr (node.paymentStatus expectedSwapContractAddress swapId) .transport
  ensure (status = paymentStateSent) (.unexpectedPaymentState status)
  let txFromRpc ← orErr (node.transaction txHash) .transport
  let txFromRpc ← okOr txFromRpc .txDoesNotExist
  ensure (txFromRpc.sender = some sender) (.wrongPaymentTx (.sentFrom sender txFromRpc.sender))
  let myAddress ← okOr coin.singleAddr (.internalError (.text "ExpectedSingleAddress"))
  match coin.coinType with
  | .eth =>
    coin.validateEthPayment lib contract rewardLowerBoundary input txFromRpc
      expectedSwapContractAddress myAddress swapId secretHash tradeAmount
  | .erc20 _ tokenAddr =>
    coin.validateErc20Payment lib contract rewardLowerBoundary input txFromRpc
      expectedSwapContractAddress myAddress tokenAddr swapId secretHash tradeAmount
  | .nft _ => fail .protocolNotSupported

end Payment

end DeXFG.Evm
