import DeXFG.Evm.Coin

/-!
# Calls of the maker's swap contract

The maker locks a payment; the taker spends it, or the maker takes it back. A
function stops where it gives a transaction to be signed and sent.
-/
namespace DeXFG.Evm
open Library.StaticAbi

structure MakerPaymentArgs where
  takerAddress : Address
  takerSecretHash : FixedBytes 32
  makerSecretHash : FixedBytes 32
  paymentTimeLock : UInt64

structure MakerValidationArgs where
  swapId : List UInt8
  amount : U256
  taker : Address
  takerSecretHash : FixedBytes 32
  makerSecretHash : FixedBytes 32
  paymentTimeLock : UInt64

structure MakerRefundTimelockArgs where
  paymentAmount : U256
  takerAddress : Address
  takerSecretHash : FixedBytes 32
  makerSecretHash : FixedBytes 32
  paymentTimeLock : UInt64
  tokenAddress : Address

structure MakerRefundSecretArgs where
  paymentAmount : U256
  takerAddress : Address
  takerSecret : FixedBytes 32
  makerSecretHash : FixedBytes 32
  paymentTimeLock : UInt64
  tokenAddress : Address

structure SendMakerPaymentArgs where
  timeLock : UInt64
  takerSecretHash : List UInt8
  makerSecretHash : List UInt8
  amount : ℚ
  takerPub : Public

structure ValidateMakerPaymentArgs where
  makerPaymentTx : SignedEthTx
  timeLock : UInt64
  takerSecretHash : List UInt8
  makerSecretHash : List UInt8
  amount : ℚ
  makerPub : Public

structure RefundMakerPaymentTimelockArgs where
  timeLock : UInt64
  takerPub : List UInt8
  txTypeWithSecretHash : SwapTxTypeWithSecretHash
  amount : ℚ

structure RefundMakerPaymentSecretArgs where
  timeLock : UInt64
  makerSecretHash : List UInt8
  takerSecret : FixedBytes 32
  takerPub : Public
  amount : ℚ

structure SpendMakerPaymentArgs where
  timeLock : UInt64
  takerSecretHash : List UInt8
  makerSecretHash : List UInt8
  makerSecret : FixedBytes 32
  makerPub : Public
  amount : ℚ

def ValidatePaymentError.ofCheck : String ⊕ WrongPaymentTx → ValidatePaymentError
  | .inl msg => .internalError (.text msg)
  | .inr e => .wrongPaymentTx e

variable (lib : EvmLib)

/-! Call data. -/

def prepareMakerEthPaymentData (args : MakerPaymentArgs) :
    Except PrepareTxDataError (List UInt8) :=
  prepareCall lib makerSwapV2 "ethMakerPayment" [
    .fixedBytes (etomicSwapIdV2 lib args.paymentTimeLock args.makerSecretHash.val),
    .address args.takerAddress,
    .fixedBytes args.takerSecretHash.val,
    .fixedBytes args.makerSecretHash.val,
    .uint (.ofUInt64 args.paymentTimeLock)]

def prepareMakerErc20PaymentData (args : MakerPaymentArgs) (paymentAmount : U256)
    (tokenAddress : Address) : Except PrepareTxDataError (List UInt8) :=
  prepareCall lib makerSwapV2 "erc20MakerPayment" [
    .fixedBytes (etomicSwapIdV2 lib args.paymentTimeLock args.makerSecretHash.val),
    .uint paymentAmount,
    .address tokenAddress,
    .address args.takerAddress,
    .fixedBytes args.takerSecretHash.val,
    .fixedBytes args.makerSecretHash.val,
    .uint (.ofUInt64 args.paymentTimeLock)]

def prepareRefundMakerPaymentTimelockData (args : MakerRefundTimelockArgs) :
    Except PrepareTxDataError (List UInt8) :=
  prepareCall lib makerSwapV2 "refundMakerPaymentTimelock" [
    .fixedBytes (etomicSwapIdV2 lib args.paymentTimeLock args.makerSecretHash.val),
    .uint args.paymentAmount,
    .address args.takerAddress,
    .fixedBytes args.takerSecretHash.val,
    .fixedBytes args.makerSecretHash.val,
    .address args.tokenAddress]

def prepareRefundMakerPaymentSecretData (args : MakerRefundSecretArgs) :
    Except PrepareTxDataError (List UInt8) :=
  prepareCall lib makerSwapV2 "refundMakerPaymentSecret" [
    .fixedBytes (etomicSwapIdV2 lib args.paymentTimeLock args.makerSecretHash.val),
    .uint args.paymentAmount,
    .address args.takerAddress,
    .fixedBytes args.takerSecret.val,
    .fixedBytes args.makerSecretHash.val,
    .address args.tokenAddress]

def EthCoin.prepareSpendMakerPaymentData (coin : EthCoin) (args : SpendMakerPaymentArgs)
    (tokenAddress : Address) : Except PrepareTxDataError (List UInt8) := do
  let paymentAmount ← (u256FromBigDecimal args.amount coin.decimals).mapError .internal
  prepareCall lib makerSwapV2 "spendMakerPayment" [
    .fixedBytes (etomicSwapIdV2 lib args.timeLock args.makerSecretHash),
    .uint paymentAmount,
    .address (lib.publicToAddress args.makerPub),
    .fixedBytes args.takerSecretHash,
    .fixedBytes args.makerSecret.val,
    .address tokenAddress]

/-! Validation. -/

def validateEthMakerPaymentData (decoded : List Token) (args : MakerValidationArgs)
    (f : AbiFunction) (txValue : U256) : Except ValidatePaymentError Unit := do
  (checkTokens "ETH Maker Payment" decoded f [
    (0, .fixedBytes args.swapId, "id"),
    (1, .address args.taker, "taker"),
    (2, .fixedBytes args.takerSecretHash.val, "takerSecretHash"),
    (3, .fixedBytes args.makerSecretHash.val, "makerSecretHash"),
    (4, .uint (.ofUInt64 args.paymentTimeLock), "paymentLockTime")]).mapError .ofCheck
  if args.amount ≠ txValue then
    .error (.wrongPaymentTx (.amount "ETH Maker Payment" args.amount txValue))
  else .ok ()

def validateErc20MakerPaymentData (decoded : List Token) (args : MakerValidationArgs)
    (f : AbiFunction) (tokenAddr : Address) : Except ValidatePaymentError Unit :=
  (checkTokens "ERC20 Maker Payment" decoded f [
    (0, .fixedBytes args.swapId, "id"),
    (1, .uint args.amount, "amount"),
    (2, .address tokenAddr, "tokenAddress"),
    (3, .address args.taker, "taker"),
    (4, .fixedBytes args.takerSecretHash.val, "takerSecretHash"),
    (5, .fixedBytes args.makerSecretHash.val, "makerSecretHash"),
    (6, .uint (.ofUInt64 args.paymentTimeLock), "paymentLockTime")]).mapError .ofCheck

namespace EthCoin

variable (coin : EthCoin)

def sendMakerPaymentV2Impl (args : SendMakerPaymentArgs)
    (handleAllowance : Except TransactionErr Unit) : Res TransactionErr UnsignedTx := do
  let contracts ← okOr coin.swapV2Contracts (.plain noSwapV2Contracts)
  let paymentAmount ← orErr (u256FromBigDecimal args.amount coin.decimals)
    fun e => .plain (.numConvers e)
  let takerSecretHash ← okOr (tryInto32 args.takerSecretHash) (.plain .tryFromSlice)
  let makerSecretHash ← okOr (tryInto32 args.makerSecretHash) (.plain .tryFromSlice)
  let paymentArgs : MakerPaymentArgs := {
    takerAddress := lib.publicToAddress args.takerPub
    takerSecretHash := takerSecretHash
    makerSecretHash := makerSecretHash
    paymentTimeLock := args.timeLock }
  match coin.coinType with
  | .eth =>
    let data ← orErr (prepareMakerEthPaymentData lib paymentArgs) .prepare
    pure ⟨.call contracts.makerSwapV2Contract, paymentAmount, data⟩
  | .erc20 _ tokenAddr =>
    let data ← orErr (prepareMakerErc20PaymentData lib paymentArgs paymentAmount tokenAddr)
      .prepare
    orErr handleAllowance id
    pure ⟨.call contracts.makerSwapV2Contract, U256.zero, data⟩
  | .nft _ => fail .protocolNotSupported

def validateMakerPaymentV2Impl (args : ValidateMakerPaymentArgs) :
    Res ValidatePaymentError Unit := do
  if let .nft _ := coin.coinType then fail .protocolNotSupported
  let contracts ← okOr coin.swapV2Contracts (.internalError noSwapV2Contracts)
  let takerSecretHash ← okOr (tryInto32 args.takerSecretHash) (.internalError .tryFromSlice)
  let makerSecretHash ← okOr (tryInto32 args.makerSecretHash) (.internalError .tryFromSlice)
  orErr (validateAmount args.amount) fun e => .internalError (.text e)
  let swapId := etomicSwapIdV2 lib args.timeLock args.makerSecretHash
  let tx := args.makerPaymentTx
  let makerAddress := lib.publicToAddress args.makerPub
  orErr (validateFromToAddresses tx makerAddress contracts.makerSwapV2Contract) .wrongPaymentTx
  let amount ← orErr (u256FromBigDecimal args.amount coin.decimals)
    fun e => .internalError (.numConvers e)
  let taker ← coin.myAddr
  let validationArgs : MakerValidationArgs := {
    swapId := swapId
    amount := amount
    taker := taker
    takerSecretHash := takerSecretHash
    makerSecretHash := makerSecretHash
    paymentTimeLock := args.timeLock }
  match coin.coinType with
  | .eth =>
    let function ← orErr (makerSwapV2.function "ethMakerPayment")
      fun e => .internalError (.abi e)
    let decoded ← orErr (decodeContractCall lib.abi function tx.unsigned.data)
      fun e => .internalError (.abi e)
    orErr (validateEthMakerPaymentData decoded validationArgs function tx.unsigned.value) id
  | .erc20 _ tokenAddr =>
    let function ← orErr (makerSwapV2.function "erc20MakerPayment")
      fun e => .internalError (.abi e)
    let decoded ← orErr (decodeContractCall lib.abi function tx.unsigned.data)
      fun e => .internalError (.abi e)
    orErr (validateErc20MakerPaymentData decoded validationArgs function tokenAddr) id
  | .nft _ => fail .protocolNotSupported

def refundMakerPaymentV2TimelockImpl (args : RefundMakerPaymentTimelockArgs) :
    Res TransactionErr UnsignedTx := do
  let tokenAddress ← orErr coin.getTokenAddress fun e => .plain (.text e)
  let contracts ← okOr coin.swapV2Contracts (.plain noSwapV2Contracts)
  let (makerSecretHash, takerSecretHash) ← (match args.txTypeWithSecretHash with
    | .makerPaymentV2 makerSecretHash takerSecretHash => pure (makerSecretHash, takerSecretHash)
    | _ => fail (.plain (.text "Unsupported swap tx type for timelock refund")) :
      Res TransactionErr (List UInt8 × List UInt8))
  let paymentAmount ← orErr (u256FromBigDecimal args.amount coin.decimals)
    fun e => .plain (.numConvers e)
  let takerPub ← publicFromSlice args.takerPub
  let takerSecretHash ← okOr (tryInto32 takerSecretHash) (.plain .tryFromSlice)
  let makerSecretHash ← okOr (tryInto32 makerSecretHash) (.plain .tryFromSlice)
  let data ← orErr (prepareRefundMakerPaymentTimelockData lib {
    paymentAmount := paymentAmount
    takerAddress := lib.publicToAddress takerPub
    takerSecretHash := takerSecretHash
    makerSecretHash := makerSecretHash
    paymentTimeLock := args.timeLock
    tokenAddress := tokenAddress }) .prepare
  pure ⟨.call contracts.makerSwapV2Contract, U256.zero, data⟩

def refundMakerPaymentV2SecretImpl (args : RefundMakerPaymentSecretArgs) :
    Res TransactionErr UnsignedTx := do
  let tokenAddress ← orErr coin.getTokenAddress fun e => .plain (.text e)
  let contracts ← okOr coin.swapV2Contracts (.plain noSwapV2Contracts)
  let makerSecretHash ← okOr (tryInto32 args.makerSecretHash) (.plain .tryFromSlice)
  let paymentAmount ← orErr (u256FromBigDecimal args.amount coin.decimals)
    fun e => .plain (.numConvers e)
  let data ← orErr (prepareRefundMakerPaymentSecretData lib {
    paymentAmount := paymentAmount
    takerAddress := lib.publicToAddress args.takerPub
    takerSecret := args.takerSecret
    makerSecretHash := makerSecretHash
    paymentTimeLock := args.timeLock
    tokenAddress := tokenAddress }) .prepare
  pure ⟨.call contracts.makerSwapV2Contract, U256.zero, data⟩

def spendMakerPaymentV2Impl (args : SpendMakerPaymentArgs) :
    Res TransactionErr UnsignedTx := do
  let tokenAddress ← orErr coin.getTokenAddress fun e => .plain (.text e)
  let contracts ← okOr coin.swapV2Contracts (.plain noSwapV2Contracts)
  let data ← orErr (coin.prepareSpendMakerPaymentData lib args tokenAddress) .prepare
  pure ⟨.call contracts.makerSwapV2Contract, U256.zero, data⟩

end EthCoin

end DeXFG.Evm
