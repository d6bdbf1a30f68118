import DeXFG.Evm.Coin
import DeXFG.SwapV2.Types

/-!
# Calls of the taker's swap contract

The taker locks a payment together with the dex fee and approves it; the maker
spends it, or the taker takes it back. A function stops where it gives a
transaction to be signed and sent.
-/
namespace DeXFG.Evm
open Library.StaticAbi
open SwapV2 (DexFee)

structure TakerFundingArgs where
  dexFee : U256
  paymentAmount : U256
  makerAddress : Address
  takerSecretHash : FixedBytes 32
  makerSecretHash : FixedBytes 32
  fundingTimeLock : UInt64
  paymentTimeLock : UInt64

structure TakerRefundTimelockArgs where
  dexFee : U256
  paymentAmount : U256
  makerAddress : Address
  takerSecretHash : FixedBytes 32
  makerSecretHash : FixedBytes 32
  paymentTimeLock : UInt64
  tokenAddress : Address

structure TakerRefundSecretArgs where
  dexFee : U256
  paymentAmount : U256
  makerAddress : Address
  takerSecret : FixedBytes 32
  makerSecretHash : FixedBytes 32
  paymentTimeLock : UInt64
  tokenAddress : Address

structure TakerValidationArgs where
  swapId : List UInt8
  amount : U256
  dexFee : U256
  receiver : Address
  takerSecretHash : FixedBytes 32
  makerSecretHash : FixedBytes 32
  fundingTimeLock : UInt64
  paymentTimeLock : UInt64

structure SendTakerFundingArgs where
  fundingTimeLock : UInt64
  paymentTimeLock : UInt64
  takerSecretHash : List UInt8
  makerSecretHash : List UInt8
  makerPub : List UInt8
  dexFee : DexFee
  premiumAmount : ℚ
  tradingAmount : ℚ

structure ValidateTakerFundingArgs where
  fundingTx : SignedEthTx
  fundingTimeLock : UInt64
  paymentTimeLock : UInt64
  takerSecretHash : List UInt8
  makerSecretHash : List UInt8
  takerPub : Public
  dexFee : DexFee
  premiumAmount : ℚ
  tradingAmount : ℚ

structure GenTakerFundingSpendArgs where
  fundingTx : SignedEthTx
  takerSecretHash : List UInt8
  makerSecretHash : List UInt8

structure GenTakerPaymentSpendArgs where
  takerTx : SignedEthTx
  takerPub : Public

structure RefundTakerPaymentArgs where
  timeLock : UInt64
  makerPub : List UInt8
  txTypeWithSecretHash : SwapTxTypeWithSecretHash
  dexFee : DexFee
  premiumAmount : ℚ
  tradingAmount : ℚ

structure RefundFundingSecretArgs where
  paymentTimeLock : UInt64
  makerPubkey : Public
  takerSecret : FixedBytes 32
  makerSecretHash : List UInt8
  dexFee : DexFee
  premiumAmount : ℚ
  tradingAmount : ℚ

inductive ValidateSwapV2TxError where
  | protocolNotSupported
  | internal (cause : Cause)
  | numConversion (msg : String)
  | overflow
  | wrongPaymentTx (e : WrongPaymentTx)
  deriving DecidableEq

def ValidateSwapV2TxError.ofCheck : String ⊕ WrongPaymentTx → ValidateSwapV2TxError
  | .inl msg => .internal (.text msg)
  | .inr e => .wrongPaymentTx e

variable (lib : EvmLib)

/-! Call data. -/

def prepareTakerEthFundingData (args : TakerFundingArgs) :
    Except PrepareTxDataError (List UInt8) :=
  prepareCall lib takerSwapV2 "ethTakerPayment" [
    .fixedBytes (etomicSwapIdV2 lib args.paymentTimeLock args.makerSecretHash.val),
    .uint args.dexFee,
    .address args.makerAddress,
    .fixedBytes args.takerSecretHash.val,
    .fixedBytes args.makerSecretHash.val,
    .uint (.ofUInt64 args.fundingTimeLock),
    .uint (.ofUInt64 args.paymentTimeLock)]

def prepareTakerErc20FundingData (args : TakerFundingArgs) (tokenAddress : Address) :
    Except PrepareTxDataError (List UInt8) :=
  prepareCall lib takerSwapV2 "erc20TakerPayment" [
    .fixedBytes (etomicSwapIdV2 lib args.paymentTimeLock args.makerSecretHash.val),
    .uint args.paymentAmount,
    .uint args.dexFee,
    .address tokenAddress,
    .address args.makerAddress,
    .fixedBytes args.takerSecretHash.val,
    .fixedBytes args.makerSecretHash.val,
    .uint (.ofUInt64 args.fundingTimeLock),
    .uint (.ofUInt64 args.paymentTimeLock)]

def prepareTakerRefundPaymentTimelockData (args : TakerRefundTimelockArgs) :
    Except PrepareTxDataError (List UInt8) :=
  prepareCall lib takerSwapV2 "refundTakerPaymentTimelock" [
    .fixedBytes (etomicSwapIdV2 lib args.paymentTimeLock args.makerSecretHash.val),
    .uint args.paymentAmount,
    .uint args.dexFee,
    .address args.makerAddress,
    .fixedBytes args.takerSecretHash.val,
    .fixedBytes args.makerSecretHash.val,
    .address args.tokenAddress]

def prepareTakerRefundPaymentSecretData (args : TakerRefundSecretArgs) :
    Except PrepareTxDataError (List UInt8) :=
  prepareCall lib takerSwapV2 "refundTakerPaymentSecret" [
    .fixedBytes (etomicSwapIdV2 lib args.paymentTimeLock args.makerSecretHash.val),
    .uint args.paymentAmount,
    .uint args.dexFee,
    .address args.makerAddress,
    .fixedBytes args.takerSecret.val,
    .fixedBytes args.makerSecretHash.val,
    .address args.tokenAddress]

def getDexFeeAndAmountFromEthPaymentData (decoded : List Token) (txValue : U256) :
    Except PrepareTxDataError (U256 × U256) := do
  checkDecodedLength decoded 7
  match (decoded[1]? : Option Token) with
  | some (.uint dexFee) =>
    match txValue.checkedSub dexFee with
    | some amount => .ok (dexFee, amount)
    | none => .error (.internal "Underflow occurred while calculating amount")
  | _ => .error (.invalidTokenType decoded)

def EthCoin.prepareTakerPaymentApproveData (coin : EthCoin) (args : GenTakerFundingSpendArgs)
    (decoded : List Token) (tokenAddress : Address) : Except PrepareTxDataError (List UInt8) :=
  match coin.coinType with
  | .eth => do
    let (dexFee, amount) ←
      getDexFeeAndAmountFromEthPaymentData decoded args.fundingTx.unsigned.value
    prepareCall lib takerSwapV2 "takerPaymentApprove" [
      tokenAt decoded 0,
      .uint amount,
      .uint dexFee,
      tokenAt decoded 2,
      .fixedBytes args.takerSecretHash,
      .fixedBytes args.makerSecretHash,
      .address tokenAddress]
  | .erc20 _ _ => do
    checkDecodedLength decoded 9
    prepareCall lib takerSwapV2 "takerPaymentApprove" [
      tokenAt decoded 0,
      tokenAt decoded 1,
      tokenAt decoded 2,
      tokenAt decoded 4,
      .fixedBytes args.takerSecretHash,
      .fixedBytes args.makerSecretHash,
      .address tokenAddress]
  | .nft _ => .error (.internal "NFT protocol is not supported for ETH and ERC20 Swaps")

def EthCoin.prepareSpendTakerPaymentData (coin : EthCoin) (args : GenTakerPaymentSpendArgs)
    (secret : List UInt8) (decoded : List Token) (tokenAddress : Address) :
    Except PrepareTxDataError (List UInt8) :=
  let takerAddress := lib.publicToAddress args.takerPub
  match coin.coinType with
  | .eth => do
    let (dexFee, amount) ←
      getDexFeeAndAmountFromEthPaymentData decoded args.takerTx.unsigned.value
    prepareCall lib takerSwapV2 "spendTakerPayment" [
      tokenAt decoded 0,
      .uint amount,
      .uint dexFee,
      .address takerAddress,
      tokenAt decoded 3,
      .fixedBytes secret,
      .address tokenAddress]
  | .erc20 _ _ => do
    checkDecodedLength decoded 9
    prepareCall lib takerSwapV2 "spendTakerPayment" [
      tokenAt decoded 0,
      tokenAt decoded 1,
      tokenAt decoded 2,
      .address takerAddress,
      tokenAt decoded 5,
      .fixedBytes secret,
      .address tokenAddress]
  | .nft _ => .error (.internal "NFT protocol is not supported for ETH and ERC20 Swaps")

/-! Validation. -/

def validateEthTakerPaymentData (decoded : List Token) (args : TakerValidationArgs)
    (f : AbiFunction) (txValue : U256) : Except ValidateSwapV2TxError Unit := do
  (checkTokens "ETH Taker Payment" decoded f [
    (0, .fixedBytes args.swapId, "id"),
    (1, .uint args.dexFee, "dexFee"),
    (2, .address args.receiver, "receiver"),
    (3, .fixedBytes args.takerSecretHash.val, "takerSecretHash"),
    (4, .fixedBytes args.makerSecretHash.val, "makerSecretHash"),
    (5, .uint (.ofUInt64 args.fundingTimeLock), "preApproveLockTime"),
    (6, .uint (.ofUInt64 args.paymentTimeLock), "paymentLockTime")]).mapError .ofCheck
  match args.amount.checkedAdd args.dexFee with
  | none => .error .overflow
  | some total =>
    if total ≠ txValue then .error (.wrongPaymentTx (.amount "ETH Taker Payment" total txValue))
    else .ok ()

def validateErc20TakerPaymentData (decoded : List Token) (args : TakerValidationArgs)
    (f : AbiFunction) (tokenAddr : Address) : Except ValidateSwapV2TxError Unit :=
  (checkTokens "ERC20 Taker Payment" decoded f [
    (0, .fixedBytes args.swapId, "id"),
    (1, .uint args.amount, "amount"),
    (2, .uint args.dexFee, "dexFee"),
    (3, .address tokenAddr, "tokenAddress"),
    (4, .address args.receiver, "receiver"),
    (5, .fixedBytes args.takerSecretHash.val, "takerSecretHash"),
    (6, .fixedBytes args.makerSecretHash.val, "makerSecretHash"),
    (7, .uint (.ofUInt64 args.fundingTimeLock), "preApproveLockTime"),
    (8, .uint (.ofUInt64 args.paymentTimeLock), "paymentLockTime")]).mapError .ofCheck

namespace EthCoin

variable (coin : EthCoin)

def sendTakerFundingImpl (args : SendTakerFundingArgs)
    (handleAllowance : Except TransactionErr Unit) : Res TransactionErr UnsignedTx := do
  let contracts ← okOr coin.swapV2Contracts (.plain noSwapV2Contracts)
  let dexFee ← orErr
    (u256FromBigDecimal (lib.fromRatioToDec args.dexFee.feeAmount) coin.decimals)
    fun e => .plain (.numConvers e)
  let paymentAmount ← orErr
    (u256FromBigDecimal (args.tradingAmount + args.premiumAmount) coin.decimals)
    fun e => .plain (.numConvers e)
  let makerPub ← publicFromSlice args.makerPub
  let takerSecretHash ← okOr (tryInto32 args.takerSecretHash) (.plain .tryFromSlice)
  let makerSecretHash ← okOr (tryInto32 args.makerSecretHash) (.plain .tryFromSlice)
  let fundingArgs : TakerFundingArgs := {
    dexFee := dexFee
    paymentAmount := paymentAmount
    makerAddress := lib.publicToAddress makerPub
    takerSecretHash := takerSecretHash
    makerSecretHash := makerSecretHash
    fundingTimeLock := args.fundingTimeLock
    paymentTimeLock := args.paymentTimeLock }
  match coin.coinType with
  | .eth =>
    let data ← orErr (prepareTakerEthFundingData lib fundingArgs) .prepare
    let ethTotalPayment ← okOr (paymentAmount.checkedAdd dexFee)
      (.plain (.text "Overflow occurred while calculating eth_total_payment"))
    pure ⟨.call contracts.takerSwapV2Contract, ethTotalPayment, data⟩
  | .erc20 _ tokenAddr =>
    let data ← orErr (prepareTakerErc20FundingData lib fundingArgs tokenAddr) .prepare
    orErr handleAllowance id
    pure ⟨.call contracts.takerSwapV2Contract, U256.zero, data⟩
  | .nft _ => fail .protocolNotSupported

def validateTakerFundingImpl (args : ValidateTakerFundingArgs) :
    Res ValidateSwapV2TxError Unit := do
  if let .nft _ := coin.coinType then fail .protocolNotSupported
  let contracts ← okOr coin.swapV2Contracts (.internal noSwapV2Contracts)
  let takerSecretHash ← okOr (tryInto32 args.takerSecretHash) (.internal .tryFromSlice)
  let makerSecretHash ← okOr (tryInto32 args.makerSecretHash) (.internal .tryFromSlice)
  orErr (validateAmount args.tradingAmount) fun e => .internal (.text e)
  let swapId := etomicSwapIdV2 lib args.paymentTimeLock args.makerSecretHash
  let tx := args.fundingTx
  let takerAddress := lib.publicToAddress args.takerPub
  orErr (validateFromToAddresses tx takerAddress contracts.takerSwapV2Contract) .wrongPaymentTx
  let dexFee ← orErr
    (u256FromBigDecimal (lib.fromRatioToDec args.dexFee.feeAmount) coin.decimals) .numConversion
  let paymentAmount ← orErr
    (u256FromBigDecimal (args.tradingAmount + args.premiumAmount) coin.decimals) .numConversion
  let receiver ← coin.myAddr
  let validationArgs : TakerValidationArgs := {
    swapId := swapId
    amount := paymentAmount
    dexFee := dexFee
    receiver := receiver
    takerSecretHash := takerSecretHash
    makerSecretHash := makerSecretHash
    fundingTimeLock := args.fundingTimeLock
    paymentTimeLock := args.paymentTimeLock }
  match coin.coinType with
  | .eth =>
    let function ← orErr (takerSwapV2.function "ethTakerPayment") fun e => .internal (.abi e)
    let decoded ← orErr (decodeContractCall lib.abi function tx.unsigned.data)
      fun e => .internal (.abi e)
    orErr (validateEthTakerPaymentData decoded validationArgs function tx.unsigned.value) id
  | .erc20 _ tokenAddr =>
    let function ← orErr (takerSwapV2.function "erc20TakerPayment") fun e => .internal (.abi e)
    let decoded ← orErr (decodeContractCall lib.abi function tx.unsigned.data)
      fun e => .internal (.abi e)
    orErr (validateErc20TakerPaymentData decoded validationArgs function tokenAddr) id
  | .nft _ => fail .protocolNotSupported

/-- `taker_swap_v2_details`: the contract, the function that made the payment, and the token. -/
def takerSwapV2Details (ethFuncName erc20FuncName : String) :
    Res TransactionErr (Address × AbiFunction × Address) := do
  let (function, tokenAddress) ← (match coin.coinType with
    | .eth => do
      let function ← orErr (takerSwapV2.function ethFuncName) fun e => .plain (.abi e)
      pure (function, defaultAddress)
    | .erc20 _ tokenAddr => do
      let function ← orErr (takerSwapV2.function erc20FuncName) fun e => .plain (.abi e)
      pure (function, tokenAddr)
    | .nft _ => fail .protocolNotSupported : Res TransactionErr (AbiFunction × Address))
  let contracts ← okOr coin.swapV2Contracts (.plain noSwapV2Contracts)
  pure (contracts.takerSwapV2Contract, function, tokenAddress)

def takerPaymentApprove (args : GenTakerFundingSpendArgs) : Res TransactionErr UnsignedTx := do
  if let .nft _ := coin.coinType then fail .protocolNotSupported
  let (takerSwapV2Contract, sendFunc, tokenAddress) ←
    coin.takerSwapV2Details "ethTakerPayment" "erc20TakerPayment"
  let decoded ← orErr (decodeContractCall lib.abi sendFunc args.fundingTx.unsigned.data)
    fun e => .plain (.abi e)
  let data ← orErr (coin.prepareTakerPaymentApproveData lib args decoded tokenAddress) .prepare
  pure ⟨.call takerSwapV2Contract, U256.zero, data⟩

def refundTakerPaymentWithTimelockImpl (args : RefundTakerPaymentArgs) :
    Res TransactionErr UnsignedTx := do
  let tokenAddress ← orErr coin.getTokenAddress fun e => .plain (.text e)
  let contracts ← okOr coin.swapV2Contracts (.plain noSwapV2Contracts)
  let (makerSecretHash, takerSecretHash) ← (match args.txTypeWithSecretHash with
    | .takerPaymentV2 makerSecretHash takerSecretHash => pure (makerSecretHash, takerSecretHash)
    | _ => fail (.plain (.text "Unsupported swap tx type for timelock refund")) :
      Res TransactionErr (List UInt8 × List UInt8))
  let dexFee ← orErr
    (u256FromBigDecimal (lib.fromRatioToDec args.dexFee.feeAmount) coin.decimals)
    fun e => .plain (.numConvers e)
  let paymentAmount ← orErr
    (u256FromBigDecimal (args.tradingAmount + args.premiumAmount) coin.decimals)
    fun e => .plain (.numConvers e)
  let makerPub ← publicFromSlice args.makerPub
  let takerSecretHash ← okOr (tryInto32 takerSecretHash) (.plain .tryFromSlice)
  let makerSecretHash ← okOr (tryInto32 makerSecretHash) (.plain .tryFromSlice)
  let data ← orErr (prepareTakerRefundPaymentTimelockData lib {
    dexFee := dexFee
    paymentAmount := paymentAmount
    makerAddress := lib.publicToAddress makerPub
    takerSecretHash := takerSecretHash
    makerSecretHash := makerSecretHash
    paymentTimeLock := args.timeLock
    tokenAddress := tokenAddress }) .prepare
  pure ⟨.call contracts.takerSwapV2Contract, U256.zero, data⟩

def refundTakerFundingSecretImpl (args : RefundFundingSecretArgs) :
    Res TransactionErr UnsignedTx := do
  let tokenAddress ← orErr coin.getTokenAddress fun e => .plain (.text e)
  let contracts ← okOr coin.swapV2Contracts (.plain noSwapV2Contracts)
  let makerSecretHash ← okOr (tryInto32 args.makerSecretHash) (.plain .tryFromSlice)
  let dexFee ← orErr
    (u256FromBigDecimal (lib.fromRatioToDec args.dexFee.feeAmount) coin.decimals)
    fun e => .plain (.numConvers e)
  let paymentAmount ← orErr
    (u256FromBigDecimal (args.tradingAmount + args.premiumAmount) coin.decimals)
    fun e => .plain (.numConvers e)
  let data ← orErr (prepareTakerRefundPaymentSecretData lib {
    dexFee := dexFee
    paymentAmount := paymentAmount
    makerAddress := lib.publicToAddress args.makerPubkey
    takerSecret := args.takerSecret
    makerSecretHash := makerSecretHash
    paymentTimeLock := args.paymentTimeLock
    tokenAddress := tokenAddress }) .prepare
  pure ⟨.call contracts.takerSwapV2Contract, U256.zero, data⟩

def signAndBroadcastTakerPaymentSpendImpl (genArgs : GenTakerPaymentSpendArgs)
    (secret : List UInt8) : Res TransactionErr UnsignedTx := do
  if let .nft _ := coin.coinType then
    fail (.plain (.text "NFT protocol is not supported for ETH and ERC20 Swaps"))
  let (takerSwapV2Contract, takerPayment, tokenAddress) ←
    coin.takerSwapV2Details "ethTakerPayment" "erc20TakerPayment"
  let decoded ← orErr (decodeContractCall lib.abi takerPayment genArgs.takerTx.unsigned.data)
    fun e => .plain (.abi e)
  let data ← orErr
    (coin.prepareSpendTakerPaymentData lib genArgs secret decoded tokenAddress) .prepare
  pure ⟨.call takerSwapV2Contract, U256.zero, data⟩

end EthCoin

end DeXFG.Evm
