import DeXFG.Evm.Coin
import DeXFG.Library.Protobuf

/-!
# TRON transfers and their fees

The unsigned transaction of a transfer, its bytes, and what the chain takes for them.
-/
namespace DeXFG.Evm.Tron
open Library Library.StaticAbi

abbrev Bytes := List UInt8

/-! ## Numbers of the machine -/

def u64Max : ℕ := 2 ^ 64 - 1

def i64Max : ℕ := 2 ^ 63 - 1

def saturatingAdd (a b : ℕ) : ℕ := min (a + b) u64Max

def saturatingMul (a b : ℕ) : ℕ := min (a * b) u64Max

/-- The nearest `i64`. -/
def saturateI64 (n : ℤ) : ℤ := max (-2 ^ 63) (min n (2 ^ 63 - 1))

/-- `as i64` of a `u64`. -/
def asI64 (n : UInt64) : ℤ := n.toInt64.toInt

/-! ## Messages -/

/-- An address with its first byte. -/
abbrev TronAddress := FixedBytes 21

structure Any where
  typeUrl : String
  value : Bytes
  deriving DecidableEq

def Any.encode (any : Any) : Bytes :=
  Protobuf.string 1 any.typeUrl ++ Protobuf.bytes 2 any.value

structure TransferContract where
  ownerAddress : Bytes
  toAddress : Bytes
  amount : ℤ
  deriving DecidableEq

def TransferContract.encode (transfer : TransferContract) : Bytes :=
  Protobuf.bytes 1 transfer.ownerAddress ++ Protobuf.bytes 2 transfer.toAddress ++
    Protobuf.int64 3 transfer.amount

inductive ContractType where
  | unspecified
  | transferContract
  | triggerSmartContract
  deriving DecidableEq

def ContractType.toI32 : ContractType → ℤ
  | .unspecified => 0
  | .transferContract => 1
  | .triggerSmartContract => 31

structure TransactionContract where
  type : ℤ
  parameter : Option Any
  permissionId : ℤ
  deriving DecidableEq

def TransactionContract.encode (contract : TransactionContract) : Bytes :=
  Protobuf.int64 1 contract.type ++
    (contract.parameter.map fun any => Protobuf.delimited 2 any.encode).getD [] ++
    Protobuf.int64 5 contract.permissionId

structure TransactionRaw where
  refBlockBytes : Bytes
  refBlockHash : Bytes
  expiration : ℤ
  data : Bytes
  contract : List TransactionContract
  timestamp : ℤ
  feeLimit : ℤ
  deriving DecidableEq

def TransactionRaw.encode (raw : TransactionRaw) : Bytes :=
  Protobuf.bytes 1 raw.refBlockBytes ++ Protobuf.bytes 4 raw.refBlockHash ++
    Protobuf.int64 8 raw.expiration ++ Protobuf.bytes 10 raw.data ++
    raw.contract.flatMap (fun contract => Protobuf.delimited 11 contract.encode) ++
    Protobuf.int64 14 raw.timestamp ++ Protobuf.int64 18 raw.feeLimit

structure Transaction where
  rawData : Option TransactionRaw
  signature : List Bytes
  deriving DecidableEq

def Transaction.encode (tx : Transaction) : Bytes :=
  (tx.rawData.map fun raw => Protobuf.delimited 1 raw.encode).getD [] ++
    tx.signature.flatMap (Protobuf.delimited 2)

/-! ## The transaction of a transfer -/

structure TaposBlockData where
  number : UInt64
  blockId : FixedBytes 32
  timestamp : Int64
  deriving DecidableEq

def taposFromBlock (blockNumber : UInt64) (blockId : FixedBytes 32) : Bytes × Bytes :=
  ([.ofNat (blockNumber.toNat / 2 ^ 8), .ofNat blockNumber.toNat], (blockId.val.drop 8).take 8)

def typeUrlTransferContract : String := "type.googleapis.com/protocol.TransferContract"

def wrapContract (contractType : ContractType) (typeUrl : String) (value : Bytes) :
    TransactionContract where
  type := contractType.toI32
  parameter := some ⟨typeUrl, value⟩
  permissionId := 0

def defaultTxExpirationMs : ℤ := 60000

def buildTrxTransfer (fromAddr toAddr : TronAddress) (amountSun : ℤ) (blockData : TaposBlockData)
    (expirationSeconds : Option UInt64) : TransactionRaw :=
  let (refBlockBytes, refBlockHash) := taposFromBlock blockData.number blockData.blockId
  let expirationMs := match expirationSeconds with
    | some s => saturateI64 (asI64 s * 1000)
    | none => defaultTxExpirationMs
  let transfer : TransferContract := ⟨fromAddr.val, toAddr.val, amountSun⟩
  { refBlockBytes := refBlockBytes
    refBlockHash := refBlockHash
    expiration := saturateI64 (blockData.timestamp.toInt + expirationMs)
    data := []
    contract := [wrapContract .transferContract typeUrlTransferContract transfer.encode]
    timestamp := blockData.timestamp.toInt
    feeLimit := 0 }

/-! ## Fees -/

structure TronAccountResources where
  freeNetUsed : UInt64
  freeNetLimit : UInt64
  netUsed : UInt64
  netLimit : UInt64
  energyUsed : UInt64
  energyLimit : UInt64
  deriving DecidableEq

namespace TronAccountResources

variable (resources : TronAccountResources)

def availableBandwidth : ℕ :=
  saturatingAdd (resources.freeNetLimit.toNat - resources.freeNetUsed.toNat)
    (resources.netLimit.toNat - resources.netUsed.toNat)

def availableStakedBandwidth : ℕ := resources.netLimit.toNat - resources.netUsed.toNat

def availableEnergy : ℕ := resources.energyLimit.toNat - resources.energyUsed.toNat

end TronAccountResources

structure TronChainPrices where
  bandwidthPriceSun : UInt64
  energyPriceSun : UInt64
  createNewAccountFeeSun : UInt64
  createAccountBandwidthFeeSun : UInt64
  createNewAccountBandwidthRate : UInt64
  deriving DecidableEq

inductive DestAccountState where
  | activated
  | newAccount (creationFeeSun bandwidthFallbackSun bandwidthRate : UInt64)
  deriving DecidableEq

structure TronTxFeeDetails where
  coin : String
  bandwidthUsed : ℕ
  energyUsed : ℕ
  bandwidthFee : ℚ
  energyFee : ℚ
  accountCreationFee : Option ℚ
  totalFee : ℚ
  deriving DecidableEq

def placeholderSignatureLen : ℕ := 65

def txWithPlaceholderSignature (raw : TransactionRaw) : Transaction where
  rawData := some raw
  signature := [List.replicate placeholderSignatureLen 0]

def resultBytesOverheadPerContract : ℕ := 64

def estimateBandwidth (tx : Transaction) : ℕ :=
  let contractCount := (tx.rawData.map fun raw => max raw.contract.length 1).getD 1
  let txSize := tx.encode.length
  saturatingAdd txSize (saturatingMul resultBytesOverheadPerContract contractCount)

def trxDecimals : ℕ := 6

/-- `sun_to_trx_decimal` -/
def sunToTrxDecimal (sun : ℕ) : ℚ := sun / 10 ^ trxDecimals

/-- What the bandwidth of a transaction costs. -/
structure BandwidthCharge where
  bandwidthUsed : ℕ
  accountCreationFeeSun : ℕ
  bandwidthFeeSun : ℕ

/-- The bandwidth part of `estimate_fee_details`. -/
def bandwidthCharge (bandwidthUsed : ℕ) (resources : TronAccountResources)
    (prices : TronChainPrices) : DestAccountState → BandwidthCharge
  | .activated =>
    let bandwidthDeficit := bandwidthUsed - resources.availableBandwidth
    { bandwidthUsed := bandwidthUsed
      accountCreationFeeSun := 0
      bandwidthFeeSun := saturatingMul bandwidthDeficit prices.bandwidthPriceSun.toNat }
  | .newAccount creationFeeSun bandwidthFallbackSun bandwidthRate =>
    let available := resources.availableStakedBandwidth
    let bandwidthUsed := saturatingMul bandwidthUsed bandwidthRate.toNat
    if bandwidthUsed ≤ available then
      -- the stake covers the creation, and no byte is paid for
      { bandwidthUsed := bandwidthUsed
        accountCreationFeeSun := creationFeeSun.toNat
        bandwidthFeeSun := 0 }
    else
      { bandwidthUsed := 0
        accountCreationFeeSun := creationFeeSun.toNat
        bandwidthFeeSun := bandwidthFallbackSun.toNat }

/-- The energy part of `estimate_fee_details`. -/
def energyFee (energyUsed : ℕ) (resources : TronAccountResources) (prices : TronChainPrices) : ℕ :=
  let energyDeficit := energyUsed - resources.availableEnergy
  saturatingMul energyDeficit prices.energyPriceSun.toNat

def estimateFeeDetails (tx : Transaction) (energyUsed : ℕ) (resources : TronAccountResources)
    (prices : TronChainPrices) (feeCoin : String) (destState : DestAccountState) :
    TronTxFeeDetails :=
  let charge := bandwidthCharge (estimateBandwidth tx) resources prices destState
  let energyFeeSun := energyFee energyUsed resources prices
  let totalFeeSun := saturatingAdd (saturatingAdd charge.bandwidthFeeSun energyFeeSun)
    charge.accountCreationFeeSun
  { coin := feeCoin
    bandwidthUsed := charge.bandwidthUsed
    energyUsed := energyUsed
    bandwidthFee := sunToTrxDecimal charge.bandwidthFeeSun
    energyFee := sunToTrxDecimal energyFeeSun
    accountCreationFee :=
      if 0 < charge.accountCreationFeeSun then
        some (sunToTrxDecimal charge.accountCreationFeeSun)
      else none
    totalFee := sunToTrxDecimal totalFeeSun }

def estimateTrxTransferFee (tx : Transaction) (resources : TronAccountResources)
    (prices : TronChainPrices) (feeCoin : String) (destState : DestAccountState) :
    TronTxFeeDetails :=
  estimateFeeDetails tx 0 resources prices feeCoin destState

/-! ## A longer transaction costs no less -/

theorem saturatingAdd_mono {a b c d : ℕ} (h : a ≤ b) (h' : c ≤ d) :
    saturatingAdd a c ≤ saturatingAdd b d :=
  min_le_min_right _ (Nat.add_le_add h h')

theorem saturatingMul_mono {a b : ℕ} (h : a ≤ b) (c : ℕ) :
    saturatingMul a c ≤ saturatingMul b c :=
  min_le_min_right _ (Nat.mul_le_mul_right c h)

variable {resources : TronAccountResources} {prices : TronChainPrices}
  {destState : DestAccountState} {m n : ℕ}

theorem accountCreationFeeSun_eq (m n : ℕ) :
    (bandwidthCharge m resources prices destState).accountCreationFeeSun =
      (bandwidthCharge n resources prices destState).accountCreationFeeSun := by
  cases destState with
  | activated => rfl
  | newAccount creationFeeSun bandwidthFallbackSun bandwidthRate =>
    simp only [bandwidthCharge]
    split_ifs <;> rfl

theorem bandwidthFeeSun_mono (h : m ≤ n) :
    (bandwidthCharge m resources prices destState).bandwidthFeeSun ≤
      (bandwidthCharge n resources prices destState).bandwidthFeeSun := by
  cases destState with
  | activated => exact saturatingMul_mono (Nat.sub_le_sub_right h _) _
  | newAccount creationFeeSun bandwidthFallbackSun bandwidthRate =>
    have hused := saturatingMul_mono h bandwidthRate.toNat
    simp only [bandwidthCharge]
    by_cases hm : saturatingMul m bandwidthRate.toNat ≤ resources.availableStakedBandwidth
    · rw [if_pos hm]
      exact Nat.zero_le _
    · rw [if_neg hm, if_neg (by omega)]

/-- The length of a transfer grows with the number of bytes of its amount. -/
theorem length_transfer_mono {fromAddr toAddr : TronAddress} {blockData : TaposBlockData}
    {expirationSeconds : Option UInt64} {a b : ℤ}
    (h : (Protobuf.int64 3 a).length ≤ (Protobuf.int64 3 b).length) :
    (txWithPlaceholderSignature
      (buildTrxTransfer fromAddr toAddr a blockData expirationSeconds)).encode.length ≤
    (txWithPlaceholderSignature
      (buildTrxTransfer fromAddr toAddr b blockData expirationSeconds)).encode.length := by
  have htransfer : (TransferContract.mk fromAddr.val toAddr.val a).encode.length ≤
      (TransferContract.mk fromAddr.val toAddr.val b).encode.length := by
    simp only [TransferContract.encode, List.length_append]
    omega
  have hany : (Any.mk typeUrlTransferContract
        (TransferContract.mk fromAddr.val toAddr.val a).encode).encode.length ≤
      (Any.mk typeUrlTransferContract
        (TransferContract.mk fromAddr.val toAddr.val b).encode).encode.length := by
    have hvalue := Protobuf.length_bytes_mono 2 htransfer
    simp only [Any.encode, List.length_append]
    omega
  have hcontract : (wrapContract .transferContract typeUrlTransferContract
        (TransferContract.mk fromAddr.val toAddr.val a).encode).encode.length ≤
      (wrapContract .transferContract typeUrlTransferContract
        (TransferContract.mk fromAddr.val toAddr.val b).encode).encode.length := by
    have hparameter := Protobuf.length_delimited_mono 2 hany
    simp only [TransactionContract.encode, wrapContract, List.length_append, Option.map_some,
      Option.getD_some]
    omega
  have hraw : (buildTrxTransfer fromAddr toAddr a blockData expirationSeconds).encode.length ≤
      (buildTrxTransfer fromAddr toAddr b blockData expirationSeconds).encode.length := by
    have helement := Protobuf.length_delimited_mono 11 hcontract
    simp only [TransactionRaw.encode, buildTrxTransfer, List.length_append, List.flatMap_cons,
      List.flatMap_nil, List.append_nil]
    omega
  have hdata := Protobuf.length_delimited_mono 1 hraw
  simp only [Transaction.encode, txWithPlaceholderSignature, List.length_append, Option.map_some,
    Option.getD_some]
  omega

theorem estimateBandwidth_mono {a b : TransactionRaw}
    (hcontract : a.contract.length = b.contract.length)
    (h : (txWithPlaceholderSignature a).encode.length ≤
      (txWithPlaceholderSignature b).encode.length) :
    estimateBandwidth (txWithPlaceholderSignature a) ≤
      estimateBandwidth (txWithPlaceholderSignature b) := by
  apply saturatingAdd_mono h
  simp only [txWithPlaceholderSignature, Option.map_some, Option.getD_some, hcontract]
  rfl

end DeXFG.Evm.Tron
