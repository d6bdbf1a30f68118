import DeXFG.Evm.PaymentTerms

/-!
# The life of a taker payment

A funding that the maker has accepted is the one that the honest taker builds
from the parameters of the swap, and the approval, the spend and both refunds
carry its terms.
-/
namespace DeXFG.Evm
open Library.StaticAbi
open SwapV2 (DexFee except_bind_eq_ok except_mapError_eq_ok)

/-- What the two sides have agreed on for the taker payment. -/
structure TakerPaymentParams where
  fundingTimeLock : UInt64
  paymentTimeLock : UInt64
  takerSecretHash : List UInt8
  makerSecretHash : List UInt8
  takerPub : Public
  makerPub : Public
  dexFee : DexFee
  premiumAmount : ℚ
  tradingAmount : ℚ

def EthCoin.takerPaymentName (coin : EthCoin) : String :=
  match coin.coinType with
  | .eth => "ethTakerPayment"
  | _ => "erc20TakerPayment"

namespace TakerPaymentParams

variable (p : TakerPaymentParams)

def sendArgs : SendTakerFundingArgs where
  fundingTimeLock := p.fundingTimeLock
  paymentTimeLock := p.paymentTimeLock
  takerSecretHash := p.takerSecretHash
  makerSecretHash := p.makerSecretHash
  makerPub := p.makerPub.val
  dexFee := p.dexFee
  premiumAmount := p.premiumAmount
  tradingAmount := p.tradingAmount

def validateArgs (tx : SignedEthTx) : ValidateTakerFundingArgs where
  fundingTx := tx
  fundingTimeLock := p.fundingTimeLock
  paymentTimeLock := p.paymentTimeLock
  takerSecretHash := p.takerSecretHash
  makerSecretHash := p.makerSecretHash
  takerPub := p.takerPub
  dexFee := p.dexFee
  premiumAmount := p.premiumAmount
  tradingAmount := p.tradingAmount

def approveArgs (tx : SignedEthTx) : GenTakerFundingSpendArgs :=
  ⟨tx, p.takerSecretHash, p.makerSecretHash⟩

def spendArgs (tx : SignedEthTx) : GenTakerPaymentSpendArgs := ⟨tx, p.takerPub⟩

def refundTimelockArgs : RefundTakerPaymentArgs where
  timeLock := p.paymentTimeLock
  makerPub := p.makerPub.val
  txTypeWithSecretHash := .takerPaymentV2 p.makerSecretHash p.takerSecretHash
  dexFee := p.dexFee
  premiumAmount := p.premiumAmount
  tradingAmount := p.tradingAmount

def refundSecretArgs (takerSecret : FixedBytes 32) : RefundFundingSecretArgs where
  paymentTimeLock := p.paymentTimeLock
  makerPubkey := p.makerPub
  takerSecret := takerSecret
  makerSecretHash := p.makerSecretHash
  dexFee := p.dexFee
  premiumAmount := p.premiumAmount
  tradingAmount := p.tradingAmount

/-- The parameters convert to what goes into a call. -/
structure Converts (lib : EvmLib) (coin : EthCoin) (contracts : SwapV2Contracts)
    (dexFee amount : U256) : Prop where
  contracts_eq : coin.swapV2Contracts = some contracts
  dexFee_eq :
    u256FromBigDecimal (lib.fromRatioToDec p.dexFee.feeAmount) coin.decimals = .ok dexFee
  amount_eq :
    u256FromBigDecimal (p.tradingAmount + p.premiumAmount) coin.decimals = .ok amount
  takerSecretHash_length : p.takerSecretHash.length = 32
  makerSecretHash_length : p.makerSecretHash.length = 32

def fundingArgs (lib : EvmLib) {coin : EthCoin} {contracts : SwapV2Contracts}
    {dexFee amount : U256} (h : p.Converts lib coin contracts dexFee amount) :
    TakerFundingArgs where
  dexFee := dexFee
  paymentAmount := amount
  makerAddress := lib.publicToAddress p.makerPub
  takerSecretHash := ⟨p.takerSecretHash, h.takerSecretHash_length⟩
  makerSecretHash := ⟨p.makerSecretHash, h.makerSecretHash_length⟩
  fundingTimeLock := p.fundingTimeLock
  paymentTimeLock := p.paymentTimeLock

def terms (lib : EvmLib) (coin : EthCoin) (dexFee amount : U256) : PaymentTerms where
  id := etomicSwapIdV2 lib p.paymentTimeLock p.makerSecretHash
  amount := amount
  dexFee := dexFee
  taker := lib.publicToAddress p.takerPub
  maker := lib.publicToAddress p.makerPub
  token := coin.tokenAddress
  takerSecretHash := p.takerSecretHash
  makerSecretHash := p.makerSecretHash

section Tokens

variable (lib : EvmLib) (dexFee amount : U256) (tokenAddr : Address)

def ethTokens : List Token := [
  .fixedBytes (etomicSwapIdV2 lib p.paymentTimeLock p.makerSecretHash),
  .uint dexFee,
  .address (lib.publicToAddress p.makerPub),
  .fixedBytes p.takerSecretHash,
  .fixedBytes p.makerSecretHash,
  .uint (.ofUInt64 p.fundingTimeLock),
  .uint (.ofUInt64 p.paymentTimeLock)]

def erc20Tokens : List Token := [
  .fixedBytes (etomicSwapIdV2 lib p.paymentTimeLock p.makerSecretHash),
  .uint amount,
  .uint dexFee,
  .address tokenAddr,
  .address (lib.publicToAddress p.makerPub),
  .fixedBytes p.takerSecretHash,
  .fixedBytes p.makerSecretHash,
  .uint (.ofUInt64 p.fundingTimeLock),
  .uint (.ofUInt64 p.paymentTimeLock)]

end Tokens

/-- A funding that the honest taker could have sent. The value of an ERC20 call is not looked
at. -/
def Honest (lib : EvmLib) (coin : EthCoin) (tx : SignedEthTx) : Prop :=
  tx.sender = lib.publicToAddress p.takerPub ∧
    ∃ call, (coin.ofOwner lib p.takerPub).sendTakerFundingImpl lib p.sendArgs (.ok ()) = .ok call ∧
      tx.unsigned.action = call.action ∧ tx.unsigned.data = call.data ∧
      (coin.coinType = .eth → tx.unsigned.value = call.value)

/-- The maker's validation of a funding. -/
def Accepted (lib : EvmLib) (coin : EthCoin) (tx : SignedEthTx) : Prop :=
  (coin.ofOwner lib p.makerPub).validateTakerFundingImpl lib (p.validateArgs tx) = .ok ()

end TakerPaymentParams

namespace TakerPaymentParams

variable {lib : EvmLib} {coin : EthCoin} {p : TakerPaymentParams} {contracts : SwapV2Contracts}
  {dexFee amount : U256}

theorem ethTokens_fits (h : p.Converts lib coin contracts dexFee amount) :
    List.Forall₂ ParamType.Fits ethTakerPayment.paramTypes (p.ethTokens lib dexFee) := by
  simp [AbiFunction.paramTypes, ethTakerPayment, ethTokens, ParamType.Fits,
    h.takerSecretHash_length, h.makerSecretHash_length]

theorem erc20Tokens_fits (h : p.Converts lib coin contracts dexFee amount)
    (tokenAddr : Address) :
    List.Forall₂ ParamType.Fits erc20TakerPayment.paramTypes
      (p.erc20Tokens lib dexFee amount tokenAddr) := by
  simp [AbiFunction.paramTypes, erc20TakerPayment, erc20Tokens, ParamType.Fits,
    h.takerSecretHash_length, h.makerSecretHash_length]

theorem Converts.of_send {allowance : Except TransactionErr Unit} {call : UnsignedTx}
    (h : coin.sendTakerFundingImpl lib p.sendArgs allowance = .ok call) :
    ∃ contracts dexFee amount, p.Converts lib coin contracts dexFee amount := by
  simp only [EthCoin.sendTakerFundingImpl, sendArgs, except_bind_eq_ok, okOr_eq_ok,
    orErr_eq_ok, tryInto32_eq_some] at h
  obtain ⟨contracts, hc, dexFee, hd, amount, ha, _, _, th, hth, mh, hmh, _⟩ := h
  have htlen : p.takerSecretHash.length = 32 := by rw [hth, th.property]
  have hmlen : p.makerSecretHash.length = 32 := by rw [hmh, mh.property]
  exact ⟨contracts, dexFee, amount, hc, hd, ha, htlen, hmlen⟩

theorem send_eth_eq_ok (h : p.Converts lib coin contracts dexFee amount)
    (hcoin : coin.coinType = .eth) {allowance : Except TransactionErr Unit} {call : UnsignedTx} :
    coin.sendTakerFundingImpl lib p.sendArgs allowance = .ok call ↔
      ∃ total, amount.checkedAdd dexFee = some total ∧
        call = ⟨.call contracts.takerSwapV2Contract, total,
          callData lib ethTakerPayment (p.ethTokens lib dexFee)⟩ := by
  have hdata : prepareTakerEthFundingData lib (p.fundingArgs lib h) =
      .ok (callData lib ethTakerPayment (p.ethTokens lib dexFee)) :=
    prepareCall_of_fits rfl (ethTokens_fits h)
  simp only [EthCoin.sendTakerFundingImpl, sendArgs, hcoin, h.contracts_eq, h.dexFee_eq,
    h.amount_eq, publicFromSlice_val, tryInto32_of_length h.takerSecretHash_length,
    tryInto32_of_length h.makerSecretHash_length, okOr_some, orErr_ok, except_ok_bind]
  unfold fundingArgs at hdata
  rw [hdata, orErr_ok, except_ok_bind]
  simp only [except_bind_eq_ok, okOr_eq_ok, pure, Except.pure, Except.ok.injEq]
  exact exists_congr fun _ => and_congr_right' eq_comm

theorem send_erc20_eq_ok (h : p.Converts lib coin contracts dexFee amount) {platform : String}
    {tokenAddr : Address} (hcoin : coin.coinType = .erc20 platform tokenAddr)
    {call : UnsignedTx} :
    coin.sendTakerFundingImpl lib p.sendArgs (.ok ()) = .ok call ↔
      call = ⟨.call contracts.takerSwapV2Contract, U256.zero,
        callData lib erc20TakerPayment (p.erc20Tokens lib dexFee amount tokenAddr)⟩ := by
  have hdata : prepareTakerErc20FundingData lib (p.fundingArgs lib h) tokenAddr =
      .ok (callData lib erc20TakerPayment (p.erc20Tokens lib dexFee amount tokenAddr)) :=
    prepareCall_of_fits rfl (erc20Tokens_fits h tokenAddr)
  simp only [EthCoin.sendTakerFundingImpl, sendArgs, hcoin, h.contracts_eq, h.dexFee_eq,
    h.amount_eq, publicFromSlice_val, tryInto32_of_length h.takerSecretHash_length,
    tryInto32_of_length h.makerSecretHash_length, okOr_some, orErr_ok, except_ok_bind]
  unfold fundingArgs at hdata
  rw [hdata, orErr_ok, except_ok_bind]
  simp [pure, Except.pure, eq_comm]

theorem Converts.ofOwner (h : p.Converts lib coin contracts dexFee amount) (pub : Public) :
    p.Converts lib (coin.ofOwner lib pub) contracts dexFee amount :=
  ⟨h.contracts_eq, h.dexFee_eq, h.amount_eq, h.takerSecretHash_length, h.makerSecretHash_length⟩

theorem Converts.of_ofOwner {pub : Public}
    (h : p.Converts lib (coin.ofOwner lib pub) contracts dexFee amount) :
    p.Converts lib coin contracts dexFee amount :=
  ⟨h.contracts_eq, h.dexFee_eq, h.amount_eq, h.takerSecretHash_length, h.makerSecretHash_length⟩

/-- What the validation has checked before it looks into the call. -/
theorem Converts.of_accepted {tx : SignedEthTx} (h : p.Accepted lib coin tx) :
    ∃ contracts dexFee amount, p.Converts lib coin contracts dexFee amount := by
  unfold Accepted at h
  simp only [EthCoin.validateTakerFundingImpl, validateArgs] at h
  cases hcoin : coin.coinType with
  | nft platform => simp [EthCoin.ofOwner, hcoin, fail, bind, Except.bind] at h
  | eth | erc20 platform tokenAddr =>
    simp only [EthCoin.ofOwner, hcoin, except_bind_eq_ok, okOr_eq_ok, orErr_eq_ok,
      tryInto32_eq_some] at h
    obtain ⟨contracts, hc, th, hth, mh, hmh, _, _, _, _, dexFee, hd, amount, ha, _⟩ := h
    have htlen : p.takerSecretHash.length = 32 := by rw [hth, th.property]
    have hmlen : p.makerSecretHash.length = 32 := by rw [hmh, mh.property]
    exact ⟨contracts, dexFee, amount, hc, hd, ha, htlen, hmlen⟩

theorem validateEthTakerPaymentData_eq_ok {decoded : List Token} {args : TakerValidationArgs}
    {txValue : U256} (hlen : decoded.length = 7) :
    validateEthTakerPaymentData decoded args ethTakerPayment txValue = .ok () ↔
      decoded = [.fixedBytes args.swapId, .uint args.dexFee, .address args.receiver,
        .fixedBytes args.takerSecretHash.val, .fixedBytes args.makerSecretHash.val,
        .uint (.ofUInt64 args.fundingTimeLock), .uint (.ofUInt64 args.paymentTimeLock)] ∧
      args.amount.checkedAdd args.dexFee = some txValue := by
  simp only [validateEthTakerPaymentData, except_bind_eq_ok, except_mapError_eq_ok,
    Unique.exists_iff, PUnit.default_eq_unit]
  rw [checkTokens_eq_ok_iff rfl hlen]
  apply and_congr_right'
  cases args.amount.checkedAdd args.dexFee with
  | none => simp
  | some total =>
    by_cases htotal : total = txValue
    · simp [htotal]
    · simp [htotal]

theorem validateErc20TakerPaymentData_eq_ok {decoded : List Token} {args : TakerValidationArgs}
    {tokenAddr : Address} (hlen : decoded.length = 9) :
    validateErc20TakerPaymentData decoded args erc20TakerPayment tokenAddr = .ok () ↔
      decoded = [.fixedBytes args.swapId, .uint args.amount, .uint args.dexFee,
        .address tokenAddr, .address args.receiver, .fixedBytes args.takerSecretHash.val,
        .fixedBytes args.makerSecretHash.val, .uint (.ofUInt64 args.fundingTimeLock),
        .uint (.ofUInt64 args.paymentTimeLock)] := by
  simp only [validateErc20TakerPaymentData, except_mapError_eq_ok]
  rw [checkTokens_eq_ok_iff rfl hlen]
  rfl

theorem accepted_eth_iff (h : p.Converts lib coin contracts dexFee amount)
    (habi : lib.abi.Lawful) (hcoin : coin.coinType = .eth) {tx : SignedEthTx} :
    p.Accepted lib coin tx ↔
      0 < p.tradingAmount ∧ tx.sender = lib.publicToAddress p.takerPub ∧
        tx.unsigned.action = .call contracts.takerSwapV2Contract ∧
        tx.unsigned.data = callData lib ethTakerPayment (p.ethTokens lib dexFee) ∧
        amount.checkedAdd dexFee = some tx.unsigned.value := by
  have hf : takerSwapV2.function "ethTakerPayment" = .ok ethTakerPayment := rfl
  simp only [Accepted, EthCoin.validateTakerFundingImpl, validateArgs, EthCoin.ofOwner, hcoin,
    h.contracts_eq, h.dexFee_eq, h.amount_eq, tryInto32_of_length h.takerSecretHash_length,
    tryInto32_of_length h.makerSecretHash_length, okOr_some, orErr_ok, except_ok_bind,
    EthCoin.myAddr, hf]
  simp only [except_bind_eq_ok, orErr_eq_ok, Unique.exists_iff, PUnit.default_eq_unit,
    validateAmount_eq_ok, validateFromToAddresses_eq_ok, and_assoc]
  apply and_congr_right'
  apply and_congr_right'
  apply and_congr_right'
  constructor
  · rintro ⟨decoded, hdecode, hval⟩
    have hd := (decodeContractCall_eq_ok habi).mp hdecode
    have hlen : decoded.length = 7 := hd.1.length_eq.symm
    have hv := (validateEthTakerPaymentData_eq_ok hlen).mp hval
    refine ⟨?_, hv.2⟩
    rw [hd.2, hv.1]
    rfl
  · rintro ⟨hdata, htotal⟩
    refine ⟨p.ethTokens lib dexFee, ?_, (validateEthTakerPaymentData_eq_ok rfl).mpr ⟨rfl, htotal⟩⟩
    rw [hdata]
    exact decodeContractCall_callData habi (ethTokens_fits h)

theorem accepted_erc20_iff (h : p.Converts lib coin contracts dexFee amount)
    (habi : lib.abi.Lawful) {platform : String} {tokenAddr : Address}
    (hcoin : coin.coinType = .erc20 platform tokenAddr) {tx : SignedEthTx} :
    p.Accepted lib coin tx ↔
      0 < p.tradingAmount ∧ tx.sender = lib.publicToAddress p.takerPub ∧
        tx.unsigned.action = .call contracts.takerSwapV2Contract ∧
        tx.unsigned.data =
          callData lib erc20TakerPayment (p.erc20Tokens lib dexFee amount tokenAddr) := by
  have hf : takerSwapV2.function "erc20TakerPayment" = .ok erc20TakerPayment := rfl
  simp only [Accepted, EthCoin.validateTakerFundingImpl, validateArgs, EthCoin.ofOwner, hcoin,
    h.contracts_eq, h.dexFee_eq, h.amount_eq, tryInto32_of_length h.takerSecretHash_length,
    tryInto32_of_length h.makerSecretHash_length, okOr_some, orErr_ok, except_ok_bind,
    EthCoin.myAddr, hf]
  simp only [except_bind_eq_ok, orErr_eq_ok, Unique.exists_iff, PUnit.default_eq_unit,
    validateAmount_eq_ok, validateFromToAddresses_eq_ok, and_assoc]
  apply and_congr_right'
  apply and_congr_right'
  apply and_congr_right'
  constructor
  · rintro ⟨decoded, hdecode, hval⟩
    have hd := (decodeContractCall_eq_ok habi).mp hdecode
    have hlen : decoded.length = 9 := hd.1.length_eq.symm
    rw [hd.2, (validateErc20TakerPaymentData_eq_ok hlen).mp hval]
    rfl
  · intro hdata
    refine ⟨p.erc20Tokens lib dexFee amount tokenAddr, ?_,
      (validateErc20TakerPaymentData_eq_ok rfl).mpr rfl⟩
    rw [hdata]
    exact decodeContractCall_callData habi (erc20Tokens_fits h tokenAddr)

/-- The maker accepts the fundings that an honest taker sends, if their amount is positive. -/
theorem accepted_iff_honest (habi : lib.abi.Lawful) {tx : SignedEthTx} :
    p.Accepted lib coin tx ↔ 0 < p.tradingAmount ∧ p.Honest lib coin tx := by
  constructor
  · intro hacc
    obtain ⟨contracts, dexFee, amount, h⟩ := Converts.of_accepted hacc
    have hown := h.ofOwner p.takerPub
    cases hcoin : coin.coinType with
    | nft platform =>
      simp [Accepted, EthCoin.validateTakerFundingImpl, EthCoin.ofOwner, hcoin, fail, bind,
        Except.bind] at hacc
    | eth =>
      have ha := (accepted_eth_iff h habi hcoin).mp hacc
      refine ⟨ha.1, ha.2.1, _, (send_eth_eq_ok hown hcoin).mpr ⟨_, ha.2.2.2.2, rfl⟩, ha.2.2.1,
        ha.2.2.2.1, fun _ => rfl⟩
    | erc20 platform tokenAddr =>
      have ha := (accepted_erc20_iff h habi hcoin).mp hacc
      have hsend := (send_erc20_eq_ok hown hcoin).mpr rfl
      refine ⟨ha.1, ha.2.1, _, hsend, ha.2.2.1, ha.2.2.2, ?_⟩
      intro heth
      rw [hcoin] at heth
      cases heth
  · rintro ⟨hpos, hsender, call, hsend, haction, hdata, hvalue⟩
    obtain ⟨contracts, dexFee, amount, hown⟩ := Converts.of_send hsend
    have h := hown.of_ofOwner
    cases hcoin : coin.coinType with
    | nft platform =>
      simp only [EthCoin.sendTakerFundingImpl, except_bind_eq_ok, EthCoin.ofOwner, hcoin,
        fail_ne_ok, and_false, exists_false] at hsend
    | eth =>
      obtain ⟨total, htotal, rfl⟩ := (send_eth_eq_ok hown hcoin).mp hsend
      apply (accepted_eth_iff h habi hcoin).mpr
      refine ⟨hpos, hsender, haction, hdata, ?_⟩
      rw [hvalue hcoin]
      exact htotal
    | erc20 platform tokenAddr =>
      have hcall := (send_erc20_eq_ok hown hcoin).mp hsend
      subst hcall
      exact (accepted_erc20_iff h habi hcoin).mpr ⟨hpos, hsender, haction, hdata⟩

end TakerPaymentParams

namespace TakerPaymentParams

/-- The arguments of a later call, with the other party of the payment and the two hashes or
secrets. -/
def laterTokens (p : TakerPaymentParams) (lib : EvmLib) (coin : EthCoin) (dexFee amount : U256)
    (party : Address) (takerBytes makerBytes : List UInt8) : List Token := [
  .fixedBytes (etomicSwapIdV2 lib p.paymentTimeLock p.makerSecretHash),
  .uint amount,
  .uint dexFee,
  .address party,
  .fixedBytes takerBytes,
  .fixedBytes makerBytes,
  .address coin.tokenAddress]

section LaterCalls

variable {lib : EvmLib} {coin : EthCoin} {p : TakerPaymentParams} {contracts : SwapV2Contracts}
  {dexFee amount : U256}

theorem laterTokens_fits (party : Address) {takerBytes makerBytes : List UInt8}
    (ht : takerBytes.length = 32) (hm : makerBytes.length = 32) :
    List.Forall₂ ParamType.Fits
      [.fixedBytes 32, .uint 256, .uint 256, .address, .fixedBytes 32, .fixedBytes 32, .address]
      (p.laterTokens lib coin dexFee amount party takerBytes makerBytes) := by
  simp [laterTokens, ParamType.Fits, ht, hm]

theorem getDexFeeAndAmount_ethTokens {value : U256}
    (htotal : amount.checkedAdd dexFee = some value) :
    getDexFeeAndAmountFromEthPaymentData (p.ethTokens lib dexFee) value =
      .ok (dexFee, amount) := by
  have hsub : value.checkedSub dexFee = some amount := U256.checkedSub_of_checkedAdd htotal
  have hlen : checkDecodedLength (p.ethTokens lib dexFee) 7 = .ok () := rfl
  have hfee : (p.ethTokens lib dexFee)[1]? = some (.uint dexFee) := rfl
  simp only [getDexFeeAndAmountFromEthPaymentData, hlen, except_ok_bind, hfee, hsub]

/-- The function and the arguments of an accepted funding. -/
def FundingCall (p : TakerPaymentParams) (lib : EvmLib) (coin : EthCoin) (dexFee amount value : U256)
    (f : AbiFunction) (tokens : List Token) : Prop :=
  (coin.coinType = .eth ∧ f = ethTakerPayment ∧ tokens = p.ethTokens lib dexFee ∧
      amount.checkedAdd dexFee = some value) ∨
    ∃ platform tokenAddr, coin.coinType = .erc20 platform tokenAddr ∧ f = erc20TakerPayment ∧
      tokens = p.erc20Tokens lib dexFee amount tokenAddr

theorem FundingCall.fits {value : U256} {f : AbiFunction} {tokens : List Token}
    (hcall : p.FundingCall lib coin dexFee amount value f tokens)
    (h : p.Converts lib coin contracts dexFee amount) :
    List.Forall₂ ParamType.Fits f.paramTypes tokens := by
  rcases hcall with ⟨_, rfl, rfl, _⟩ | ⟨_, tokenAddr, _, rfl, rfl⟩
  · exact ethTokens_fits h
  · exact erc20Tokens_fits h tokenAddr

theorem FundingCall.function_eq {value : U256} {f : AbiFunction} {tokens : List Token}
    (hcall : p.FundingCall lib coin dexFee amount value f tokens) :
    takerSwapV2.function coin.takerPaymentName = .ok f := by
  rcases hcall with ⟨hcoin, rfl, _⟩ | ⟨_, _, hcoin, rfl, _⟩
  · rw [EthCoin.takerPaymentName, hcoin]
    rfl
  · rw [EthCoin.takerPaymentName, hcoin]
    rfl

theorem FundingCall.terms_eq {value : U256} {f : AbiFunction} {tokens : List Token}
    (hcall : p.FundingCall lib coin dexFee amount value f tokens) :
    PaymentTerms.ofArguments lib f tokens (lib.publicToAddress p.takerPub) value =
      some (p.terms lib coin dexFee amount) := by
  rcases hcall with ⟨hcoin, rfl, rfl, htotal⟩ | ⟨_, tokenAddr, hcoin, rfl, rfl⟩
  · have hsub : value.checkedSub dexFee = some amount := U256.checkedSub_of_checkedAdd htotal
    have htoken : coin.tokenAddress = defaultAddress := by rw [EthCoin.tokenAddress, hcoin]
    simp only [terms, htoken]
    change (Option.bind (value.checkedSub dexFee) fun amount => _) = _
    rw [hsub]
    rfl
  · have htoken : coin.tokenAddress = tokenAddr := by rw [EthCoin.tokenAddress, hcoin]
    simp only [terms, htoken]
    rfl

theorem FundingCall.details_eq {value : U256} {f : AbiFunction} {tokens : List Token}
    (hcall : p.FundingCall lib coin dexFee amount value f tokens)
    (h : p.Converts lib coin contracts dexFee amount) :
    coin.takerSwapV2Details "ethTakerPayment" "erc20TakerPayment" =
      .ok (contracts.takerSwapV2Contract, f, coin.tokenAddress) := by
  rcases hcall with ⟨hcoin, rfl, _⟩ | ⟨_, _, hcoin, rfl, _⟩
  · simp only [EthCoin.takerSwapV2Details, EthCoin.tokenAddress, hcoin, h.contracts_eq]
    rfl
  · simp only [EthCoin.takerSwapV2Details, EthCoin.tokenAddress, hcoin, h.contracts_eq]
    rfl

theorem FundingCall.getTokenAddress_eq {value : U256} {f : AbiFunction} {tokens : List Token}
    (hcall : p.FundingCall lib coin dexFee amount value f tokens) :
    coin.getTokenAddress = .ok coin.tokenAddress := by
  rcases hcall with ⟨hcoin, _⟩ | ⟨_, _, hcoin, _⟩
  · rw [EthCoin.getTokenAddress, EthCoin.tokenAddress, hcoin]
  · rw [EthCoin.getTokenAddress, EthCoin.tokenAddress, hcoin]

/-- An accepted payment is sent to the contract and locks what was agreed on. -/
theorem accepted_call (habi : lib.abi.Lawful) {tx : SignedEthTx} (hacc : p.Accepted lib coin tx) :
    ∃ contracts dexFee amount, p.Converts lib coin contracts dexFee amount ∧
      tx.unsigned.action = .call contracts.takerSwapV2Contract ∧
      ∃ f tokens, p.FundingCall lib coin dexFee amount tx.unsigned.value f tokens ∧
        tx.unsigned.data = callData lib f tokens := by
  obtain ⟨contracts, dexFee, amount, h⟩ := Converts.of_accepted hacc
  refine ⟨contracts, dexFee, amount, h, ?_⟩
  cases hcoin : coin.coinType with
  | nft platform =>
    simp [Accepted, EthCoin.validateTakerFundingImpl, EthCoin.ofOwner, hcoin, fail, bind,
      Except.bind] at hacc
  | eth =>
    have ha := (accepted_eth_iff h habi hcoin).mp hacc
    exact ⟨ha.2.2.1, _, _, .inl ⟨hcoin, rfl, rfl, ha.2.2.2.2⟩, ha.2.2.2.1⟩
  | erc20 platform tokenAddr =>
    have ha := (accepted_erc20_iff h habi hcoin).mp hacc
    exact ⟨ha.2.2.1, _, _, .inr ⟨platform, tokenAddr, hcoin, rfl, rfl⟩, ha.2.2.2⟩

/-- The arguments that the approval takes from the funding. -/
theorem prepareTakerPaymentApproveData_eq (h : p.Converts lib coin contracts dexFee amount)
    {tx : SignedEthTx} {f : AbiFunction} {tokens : List Token}
    (hcall : p.FundingCall lib coin dexFee amount tx.unsigned.value f tokens) :
    coin.prepareTakerPaymentApproveData lib (p.approveArgs tx) tokens coin.tokenAddress =
      .ok (callData lib takerPaymentApprove (p.laterTokens lib coin dexFee amount
        (lib.publicToAddress p.makerPub) p.takerSecretHash p.makerSecretHash)) := by
  have hprepare : prepareCall lib takerSwapV2 "takerPaymentApprove"
      (p.laterTokens lib coin dexFee amount (lib.publicToAddress p.makerPub) p.takerSecretHash
        p.makerSecretHash) = .ok (callData lib takerPaymentApprove _) :=
    prepareCall_of_fits rfl
      (laterTokens_fits _ h.takerSecretHash_length h.makerSecretHash_length)
  rcases hcall with ⟨hcoin, _, rfl, htotal⟩ | ⟨_, tokenAddr, hcoin, _, rfl⟩
  · have hamount : getDexFeeAndAmountFromEthPaymentData (p.ethTokens lib dexFee)
        tx.unsigned.value = .ok (dexFee, amount) := getDexFeeAndAmount_ethTokens htotal
    simp only [EthCoin.prepareTakerPaymentApproveData, hcoin, approveArgs, hamount,
      except_ok_bind]
    exact hprepare
  · have hlen : checkDecodedLength (p.erc20Tokens lib dexFee amount tokenAddr) 9 = .ok () := rfl
    simp only [EthCoin.prepareTakerPaymentApproveData, hcoin, approveArgs, hlen,
      except_ok_bind]
    exact hprepare

theorem prepareSpendTakerPaymentData_eq (h : p.Converts lib coin contracts dexFee amount)
    {tx : SignedEthTx} {f : AbiFunction} {tokens : List Token} (secret : FixedBytes 32)
    (hcall : p.FundingCall lib coin dexFee amount tx.unsigned.value f tokens) :
    coin.prepareSpendTakerPaymentData lib (p.spendArgs tx) secret.val tokens coin.tokenAddress =
      .ok (callData lib spendTakerPayment (p.laterTokens lib coin dexFee amount
        (lib.publicToAddress p.takerPub) p.takerSecretHash secret.val)) := by
  have hprepare : prepareCall lib takerSwapV2 "spendTakerPayment"
      (p.laterTokens lib coin dexFee amount (lib.publicToAddress p.takerPub) p.takerSecretHash
        secret.val) = .ok (callData lib spendTakerPayment _) :=
    prepareCall_of_fits rfl (laterTokens_fits _ h.takerSecretHash_length secret.property)
  rcases hcall with ⟨hcoin, _, rfl, htotal⟩ | ⟨_, tokenAddr, hcoin, _, rfl⟩
  · have hamount : getDexFeeAndAmountFromEthPaymentData (p.ethTokens lib dexFee)
        tx.unsigned.value = .ok (dexFee, amount) := getDexFeeAndAmount_ethTokens htotal
    simp only [EthCoin.prepareSpendTakerPaymentData, hcoin, spendArgs, hamount, except_ok_bind]
    exact hprepare
  · have hlen : checkDecodedLength (p.erc20Tokens lib dexFee amount tokenAddr) 9 = .ok () := rfl
    simp only [EthCoin.prepareSpendTakerPaymentData, hcoin, spendArgs, hlen, except_ok_bind]
    exact hprepare

theorem carriesTerms_approve (habi : lib.abi.Lawful)
    (h : p.Converts lib coin contracts dexFee amount) {tx : SignedEthTx}
    (haction : tx.unsigned.action = .call contracts.takerSwapV2Contract) {f : AbiFunction}
    {tokens : List Token} (hcall : p.FundingCall lib coin dexFee amount tx.unsigned.value f tokens)
    (hdata : tx.unsigned.data = callData lib f tokens) :
    CarriesTerms lib takerSwapV2 "takerPaymentApprove" (lib.publicToAddress p.takerPub)
      tx.unsigned (p.terms lib coin dexFee amount)
      (coin.takerPaymentApprove lib (p.approveArgs tx)) := by
  have hfits : List.Forall₂ ParamType.Fits takerPaymentApprove.paramTypes
      (p.laterTokens lib coin dexFee amount (lib.publicToAddress p.makerPub) p.takerSecretHash
        p.makerSecretHash) :=
    laterTokens_fits _ h.takerSecretHash_length h.makerSecretHash_length
  apply CarriesTerms.of_callData habi rfl hfits ?_ rfl
  have hdecode : decodeContractCall lib.abi f (p.approveArgs tx).fundingTx.unsigned.data =
      .ok tokens := by
    rw [approveArgs, hdata]
    exact decodeContractCall_callData habi (hcall.fits h)
  have hprepare := prepareTakerPaymentApproveData_eq h hcall
  have hdetails := hcall.details_eq h
  rw [haction]
  rcases hcall with ⟨hcoin, _⟩ | ⟨_, _, hcoin, _⟩
  · simp only [EthCoin.takerPaymentApprove, hcoin, hdetails, except_ok_bind, hdecode, orErr_ok,
      hprepare]
    rfl
  · simp only [EthCoin.takerPaymentApprove, hcoin, hdetails, except_ok_bind, hdecode, orErr_ok,
      hprepare]
    rfl

theorem carriesTerms_spend (habi : lib.abi.Lawful)
    (h : p.Converts lib coin contracts dexFee amount) {tx : SignedEthTx}
    (haction : tx.unsigned.action = .call contracts.takerSwapV2Contract) {f : AbiFunction}
    {tokens : List Token} (hcall : p.FundingCall lib coin dexFee amount tx.unsigned.value f tokens)
    (hdata : tx.unsigned.data = callData lib f tokens) {secret : FixedBytes 32}
    (hsecret : (lib.sha256 secret.val).val = p.makerSecretHash) :
    CarriesTerms lib takerSwapV2 "spendTakerPayment" (lib.publicToAddress p.makerPub)
      tx.unsigned (p.terms lib coin dexFee amount)
      (coin.signAndBroadcastTakerPaymentSpendImpl lib (p.spendArgs tx) secret.val) := by
  have hfits : List.Forall₂ ParamType.Fits spendTakerPayment.paramTypes
      (p.laterTokens lib coin dexFee amount (lib.publicToAddress p.takerPub) p.takerSecretHash
        secret.val) :=
    laterTokens_fits _ h.takerSecretHash_length secret.property
  apply CarriesTerms.of_callData habi rfl hfits
  · have hdecode : decodeContractCall lib.abi f (p.spendArgs tx).takerTx.unsigned.data =
        .ok tokens := by
      rw [spendArgs, hdata]
      exact decodeContractCall_callData habi (hcall.fits h)
    have hprepare := prepareSpendTakerPaymentData_eq h secret hcall
    have hdetails := hcall.details_eq h
    rw [haction]
    rcases hcall with ⟨hcoin, _⟩ | ⟨_, _, hcoin, _⟩
    · simp only [EthCoin.signAndBroadcastTakerPaymentSpendImpl, hcoin, hdetails, except_ok_bind,
        hdecode, orErr_ok, hprepare]
      rfl
    · simp only [EthCoin.signAndBroadcastTakerPaymentSpendImpl, hcoin, hdetails, except_ok_bind,
        hdecode, orErr_ok, hprepare]
      rfl
  · simp only [TakerPaymentParams.terms, laterTokens, ← hsecret]
    rfl

theorem carriesTerms_refundTimelock (habi : lib.abi.Lawful)
    (h : p.Converts lib coin contracts dexFee amount) {tx : SignedEthTx}
    (haction : tx.unsigned.action = .call contracts.takerSwapV2Contract)
    (htoken : coin.getTokenAddress = .ok coin.tokenAddress) :
    CarriesTerms lib takerSwapV2 "refundTakerPaymentTimelock" (lib.publicToAddress p.takerPub)
      tx.unsigned (p.terms lib coin dexFee amount)
      (coin.refundTakerPaymentWithTimelockImpl lib p.refundTimelockArgs) := by
  have hfits : List.Forall₂ ParamType.Fits refundTakerPaymentTimelock.paramTypes
      (p.laterTokens lib coin dexFee amount (lib.publicToAddress p.makerPub) p.takerSecretHash
        p.makerSecretHash) :=
    laterTokens_fits _ h.takerSecretHash_length h.makerSecretHash_length
  apply CarriesTerms.of_callData habi rfl hfits ?_ rfl
  have hprepare : prepareCall lib takerSwapV2 "refundTakerPaymentTimelock"
      (p.laterTokens lib coin dexFee amount (lib.publicToAddress p.makerPub) p.takerSecretHash
        p.makerSecretHash) = .ok (callData lib refundTakerPaymentTimelock _) :=
    prepareCall_of_fits rfl hfits
  unfold laterTokens at hprepare
  simp only [EthCoin.refundTakerPaymentWithTimelockImpl, refundTimelockArgs, htoken,
    h.contracts_eq, h.dexFee_eq, h.amount_eq, publicFromSlice_val,
    tryInto32_of_length h.takerSecretHash_length, tryInto32_of_length h.makerSecretHash_length,
    okOr_some, orErr_ok, pure, Except.pure, except_ok_bind, haction,
    prepareTakerRefundPaymentTimelockData, hprepare, laterTokens]

theorem carriesTerms_refundSecret (habi : lib.abi.Lawful)
    (h : p.Converts lib coin contracts dexFee amount) {tx : SignedEthTx}
    (haction : tx.unsigned.action = .call contracts.takerSwapV2Contract)
    (htoken : coin.getTokenAddress = .ok coin.tokenAddress) {secret : FixedBytes 32}
    (hsecret : (lib.sha256 secret.val).val = p.takerSecretHash) :
    CarriesTerms lib takerSwapV2 "refundTakerPaymentSecret" (lib.publicToAddress p.takerPub)
      tx.unsigned (p.terms lib coin dexFee amount)
      (coin.refundTakerFundingSecretImpl lib (p.refundSecretArgs secret)) := by
  have hfits : List.Forall₂ ParamType.Fits refundTakerPaymentSecret.paramTypes
      (p.laterTokens lib coin dexFee amount (lib.publicToAddress p.makerPub) secret.val
        p.makerSecretHash) :=
    laterTokens_fits _ secret.property h.makerSecretHash_length
  apply CarriesTerms.of_callData habi rfl hfits
  · have hprepare : prepareCall lib takerSwapV2 "refundTakerPaymentSecret"
        (p.laterTokens lib coin dexFee amount (lib.publicToAddress p.makerPub) secret.val
          p.makerSecretHash) = .ok (callData lib refundTakerPaymentSecret _) :=
      prepareCall_of_fits rfl hfits
    unfold laterTokens at hprepare
    simp only [EthCoin.refundTakerFundingSecretImpl, refundSecretArgs, htoken, h.contracts_eq,
      h.dexFee_eq, h.amount_eq, tryInto32_of_length h.makerSecretHash_length, okOr_some, orErr_ok,
      pure, Except.pure, except_ok_bind, haction, prepareTakerRefundPaymentSecretData, hprepare,
      laterTokens]
  · simp only [TakerPaymentParams.terms, ← hsecret]
    rfl

end LaterCalls

/-- The payment and the calls that the two sides build after it have the same terms. -/
structure Carried (p : TakerPaymentParams) (lib : EvmLib) (coin : EthCoin) (tx : SignedEthTx)
    (terms : PaymentTerms) : Prop where
  payment : termsOfCall lib takerSwapV2 coin.takerPaymentName (lib.publicToAddress p.takerPub)
    tx.unsigned = some terms
  approve : CarriesTerms lib takerSwapV2 "takerPaymentApprove" (lib.publicToAddress p.takerPub)
    tx.unsigned terms
    ((coin.ofOwner lib p.takerPub).takerPaymentApprove lib (p.approveArgs tx))
  spend : ∀ secret : FixedBytes 32, (lib.sha256 secret.val).val = p.makerSecretHash →
    CarriesTerms lib takerSwapV2 "spendTakerPayment" (lib.publicToAddress p.makerPub)
      tx.unsigned terms ((coin.ofOwner lib p.makerPub).signAndBroadcastTakerPaymentSpendImpl lib
        (p.spendArgs tx) secret.val)
  refundTimelock : CarriesTerms lib takerSwapV2 "refundTakerPaymentTimelock"
    (lib.publicToAddress p.takerPub) tx.unsigned terms
    ((coin.ofOwner lib p.takerPub).refundTakerPaymentWithTimelockImpl lib p.refundTimelockArgs)
  refundSecret : ∀ secret : FixedBytes 32, (lib.sha256 secret.val).val = p.takerSecretHash →
    CarriesTerms lib takerSwapV2 "refundTakerPaymentSecret" (lib.publicToAddress p.takerPub)
      tx.unsigned terms ((coin.ofOwner lib p.takerPub).refundTakerFundingSecretImpl lib
        (p.refundSecretArgs secret))

theorem carried_of_accepted {lib : EvmLib} (habi : lib.abi.Lawful) {coin : EthCoin}
    {p : TakerPaymentParams} {tx : SignedEthTx} (hacc : p.Accepted lib coin tx) :
    ∃ contracts dexFee amount, p.Converts lib coin contracts dexFee amount ∧
      p.Carried lib coin tx (p.terms lib coin dexFee amount) ∧
      (coin.coinType = .eth → tx.unsigned.value.val = amount.val + dexFee.val) := by
  obtain ⟨contracts, dexFee, amount, h, haction, f, tokens, hcall, hdata⟩ :=
    accepted_call habi hacc
  refine ⟨contracts, dexFee, amount, h, ⟨?_, ?_, ?_, ?_, ?_⟩, ?_⟩
  · rw [termsOfCall_callData habi hcall.function_eq (hcall.fits h) hdata]
    exact hcall.terms_eq
  · exact carriesTerms_approve habi (h.ofOwner p.takerPub) haction hcall hdata
  · intro secret hsecret
    exact carriesTerms_spend habi (h.ofOwner p.makerPub) haction hcall hdata hsecret
  · exact carriesTerms_refundTimelock habi (h.ofOwner p.takerPub) haction hcall.getTokenAddress_eq
  · intro secret hsecret
    exact carriesTerms_refundSecret habi (h.ofOwner p.takerPub) haction hcall.getTokenAddress_eq
      hsecret
  · intro hcoin
    rcases hcall with ⟨_, _, _, htotal⟩ | ⟨_, _, herc20, _⟩
    · exact U256.checkedAdd_eq_some.mp htotal
    · rw [hcoin] at herc20
      cases herc20

end TakerPaymentParams

end DeXFG.Evm
