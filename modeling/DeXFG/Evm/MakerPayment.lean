import DeXFG.Evm.PaymentTerms

/-!
# The life of a maker payment

A payment that the taker has accepted is the one that the honest maker builds
from the parameters of the swap, and the spend and both refunds carry its terms.
-/
namespace DeXFG.Evm
open Library.StaticAbi
open SwapV2 (except_bind_eq_ok except_mapError_eq_ok)

/-- What the two sides have agreed on for the maker payment. -/
structure MakerPaymentParams where
  timeLock : UInt64
  takerSecretHash : List UInt8
  makerSecretHash : List UInt8
  takerPub : Public
  makerPub : Public
  amount : ℚ

def EthCoin.makerPaymentName (coin : EthCoin) : String :=
  match coin.coinType with
  | .eth => "ethMakerPayment"
  | _ => "erc20MakerPayment"

namespace MakerPaymentParams

variable (p : MakerPaymentParams)

def sendArgs : SendMakerPaymentArgs where
  timeLock := p.timeLock
  takerSecretHash := p.takerSecretHash
  makerSecretHash := p.makerSecretHash
  amount := p.amount
  takerPub := p.takerPub

def validateArgs (tx : SignedEthTx) : ValidateMakerPaymentArgs where
  makerPaymentTx := tx
  timeLock := p.timeLock
  takerSecretHash := p.takerSecretHash
  makerSecretHash := p.makerSecretHash
  amount := p.amount
  makerPub := p.makerPub

def spendArgs (makerSecret : FixedBytes 32) : SpendMakerPaymentArgs where
  timeLock := p.timeLock
  takerSecretHash := p.takerSecretHash
  makerSecretHash := p.makerSecretHash
  makerSecret := makerSecret
  makerPub := p.makerPub
  amount := p.amount

def refundTimelockArgs : RefundMakerPaymentTimelockArgs where
  timeLock := p.timeLock
  takerPub := p.takerPub.val
  txTypeWithSecretHash := .makerPaymentV2 p.makerSecretHash p.takerSecretHash
  amount := p.amount

def refundSecretArgs (takerSecret : FixedBytes 32) : RefundMakerPaymentSecretArgs where
  timeLock := p.timeLock
  makerSecretHash := p.makerSecretHash
  takerSecret := takerSecret
  takerPub := p.takerPub
  amount := p.amount

/-- The parameters convert to what goes into a call. -/
structure Converts (coin : EthCoin) (contracts : SwapV2Contracts) (amount : U256) : Prop where
  contracts_eq : coin.swapV2Contracts = some contracts
  amount_eq : u256FromBigDecimal p.amount coin.decimals = .ok amount
  takerSecretHash_length : p.takerSecretHash.length = 32
  makerSecretHash_length : p.makerSecretHash.length = 32

def paymentArgs (lib : EvmLib) {coin : EthCoin} {contracts : SwapV2Contracts} {amount : U256}
    (h : p.Converts coin contracts amount) : MakerPaymentArgs where
  takerAddress := lib.publicToAddress p.takerPub
  takerSecretHash := ⟨p.takerSecretHash, h.takerSecretHash_length⟩
  makerSecretHash := ⟨p.makerSecretHash, h.makerSecretHash_length⟩
  paymentTimeLock := p.timeLock

def terms (lib : EvmLib) (coin : EthCoin) (amount : U256) : PaymentTerms where
  id := etomicSwapIdV2 lib p.timeLock p.makerSecretHash
  amount := amount
  dexFee := U256.zero
  taker := lib.publicToAddress p.takerPub
  maker := lib.publicToAddress p.makerPub
  token := coin.tokenAddress
  takerSecretHash := p.takerSecretHash
  makerSecretHash := p.makerSecretHash

section Tokens

variable (lib : EvmLib)

def ethTokens : List Token := [
  .fixedBytes (etomicSwapIdV2 lib p.timeLock p.makerSecretHash),
  .address (lib.publicToAddress p.takerPub),
  .fixedBytes p.takerSecretHash,
  .fixedBytes p.makerSecretHash,
  .uint (.ofUInt64 p.timeLock)]

def erc20Tokens (amount : U256) (tokenAddr : Address) : List Token := [
  .fixedBytes (etomicSwapIdV2 lib p.timeLock p.makerSecretHash),
  .uint amount,
  .address tokenAddr,
  .address (lib.publicToAddress p.takerPub),
  .fixedBytes p.takerSecretHash,
  .fixedBytes p.makerSecretHash,
  .uint (.ofUInt64 p.timeLock)]

/-- The arguments of a later call, with the other party of the payment and the two hashes or
secrets. -/
def laterTokens (coin : EthCoin) (amount : U256) (party : Address)
    (takerBytes makerBytes : List UInt8) : List Token := [
  .fixedBytes (etomicSwapIdV2 lib p.timeLock p.makerSecretHash),
  .uint amount,
  .address party,
  .fixedBytes takerBytes,
  .fixedBytes makerBytes,
  .address coin.tokenAddress]

end Tokens

/-- A payment that the honest maker could have sent. The value of an ERC20 call is not looked
at. -/
def Honest (lib : EvmLib) (coin : EthCoin) (tx : SignedEthTx) : Prop :=
  tx.sender = lib.publicToAddress p.makerPub ∧
    ∃ call, (coin.ofOwner lib p.makerPub).sendMakerPaymentV2Impl lib p.sendArgs (.ok ()) = .ok call ∧
      tx.unsigned.action = call.action ∧ tx.unsigned.data = call.data ∧
      (coin.coinType = .eth → tx.unsigned.value = call.value)

/-- The taker's validation of a payment. -/
def Accepted (lib : EvmLib) (coin : EthCoin) (tx : SignedEthTx) : Prop :=
  (coin.ofOwner lib p.takerPub).validateMakerPaymentV2Impl lib (p.validateArgs tx) = .ok ()

end MakerPaymentParams

namespace MakerPaymentParams

variable {lib : EvmLib} {coin : EthCoin} {p : MakerPaymentParams} {contracts : SwapV2Contracts}
  {amount : U256}

theorem ethTokens_fits (h : p.Converts coin contracts amount) :
    List.Forall₂ ParamType.Fits ethMakerPayment.paramTypes (p.ethTokens lib) := by
  simp [AbiFunction.paramTypes, ethMakerPayment, ethTokens, ParamType.Fits,
    h.takerSecretHash_length, h.makerSecretHash_length]

theorem erc20Tokens_fits (h : p.Converts coin contracts amount) (tokenAddr : Address) :
    List.Forall₂ ParamType.Fits erc20MakerPayment.paramTypes
      (p.erc20Tokens lib amount tokenAddr) := by
  simp [AbiFunction.paramTypes, erc20MakerPayment, erc20Tokens, ParamType.Fits,
    h.takerSecretHash_length, h.makerSecretHash_length]

theorem laterTokens_fits (party : Address) {takerBytes makerBytes : List UInt8}
    (ht : takerBytes.length = 32) (hm : makerBytes.length = 32) :
    List.Forall₂ ParamType.Fits
      [.fixedBytes 32, .uint 256, .address, .fixedBytes 32, .fixedBytes 32, .address]
      (p.laterTokens lib coin amount party takerBytes makerBytes) := by
  simp [laterTokens, ParamType.Fits, ht, hm]

theorem Converts.of_send {allowance : Except TransactionErr Unit} {call : UnsignedTx}
    (h : coin.sendMakerPaymentV2Impl lib p.sendArgs allowance = .ok call) :
    ∃ contracts amount, p.Converts coin contracts amount := by
  simp only [EthCoin.sendMakerPaymentV2Impl, sendArgs, except_bind_eq_ok, okOr_eq_ok,
    orErr_eq_ok, tryInto32_eq_some] at h
  obtain ⟨contracts, hc, amount, ha, th, hth, mh, hmh, _⟩ := h
  have htlen : p.takerSecretHash.length = 32 := by rw [hth, th.property]
  have hmlen : p.makerSecretHash.length = 32 := by rw [hmh, mh.property]
  exact ⟨contracts, amount, hc, ha, htlen, hmlen⟩

theorem send_eth (h : p.Converts coin contracts amount) (hcoin : coin.coinType = .eth)
    {allowance : Except TransactionErr Unit} :
    coin.sendMakerPaymentV2Impl lib p.sendArgs allowance =
      .ok ⟨.call contracts.makerSwapV2Contract, amount,
        callData lib ethMakerPayment (p.ethTokens lib)⟩ := by
  have hdata : prepareMakerEthPaymentData lib (p.paymentArgs lib h) =
      .ok (callData lib ethMakerPayment (p.ethTokens lib)) :=
    prepareCall_of_fits rfl (ethTokens_fits h)
  unfold paymentArgs at hdata
  simp only [EthCoin.sendMakerPaymentV2Impl, sendArgs, hcoin, h.contracts_eq, h.amount_eq,
    tryInto32_of_length h.takerSecretHash_length, tryInto32_of_length h.makerSecretHash_length,
    okOr_some, orErr_ok, except_ok_bind, hdata]
  rfl

theorem send_erc20 (h : p.Converts coin contracts amount) {platform : String}
    {tokenAddr : Address} (hcoin : coin.coinType = .erc20 platform tokenAddr) :
    coin.sendMakerPaymentV2Impl lib p.sendArgs (.ok ()) =
      .ok ⟨.call contracts.makerSwapV2Contract, U256.zero,
        callData lib erc20MakerPayment (p.erc20Tokens lib amount tokenAddr)⟩ := by
  have hdata : prepareMakerErc20PaymentData lib (p.paymentArgs lib h) amount tokenAddr =
      .ok (callData lib erc20MakerPayment (p.erc20Tokens lib amount tokenAddr)) :=
    prepareCall_of_fits rfl (erc20Tokens_fits h tokenAddr)
  unfold paymentArgs at hdata
  simp only [EthCoin.sendMakerPaymentV2Impl, sendArgs, hcoin, h.contracts_eq, h.amount_eq,
    tryInto32_of_length h.takerSecretHash_length, tryInto32_of_length h.makerSecretHash_length,
    okOr_some, orErr_ok, except_ok_bind, hdata]
  rfl

theorem Converts.ofOwner (h : p.Converts coin contracts amount) (pub : Public) :
    p.Converts (coin.ofOwner lib pub) contracts amount :=
  ⟨h.contracts_eq, h.amount_eq, h.takerSecretHash_length, h.makerSecretHash_length⟩

theorem Converts.of_ofOwner {pub : Public}
    (h : p.Converts (coin.ofOwner lib pub) contracts amount) :
    p.Converts coin contracts amount :=
  ⟨h.contracts_eq, h.amount_eq, h.takerSecretHash_length, h.makerSecretHash_length⟩

theorem not_accepted_nft {platform : String} (hcoin : coin.coinType = .nft platform)
    {tx : SignedEthTx} : ¬ p.Accepted lib coin tx := by
  simp [Accepted, EthCoin.validateMakerPaymentV2Impl, EthCoin.ofOwner, hcoin, fail, bind,
    Except.bind]

/-- What the validation has checked before it looks into the call. -/
theorem Converts.of_accepted {tx : SignedEthTx} (h : p.Accepted lib coin tx) :
    ∃ contracts amount, p.Converts coin contracts amount := by
  cases hcoin : coin.coinType with
  | nft platform => exact absurd h (not_accepted_nft hcoin)
  | eth | erc20 platform tokenAddr =>
    simp only [Accepted, EthCoin.validateMakerPaymentV2Impl, validateArgs, EthCoin.ofOwner, hcoin,
      except_bind_eq_ok, okOr_eq_ok, orErr_eq_ok, tryInto32_eq_some] at h
    obtain ⟨contracts, hc, th, hth, mh, hmh, _, _, _, _, amount, ha, _⟩ := h
    have htlen : p.takerSecretHash.length = 32 := by rw [hth, th.property]
    have hmlen : p.makerSecretHash.length = 32 := by rw [hmh, mh.property]
    exact ⟨contracts, amount, hc, ha, htlen, hmlen⟩

theorem validateEthMakerPaymentData_eq_ok {decoded : List Token} {args : MakerValidationArgs}
    {txValue : U256} (hlen : decoded.length = 5) :
    validateEthMakerPaymentData decoded args ethMakerPayment txValue = .ok () ↔
      decoded = [.fixedBytes args.swapId, .address args.taker,
        .fixedBytes args.takerSecretHash.val, .fixedBytes args.makerSecretHash.val,
        .uint (.ofUInt64 args.paymentTimeLock)] ∧ args.amount = txValue := by
  simp only [validateEthMakerPaymentData, except_bind_eq_ok, except_mapError_eq_ok,
    Unique.exists_iff, PUnit.default_eq_unit]
  rw [checkTokens_eq_ok_iff rfl hlen]
  apply and_congr_right'
  by_cases hamount : args.amount = txValue
  · simp [hamount]
  · simp [hamount]

theorem validateErc20MakerPaymentData_eq_ok {decoded : List Token} {args : MakerValidationArgs}
    {tokenAddr : Address} (hlen : decoded.length = 7) :
    validateErc20MakerPaymentData decoded args erc20MakerPayment tokenAddr = .ok () ↔
      decoded = [.fixedBytes args.swapId, .uint args.amount, .address tokenAddr,
        .address args.taker, .fixedBytes args.takerSecretHash.val,
        .fixedBytes args.makerSecretHash.val, .uint (.ofUInt64 args.paymentTimeLock)] := by
  simp only [validateErc20MakerPaymentData, except_mapError_eq_ok]
  rw [checkTokens_eq_ok_iff rfl hlen]
  rfl

theorem accepted_eth_iff (h : p.Converts coin contracts amount) (habi : lib.abi.Lawful)
    (hcoin : coin.coinType = .eth) {tx : SignedEthTx} :
    p.Accepted lib coin tx ↔
      0 < p.amount ∧ tx.sender = lib.publicToAddress p.makerPub ∧
        tx.unsigned.action = .call contracts.makerSwapV2Contract ∧
        tx.unsigned.data = callData lib ethMakerPayment (p.ethTokens lib) ∧
        amount = tx.unsigned.value := by
  have hf : makerSwapV2.function "ethMakerPayment" = .ok ethMakerPayment := rfl
  simp only [Accepted, EthCoin.validateMakerPaymentV2Impl, validateArgs, EthCoin.ofOwner, hcoin,
    h.contracts_eq, h.amount_eq, tryInto32_of_length h.takerSecretHash_length,
    tryInto32_of_length h.makerSecretHash_length, okOr_some, orErr_ok, except_ok_bind,
    EthCoin.myAddr, hf]
  simp only [except_bind_eq_ok, orErr_eq_ok, Unique.exists_iff, PUnit.default_eq_unit,
    validateAmount_eq_ok, validateFromToAddresses_eq_ok, and_assoc]
  apply and_congr_right'
  apply and_congr_right'
  apply and_congr_right'
  constructor
  · rintro ⟨decoded, hdecode, hval⟩
    have hd := (decodeContractCall_eq_ok habi).mp hdecode
    have hlen : decoded.length = 5 := hd.1.length_eq.symm
    have hv := (validateEthMakerPaymentData_eq_ok hlen).mp hval
    refine ⟨?_, hv.2⟩
    rw [hd.2, hv.1]
    rfl
  · rintro ⟨hdata, hvalue⟩
    refine ⟨p.ethTokens lib, ?_, (validateEthMakerPaymentData_eq_ok rfl).mpr ⟨rfl, hvalue⟩⟩
    rw [hdata]
    exact decodeContractCall_callData habi (ethTokens_fits h)

theorem accepted_erc20_iff (h : p.Converts coin contracts amount) (habi : lib.abi.Lawful)
    {platform : String} {tokenAddr : Address} (hcoin : coin.coinType = .erc20 platform tokenAddr)
    {tx : SignedEthTx} :
    p.Accepted lib coin tx ↔
      0 < p.amount ∧ tx.sender = lib.publicToAddress p.makerPub ∧
        tx.unsigned.action = .call contracts.makerSwapV2Contract ∧
        tx.unsigned.data =
          callData lib erc20MakerPayment (p.erc20Tokens lib amount tokenAddr) := by
  have hf : makerSwapV2.function "erc20MakerPayment" = .ok erc20MakerPayment := rfl
  simp only [Accepted, EthCoin.validateMakerPaymentV2Impl, validateArgs, EthCoin.ofOwner, hcoin,
    h.contracts_eq, h.amount_eq, tryInto32_of_length h.takerSecretHash_length,
    tryInto32_of_length h.makerSecretHash_length, okOr_some, orErr_ok, except_ok_bind,
    EthCoin.myAddr, hf]
  simp only [except_bind_eq_ok, orErr_eq_ok, Unique.exists_iff, PUnit.default_eq_unit,
    validateAmount_eq_ok, validateFromToAddresses_eq_ok, and_assoc]
  apply and_congr_right'
  apply and_congr_right'
  apply and_congr_right'
  constructor
  · rintro ⟨decoded, hdecode, hval⟩
    have hd := (decodeContractCall_eq_ok habi).mp hdecode
    have hlen : decoded.length = 7 := hd.1.length_eq.symm
    rw [hd.2, (validateErc20MakerPaymentData_eq_ok hlen).mp hval]
    rfl
  · intro hdata
    refine ⟨p.erc20Tokens lib amount tokenAddr, ?_,
      (validateErc20MakerPaymentData_eq_ok rfl).mpr rfl⟩
    rw [hdata]
    exact decodeContractCall_callData habi (erc20Tokens_fits h tokenAddr)

/-- The taker accepts the payments that an honest maker sends, if their amount is positive. -/
theorem accepted_iff_honest (habi : lib.abi.Lawful) {tx : SignedEthTx} :
    p.Accepted lib coin tx ↔ 0 < p.amount ∧ p.Honest lib coin tx := by
  constructor
  · intro hacc
    obtain ⟨contracts, amount, h⟩ := Converts.of_accepted hacc
    have hown : p.Converts (coin.ofOwner lib p.makerPub) contracts amount := h.ofOwner _
    cases hcoin : coin.coinType with
    | nft platform => exact absurd hacc (not_accepted_nft hcoin)
    | eth =>
      have ha := (accepted_eth_iff h habi hcoin).mp hacc
      exact ⟨ha.1, ha.2.1, _, send_eth hown hcoin, ha.2.2.1, ha.2.2.2.1,
        fun _ => ha.2.2.2.2.symm⟩
    | erc20 platform tokenAddr =>
      have ha := (accepted_erc20_iff h habi hcoin).mp hacc
      refine ⟨ha.1, ha.2.1, _, send_erc20 hown hcoin, ha.2.2.1, ha.2.2.2, ?_⟩
      intro heth
      rw [hcoin] at heth
      cases heth
  · rintro ⟨hpos, hsender, call, hsend, haction, hdata, hvalue⟩
    obtain ⟨contracts, amount, hown⟩ := Converts.of_send hsend
    have h := hown.of_ofOwner
    cases hcoin : coin.coinType with
    | nft platform =>
      simp only [EthCoin.sendMakerPaymentV2Impl, except_bind_eq_ok, EthCoin.ofOwner, hcoin,
        fail_ne_ok, and_false, exists_false] at hsend
    | eth =>
      rw [send_eth hown hcoin] at hsend
      cases hsend
      exact (accepted_eth_iff h habi hcoin).mpr ⟨hpos, hsender, haction, hdata, (hvalue hcoin).symm⟩
    | erc20 platform tokenAddr =>
      rw [send_erc20 hown hcoin] at hsend
      cases hsend
      exact (accepted_erc20_iff h habi hcoin).mpr ⟨hpos, hsender, haction, hdata⟩

/-- The terms in an accepted payment, and what the later calls find of the coin. -/
theorem accepted_call (habi : lib.abi.Lawful) {tx : SignedEthTx} (hacc : p.Accepted lib coin tx) :
    ∃ contracts amount, p.Converts coin contracts amount ∧
      tx.unsigned.action = .call contracts.makerSwapV2Contract ∧
      coin.getTokenAddress = .ok coin.tokenAddress ∧
      (coin.coinType = .eth → tx.unsigned.value = amount) ∧
      termsOfCall lib makerSwapV2 coin.makerPaymentName (lib.publicToAddress p.makerPub)
        tx.unsigned = some (p.terms lib coin amount) := by
  obtain ⟨contracts, amount, h⟩ := Converts.of_accepted hacc
  refine ⟨contracts, amount, h, ?_⟩
  cases hcoin : coin.coinType with
  | nft platform => exact absurd hacc (not_accepted_nft hcoin)
  | eth =>
    have ha := (accepted_eth_iff h habi hcoin).mp hacc
    have hname : coin.makerPaymentName = "ethMakerPayment" := by rw [EthCoin.makerPaymentName, hcoin]
    have htoken : coin.tokenAddress = defaultAddress := by rw [EthCoin.tokenAddress, hcoin]
    refine ⟨ha.2.2.1, ?_, fun _ => ha.2.2.2.2.symm, ?_⟩
    · rw [EthCoin.getTokenAddress, hcoin, htoken]
    · rw [hname, termsOfCall_callData habi rfl (ethTokens_fits h) ha.2.2.2.1, terms, htoken,
        ← ha.2.2.2.2]
      have hsub : amount.checkedSub U256.zero = some amount := rfl
      change (Option.bind (amount.checkedSub U256.zero) fun amount => _) = _
      rw [hsub]
      rfl
  | erc20 platform tokenAddr =>
    have ha := (accepted_erc20_iff h habi hcoin).mp hacc
    have hname : coin.makerPaymentName = "erc20MakerPayment" := by
      rw [EthCoin.makerPaymentName, hcoin]
    have htoken : coin.tokenAddress = tokenAddr := by rw [EthCoin.tokenAddress, hcoin]
    refine ⟨ha.2.2.1, ?_, nofun, ?_⟩
    · rw [EthCoin.getTokenAddress, hcoin, htoken]
    · rw [hname, termsOfCall_callData habi rfl (erc20Tokens_fits h tokenAddr) ha.2.2.2, terms,
        htoken]
      rfl

theorem carriesTerms_spend (habi : lib.abi.Lawful) (h : p.Converts coin contracts amount)
    {tx : SignedEthTx} (haction : tx.unsigned.action = .call contracts.makerSwapV2Contract)
    (htoken : coin.getTokenAddress = .ok coin.tokenAddress) {secret : FixedBytes 32}
    (hsecret : (lib.sha256 secret.val).val = p.makerSecretHash) :
    CarriesTerms lib makerSwapV2 "spendMakerPayment" (lib.publicToAddress p.takerPub)
      tx.unsigned (p.terms lib coin amount)
      (coin.spendMakerPaymentV2Impl lib (p.spendArgs secret)) := by
  have hfits : List.Forall₂ ParamType.Fits spendMakerPayment.paramTypes
      (p.laterTokens lib coin amount (lib.publicToAddress p.makerPub) p.takerSecretHash
        secret.val) :=
    laterTokens_fits _ h.takerSecretHash_length secret.property
  apply CarriesTerms.of_callData habi rfl hfits
  · have hprepare : prepareCall lib makerSwapV2 "spendMakerPayment"
        (p.laterTokens lib coin amount (lib.publicToAddress p.makerPub) p.takerSecretHash
          secret.val) = .ok (callData lib spendMakerPayment _) :=
      prepareCall_of_fits rfl hfits
    unfold laterTokens at hprepare
    simp only [EthCoin.spendMakerPaymentV2Impl, EthCoin.prepareSpendMakerPaymentData, spendArgs,
      htoken, h.contracts_eq, h.amount_eq, okOr_some, orErr_ok, Except.mapError, pure, Except.pure,
      except_ok_bind, haction, hprepare, laterTokens]
  · simp only [MakerPaymentParams.terms, laterTokens, ← hsecret]
    rfl

theorem carriesTerms_refundTimelock (habi : lib.abi.Lawful)
    (h : p.Converts coin contracts amount) {tx : SignedEthTx}
    (haction : tx.unsigned.action = .call contracts.makerSwapV2Contract)
    (htoken : coin.getTokenAddress = .ok coin.tokenAddress) :
    CarriesTerms lib makerSwapV2 "refundMakerPaymentTimelock" (lib.publicToAddress p.makerPub)
      tx.unsigned (p.terms lib coin amount)
      (coin.refundMakerPaymentV2TimelockImpl lib p.refundTimelockArgs) := by
  have hfits : List.Forall₂ ParamType.Fits refundMakerPaymentTimelock.paramTypes
      (p.laterTokens lib coin amount (lib.publicToAddress p.takerPub) p.takerSecretHash
        p.makerSecretHash) :=
    laterTokens_fits _ h.takerSecretHash_length h.makerSecretHash_length
  apply CarriesTerms.of_callData habi rfl hfits ?_ rfl
  have hprepare : prepareCall lib makerSwapV2 "refundMakerPaymentTimelock"
      (p.laterTokens lib coin amount (lib.publicToAddress p.takerPub) p.takerSecretHash
        p.makerSecretHash) = .ok (callData lib refundMakerPaymentTimelock _) :=
    prepareCall_of_fits rfl hfits
  unfold laterTokens at hprepare
  simp only [EthCoin.refundMakerPaymentV2TimelockImpl, refundTimelockArgs, htoken,
    h.contracts_eq, h.amount_eq, publicFromSlice_val,
    tryInto32_of_length h.takerSecretHash_length, tryInto32_of_length h.makerSecretHash_length,
    okOr_some, orErr_ok, pure, Except.pure, except_ok_bind, haction,
    prepareRefundMakerPaymentTimelockData, hprepare, laterTokens]

theorem carriesTerms_refundSecret (habi : lib.abi.Lawful)
    (h : p.Converts coin contracts amount) {tx : SignedEthTx}
    (haction : tx.unsigned.action = .call contracts.makerSwapV2Contract)
    (htoken : coin.getTokenAddress = .ok coin.tokenAddress) {secret : FixedBytes 32}
    (hsecret : (lib.sha256 secret.val).val = p.takerSecretHash) :
    CarriesTerms lib makerSwapV2 "refundMakerPaymentSecret" (lib.publicToAddress p.makerPub)
      tx.unsigned (p.terms lib coin amount)
      (coin.refundMakerPaymentV2SecretImpl lib (p.refundSecretArgs secret)) := by
  have hfits : List.Forall₂ ParamType.Fits refundMakerPaymentSecret.paramTypes
      (p.laterTokens lib coin amount (lib.publicToAddress p.takerPub) secret.val
        p.makerSecretHash) :=
    laterTokens_fits _ secret.property h.makerSecretHash_length
  apply CarriesTerms.of_callData habi rfl hfits
  · have hprepare : prepareCall lib makerSwapV2 "refundMakerPaymentSecret"
        (p.laterTokens lib coin amount (lib.publicToAddress p.takerPub) secret.val
          p.makerSecretHash) = .ok (callData lib refundMakerPaymentSecret _) :=
      prepareCall_of_fits rfl hfits
    unfold laterTokens at hprepare
    simp only [EthCoin.refundMakerPaymentV2SecretImpl, refundSecretArgs, htoken, h.contracts_eq,
      h.amount_eq, tryInto32_of_length h.makerSecretHash_length, okOr_some, orErr_ok, pure,
      Except.pure, except_ok_bind, haction, prepareRefundMakerPaymentSecretData, hprepare,
      laterTokens]
  · simp only [MakerPaymentParams.terms, ← hsecret]
    rfl

end MakerPaymentParams

namespace MakerPaymentParams

/-- The payment and the calls that the two sides build after it have the same terms. -/
structure Carried (p : MakerPaymentParams) (lib : EvmLib) (coin : EthCoin) (tx : SignedEthTx)
    (terms : PaymentTerms) : Prop where
  payment : termsOfCall lib makerSwapV2 coin.makerPaymentName (lib.publicToAddress p.makerPub)
    tx.unsigned = some terms
  spend : ∀ secret : FixedBytes 32, (lib.sha256 secret.val).val = p.makerSecretHash →
    CarriesTerms lib makerSwapV2 "spendMakerPayment" (lib.publicToAddress p.takerPub)
      tx.unsigned terms
      ((coin.ofOwner lib p.takerPub).spendMakerPaymentV2Impl lib (p.spendArgs secret))
  refundTimelock : CarriesTerms lib makerSwapV2 "refundMakerPaymentTimelock"
    (lib.publicToAddress p.makerPub) tx.unsigned terms
    ((coin.ofOwner lib p.makerPub).refundMakerPaymentV2TimelockImpl lib p.refundTimelockArgs)
  refundSecret : ∀ secret : FixedBytes 32, (lib.sha256 secret.val).val = p.takerSecretHash →
    CarriesTerms lib makerSwapV2 "refundMakerPaymentSecret" (lib.publicToAddress p.makerPub)
      tx.unsigned terms
      ((coin.ofOwner lib p.makerPub).refundMakerPaymentV2SecretImpl lib (p.refundSecretArgs secret))

theorem carried_of_accepted {lib : EvmLib} (habi : lib.abi.Lawful) {coin : EthCoin}
    {p : MakerPaymentParams} {tx : SignedEthTx} (hacc : p.Accepted lib coin tx) :
    ∃ contracts amount, p.Converts coin contracts amount ∧
      p.Carried lib coin tx (p.terms lib coin amount) ∧
      (coin.coinType = .eth → tx.unsigned.value = amount) := by
  obtain ⟨contracts, amount, h, haction, htoken, hvalue, hterms⟩ := accepted_call habi hacc
  refine ⟨contracts, amount, h, ⟨hterms, ?_, ?_, ?_⟩, hvalue⟩
  · intro secret hsecret
    exact carriesTerms_spend habi (h.ofOwner p.takerPub) haction htoken hsecret
  · exact carriesTerms_refundTimelock habi (h.ofOwner p.makerPub) haction htoken
  · intro secret hsecret
    exact carriesTerms_refundSecret habi (h.ofOwner p.makerPub) haction htoken hsecret

end MakerPaymentParams

end DeXFG.Evm
