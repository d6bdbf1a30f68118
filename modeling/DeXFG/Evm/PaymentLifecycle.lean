import DeXFG.Evm.TakerPayment
import DeXFG.Evm.MakerPayment

/-!
# Both payments of a V2 swap

The two sides agree on the calls that lock the payments, and on their terms in
every call after them.
-/
namespace DeXFG.Evm
open Library.StaticAbi

/-- What the other side accepts is what the honest side sends, as long as the amount is positive,
and each later call is built and carries the terms of the payment. -/
theorem payments_agree (lib : EvmLib) (habi : lib.abi.Lawful) (coin : EthCoin) :
    (∀ (p : TakerPaymentParams) (tx : SignedEthTx),
      (p.Accepted lib coin tx ↔ 0 < p.tradingAmount ∧ p.Honest lib coin tx) ∧
      (p.Accepted lib coin tx → ∃ contracts dexFee amount,
        p.Converts lib coin contracts dexFee amount ∧
        p.Carried lib coin tx (p.terms lib coin dexFee amount) ∧
        (coin.coinType = .eth → tx.unsigned.value.val = amount.val + dexFee.val))) ∧
    ∀ (p : MakerPaymentParams) (tx : SignedEthTx),
      (p.Accepted lib coin tx ↔ 0 < p.amount ∧ p.Honest lib coin tx) ∧
      (p.Accepted lib coin tx → ∃ contracts amount, p.Converts coin contracts amount ∧
        p.Carried lib coin tx (p.terms lib coin amount) ∧
        (coin.coinType = .eth → tx.unsigned.value = amount)) := by
  constructor
  · intro p tx
    exact ⟨TakerPaymentParams.accepted_iff_honest habi,
      TakerPaymentParams.carried_of_accepted habi⟩
  · intro p tx
    exact ⟨MakerPaymentParams.accepted_iff_honest habi,
      MakerPaymentParams.carried_of_accepted habi⟩

namespace Sample

def shortSignature (f : AbiFunction) : FixedBytes 4 :=
  beBytes 4 <|
    match f.name with
    | "ethTakerPayment" => 0x9b4603f2
    | "erc20TakerPayment" => 0xd6a71eb4
    | "takerPaymentApprove" => 0x146e5b24
    | "spendTakerPayment" => 0xcc90c199
    | "refundTakerPaymentTimelock" => 0x65e26617
    | "refundTakerPaymentSecret" => 0x3e6af5f2
    | "ethPayment" => 0x152cf3af
    | "erc20Payment" => 0x9b415b2a
    | _ => 0

theorem length_takerSecret : (List.replicate 32 (1 : UInt8)).length = 32 :=
  List.length_replicate

theorem length_makerSecret : (List.replicate 32 (2 : UInt8)).length = 32 :=
  List.length_replicate

def takerSecret : FixedBytes 32 := ⟨List.replicate 32 1, length_takerSecret⟩

def makerSecret : FixedBytes 32 := ⟨List.replicate 32 2, length_makerSecret⟩

def takerSecretHash : FixedBytes 32 :=
  beBytes 32 0x72cd6e8422c407fb6d098690f1130b7ded7ec2f7f5e1d30bd9d521f015363793

def makerSecretHash : FixedBytes 32 :=
  beBytes 32 0x75877bb41d393b5fb8455ce60ecd8dda001d06316496b14dfa7f895656eeca4a

def swapId : FixedBytes 32 :=
  beBytes 32 0x7927f43a6db7baa1e3e82e7a3a05160923a14616c5bf5ef697a9c9d3be1d56ca

/-- The secret hash and the id of a legacy swap. -/
def legacySecretHash : List UInt8 := leBytes 20 7

def legacySwapId : FixedBytes 32 :=
  beBytes 32 0x544612f8b5dbdc73b05a290cf58ff0d781d37d526dfcf9036354e46dd7937930

def sha256 (input : List UInt8) : FixedBytes 32 :=
  if input = takerSecret.val then takerSecretHash
  else if input = makerSecret.val then makerSecretHash
  else if input = leBytes 8 1700007200 ++ makerSecretHash.val then swapId
  else if input = leBytes 4 1700007200 ++ legacySecretHash then legacySwapId
  else beBytes 32 0

def takerPub : Public :=
  ⟨(beBytes 32 0x79be667ef9dcbbac55a06295ce870b07029bfcdb2dce28d959f2815b16f81798).val ++
    (beBytes 32 0x483ada7726a3c4655da4fbfc0e1108a8fd17b448a68554199c47d08ffb10d4b8).val, by
      simp [beBytes]⟩

def makerPub : Public :=
  ⟨(beBytes 32 0xc6047f9441ed7d6d3045406e95c07cd85c778e4b8cef3ca7abac09b95c709ee5).val ++
    (beBytes 32 0x1ae168fea63dc339a3c58419466ceaeef7f632653266d0e1236431a950cfe52a).val, by
      simp [beBytes]⟩

/-- The keys in their compressed form. -/
def takerPubkey : List UInt8 := 2 :: takerPub.val.take 32

def makerPubkey : List UInt8 := 2 :: makerPub.val.take 32

def publicKeyFromSlice (pubkey : List UInt8) : Except String Public :=
  if pubkey = takerPubkey then .ok takerPub
  else if pubkey = makerPubkey then .ok makerPub
  else .error "InvalidPublicKey"

def publicToAddress (pub : Public) : Address :=
  if pub = takerPub then beBytes 20 0x7e5f4552091a69125d5dfcb7b8c2659029395bdf
  else if pub = makerPub then beBytes 20 0x2b5ad5c4795c026514f8317c7a215e218dccd6cf
  else defaultAddress

def lib : EvmLib where
  abi := .ofStatic shortSignature
  sha256 := sha256
  ripemd160 _ := ⟨List.replicate 20 0, length_defaultAddress⟩
  publicToAddress := publicToAddress
  publicKeyFromSlice := publicKeyFromSlice
  fromRatioToDec q := q

def contracts : SwapV2Contracts := ⟨beBytes 20 1, beBytes 20 2, beBytes 20 3⟩

def ethCoin : EthCoin := ⟨.eth, 18, some contracts, none⟩

def erc20Coin : EthCoin := ⟨.erc20 "ETH" (beBytes 20 4), 6, some contracts, none⟩

/-- A taker payment of `amount` with a fee of a hundredth. -/
def params (amount : ℚ) : TakerPaymentParams where
  fundingTimeLock := 1700000000
  paymentTimeLock := 1700007200
  takerSecretHash := takerSecretHash.val
  makerSecretHash := makerSecretHash.val
  takerPub := takerPub
  makerPub := makerPub
  dexFee := .standard (1 / 100)
  premiumAmount := 0
  tradingAmount := amount

def fundingTx (value : U256) (f : AbiFunction) (tokens : List Token) : SignedEthTx :=
  ⟨publicToAddress takerPub, .call contracts.takerSwapV2Contract, value, callData lib f tokens⟩

/-- The payment of one coin, and of none, with their fee. -/
def ethTx : SignedEthTx :=
  fundingTx ⟨1010000000000000000, by norm_num⟩ ethTakerPayment
    ((params 1).ethTokens lib ⟨10000000000000000, by norm_num⟩)

def emptyEthTx : SignedEthTx :=
  fundingTx ⟨10000000000000000, by norm_num⟩ ethTakerPayment
    ((params 0).ethTokens lib ⟨10000000000000000, by norm_num⟩)

theorem one_fits : 1 < 2 ^ 256 := by norm_num

theorem million_fits : 1000000 < 2 ^ 256 := by norm_num

/-- The payment of one token, with a value that the contract has no use for. -/
def erc20Tx : SignedEthTx :=
  fundingTx ⟨1, one_fits⟩ erc20TakerPayment
    ((params 1).erc20Tokens lib ⟨10000, by norm_num⟩ ⟨1000000, million_fits⟩ (beBytes 20 4))

end Sample

theorem payments_agree_sample :
    (Sample.params 1).Accepted Sample.lib Sample.ethCoin Sample.ethTx ∧
      ∃ contracts dexFee amount,
        (Sample.params 1).Converts Sample.lib Sample.ethCoin contracts dexFee amount ∧
        (Sample.params 1).Carried Sample.lib Sample.ethCoin Sample.ethTx
          ((Sample.params 1).terms Sample.lib Sample.ethCoin dexFee amount) ∧
        (Sample.ethCoin.coinType = .eth →
          Sample.ethTx.unsigned.value.val = amount.val + dexFee.val) := by
  have habi : Sample.lib.abi.Lawful := Ethabi.ofStatic_lawful Sample.shortSignature
  have hacc : (Sample.params 1).Accepted Sample.lib Sample.ethCoin Sample.ethTx := by
    unfold TakerPaymentParams.Accepted
    decide +kernel
  exact ⟨hacc, ((payments_agree Sample.lib habi Sample.ethCoin).1 _ _).2 hacc⟩

/-- A payment of nothing is built and not accepted; the value of an ERC20 call is not part of what
was built. -/
theorem payments_not_agree_sample :
    ((Sample.params 0).Honest Sample.lib Sample.ethCoin Sample.emptyEthTx ∧
        ¬ (Sample.params 0).Accepted Sample.lib Sample.ethCoin Sample.emptyEthTx) ∧
      (Sample.params 1).Accepted Sample.lib Sample.erc20Coin Sample.erc20Tx ∧
        Sample.erc20Tx.unsigned.value ≠ U256.zero := by
  refine ⟨⟨⟨rfl, Sample.emptyEthTx.unsigned, ?_, rfl, rfl, fun _ => rfl⟩, ?_⟩, ?_, ?_⟩
  · decide +kernel
  · unfold TakerPaymentParams.Accepted
    decide +kernel
  · unfold TakerPaymentParams.Accepted
    decide +kernel
  · decide +kernel

end DeXFG.Evm
