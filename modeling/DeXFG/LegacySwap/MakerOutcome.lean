import DeXFG.LegacySwap.MakerSwap
import DeXFG.LegacySwap.TakerOutcome

/-!
# What a command of the maker does

Every way in which a command of the maker can end, with what the coins and the
taker have answered, and the fields that the command unwraps.
-/
namespace DeXFG.LegacySwap
open Ordermatch (MmNumber Uuid)
open SwapV2 (DexFee Side TransactionIdentifier CanRefundHtlc)
open Library.Process

namespace MakerSwap
open TakerSwap (Refunds)

/-- The data of a swap that has started. -/
structure StartedBy (X : SwapEnv) (s : MakerSwap) (d : MakerSwapData) : Prop where
  lockDuration : d.lockDuration = s.paymentLocktime
  makerPaymentLock : d.makerPaymentLock = d.startedAt + X.makerLockDuration d.lockDuration
  secret : d.secret = s.secret
  secretHash : d.secretHash = some (secretHash X s)
  myPersistentPub : d.myPersistentPub = s.myPersistentPub
  makerCoinSwapContractAddress : d.makerCoinSwapContractAddress = X.makerCoin.swapContractAddress
  takerCoinSwapContractAddress : d.takerCoinSwapContractAddress = X.takerCoin.swapContractAddress
  makerCoinHtlcPubkey :
    d.makerCoinHtlcPubkey = some (X.makerCoin.deriveHtlcPubkey (uniqueSwapData X s))
  takerCoinHtlcPubkey :
    d.takerCoinHtlcPubkey = some (X.takerCoin.deriveHtlcPubkey (uniqueSwapData X s))

/-- What the maker records of the taker's negotiation data. -/
def negotiatedData (msg : NegotiationDataMsg) (addrs : Option Bytes × Option Bytes) :
    TakerNegotiationData where
  takerPaymentLocktime := msg.paymentLocktime
  takerPubkey := h264Default
  makerCoinSwapContractAddr := addrs.1
  takerCoinSwapContractAddr := addrs.2
  makerCoinHtlcPubkey := some msg.makerCoinHtlcPub
  takerCoinHtlcPubkey := some msg.takerCoinHtlcPub

/-- The failures of a command after which the maker payment is refunded. -/
inductive Fails : MakerSwapCommand → MakerSwapEvent → Prop
  | dataNotSent (err) : Fails .waitForTakerPayment (.makerPaymentDataSendFailed err)
  | makerPaymentNotConfirmed (err) : Fails .waitForTakerPayment (.makerPaymentWaitConfirmFailed err)
  | takerPaymentNotReceived (err) : Fails .waitForTakerPayment (.takerPaymentValidateFailed err)
  | takerPaymentNotConfirmed (err) :
      Fails .validateTakerPayment (.takerPaymentWaitConfirmFailed err)
  | takerPaymentNotValidated (err) : Fails .validateTakerPayment (.takerPaymentValidateFailed err)
  | takerPaymentNotSpent (err) : Fails .spendTakerPayment (.takerPaymentSpendFailed err)
  | spendNotConfirmed (err) : Fails .confirmTakerPaymentSpend (.takerPaymentSpendConfirmFailed err)

/-- How a command can end, when the answers are in `R`. -/
inductive Outcome (X : SwapEnv) (R : (c : SwapCall) → c.Answer → Prop) (s : MakerSwap) :
    MakerSwapCommand → MakerSwap → Option MakerSwapCommand → List MakerSwapEvent → Prop
  | startFailed (err : SwapError) :
      Outcome X R s .start s (some .finish) [.startFailed err]
  | started (data : MakerSwapData) (hdata : StartedBy X s data) (watcherReward : Bool)
      (hreward : R .useWatcherReward watcherReward) :
      Outcome X R s .start (s.w ({ · with watcherReward })) (some .negotiate) [.started data]
  | negotiateFailed (err : SwapError) :
      Outcome X R s .negotiate s (some .finish) [.negotiateFailed err]
  | negotiated (msg : NegotiationDataMsg) (addrs : Option Bytes × Option Bytes)
      (hmsg : R (.recvNegotiationReply (getMyNegotiationData X s) negotiationTimeoutSec) (.ok msg))
      (haddrs : checkTakerData X s msg = .ok addrs) :
      Outcome X R s .negotiate s (some .waitForTakerFee) [.negotiated (negotiatedData msg addrs)]
  | takerFeeNotValidated (err : SwapError) :
      Outcome X R s .waitForTakerFee s (some .finish) [.takerFeeValidateFailed err]
  | takerFeeValidated (instructions : Option PaymentInstructions) (tx : TransactionIdentifier) :
      Outcome X R s .waitForTakerFee s (some .sendPayment)
        [.makerPaymentInstructionsReceived instructions, .takerFeeValidated tx]
  | makerPaymentNotSent (err : SwapError) :
      Outcome X R s .sendPayment s (some .finish) [.makerPaymentTransactionFailed err]
  | makerPaymentSent (tx : TransactionIdentifier) :
      Outcome X R s .sendPayment s (some .waitForTakerPayment) [.makerPaymentSent tx]
  | takerPaymentReceived (tx : TransactionIdentifier) :
      Outcome X R s .waitForTakerPayment s (some .validateTakerPayment)
        [.takerPaymentReceived tx, .takerPaymentWaitConfirmStarted]
  | takerRewardFailed (err : SwapError) :
      Outcome X R s .validateTakerPayment s (some .finish) [.makerPaymentTransactionFailed err]
  | takerPaymentValidated :
      Outcome X R s .validateTakerPayment s (some .spendTakerPayment)
        [.takerPaymentValidatedAndConfirmed]
  | takerPaymentSpent (tx : TransactionIdentifier) :
      Outcome X R s .spendTakerPayment s (some .confirmTakerPaymentSpend)
        [.takerPaymentSpent tx, .takerPaymentSpendConfirmStarted]
  | spendConfirmed (tx : TransactionIdentifier) (input : SwapV2.ConfirmPaymentInput)
      (hspend : s.mutable.takerPaymentSpend = some tx) (htx : input.paymentTx = tx.txHex)
      (hconfirm : R (.waitForConfirmations .taker input) (.ok ())) :
      Outcome X R s .confirmTakerPaymentSpend s (some .finish) [.takerPaymentSpendConfirmed]
  | failed {c : MakerSwapCommand} {e : MakerSwapEvent} (hfails : Fails c e) :
      Outcome X R s c s (some .prepareForMakerPaymentRefund)
        [e, .makerPaymentWaitRefundStarted s.waitRefundUntil]
  | refundStarted :
      Outcome X R s .prepareForMakerPaymentRefund s (some .refundMakerPayment)
        [.makerPaymentRefundStarted]
  | refundWaits : Outcome X R s .refundMakerPayment s (some .refundMakerPayment) []
  | refundFailed (err : SwapError) :
      Outcome X R s .refundMakerPayment s (some .finish) [.makerPaymentRefundFailed err]
  | refunded (tx : Option TransactionIdentifier) (hrefund : Refunds X R .maker tx) :
      Outcome X R s .refundMakerPayment s (some .finalizeMakerPaymentRefund)
        [.makerPaymentRefunded tx]
  | refundFinished :
      Outcome X R s .finalizeMakerPaymentRefund s (some .finish) [.makerPaymentRefundFinished]
  | finished : Outcome X R s .finish s none [.finished]

/-- The fields that the command unwraps are there. -/
def Finds (s : MakerSwap) : MakerSwapCommand → Prop
  | .waitForTakerPayment => s.mutable.makerPayment.isSome
  | .validateTakerPayment => s.mutable.takerPayment.isSome
  | .spendTakerPayment => s.mutable.takerPayment.isSome
  | .confirmTakerPaymentSpend => s.mutable.takerPaymentSpend.isSome
  | .refundMakerPayment => s.mutable.makerPayment.isSome
  | _ => True

/-- The payments that the command may send. -/
def Makes (c : MakerSwapCommand) : SwapCall → Prop
  | .sendMakerPayment _ => c = .sendPayment
  | .sendMakerSpendsTakerPayment _ => c = .spendTakerPayment
  | .sendTakerPayment _ => False
  | .sendTakerSpendsMakerPayment _ => False
  | _ => True

/-- The command ends in one of its outcomes, or panics for want of a field. -/
def Post (X : SwapEnv) (R : (c : SwapCall) → c.Answer → Prop) (s : MakerSwap)
    (c : MakerSwapCommand) : HandleResult MakerSwap MakerSwapEvent MakerSwapCommand → Prop
  | .ok (s', next, events) => Outcome X R s c s' next events
  | .error _ => ¬ Finds s c

section Commands

variable {X : SwapEnv} {R : (c : SwapCall) → c.Answer → Prop} {s : MakerSwap}

theorem start_sat : (start X s).Sat R (Makes .start) (Post X R s .start) := by
  unfold start
  apply sat_ask trivial
  rintro (e | _) -
  · exact .startFailed _
  apply sat_ask trivial
  rintro (e | _) -
  · exact .startFailed _
  apply sat_ask trivial
  rintro (e | _) -
  · exact .startFailed _
  intro startedAt
  apply sat_ask trivial
  rintro (e | makerBlock) -
  · exact .startFailed _
  apply sat_ask trivial
  rintro (e | takerBlock) -
  · exact .startFailed _
  apply sat_ask trivial
  intro watcherReward hreward
  apply Outcome.started _ _ watcherReward hreward
  constructor <;> rfl

theorem negotiationFailed_sat {e : SwapError} :
    (negotiationFailed s e).Sat R (Makes .negotiate) (Post X R s .negotiate) := by
  apply sat_ask trivial
  exact fun _ _ => .negotiateFailed _

theorem negotiate_sat : (negotiate X s).Sat R (Makes .negotiate) (Post X R s .negotiate) := by
  apply sat_ask trivial
  rintro (e | msg) hmsg
  · exact negotiationFailed_sat
  cases haddrs : checkTakerData X s msg with
  | error e =>
    simp only [haddrs]
    exact negotiationFailed_sat
  | ok addrs =>
    simp only [haddrs]
    exact .negotiated msg addrs hmsg haddrs

theorem validateFee_sat (args : ValidateFeeArgs) (attempts : ℕ) :
    (validateFee args attempts).Sat R (Makes .waitForTakerFee) (fun _ => True) := by
  induction attempts with
  | zero =>
    constructor
    · trivial
    · exact fun _ _ => trivial
  | succ attempts ih =>
    unfold validateFee
    apply sat_ask trivial
    rintro (e | _) -
    · apply sat_ask trivial
      exact fun _ _ => ih
    · trivial

theorem waitTakerFee_sat :
    (waitTakerFee X s).Sat R (Makes .waitForTakerFee) (Post X R s .waitForTakerFee) := by
  apply sat_ask trivial
  rintro (e | payload) -
  · exact .takerFeeNotValidated _
  cases hinstructions : validateInstructions X s payload with
  | error e =>
    simp only [hinstructions]
    exact .takerFeeNotValidated _
  | ok instructions =>
    cases X.takerCoin.newWithTakerPubkey s.mutable.data.makerCoin s.takerAmount
        s.mutable.otherTakerCoinHtlcPub with
    | noFee =>
      simp only [hinstructions]
      exact .takerFeeValidated _ _
    | _ =>
      cases htx : X.takerCoin.txEnumFromBytes payload.data with
      | error e =>
        simp only [hinstructions, htx]
        exact .takerFeeNotValidated _
      | ok tx =>
        simp only [hinstructions, htx]
        rw [Proc.bind_eq, sat_bind]
        apply sat_mono (fun _ h => h) _ (validateFee_sat _ _)
        rintro (e | _) -
        · exact .takerFeeNotValidated _
        · exact .takerFeeValidated _ _

theorem sat_setupWatcherReward {P : SwapCall → Prop} {β : Type} {wait : ℕ}
    {f : Except String (Option Evm.WatcherReward) → SwapProc β} {Q : β → Prop}
    (hP : ∀ reward wait, P (.getMakerWatcherReward reward wait))
    (h : ∀ a, (f a).Sat R P Q) : (setupWatcherReward s wait >>= f).Sat R P Q := by
  unfold setupWatcherReward
  split
  · apply sat_ask (hP _ _)
    exact fun a _ => h a
  · exact h _

theorem makerPayment_sat :
    (makerPayment X s).Sat R (Makes .sendPayment) (Post X R s .sendPayment) := by
  apply sat_ask trivial
  rintro (e | _ | tx) -
  · exact .makerPaymentNotSent _
  · intro now
    simp only [Proc.done_bind]
    split
    · exact .makerPaymentNotSent _
    apply sat_setupWatcherReward (fun _ _ => trivial)
    rintro (e | reward)
    · exact .makerPaymentNotSent _
    refine ⟨rfl, ?_⟩
    rintro (e | tx) -
    · exact .makerPaymentNotSent _
    · exact .makerPaymentSent _
  · apply sat_setupWatcherReward (fun _ _ => trivial)
    rintro (e | reward)
    · exact .makerPaymentNotSent _
    · exact .makerPaymentSent _

theorem waitForTakerPayment_sat : (waitForTakerPayment X s).Sat R (Makes .waitForTakerPayment)
    (Post X R s .waitForTakerPayment) := by
  unfold waitForTakerPayment
  cases hpayment : s.mutable.makerPayment with
  | none => simp [Post, Finds, hpayment]
  | some makerPayment =>
    apply sat_ask trivial
    rintro (e | instructions) -
    · exact .failed (.dataNotSent _)
    apply sat_ask trivial
    rintro (e | _) -
    · exact .failed (.makerPaymentNotConfirmed _)
    apply sat_ask trivial
    rintro (e | payload) -
    · exact .failed (.takerPaymentNotReceived _)
    cases htx : X.takerCoin.txEnumFromBytes payload with
    | error e =>
      simp only [htx]
      exact .failed (.takerPaymentNotReceived _)
    | ok tx =>
      simp only [htx]
      exact .takerPaymentReceived _

theorem validateTakerPayment_sat : (validateTakerPayment X s).Sat R (Makes .validateTakerPayment)
    (Post X R s .validateTakerPayment) := by
  unfold validateTakerPayment
  cases hpayment : s.mutable.takerPayment with
  | none => simp [Post, Finds, hpayment]
  | some takerPayment =>
    apply sat_ask trivial
    rintro (e | _) -
    · exact .failed (.takerPaymentNotConfirmed _)
    have hreward {wait : ℕ} {f : Except String (Option Evm.WatcherReward) → MakerProc}
        (h : ∀ a, (f a).Sat R (Makes .validateTakerPayment) (Post X R s .validateTakerPayment)) :
        (takerWatcherReward X s wait >>= f).Sat R (Makes .validateTakerPayment)
          (Post X R s .validateTakerPayment) := by
      unfold takerWatcherReward
      split
      · apply sat_ask trivial
        rintro (e | reward) -
        · exact h _
        · exact h _
      · exact h _
    apply hreward
    rintro (e | reward)
    · exact .takerRewardFailed _
    apply sat_ask trivial
    rintro (e | _) -
    · exact .failed (.takerPaymentNotValidated _)
    · exact .takerPaymentValidated

theorem spendTakerPayment_sat : (spendTakerPayment X s).Sat R (Makes .spendTakerPayment)
    (Post X R s .spendTakerPayment) := by
  unfold spendTakerPayment nowSec
  intro now
  simp only [Proc.bind_eq, Proc.done_bind]
  split
  · exact .failed (.takerPaymentNotSpent _)
  cases hpayment : s.mutable.takerPayment with
  | none => simp [Post, Finds, hpayment]
  | some takerPayment =>
    refine ⟨rfl, ?_⟩
    rintro (e | tx) -
    · apply TakerSwap.sat_broadcastErrTx (fun _ => trivial)
      exact .failed (.takerPaymentNotSpent _)
    · apply sat_ask trivial
      exact fun _ _ => .takerPaymentSpent _

theorem confirmTakerPaymentSpend_sat : (confirmTakerPaymentSpend s).Sat R
    (Makes .confirmTakerPaymentSpend) (Post X R s .confirmTakerPaymentSpend) := by
  unfold confirmTakerPaymentSpend
  cases hspend : s.mutable.takerPaymentSpend with
  | none => simp [Post, Finds, hspend]
  | some tx =>
    apply sat_ask trivial
    rintro (e | _) hconfirm
    · exact .failed (.spendNotConfirmed _)
    · exact .spendConfirmed tx _ hspend rfl hconfirm

theorem prepareForMakerPaymentRefund_sat : (prepareForMakerPaymentRefund s).Sat R
    (Makes .prepareForMakerPaymentRefund) (Post X R s .prepareForMakerPaymentRefund) := by
  unfold prepareForMakerPaymentRefund
  cases s.mutable.takerPayment with
  | none => exact .refundStarted
  | some payment =>
    apply sat_ask trivial
    exact fun _ _ => .refundStarted

theorem refundMakerPayment_sat : (refundMakerPayment X s).Sat R (Makes .refundMakerPayment)
    (Post X R s .refundMakerPayment) := by
  unfold refundMakerPayment
  cases hpayment : s.mutable.makerPayment with
  | none => simp [Post, Finds, hpayment]
  | some makerPayment =>
    simp only
    split
    · rename_i hauto
      apply sat_ask trivial
      rintro (e | _) hrefund
      · exact .refundFailed _
      · exact .refunded none (.auto _ _ hauto hrefund)
    rename_i hauto
    apply sat_ask trivial
    rintro (e | _ | toSleep) -
    · apply sat_ask trivial
      exact fun _ _ => .refundWaits
    · apply sat_ask trivial
      rintro (e | tx) hrefund
      · apply TakerSwap.sat_broadcastErrTx (fun _ => trivial)
        exact .refundFailed _
      · apply sat_ask trivial
        exact fun _ _ => .refunded _ (.sent _ tx (Bool.eq_false_iff.mpr hauto) hrefund)
    · apply sat_ask trivial
      exact fun _ _ => .refundWaits

theorem finalizeMakerPaymentRefund_sat : (finalizeMakerPaymentRefund s).Sat R
    (Makes .finalizeMakerPaymentRefund) (Post X R s .finalizeMakerPaymentRefund) := by
  unfold finalizeMakerPaymentRefund
  cases s.mutable.takerPayment with
  | none => exact .refundFinished
  | some payment =>
    apply sat_ask trivial
    exact fun _ _ => .refundFinished

/-- Every command of the maker ends in one of its outcomes. -/
theorem handleCommand_sat (c : MakerSwapCommand) :
    (handleCommand X c s).Sat R (Makes c) (Post X R s c) := by
  cases c with
  | start => exact start_sat
  | negotiate => exact negotiate_sat
  | waitForTakerFee => exact waitTakerFee_sat
  | sendPayment => exact makerPayment_sat
  | waitForTakerPayment => exact waitForTakerPayment_sat
  | validateTakerPayment => exact validateTakerPayment_sat
  | spendTakerPayment => exact spendTakerPayment_sat
  | confirmTakerPaymentSpend => exact confirmTakerPaymentSpend_sat
  | prepareForMakerPaymentRefund => exact prepareForMakerPaymentRefund_sat
  | refundMakerPayment => exact refundMakerPayment_sat
  | finalizeMakerPaymentRefund => exact finalizeMakerPaymentRefund_sat
  | finish => exact .finished

end Commands

end MakerSwap

end DeXFG.LegacySwap
