import DeXFG.LegacySwap.TakerRestart

/-!
# What a command of the taker does

Every way in which a command of the taker can end, with what the coins and the
maker have answered, and the fields that the command unwraps.
-/
namespace DeXFG.LegacySwap
open Ordermatch (MmNumber Uuid)
open SwapV2 (DexFee Side TransactionIdentifier CanRefundHtlc absDiff maxStartedAtDiff)
open Library.Process

section Ask

variable {R : (c : SwapCall) → c.Answer → Prop} {P : SwapCall → Prop} {β : Type}

theorem sat_ask {c : SwapCall} {f : c.Answer → SwapProc β} {Q : β → Prop} (hP : P c)
    (h : ∀ a, R c a → (f a).Sat R P Q) : (c.ask >>= f).Sat R P Q := ⟨hP, h⟩

end Ask

namespace TakerSwap

/-- The data of a swap that has started. -/
structure StartedBy (X : SwapEnv) (s : TakerSwap) (d : TakerSwapData) : Prop where
  lockDuration : d.lockDuration = s.paymentLocktime
  takerPaymentLock : d.takerPaymentLock = d.startedAt + d.lockDuration
  makerPaymentWait : d.makerPaymentWait = waitForMakerPaymentConfUntil d.startedAt d.lockDuration
  myPersistentPub : d.myPersistentPub = s.myPersistentPub
  makerCoinSwapContractAddress : d.makerCoinSwapContractAddress = X.makerCoin.swapContractAddress
  takerCoinSwapContractAddress : d.takerCoinSwapContractAddress = X.takerCoin.swapContractAddress
  makerCoinHtlcPubkey : d.makerCoinHtlcPubkey = some (X.makerCoin.deriveHtlcPubkey s.uniqueSwapData)
  takerCoinHtlcPubkey : d.takerCoinHtlcPubkey = some (X.takerCoin.deriveHtlcPubkey s.uniqueSwapData)

/-- What the taker records of the maker's negotiation data. -/
def negotiatedData (msg : NegotiationDataMsg) (addrs : Option Bytes × Option Bytes) :
    MakerNegotiationData where
  makerPaymentLocktime := msg.paymentLocktime
  makerPubkey := h264Default
  secretHash := msg.secretHash
  makerCoinSwapContractAddr := addrs.1
  takerCoinSwapContractAddr := addrs.2
  makerCoinHtlcPubkey := some msg.makerCoinHtlcPub
  takerCoinHtlcPubkey := some msg.takerCoinHtlcPub

/-- The answer of a coin on which a recorded refund rests. -/
inductive Refunds (X : SwapEnv) (R : (c : SwapCall) → c.Answer → Prop) (side : Side) :
    Option TransactionIdentifier → Prop
  | auto (tx : Bytes) (locktime : ℕ) (hauto : (X.coin side).isAutoRefundable = true)
      (hrefund : R (.waitForHtlcRefund side tx locktime) (.ok ())) : Refunds X R side none
  | sent (args : RefundPaymentArgs) (tx : Bytes)
      (hauto : (X.coin side).isAutoRefundable = false)
      (hrefund : R (.sendRefundsPayment side args) (.ok tx)) :
      Refunds X R side (some ((X.coin side).ident tx))

/-- How a command can end, when the answers are in `R`. -/
inductive Outcome (X : SwapEnv) (R : (c : SwapCall) → c.Answer → Prop) (s : TakerSwap) :
    TakerSwapCommand → TakerSwap → Option TakerSwapCommand → List TakerSwapEvent → Prop
  | startFailed (err : SwapError) :
      Outcome X R s .start s (some .finish) [.startFailed err]
  | started (data : TakerSwapData) (hdata : StartedBy X s data) (watcherReward : Bool)
      (hreward : R .useWatcherReward watcherReward) :
      Outcome X R s .start (s.w ({ · with watcherReward })) (some .negotiate) [.started data]
  | negotiateFailed (err : SwapError) :
      Outcome X R s .negotiate s (some .finish) [.negotiateFailed err]
  | negotiated (msg : NegotiationDataMsg) (addrs : Option Bytes × Option Bytes)
      (hmsg : R (.recvNegotiation negotiateTimeoutSec) (.ok msg))
      (haddrs : checkMakerData X s msg = .ok addrs) :
      Outcome X R s .negotiate s (some .sendTakerFee) [.negotiated (negotiatedData msg addrs)]
  | takerFeeSendFailed (err : SwapError) :
      Outcome X R s .sendTakerFee s (some .finish) [.takerFeeSendFailed err]
  | takerFeeSent (tx : TransactionIdentifier) :
      Outcome X R s .sendTakerFee s (some .waitForMakerPayment) [.takerFeeSent tx]
  | makerPaymentNotReceived (err : SwapError) :
      Outcome X R s .waitForMakerPayment s (some .finish) [.makerPaymentValidateFailed err]
  | makerPaymentReceived (instructions : Option PaymentInstructions)
      (tx : TransactionIdentifier) :
      Outcome X R s .waitForMakerPayment s (some .validateMakerPayment)
        [.takerPaymentInstructionsReceived instructions, .makerPaymentReceived tx,
          .makerPaymentWaitConfirmStarted]
  | makerPaymentNotConfirmed (err : SwapError) :
      Outcome X R s .validateMakerPayment s (some .finish) [.makerPaymentWaitConfirmFailed err]
  | makerRewardFailed (err : SwapError) :
      Outcome X R s .validateMakerPayment s (some .finish) [.takerPaymentTransactionFailed err]
  | makerPaymentNotValidated (err : SwapError) :
      Outcome X R s .validateMakerPayment s (some .finish) [.makerPaymentValidateFailed err]
  | makerPaymentValidated :
      Outcome X R s .validateMakerPayment s (some .sendTakerPayment)
        [.makerPaymentValidatedAndConfirmed]
  | takerPaymentNotSent (err : SwapError) :
      Outcome X R s .sendTakerPayment s (some .finish) [.takerPaymentTransactionFailed err]
  | takerPaymentSent (tx : TransactionIdentifier) :
      Outcome X R s .sendTakerPayment s (some .waitForTakerPaymentSpend) [.takerPaymentSent tx]
  | takerPaymentSentToWatchers (tx : TransactionIdentifier) (spend refund : Option Bytes) :
      Outcome X R s .sendTakerPayment s (some .waitForTakerPaymentSpend)
        [.takerPaymentSent tx, .watcherMessageSent spend refund]
  | takerPaymentNotSpent (err : SwapError) :
      Outcome X R s .waitForTakerPaymentSpend s (some .prepareForTakerPaymentRefund)
        [.takerPaymentWaitForSpendFailed err, .takerPaymentWaitRefundStarted s.waitRefundUntil]
  | secretNotExtracted (err : SwapError) (tx : Bytes)
      (hextract : R (.extractSecret .taker s.mutable.secretHash tx) (.error err)) :
      Outcome X R s .waitForTakerPaymentSpend s (some .finish)
        [.takerPaymentWaitForSpendFailed err]
  | takerPaymentSpent (tx secret : Bytes)
      (hextract : R (.extractSecret .taker s.mutable.secretHash tx) (.ok secret)) :
      Outcome X R s .waitForTakerPaymentSpend s (some .spendMakerPayment)
        [.takerPaymentSpent { transaction := X.takerCoin.ident tx, secret }]
  | makerPaymentNotSpent (err : SwapError) :
      Outcome X R s .spendMakerPayment s (some .finish) [.makerPaymentSpendFailed err]
  | makerPaymentSpent (tx : TransactionIdentifier) :
      Outcome X R s .spendMakerPayment s (some .confirmMakerPaymentSpend) [.makerPaymentSpent tx]
  | spendNotConfirmed (err : SwapError) :
      Outcome X R s .confirmMakerPaymentSpend s (some .prepareForTakerPaymentRefund)
        [.makerPaymentSpendConfirmFailed err, .takerPaymentWaitRefundStarted s.waitRefundUntil]
  | spendConfirmed (tx : TransactionIdentifier) (input : SwapV2.ConfirmPaymentInput)
      (hspend : s.mutable.makerPaymentSpend = some tx) (htx : input.paymentTx = tx.txHex)
      (hconfirm : R (.waitForConfirmations .maker input) (.ok ())) :
      Outcome X R s .confirmMakerPaymentSpend s (some .finish) [.makerPaymentSpendConfirmed]
  | refundStarted :
      Outcome X R s .prepareForTakerPaymentRefund s (some .refundTakerPayment)
        [.takerPaymentRefundStarted]
  | refundWaits : Outcome X R s .refundTakerPayment s (some .refundTakerPayment) []
  | refundFailed (err : SwapError) :
      Outcome X R s .refundTakerPayment s (some .finish) [.takerPaymentRefundFailed err]
  | refunded (tx : Option TransactionIdentifier) (hrefund : Refunds X R .taker tx) :
      Outcome X R s .refundTakerPayment s (some .finalizeTakerPaymentRefund)
        [.takerPaymentRefunded tx]
  | refundFinished :
      Outcome X R s .finalizeTakerPaymentRefund s (some .finish) [.takerPaymentRefundFinished]
  | finished : Outcome X R s .finish s none [.finished]

/-- The fields that the command unwraps are there. -/
def Finds (s : TakerSwap) : TakerSwapCommand → Prop
  | .waitForMakerPayment => s.mutable.takerFee.isSome
  | .validateMakerPayment => s.mutable.makerPayment.isSome
  | .sendTakerPayment => s.mutable.makerPayment.isSome ∧ s.mutable.takerFee.isSome
  | .waitForTakerPaymentSpend =>
    s.mutable.takerPayment.isSome ∧
      (s.mutable.makerPaymentSpendPreimage.isSome →
        s.mutable.makerPayment.isSome ∧ s.mutable.takerFee.isSome)
  | .spendMakerPayment => s.mutable.makerPayment.isSome
  | .confirmMakerPaymentSpend => s.mutable.makerPaymentSpend.isSome
  | .prepareForTakerPaymentRefund => s.mutable.makerPayment.isSome
  | .refundTakerPayment => s.mutable.takerPayment.isSome
  | .finalizeTakerPaymentRefund => s.mutable.makerPayment.isSome
  | _ => True

/-- The payments that the command may send. -/
def Makes (c : TakerSwapCommand) : SwapCall → Prop
  | .sendTakerPayment _ => c = .sendTakerPayment
  | .sendTakerSpendsMakerPayment _ => c = .spendMakerPayment
  | .sendMakerPayment _ => False
  | .sendMakerSpendsTakerPayment _ => False
  | _ => True

/-- The command ends in one of its outcomes, or panics for want of a field. -/
def Post (X : SwapEnv) (R : (c : SwapCall) → c.Answer → Prop) (s : TakerSwap)
    (c : TakerSwapCommand) : HandleResult TakerSwap TakerSwapEvent TakerSwapCommand → Prop
  | .ok (s', next, events) => Outcome X R s c s' next events
  | .error _ => ¬ Finds s c

section Commands

variable {X : SwapEnv} {R : (c : SwapCall) → c.Answer → Prop} {s : TakerSwap}

theorem sat_broadcastErrTx {P : SwapCall → Prop} {β : Type} {side : Side} {e : TransactionErr}
    {f : Unit → SwapProc β} {Q : β → Prop} (hP : ∀ tx, P (.broadcastP2pTxMsg side tx))
    (h : (f ()).Sat R P Q) : (broadcastErrTx side e >>= f).Sat R P Q := by
  unfold broadcastErrTx
  cases e.tx with
  | none => exact h
  | some tx => exact sat_ask (hP tx) fun _ _ => h

theorem start_sat : (start X s).Sat R (Makes .start) (Post X R s .start) := by
  unfold start
  generalize X.takerCoin.newWithTakerPubkey _ _ _ = dexFee
  have hfee {f : Except String Unit → TakerProc}
      (h : ∀ a, (f a).Sat R (Makes .start) (Post X R s .start)) :
      (feeToSendDexFee dexFee >>= f).Sat R (Makes .start) (Post X R s .start) := by
    cases dexFee with
    | noFee => exact h _
    | standard _ => exact sat_ask trivial fun a _ => h a
    | withBurn _ _ _ => exact sat_ask trivial fun a _ => h a
  apply hfee
  rintro (e | _)
  · exact .startFailed _
  apply sat_ask trivial
  rintro (e | _) -
  · exact .startFailed _
  apply sat_ask trivial
  rintro (e | _) -
  · exact .startFailed _
  apply sat_ask trivial
  rintro (e | _) -
  · exact .startFailed _
  intro startedAt
  apply sat_ask trivial
  rintro (e | makerBlock) -
  · exact .startFailed _
  apply sat_ask trivial
  rintro (e | takerBlock) -
  · exact .startFailed _
  apply sat_ask trivial
  intro watcherReward hreward
  apply Outcome.started _ _ watcherReward hreward
  constructor <;> rfl

theorem negotiate_sat : (negotiate X s).Sat R (Makes .negotiate) (Post X R s .negotiate) := by
  apply sat_ask trivial
  rintro (e | msg) hmsg
  · exact .negotiateFailed _
  cases haddrs : checkMakerData X s msg with
  | error e =>
    simp only [haddrs]
    exact .negotiateFailed _
  | ok addrs =>
    simp only [haddrs]
    apply sat_ask trivial
    rintro (e | _ | _) -
    · exact .negotiateFailed _
    · exact .negotiateFailed _
    · exact .negotiated msg addrs hmsg haddrs

theorem sendTakerFee_sat :
    (sendTakerFee X s).Sat R (Makes .sendTakerFee) (Post X R s .sendTakerFee) := by
  unfold sendTakerFee nowSec
  intro now
  simp only [Proc.bind_eq, Proc.done_bind]
  split
  · exact .takerFeeSendFailed _
  cases X.takerCoin.newWithTakerPubkey s.mutable.data.makerCoin s.takerAmount
    s.myTakerCoinHtlcPub with
  | noFee => exact .takerFeeSent _
  | standard _ =>
    apply sat_ask trivial
    rintro (e | tx) -
    · exact .takerFeeSendFailed _
    · exact .takerFeeSent _
  | withBurn _ _ _ =>
    apply sat_ask trivial
    rintro (e | tx) -
    · exact .takerFeeSendFailed _
    · exact .takerFeeSent _

theorem waitForMakerPayment_sat : (waitForMakerPayment X s).Sat R (Makes .waitForMakerPayment)
    (Post X R s .waitForMakerPayment) := by
  unfold waitForMakerPayment
  cases hfee : s.mutable.takerFee with
  | none => simp [Post, Finds, hfee]
  | some takerFee =>
    apply sat_ask trivial
    rintro (e | instructions) -
    · exact .makerPaymentNotReceived _
    apply sat_ask trivial
    rintro (e | payload) -
    · exact .makerPaymentNotReceived _
    cases hinstructions : validateInstructions X s payload with
    | error e =>
      simp only [hinstructions]
      exact .makerPaymentNotReceived _
    | ok instructions =>
      cases htx : X.makerCoin.txEnumFromBytes payload.data with
      | error e =>
        simp only [hinstructions, htx]
        exact .makerPaymentNotReceived _
      | ok tx =>
        simp only [hinstructions, htx]
        exact .makerPaymentReceived _ _

theorem validateMakerPayment_sat : (validateMakerPayment X s).Sat R (Makes .validateMakerPayment)
    (Post X R s .validateMakerPayment) := by
  unfold validateMakerPayment
  cases hpayment : s.mutable.makerPayment with
  | none => simp [Post, Finds, hpayment]
  | some makerPayment =>
    apply sat_ask trivial
    rintro (e | _) -
    · exact .makerPaymentNotConfirmed _
    have hreward {f : Except String (Option Evm.WatcherReward) → TakerProc}
        (h : ∀ a, (f a).Sat R (Makes .validateMakerPayment) (Post X R s .validateMakerPayment)) :
        (makerWatcherReward s >>= f).Sat R (Makes .validateMakerPayment)
          (Post X R s .validateMakerPayment) := by
      unfold makerWatcherReward
      split
      · exact sat_ask trivial fun a _ => h a
      · exact h _
    apply hreward
    rintro (e | reward)
    · exact .makerRewardFailed _
    apply sat_ask trivial
    rintro (e | _) -
    · exact .makerPaymentNotValidated _
    · exact .makerPaymentValidated

theorem createWatcherData_eq_none {taker spend refund : Bytes}
    (h : createWatcherData s taker spend refund = none) :
    ¬ (s.mutable.makerPayment.isSome ∧ s.mutable.takerFee.isSome) := by
  unfold createWatcherData at h
  cases hfee : s.mutable.takerFee with
  | none => simp
  | some _ =>
    cases hpayment : s.mutable.makerPayment with
    | none => simp
    | some _ => simp [hfee, hpayment] at h

/-- What comes of the watchers' part of a payment. -/
inductive Watched (s : TakerSwap) : Except String (Option TakerSwapEvent) → Prop
  | panic (e : String) (h : ¬ (s.mutable.makerPayment.isSome ∧ s.mutable.takerFee.isSome)) :
      Watched s (.error e)
  | notSent : Watched s (.ok none)
  | sent (spend refund : Option Bytes) : Watched s (.ok (some (.watcherMessageSent spend refund)))

theorem processWatcherLogic_sat (tx : Bytes) :
    (processWatcherLogic X s tx).Sat R (Makes .sendTakerPayment) (Watched s) := by
  unfold processWatcherLogic
  split
  · exact .notSent
  cases hpayment : s.mutable.makerPayment with
  | none => exact .panic _ (by simp [hpayment])
  | some makerPayment =>
    apply sat_ask trivial
    rintro (e | spend) -
    · exact .notSent
    apply sat_ask trivial
    rintro (e | refund) -
    · exact .notSent
    cases hdata : createWatcherData s (X.takerCoin.txHashAsBytes tx) spend refund with
    | none =>
      simp only [hdata]
      exact .panic _ (createWatcherData_eq_none hdata)
    | some data =>
      simp only [hdata]
      apply sat_ask trivial
      exact fun _ _ => .sent _ _

theorem takerPaymentSent_sat (tx : Bytes) : (takerPaymentSent X s tx).Sat R
    (Makes .sendTakerPayment) (Post X R s .sendTakerPayment) := by
  unfold takerPaymentSent
  rw [Proc.bind_eq, sat_bind]
  apply sat_mono (fun _ h => h) _ (processWatcherLogic_sat tx)
  rintro _ (⟨e, h⟩ | _ | ⟨spend, refund⟩)
  · exact h
  · exact .takerPaymentSent _
  · exact .takerPaymentSentToWatchers _ _ _

theorem sat_setupWatcherReward {P : SwapCall → Prop} {β : Type}
    {f : Except String (Option Evm.WatcherReward) → SwapProc β} {Q : β → Prop}
    (hP : ∀ coin other reward wait, P (.getTakerWatcherReward coin other reward wait))
    (h : ∀ a, (f a).Sat R P Q) : (setupWatcherReward X s >>= f).Sat R P Q := by
  unfold setupWatcherReward
  split
  · apply sat_ask (hP _ _ _ _)
    rintro (e | reward) -
    · exact h _
    · exact h _
  · exact h _

theorem sendTakerPayment_sat : (sendTakerPayment X s).Sat R (Makes .sendTakerPayment)
    (Post X R s .sendTakerPayment) := by
  apply sat_ask trivial
  rintro (e | _ | tx) -
  · exact .takerPaymentNotSent _
  · intro now
    simp only [Proc.done_bind]
    split
    · exact .takerPaymentNotSent _
    apply sat_setupWatcherReward (fun _ _ _ _ => trivial)
    rintro (e | reward)
    · exact .takerPaymentNotSent _
    refine ⟨rfl, ?_⟩
    rintro (e | tx) -
    · exact .takerPaymentNotSent _
    · exact takerPaymentSent_sat tx
  · apply sat_setupWatcherReward (fun _ _ _ _ => trivial)
    rintro (e | reward)
    · exact .takerPaymentNotSent _
    · exact takerPaymentSent_sat tx

theorem watcherMsg_eq_error {tx : TransactionIdentifier} {e : String}
    (h : watcherMsg X s tx = .error e) : ¬ Finds s .waitForTakerPaymentSpend := by
  unfold watcherMsg at h
  split at h
  · cases h
  split at h
  · rename_i spend refund hspend hrefund
    split at h
    · cases h
    · rename_i hdata
      intro hfinds
      exact createWatcherData_eq_none hdata (hfinds.2 (by simp [hspend]))
  · cases h

theorem waitForTakerPaymentSpend_sat : (waitForTakerPaymentSpend X s).Sat R
    (Makes .waitForTakerPaymentSpend) (Post X R s .waitForTakerPaymentSpend) := by
  unfold waitForTakerPaymentSpend
  cases hpayment : s.mutable.takerPayment with
  | none => simp [Post, Finds, hpayment]
  | some takerPayment =>
    cases hmsg : watcherMsg X s takerPayment with
    | error e =>
      simp only [hmsg]
      exact watcherMsg_eq_error hmsg
    | ok msg =>
      simp only [hmsg]
      apply sat_ask trivial
      rintro (e | tx) -
      · exact .takerPaymentNotSpent _
      apply sat_ask trivial
      rintro (e | secret) hextract
      · exact .secretNotExtracted _ tx hextract
      · exact .takerPaymentSpent tx secret hextract

theorem spendMakerPayment_sat : (spendMakerPayment X s).Sat R (Makes .spendMakerPayment)
    (Post X R s .spendMakerPayment) := by
  unfold spendMakerPayment
  cases hpayment : s.mutable.makerPayment with
  | none => simp [Post, Finds, hpayment]
  | some makerPayment =>
    refine ⟨rfl, ?_⟩
    rintro (e | tx) -
    · apply sat_broadcastErrTx (fun _ => trivial)
      exact .makerPaymentNotSpent _
    · apply sat_ask trivial
      exact fun _ _ => .makerPaymentSpent _

theorem confirmMakerPaymentSpend_sat : (confirmMakerPaymentSpend s).Sat R
    (Makes .confirmMakerPaymentSpend) (Post X R s .confirmMakerPaymentSpend) := by
  unfold confirmMakerPaymentSpend
  cases hspend : s.mutable.makerPaymentSpend with
  | none => simp [Post, Finds, hspend]
  | some tx =>
    apply sat_ask trivial
    rintro (e | _) hconfirm
    · exact .spendNotConfirmed _
    · exact .spendConfirmed tx _ hspend rfl hconfirm

theorem prepareForTakerPaymentRefund_sat : (prepareForTakerPaymentRefund s).Sat R
    (Makes .prepareForTakerPaymentRefund) (Post X R s .prepareForTakerPaymentRefund) := by
  unfold prepareForTakerPaymentRefund
  cases hpayment : s.mutable.makerPayment with
  | none => simp [Post, Finds, hpayment]
  | some makerPayment =>
    apply sat_ask trivial
    exact fun _ _ => .refundStarted

theorem refundTakerPayment_sat : (refundTakerPayment X s).Sat R (Makes .refundTakerPayment)
    (Post X R s .refundTakerPayment) := by
  unfold refundTakerPayment
  cases hpayment : s.mutable.takerPayment with
  | none => simp [Post, Finds, hpayment]
  | some takerPayment =>
    simp only
    split
    · rename_i hauto
      apply sat_ask trivial
      rintro (e | _) hrefund
      · exact .refundFailed _
      · exact .refunded none (.auto _ _ hauto hrefund)
    rename_i hauto
    apply sat_ask trivial
    rintro (e | _ | toSleep) -
    · apply sat_ask trivial
      exact fun _ _ => .refundWaits
    · apply sat_ask trivial
      rintro (e | tx) hrefund
      · apply sat_broadcastErrTx (fun _ => trivial)
        exact .refundFailed _
      · apply sat_ask trivial
        exact fun _ _ => .refunded _ (.sent _ tx (Bool.eq_false_iff.mpr hauto) hrefund)
    · apply sat_ask trivial
      exact fun _ _ => .refundWaits

theorem finalizeTakerPaymentRefund_sat : (finalizeTakerPaymentRefund s).Sat R
    (Makes .finalizeTakerPaymentRefund) (Post X R s .finalizeTakerPaymentRefund) := by
  unfold finalizeTakerPaymentRefund
  cases hpayment : s.mutable.makerPayment with
  | none => simp [Post, Finds, hpayment]
  | some makerPayment =>
    apply sat_ask trivial
    exact fun _ _ => .refundFinished

/-- Every command of the taker ends in one of its outcomes. -/
theorem handleCommand_sat (c : TakerSwapCommand) :
    (handleCommand X c s).Sat R (Makes c) (Post X R s c) := by
  cases c with
  | start => exact start_sat
  | negotiate => exact negotiate_sat
  | sendTakerFee => exact sendTakerFee_sat
  | waitForMakerPayment => exact waitForMakerPayment_sat
  | validateMakerPayment => exact validateMakerPayment_sat
  | sendTakerPayment => exact sendTakerPayment_sat
  | waitForTakerPaymentSpend => exact waitForTakerPaymentSpend_sat
  | spendMakerPayment => exact spendMakerPayment_sat
  | confirmMakerPaymentSpend => exact confirmMakerPaymentSpend_sat
  | prepareForTakerPaymentRefund => exact prepareForTakerPaymentRefund_sat
  | refundTakerPayment => exact refundTakerPayment_sat
  | finalizeTakerPaymentRefund => exact finalizeTakerPaymentRefund_sat
  | finish => exact .finished

end Commands

end TakerSwap

end DeXFG.LegacySwap
