import DeXFG.SwapV2.MakerTransitions
import DeXFG.SwapV2.Standing
import DeXFG.SwapV2.TakerTransitions

/-!
# The negotiated timelocks

Each side takes the other's start time from a message, allows a minute of
difference, and compares the locktimes of the message with those that its own
lock duration gives. What was compared once stands in every later state, and is
read back at a restart.
-/
namespace DeXFG.SwapV2
open Library Library.Process Library.DurableMachine

/-! ## Lock durations -/

/-- `PAYMENT_LOCKTIME`. -/
def paymentLocktime : ℕ := 3600 * 2 + 300 * 2

def coinWith4xLocktime (ticker : String) : Bool :=
  ticker == "BCH" || ticker == "BTG" || ticker == "SBTC"

def SwapConfirmationsSettings.requiresNotarization (s : SwapConfirmationsSettings) : Bool :=
  s.makerCoinNota || s.takerCoinNota

def lpAtomicLocktimeV1 (makerCoin takerCoin : String) : ℕ :=
  if makerCoin = "BTC" ∨ takerCoin = "BTC" then paymentLocktime * 10
  else if coinWith4xLocktime makerCoin || coinWith4xLocktime takerCoin then paymentLocktime * 4
  else paymentLocktime

def lpAtomicLocktimeV2 (makerCoin takerCoin : String)
    (myConfSettings otherConfSettings : SwapConfirmationsSettings) : ℕ :=
  if (takerCoin.splitOn "-lightning").length > 1 then paymentLocktime * 12
  else if makerCoin = "BTC" ∨ takerCoin = "BTC" ∨ coinWith4xLocktime makerCoin ∨
      coinWith4xLocktime takerCoin ∨ myConfSettings.requiresNotarization ∨
      otherConfSettings.requiresNotarization then paymentLocktime * 4
  else paymentLocktime

inductive AtomicLocktimeVersion where
  | v1
  | v2 (myConfSettings otherConfSettings : SwapConfirmationsSettings)

/-- The lock duration of a swap that an order leads to. -/
def lpAtomicLocktime (makerCoin takerCoin : String) : AtomicLocktimeVersion → ℕ
  | .v1 => lpAtomicLocktimeV1 makerCoin takerCoin
  | .v2 my other => lpAtomicLocktimeV2 makerCoin takerCoin my other

theorem lpAtomicLocktime_le (makerCoin takerCoin : String) (version : AtomicLocktimeVersion) :
    lpAtomicLocktime makerCoin takerCoin version ≤ 93600 := by
  cases version with
  | v1 =>
    change lpAtomicLocktimeV1 makerCoin takerCoin ≤ _
    unfold lpAtomicLocktimeV1 paymentLocktime
    split <;> [decide; (split <;> decide)]
  | v2 my other =>
    change lpAtomicLocktimeV2 makerCoin takerCoin my other ≤ _
    unfold lpAtomicLocktimeV2 paymentLocktime
    split <;> [decide; (split <;> decide)]

theorem absDiff_le {a b d : ℕ} (h : ¬ absDiff a b > d) : a ≤ b + d ∧ b ≤ a + d := by
  unfold absDiff at h
  omega

/-! ## The maker -/

namespace MakerSwap

variable {X : External}

/-- The maker's own payment is locked for a lock duration longer than the taker's, but for the
tolerated difference of the clocks; the funding for two more than the payment. -/
def SafeTimelocks (m : MakerSwapStateMachine) (d : NegotiationData X) : Prop :=
  d.takerPaymentLocktime + m.lockDuration ≤ m.makerPaymentLocktime + maxStartedAtDiff ∧
    d.takerFundingLocktime = d.takerPaymentLocktime + 2 * m.lockDuration

/-- The sums that `Initialized::on_changed` computes before it has an answer to the taker. -/
def Initialized.sums (m : MakerSwapStateMachine) (takerData : TakerNegotiationData) : List ℕ :=
  m.makerPaymentLocktime ::
    if absDiff m.startedAt takerData.startedAt > maxStartedAtDiff then []
    else [takerData.startedAt + 3 * m.lockDuration, takerData.startedAt + m.lockDuration]

/-- The locktimes come from a message whose start time and locktimes were compared. -/
def Agreed (R : MakerAnswers X) (m : MakerSwapStateMachine) (payment funding : ℕ) : Prop :=
  ∃ waitUntil takerData,
    R (.pollSwapV2Msg .takerNegotiation waitUntil) (some ⟨some (.continue takerData)⟩) ∧
    ¬ absDiff m.startedAt takerData.startedAt > maxStartedAtDiff ∧
    payment = takerData.paymentLocktime ∧ funding = takerData.fundingLocktime ∧
    takerData.fundingLocktime = takerData.startedAt + 3 * m.lockDuration ∧
    takerData.paymentLocktime = takerData.startedAt + m.lockDuration

/-- What the maker agrees to was compared. -/
theorem Initialized.negotiate_eq_ok {m : MakerSwapStateMachine} {takerData : TakerNegotiationData}
    {d : NegotiationData X} (h : negotiate m takerData = .ok d) :
    ¬ absDiff m.startedAt takerData.startedAt > maxStartedAtDiff ∧
      takerData.fundingLocktime = takerData.startedAt + 3 * m.lockDuration ∧
      takerData.paymentLocktime = takerData.startedAt + m.lockDuration ∧
      d.takerPaymentLocktime = takerData.paymentLocktime ∧
      d.takerFundingLocktime = takerData.fundingLocktime := by
  unfold negotiate at h
  dsimp only at h
  split at h
  · cases h
  rename_i hdiff
  split at h
  · cases h
  rename_i hfunding
  split at h
  · cases h
  rename_i hpayment
  simp only [except_bind_eq_ok] at h
  obtain ⟨_, _, _, _, h⟩ := h
  obtain rfl := Except.ok.inj h
  have hfunding := not_not.mp hfunding
  have hpayment := not_not.mp hpayment
  exact ⟨hdiff, hfunding, hpayment, hpayment.symm, hfunding.symm⟩

theorem Agreed.safe {R : MakerAnswers X} {m m' : MakerSwapStateMachine} {d : NegotiationData X}
    (h : Agreed R m d.takerPaymentLocktime d.takerFundingLocktime)
    (hm : m'.startedAt = m.startedAt ∧ m'.lockDuration = m.lockDuration) : SafeTimelocks m' d := by
  obtain ⟨_, takerData, -, hdiff, hpayment, hfunding, hfunding', hpayment'⟩ := h
  have hclocks := absDiff_le hdiff
  unfold SafeTimelocks MakerSwapStateMachine.makerPaymentLocktime
  omega

/-- The records and the states of a maker hold what was agreed. -/
def agreement (R : MakerAnswers X) (m₀ : MakerSwapStateMachine) :
    Standing (transitions X) (makerSwap X) R where
  mach m := m.startedAt = m₀.startedAt ∧ m.lockDuration = m₀.lockDuration
  state _ s := ∀ d ∈ s.getEvent.negotiationData,
    Agreed R m₀ d.takerPaymentLocktime d.takerFundingLocktime
  record event := ∀ d ∈ event.negotiationData,
    Agreed R m₀ d.takerPaymentLocktime d.takerFundingLocktime
  repr r := r.startedAt = m₀.startedAt ∧ r.lockDuration = m₀.lockDuration
  next := by
    intro m stage s hm hstate hnext
    cases hnext with
    | initialized => nofun
    | waitingForTakerFunding self hmsg hdata =>
      rintro _ ⟨⟩
      have h := Initialized.negotiate_eq_ok hdata
      rw [hm.1, hm.2] at h
      exact ⟨_, _, hmsg, h.1, h.2.2.2.1, h.2.2.2.2, h.2.1, h.2.2.1⟩
    | received self takerPayment =>
      have hprevious := hstate _ rfl
      unfold MakerPaymentSentFundingSpendGenerated.received
      split
      · exact hprevious
      · exact hprevious
    | refunded => nofun
    | completed => nofun
    | aborted => nofun
    | _ =>
      have hprevious := hstate _ rfl
      exact hprevious
  paid := by
    rintro m _ _ _ hstate ⟨self⟩
    have hprevious := hstate _ rfl
    exact hprevious
  recorded _ h := h
  stored h := h
  recreated := by
    intro r events m s hr hevents hs
    obtain ⟨rfl, event, hevent, hstate⟩ := exists_of_recreateMachine hs
    refine ⟨hr, ?_⟩
    have hrecord := hevents event hevent
    obtain ⟨-, hdata⟩ := recreateState_spec hstate
    revert hdata hrecord
    generalize s.getEvent.negotiationData = recreated
    generalize event.negotiationData = stored
    rintro hrecord (⟨d, hd, rfl⟩ | _)
    · rintro _ ⟨⟩
      simp only [NegotiationData.fromStoredData, except_bind_eq_ok] at hd
      obtain ⟨_, _, _, _, hd⟩ := hd
      obtain rfl := Except.ok.inj hd
      have hstored := hrecord _ rfl
      exact hstored
    · nofun

/-- What a maker that waits for the taker funding has agreed to. -/
theorem agreed_of_run {R : MakerAnswers X} {m m' : MakerSwapStateMachine} {now : ℕ}
    {es : List (Event (Call X MakerSwapEvent MakerSwapDbRepr) Call.Answer)}
    {s : WaitingForTakerFunding X}
    (hes : Runs.Meets (fun x e => some ((makerSwap X).machine.step x e)) (Answering R)
      ((makerSwap X).start m now) es)
    (h : Enters ((makerSwap X).machine.run ((makerSwap X).start m now) es)
      (m', .entered (.waitingForTakerFunding s))) :
    (m'.startedAt = m.startedAt ∧ m'.lockDuration = m.lockDuration) ∧
      Agreed R m s.negotiationData.takerPaymentLocktime s.negotiationData.takerFundingLocktime := by
  have hstands := (agreement R m).enters (sound X) ⟨rfl, rfl⟩ hes h
  exact ⟨hstands.1, hstands.2 s.negotiationData.toStoredData rfl⟩

end MakerSwap

/-! ## The taker -/

namespace TakerSwap

variable {X : External}

/-- The maker's payment is locked for a lock duration longer than the own one, but for the
tolerated difference of the clocks; the own funding for two more than the payment. -/
def SafeTimelocks (m : TakerSwapStateMachine) (d : NegotiationData X) : Prop :=
  m.takerPaymentLocktime + m.lockDuration ≤ d.makerPaymentLocktime + maxStartedAtDiff ∧
    m.takerFundingLocktime = m.takerPaymentLocktime + 2 * m.lockDuration

/-- The sums that `Initialized::on_changed` computes. -/
def Initialized.sums (m : TakerSwapStateMachine) (makerNegotiation : MakerNegotiation) : List ℕ :=
  if absDiff m.startedAt makerNegotiation.startedAt > maxStartedAtDiff then []
  else [makerNegotiation.startedAt + 2 * m.lockDuration, m.takerFundingLocktime,
    m.takerPaymentLocktime]

/-- The locktime comes from a message whose start time and locktime were compared. -/
def Agreed (R : TakerAnswers X) (m : TakerSwapStateMachine) (payment : ℕ) : Prop :=
  ∃ waitUntil makerNegotiation,
    R (.pollSwapV2Msg .makerNegotiation waitUntil) (some makerNegotiation) ∧
    ¬ absDiff m.startedAt makerNegotiation.startedAt > maxStartedAtDiff ∧
    payment = makerNegotiation.paymentLocktime ∧
    makerNegotiation.paymentLocktime = makerNegotiation.startedAt + 2 * m.lockDuration

/-- What the taker agrees to was compared. -/
theorem Initialized.negotiate_eq_ok {m : TakerSwapStateMachine} {msg : MakerNegotiation}
    {d : NegotiationData X} (h : negotiate m msg = .ok d) :
    ¬ absDiff m.startedAt msg.startedAt > maxStartedAtDiff ∧
      msg.paymentLocktime = msg.startedAt + 2 * m.lockDuration ∧
      d.makerPaymentLocktime = msg.paymentLocktime := by
  unfold negotiate at h
  dsimp only at h
  split at h
  · cases h
  rename_i hdiff
  split at h
  · cases h
  split at h
  · cases h
  rename_i hpayment
  simp only [except_bind_eq_ok] at h
  obtain ⟨_, _, _, _, _, _, h⟩ := h
  obtain rfl := Except.ok.inj h
  have hpayment := not_not.mp hpayment
  exact ⟨hdiff, hpayment, hpayment.symm⟩

theorem Agreed.safe {R : TakerAnswers X} {m m' : TakerSwapStateMachine} {d : NegotiationData X}
    (h : Agreed R m d.makerPaymentLocktime)
    (hm : m'.startedAt = m.startedAt ∧ m'.lockDuration = m.lockDuration) : SafeTimelocks m' d := by
  obtain ⟨_, msg, -, hdiff, hpayment, hpayment'⟩ := h
  have hclocks := absDiff_le hdiff
  unfold SafeTimelocks TakerSwapStateMachine.takerPaymentLocktime
    TakerSwapStateMachine.takerFundingLocktime
  omega

/-- The records and the states of a taker hold what was agreed. -/
def agreement (R : TakerAnswers X) (m₀ : TakerSwapStateMachine) :
    Standing (transitions X) (takerSwap X) R where
  mach m := m.startedAt = m₀.startedAt ∧ m.lockDuration = m₀.lockDuration
  state _ s := ∀ d ∈ s.getEvent.negotiationData, Agreed R m₀ d.makerPaymentLocktime
  record event := ∀ d ∈ event.negotiationData, Agreed R m₀ d.makerPaymentLocktime
  repr r := r.startedAt = m₀.startedAt ∧ r.lockDuration = m₀.lockDuration
  next := by
    intro m stage s hm hstate hnext
    have hsent (makerCoinStartBlock takerCoinStartBlock : ℕ) (makerPayment : X.makerCoin.Tx)
        (takerPayment : X.takerCoin.Tx) (d : NegotiationData X)
        (hd : Agreed R m₀ d.makerPaymentLocktime) :
        ∀ d' ∈ (paymentSent makerCoinStartBlock takerCoinStartBlock makerPayment d
          takerPayment).getEvent.negotiationData, Agreed R m₀ d'.makerPaymentLocktime := by
      unfold paymentSent
      split
      · rintro _ ⟨⟩
        exact hd
      · rintro _ ⟨⟩
        exact hd
    cases hnext with
    | initialized => nofun
    | negotiated self hmsg hdata =>
      rintro _ ⟨⟩
      have h := Initialized.negotiate_eq_ok hdata
      rw [hm.1, hm.2] at h
      exact ⟨_, _, hmsg, h.1, h.2.2, h.2.1⟩
    | makerPaymentReceived self hinfo =>
      simp only [TakerFundingSent.parseMakerPaymentInfo, except_bind_eq_ok] at hinfo
      obtain ⟨_, _, _, _, _, _, hinfo⟩ := hinfo
      obtain rfl := Except.ok.inj hinfo
      have hprevious := hstate _ rfl
      exact hprevious
    | paymentSentAtOnce self takerPayment =>
      exact hsent _ _ _ _ _ (hstate _ rfl self.negotiationData.toStoredData rfl)
    | paymentSent self takerPayment =>
      exact hsent _ _ _ _ _ (hstate _ rfl self.negotiationData.toStoredData rfl)
    | fundingRefunded => nofun
    | paymentRefunded => nofun
    | completed => nofun
    | aborted => nofun
    | _ =>
      have hprevious := hstate _ rfl
      exact hprevious
  paid := by
    rintro m _ _ _ hstate ⟨self⟩
    have hprevious := hstate _ rfl
    exact hprevious
  recorded _ h := h
  stored h := h
  recreated := by
    intro r events m s hr hevents hs
    obtain ⟨rfl, event, hevent, hstate⟩ := exists_of_recreateMachine hs
    refine ⟨hr, ?_⟩
    have hrecord := hevents event hevent
    obtain ⟨-, hdata⟩ := recreateState_spec hstate
    revert hdata hrecord
    generalize s.getEvent.negotiationData = recreated
    generalize event.negotiationData = stored
    rintro hrecord (⟨d, hd, rfl⟩ | _)
    · rintro _ ⟨⟩
      have hlocktime := NegotiationData.locktime_of_stored hd
      simpa [NegotiationData.toStoredData, hlocktime] using hrecord _ rfl
    · nofun

/-- What a taker that has negotiated has agreed to. -/
theorem agreed_of_run {R : TakerAnswers X} {m m' : TakerSwapStateMachine} {now : ℕ}
    {es : List (Event (Call X TakerSwapEvent TakerSwapDbRepr) Call.Answer)} {s : Negotiated X}
    (hes : Runs.Meets (fun x e => some ((takerSwap X).machine.step x e)) (Answering R)
      ((takerSwap X).start m now) es)
    (h : Enters ((takerSwap X).machine.run ((takerSwap X).start m now) es)
      (m', .entered (.negotiated s))) :
    (m'.startedAt = m.startedAt ∧ m'.lockDuration = m.lockDuration) ∧
      Agreed R m s.negotiationData.makerPaymentLocktime := by
  have hstands := (agreement R m).enters (sound X) ⟨rfl, rfl⟩ hes h
  exact ⟨hstands.1, hstands.2 s.negotiationData.toStoredData rfl⟩

end TakerSwap

/-! ## Both sides -/

section Both

variable {X : External}

/-- The only negotiation that the maker receives is that of this taker. -/
def HearsTaker (taker : TakerSwap.TakerSwapStateMachine) : MakerSwap.MakerAnswers X
  | .pollSwapV2Msg .takerNegotiation _, some msg =>
    msg = TakerSwap.Initialized.takerNegotiation X taker
  | _, _ => True

/-- The only negotiation that the taker receives is that of this maker. -/
def HearsMaker (maker : MakerSwap.MakerSwapStateMachine) : TakerSwap.TakerAnswers X
  | .pollSwapV2Msg .makerNegotiation _, some msg =>
    ∃ address, msg = @MakerSwap.Initialized.makerNegotiationMsg X maker address
  | _, _ => True

theorem sum_lt {startedAt duration : ℕ} (hclock : startedAt < 2 ^ 63 + maxStartedAtDiff)
    (hduration : 3 * duration + maxStartedAtDiff ≤ 2 ^ 63) {k : ℕ} (hk : k ≤ 3) :
    startedAt + k * duration < 2 ^ 64 := by
  have hle : k * duration ≤ 3 * duration := Nat.mul_le_mul_right _ hk
  omega

theorem maker_sums_lt (maker : MakerSwap.MakerSwapStateMachine) (takerData : TakerNegotiationData)
    (hclock : maker.startedAt < 2 ^ 63)
    (hduration : 3 * maker.lockDuration + maxStartedAtDiff ≤ 2 ^ 63) :
    ∀ n ∈ MakerSwap.Initialized.sums maker takerData, n < 2 ^ 64 := by
  have hown : maker.makerPaymentLocktime < 2 ^ 64 :=
    sum_lt (hclock.trans_le (Nat.le_add_right _ _)) hduration (by decide)
  unfold MakerSwap.Initialized.sums
  split
  · intro n hn
    rwa [List.mem_singleton.mp hn]
  · rename_i hdiff
    have hother : takerData.startedAt < 2 ^ 63 + maxStartedAtDiff := by
      have := absDiff_le hdiff
      omega
    have hfunding := sum_lt hother hduration (k := 3) le_rfl
    have hpayment := sum_lt hother hduration (k := 1) (by decide)
    rw [one_mul] at hpayment
    simp only [List.forall_mem_cons, List.not_mem_nil]
    exact ⟨hown, hfunding, hpayment, nofun⟩

theorem taker_sums_lt (taker : TakerSwap.TakerSwapStateMachine) (msg : MakerNegotiation)
    (hclock : taker.startedAt < 2 ^ 63)
    (hduration : 3 * taker.lockDuration + maxStartedAtDiff ≤ 2 ^ 63) :
    ∀ n ∈ TakerSwap.Initialized.sums taker msg, n < 2 ^ 64 := by
  unfold TakerSwap.Initialized.sums
  split
  · simp
  · rename_i hdiff
    have hother : msg.startedAt < 2 ^ 63 + maxStartedAtDiff := by
      have := absDiff_le hdiff
      omega
    have hown : taker.startedAt < 2 ^ 63 + maxStartedAtDiff := by omega
    have hmaker := sum_lt hother hduration (k := 2) (by decide)
    have hfunding := sum_lt hown hduration (k := 3) le_rfl
    have hpayment := sum_lt hown hduration (k := 1) (by decide)
    rw [mul_comm] at hfunding
    rw [one_mul] at hpayment
    simp only [List.forall_mem_cons, List.not_mem_nil]
    exact ⟨hmaker, hfunding, hpayment, nofun⟩

/-- In every run, with any messages, delays, crashes and restarts, either side that gets to the end
of the negotiation holds safe timelocks; the two sides hold the same ones when they have heard each
other; and no sum on the way overflows, for lock durations below a third of `2 ^ 63`. -/
theorem negotiated_timelocks (X : External) :
    (∀ m now es m' s, Enters ((MakerSwap.makerSwap X).machine.run
        ((MakerSwap.makerSwap X).start m now) es) (m', .entered (.waitingForTakerFunding s)) →
      m'.startedAt = m.startedAt ∧ m'.lockDuration = m.lockDuration ∧
        MakerSwap.SafeTimelocks m' s.negotiationData) ∧
    (∀ m now es m' s, Enters ((TakerSwap.takerSwap X).machine.run
        ((TakerSwap.takerSwap X).start m now) es) (m', .entered (.negotiated s)) →
      m'.startedAt = m.startedAt ∧ m'.lockDuration = m.lockDuration ∧
        TakerSwap.SafeTimelocks m' s.negotiationData) ∧
    (∀ maker taker now now' es es' maker' taker' s s',
      Runs.Meets (fun x e => some ((MakerSwap.makerSwap X).machine.step x e))
        (Answering (HearsTaker taker)) ((MakerSwap.makerSwap X).start maker now) es →
      Enters ((MakerSwap.makerSwap X).machine.run ((MakerSwap.makerSwap X).start maker now) es)
        (maker', .entered (.waitingForTakerFunding s)) →
      Runs.Meets (fun x e => some ((TakerSwap.takerSwap X).machine.step x e))
        (Answering (HearsMaker maker)) ((TakerSwap.takerSwap X).start taker now') es' →
      Enters ((TakerSwap.takerSwap X).machine.run ((TakerSwap.takerSwap X).start taker now') es')
        (taker', .entered (.negotiated s')) →
      maker'.lockDuration = taker'.lockDuration ∧
        maker'.makerPaymentLocktime = s'.negotiationData.makerPaymentLocktime ∧
        s.negotiationData.takerPaymentLocktime = taker'.takerPaymentLocktime ∧
        s.negotiationData.takerFundingLocktime = taker'.takerFundingLocktime) ∧
    (∀ maker takerData, maker.startedAt < 2 ^ 63 →
      3 * maker.lockDuration + maxStartedAtDiff ≤ 2 ^ 63 →
      ∀ n ∈ MakerSwap.Initialized.sums maker takerData, n < 2 ^ 64) ∧
    (∀ taker makerNegotiation, taker.startedAt < 2 ^ 63 →
      3 * taker.lockDuration + maxStartedAtDiff ≤ 2 ^ 63 →
      ∀ n ∈ TakerSwap.Initialized.sums taker makerNegotiation, n < 2 ^ 64) ∧
    ∀ makerCoin takerCoin version,
      3 * lpAtomicLocktime makerCoin takerCoin version + maxStartedAtDiff ≤ 2 ^ 63 := by
  refine ⟨?_, ?_, ?_, maker_sums_lt, taker_sums_lt, ?_⟩
  · intro m now es m' s h
    have hagreed := MakerSwap.agreed_of_run (R := fun _ _ => True)
      (Runs.meets_of_all fun x e _ => by unfold Answering; split <;> simp) h
    exact ⟨hagreed.1.1, hagreed.1.2, hagreed.2.safe hagreed.1⟩
  · intro m now es m' s h
    have hagreed := TakerSwap.agreed_of_run (R := fun _ _ => True)
      (Runs.meets_of_all fun x e _ => by unfold Answering; split <;> simp) h
    exact ⟨hagreed.1.1, hagreed.1.2, hagreed.2.safe hagreed.1⟩
  · intro maker taker now now' es es' maker' taker' s s' hes h hes' h'
    obtain ⟨⟨hstart, hduration⟩, _, takerData, htaker, -, hpayment, hfunding, -⟩ :=
      MakerSwap.agreed_of_run hes h
    obtain ⟨⟨hstart', hduration'⟩, _, msg, hmaker, -, hpayment', hlocktime⟩ :=
      TakerSwap.agreed_of_run hes' h'
    obtain ⟨address, rfl⟩ := hmaker
    obtain rfl := TakerNegotiationAction.continue.inj (Option.some.inj
      (TakerNegotiation.mk.inj htaker))
    have hsame : maker.makerPaymentLocktime = maker.startedAt + 2 * taker.lockDuration := hlocktime
    unfold MakerSwap.MakerSwapStateMachine.makerPaymentLocktime at hsame
    refine ⟨by omega, ?_, ?_, ?_⟩
    · rw [hpayment']
      simp [MakerSwap.MakerSwapStateMachine.makerPaymentLocktime,
        MakerSwap.Initialized.makerNegotiationMsg, hstart, hduration]
    · rw [hpayment]
      simp [TakerSwap.TakerSwapStateMachine.takerPaymentLocktime, hstart', hduration']
    · rw [hfunding]
      simp [TakerSwap.TakerSwapStateMachine.takerFundingLocktime, hstart', hduration']
  · intro makerCoin takerCoin version
    have hle := lpAtomicLocktime_le makerCoin takerCoin version
    unfold maxStartedAtDiff
    omega

/-- A maker whose secret hash has 32 bytes. -/
def sampleSide : MakerSwap.MakerSwapStateMachine :=
  { MakerSwap.sampleMaker 1700000000 with secret := List.replicate 32 9 }

/-- Without trouble, and with the taker's own message. -/
def answeringMaker (taker : TakerSwap.TakerSwapStateMachine) (c : MakerSwap.RawCall) :
    Reply c.Answer :=
  match c with
  | .pollSwapV2Msg .takerNegotiation _ =>
    { delay := 0, reached := true
      answer := some (some (TakerSwap.Initialized.takerNegotiation .raw taker)) }
  | c => smooth 1700000000 5400 false c

/-- Without trouble, and with the maker's own message. -/
def answeringTaker (maker : MakerSwap.MakerSwapStateMachine) (c : TakerSwap.RawCall) :
    Reply c.Answer :=
  match c with
  | .pollSwapV2Msg .makerNegotiation _ =>
    { delay := 0, reached := true
      answer := some (some (@MakerSwap.Initialized.makerNegotiationMsg .raw maker "maker")) }
  | c => smooth 1700000000 5400 false c

def makerEvents : List (Event MakerSwap.RawCall Call.Answer) :=
  List.replicate 16 (.reply (answeringMaker (TakerSwap.sampleTaker true)))

def takerEvents : List (Event TakerSwap.RawCall Call.Answer) :=
  List.replicate 17 (.reply (answeringTaker sampleSide))

def isFundingExpected : MakerSwap.MakerSwapStateMachine × Stage (MakerSwap.MakerState .raw) → Bool
  | (_, .entered (.waitingForTakerFunding _)) => true
  | _ => false

def isNegotiated : TakerSwap.TakerSwapStateMachine × Stage (TakerSwap.TakerState .raw) → Bool
  | (_, .entered (.negotiated _)) => true
  | _ => false

theorem enters_waitingForTakerFunding :
    ∃ maker s, Enters ((MakerSwap.makerSwap .raw).machine.run
      ((MakerSwap.makerSwap .raw).start sampleSide 1700000000) makerEvents)
        (maker, .entered (.waitingForTakerFunding s)) := by
  have h : (entering ((MakerSwap.makerSwap .raw).machine.run
      ((MakerSwap.makerSwap .raw).start sampleSide 1700000000) makerEvents)).any
        isFundingExpected = true := by
    decide +kernel
  obtain ⟨⟨maker, stage⟩, hentering, hstage⟩ := (Option.any_eq_true _ _).mp h
  match stage, hstage with
  | .entered (.waitingForTakerFunding s), _ => exact ⟨maker, s, enters_of_entering hentering⟩

theorem enters_negotiated :
    ∃ taker s, Enters ((TakerSwap.takerSwap .raw).machine.run
      ((TakerSwap.takerSwap .raw).start (TakerSwap.sampleTaker true) 1700000000) takerEvents)
        (taker, .entered (.negotiated s)) := by
  have h : (entering ((TakerSwap.takerSwap .raw).machine.run
      ((TakerSwap.takerSwap .raw).start (TakerSwap.sampleTaker true) 1700000000) takerEvents)).any
        isNegotiated = true := by
    decide +kernel
  obtain ⟨⟨taker, stage⟩, hentering, hstage⟩ := (Option.any_eq_true _ _).mp h
  match stage, hstage with
  | .entered (.negotiated s), _ => exact ⟨taker, s, enters_of_entering hentering⟩

theorem hearsTaker_makerEvents
    (x : Config MakerSwap.RawCall Call.Answer (World .raw MakerSwap.MakerSwapEvent
      MakerSwap.MakerSwapDbRepr) (MakerSwap.MakerSwapStateMachine ×
        Stage (MakerSwap.MakerState .raw))) :
    Runs.Meets (fun x e => some ((MakerSwap.makerSwap .raw).machine.step x e))
      (Answering (HearsTaker (TakerSwap.sampleTaker true))) x makerEvents := by
  apply Runs.meets_of_all
  intro x e he
  obtain rfl := List.eq_of_mem_replicate he
  unfold Answering
  split
  · rename_i c _ r hr
    obtain rfl := Event.reply.inj hr
    rintro a ha
    unfold HearsTaker
    split
    · simpa [answeringMaker, eq_comm] using ha
    · trivial
  · trivial

theorem hearsMaker_takerEvents
    (x : Config TakerSwap.RawCall Call.Answer (World .raw TakerSwap.TakerSwapEvent
      TakerSwap.TakerSwapDbRepr) (TakerSwap.TakerSwapStateMachine ×
        Stage (TakerSwap.TakerState .raw))) :
    Runs.Meets (fun x e => some ((TakerSwap.takerSwap .raw).machine.step x e))
      (Answering (HearsMaker sampleSide)) x takerEvents := by
  apply Runs.meets_of_all
  intro x e he
  obtain rfl := List.eq_of_mem_replicate he
  unfold Answering
  split
  · rename_i c _ r hr
    obtain rfl := Event.reply.inj hr
    rintro a ha
    unfold HearsMaker
    split
    · exact ⟨"maker", by simpa [answeringTaker, eq_comm] using ha⟩
    · trivial
  · trivial

/-- A maker and a taker that hear each other. -/
theorem negotiated_timelocks_sample :
    ∃ maker s taker s',
      Enters ((MakerSwap.makerSwap .raw).machine.run
        ((MakerSwap.makerSwap .raw).start sampleSide 1700000000) makerEvents)
          (maker, .entered (.waitingForTakerFunding s)) ∧
      Enters ((TakerSwap.takerSwap .raw).machine.run
        ((TakerSwap.takerSwap .raw).start (TakerSwap.sampleTaker true) 1700000000) takerEvents)
          (taker, .entered (.negotiated s')) ∧
      MakerSwap.SafeTimelocks maker s.negotiationData ∧
      TakerSwap.SafeTimelocks taker s'.negotiationData ∧
      maker.lockDuration = taker.lockDuration ∧
      ∀ n ∈ MakerSwap.Initialized.sums sampleSide
        { startedAt := 1700000000, fundingLocktime := 0, paymentLocktime := 0,
          takerSecretHash := [], makerCoinHtlcPub := [], takerCoinHtlcPub := [],
          makerCoinSwapContract := none, takerCoinSwapContract := none }, n < 2 ^ 64 := by
  obtain ⟨maker, s, hmaker⟩ := enters_waitingForTakerFunding
  obtain ⟨taker, s', htaker⟩ := enters_negotiated
  obtain ⟨hsafe, hsafe', hboth, hsums, -⟩ := negotiated_timelocks .raw
  exact ⟨maker, s, taker, s', hmaker, htaker, (hsafe _ _ _ _ _ hmaker).2.2,
    (hsafe' _ _ _ _ _ htaker).2.2,
    (hboth sampleSide (TakerSwap.sampleTaker true) _ _ _ _ _ _ _ _ (hearsTaker_makerEvents _)
      hmaker (hearsMaker_takerEvents _) htaker).1,
    hsums _ _ (by decide) (by decide)⟩

/-- With a lock duration that no order leads to, the sums overflow at any time. -/
theorem timelock_sums_overflow :
    ¬ ∀ (maker : MakerSwap.MakerSwapStateMachine) (takerData : TakerNegotiationData),
      maker.startedAt < 2 ^ 63 → maker.lockDuration < 2 ^ 64 →
      ∀ n ∈ MakerSwap.Initialized.sums maker takerData, n < 2 ^ 64 := by
  intro h
  have hlocktime := h { sampleSide with lockDuration := 2 ^ 64 - 1 }
    { startedAt := 1700000000, fundingLocktime := 0, paymentLocktime := 0,
      takerSecretHash := [], makerCoinHtlcPub := [], takerCoinHtlcPub := [],
      makerCoinSwapContract := none, takerCoinSwapContract := none }
    (by decide) (by decide) (1700000000 + (2 ^ 64 - 1)) (by decide)
  exact absurd hlocktime (by decide)

end Both

end DeXFG.SwapV2
