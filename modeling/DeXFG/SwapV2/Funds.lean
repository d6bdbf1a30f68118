import DeXFG.SwapV2.Observed

/-!
# The funds of a swap

An account of the own payments of a party: which were broadcast, which were
spent into another own payment (the taker's funding into the taker payment),
which were refunded, and whether the other party's payment was spent. It is kept
from the calls of either side.
-/
namespace DeXFG.SwapV2
open Library.Process Library.DurableMachine

variable {X : External} {Ev Repr : Type}

/-- Payments are raw transactions, `none` when the call that broadcast them did not report it. -/
structure Funds where
  paid : List (Option Bytes)
  moved : List (Bytes × Bytes)
  refunded : List Bytes
  taken : Bool
  deriving DecidableEq, Repr

namespace Funds

/-- The payment came back, itself or as the payment that it was spent into. -/
def Returned (f : Funds) (tx : Bytes) : Prop :=
  tx ∈ f.refunded ∨ ∃ move ∈ f.moved, move.1 = tx ∧ move.2 ∈ f.refunded

/-- No payment is abandoned: the other party's payment was spent, or every own one came back. -/
def Settled (f : Funds) : Prop :=
  f.taken = true ∨ ∀ p ∈ f.paid, ∃ tx ∈ p, f.Returned tx

instance (f : Funds) (tx : Bytes) : Decidable (f.Returned tx) :=
  inferInstanceAs (Decidable (_ ∨ _))

instance (f : Funds) : Decidable f.Settled :=
  inferInstanceAs (Decidable (_ ∨ _))

/-- The own payment is this one, if it is not settled. -/
def Tracks (f : Funds) (tx : Bytes) : Prop :=
  f.Settled ∨ ∀ p ∈ f.paid, p = some tx

/-- The own payment was spent into this one, if it is not settled. -/
def Carries (f : Funds) (tx : Bytes) : Prop :=
  f.Settled ∨ ∀ p ∈ f.paid, ∃ source, p = some source ∧ (source, tx) ∈ f.moved

def refund (f : Funds) (tx : Bytes) : Funds :=
  { f with refunded := tx :: f.refunded }

def move (f : Funds) (source target : Bytes) : Funds :=
  { f with moved := (source, target) :: f.moved }

def take (f : Funds) (took : Bool) : Funds :=
  { f with taken := f.taken || took }

/-- No new payment, and nothing is forgotten. -/
structure Grows (f f' : Funds) : Prop where
  paid : f'.paid = f.paid
  moved : f.moved ⊆ f'.moved
  refunded : f.refunded ⊆ f'.refunded
  taken : f.taken = true → f'.taken = true

variable {f f' : Funds} {tx source : Bytes}

theorem Grows.refl (f : Funds) : f.Grows f := ⟨rfl, fun _ h => h, fun _ h => h, id⟩

theorem grows_refund (f : Funds) (tx : Bytes) : f.Grows (f.refund tx) :=
  ⟨rfl, fun _ h => h, List.subset_cons_self _ _, id⟩

theorem grows_move (f : Funds) (source target : Bytes) : f.Grows (f.move source target) :=
  ⟨rfl, List.subset_cons_self _ _, fun _ h => h, id⟩

theorem grows_take (f : Funds) (took : Bool) : f.Grows (f.take took) :=
  ⟨rfl, fun _ h => h, fun _ h => h, fun h => by simp [take, h]⟩

theorem settled_of_paid_eq_nil (h : f.paid = []) : f.Settled := by
  right
  rw [h]
  exact fun _ hp => absurd hp List.not_mem_nil

theorem Returned.mono (h : f.Returned tx) (hf : f.Grows f') : f'.Returned tx := by
  rcases h with h | ⟨move, hmove, hsource, htarget⟩
  · exact .inl (hf.refunded h)
  · exact .inr ⟨move, hf.moved hmove, hsource, hf.refunded htarget⟩

theorem Settled.mono (h : f.Settled) (hf : f.Grows f') : f'.Settled := by
  rcases h with h | h
  · exact .inl (hf.taken h)
  · refine .inr fun p hp => ?_
    rw [hf.paid] at hp
    obtain ⟨tx, htx, hreturned⟩ := h p hp
    exact ⟨tx, htx, hreturned.mono hf⟩

theorem Tracks.mono (h : f.Tracks tx) (hf : f.Grows f') : f'.Tracks tx := by
  rcases h with h | h
  · exact .inl (h.mono hf)
  · rw [← hf.paid] at h
    exact .inr h

theorem Carries.mono (h : f.Carries tx) (hf : f.Grows f') : f'.Carries tx := by
  rcases h with h | h
  · exact .inl (h.mono hf)
  · refine .inr fun p hp => ?_
    rw [hf.paid] at hp
    obtain ⟨source, hsource, hmoved⟩ := h p hp
    exact ⟨source, hsource, hf.moved hmoved⟩

/-- Refunding the tracked payment settles it. -/
theorem Tracks.settled_refund (h : f.Tracks tx) : (f.refund tx).Settled := by
  rcases h with h | h
  · exact h.mono (grows_refund f tx)
  · exact .inr fun p hp => ⟨tx, h p hp, .inl List.mem_cons_self⟩

/-- Refunding the payment that the own one was spent into settles it. -/
theorem Carries.settled_refund (h : f.Carries tx) : (f.refund tx).Settled := by
  rcases h with h | h
  · exact h.mono (grows_refund f tx)
  · refine .inr fun p hp => ?_
    obtain ⟨source, hsource, hmoved⟩ := h p hp
    exact ⟨source, hsource, .inr ⟨_, hmoved, rfl, List.mem_cons_self⟩⟩

/-- Spending the tracked payment into another one. -/
theorem Tracks.carries_move (h : f.Tracks source) (target : Bytes) :
    (f.move source target).Carries target := by
  rcases h with h | h
  · exact .inl (h.mono (grows_move f source target))
  · exact .inr fun p hp => ⟨source, h p hp, List.mem_cons_self⟩

/-! ## The account of the calls -/

/-- The transaction that the call reports. -/
def reported {T : Type} (txHex : T → Bytes) (r : Reply (Except String T)) : Option Bytes :=
  match r.answer with
  | some (.ok tx) => some (txHex tx)
  | _ => none

/-- The account after a call that broadcasts an own payment. -/
def pay {T : Type} (f : Funds) (txHex : T → Bytes) (r : Reply (Except String T)) : Funds :=
  if r.took then { f with paid := reported txHex r :: f.paid } else f

def note (e : Entry X Ev Repr) (f : Funds) : Funds :=
  match e with
  | ⟨_, .sendMakerPaymentV2 _, r⟩ => f.pay X.makerCoin.txHex r
  | ⟨_, .sendTakerFunding _, r⟩ => f.pay X.takerCoin.txHex r
  | ⟨_, .signAndSendTakerFundingSpend _ args _, r⟩ =>
    match r.answer with
    | some (.ok tx) => f.move (X.takerCoin.txHex args.fundingTx) (X.takerCoin.txHex tx)
    | _ => f
  | ⟨_, .refundMakerPaymentV2Timelock args, r⟩ => if r.took then f.refund args.paymentTx else f
  | ⟨_, .refundMakerPaymentV2Secret args, r⟩ =>
    if r.took then f.refund (X.makerCoin.txHex args.makerPaymentTx) else f
  | ⟨_, .refundTakerFundingSecret args, r⟩ =>
    if r.took then f.refund (X.takerCoin.txHex args.fundingTx) else f
  | ⟨_, .refundCombinedTakerPayment args, r⟩ => if r.took then f.refund args.paymentTx else f
  | ⟨_, .signAndBroadcastTakerPaymentSpend .., r⟩ => f.take r.took
  | ⟨_, .spendMakerPaymentV2 _, r⟩ => f.take r.took
  | _ => f

/-- The account of a party. -/
def observer (X : External) (Ev Repr : Type) : Observer X Ev Repr Funds where
  init := { paid := [], moved := [], refunded := [], taken := false }
  note := note

/-- The calls that broadcast an own payment. -/
def isSend : Call X Ev Repr → Bool
  | .sendMakerPaymentV2 _ => true
  | .sendTakerFunding _ => true
  | _ => false

theorem grows_ite_refund (f : Funds) (tx : Bytes) (took : Bool) :
    f.Grows (if took then f.refund tx else f) := by
  split
  · exact grows_refund f tx
  · exact .refl f

theorem grows_note {c : Call X Ev Repr} (hc : isSend c = false) (now : ℕ) (r : Reply c.Answer)
    (f : Funds) : f.Grows (note ⟨now, c, r⟩ f) := by
  cases c with
  | sendMakerPaymentV2 args => cases hc
  | sendTakerFunding args => cases hc
  | signAndSendTakerFundingSpend preimage args uniqueData =>
    simp only [note]
    split
    · exact grows_move f _ _
    · exact .refl f
  | refundMakerPaymentV2Timelock args => exact grows_ite_refund f _ _
  | refundMakerPaymentV2Secret args => exact grows_ite_refund f _ _
  | refundTakerFundingSecret args => exact grows_ite_refund f _ _
  | refundCombinedTakerPayment args => exact grows_ite_refund f _ _
  | signAndBroadcastTakerPaymentSpend preimage args secret uniqueData => exact grows_take f _
  | spendMakerPaymentV2 args => exact grows_take f _
  | _ => exact .refl f

/-- An answered refund settles the funds, unless it failed without having been broadcast. -/
theorem settled_of_refund {T : Type} {r : Reply (Except String T)} {a : Except String T}
    (ha : r.answer = some a) (hr : r.failed = true → r.reached = true ∨ f.Settled)
    (hf : (f.refund tx).Settled) : (if r.took then f.refund tx else f).Settled := by
  by_cases htook : r.took = true
  · rwa [if_pos htook]
  · rw [if_neg htook]
    cases a with
    | ok _ => exact absurd (Reply.took_of_ok ha) htook
    | error e =>
      rcases hr (Reply.failed_of_error ha) with hreached | hsettled
      · exact absurd (by rw [Reply.took, hreached, Bool.true_or]) htook
      · exact hsettled

/-- So does an answered spend of the other party's payment. -/
theorem settled_of_take {T : Type} {r : Reply (Except String T)} {a : Except String T}
    (ha : r.answer = some a) (hr : r.failed = true → r.reached = true ∨ f.Settled) :
    (f.take r.took).Settled := by
  cases a with
  | ok _ => exact .inl (by rw [take, Reply.took_of_ok ha, Bool.or_true])
  | error e =>
    rcases hr (Reply.failed_of_error ha) with hreached | hsettled
    · exact .inl (by rw [take, Reply.took, hreached, Bool.true_or, Bool.or_true])
    · exact hsettled.mono (grows_take f _)

/-- Without a report there is no payment. -/
theorem pay_eq_self {T : Type} {txHex : T → Bytes} {r : Reply (Except String T)}
    (hr : r.reached = true → r.answer.any Except.isOk = true)
    (hnot : r.answer.any Except.isOk = false) : f.pay txHex r = f := by
  have htook : r.took = false := by
    rw [Reply.took, hnot, Bool.or_false]
    by_contra hreached
    exact Bool.noConfusion (hnot.symm.trans (hr (Bool.eq_true_of_not_eq_false hreached)))
  rw [pay, htook, if_neg Bool.false_ne_true]

/-- The first payment is tracked once it is reported. -/
theorem tracks_pay {T : Type} {txHex : T → Bytes} {r : Reply (Except String T)} {tx : T}
    (hpaid : f.paid = []) (ha : r.answer = some (.ok tx)) : (f.pay txHex r).Tracks (txHex tx) := by
  have hnow : (f.pay txHex r).paid = [some (txHex tx)] := by
    simp [pay, Reply.took_of_ok ha, reported, ha, hpaid]
  exact .inr fun p hp => List.mem_singleton.mp (hnow ▸ hp)

end Funds

/-- Reading a written transaction gives it back. -/
def SwapCoin.Lawful (c : SwapCoin) : Prop :=
  ∀ tx, c.parseTx (c.txHex tx) = .ok tx

theorem rawCoin_lawful (ticker : String) : (rawCoin ticker).Lawful := fun _ => rfl

/-! ## Tracking the own payment through the states -/

/-- What the states and the records of a side know of its own payment. -/
structure Tracking (State Ev : Type) where
  getEvent : State → Ev
  isTerminal : Ev → Bool
  /-- The event is the first record of the own payment. -/
  isFirst : Ev → Bool
  state : Funds → State → Prop
  record : Funds → Ev → Prop
  state_mono : ∀ {f f' s}, state f s → f.Grows f' → state f' s
  record_mono : ∀ {f f' event}, record f event → f.Grows f' → record f' event
  record_getEvent : ∀ {f s}, state f s → record f (getEvent s)
  /-- Nothing is abandoned in a terminal state. -/
  settled : ∀ {f s}, isTerminal (getEvent s) = true → state f s → f.Settled

namespace Tracking

variable {Mach State : Type} (T : Tracking State Ev)

abbrev FundsView (Ev Repr : Type) := View Ev Repr Funds

/-- A terminal state is entered, and the swap marked as finished, only with settled funds. -/
def NotAbandoned (v : FundsView Ev Repr) : Call X Ev Repr → Prop
  | .storeEvent event => T.isTerminal event = true → v.data.Settled
  | .markFinished => v.data.Settled
  | _ => True

/-- The replies with which nothing is abandoned. A payment that is broadcast is reported and
recorded. A refund, or the spend of the other party's payment, fails only when it was broadcast
all the same or nothing is left to settle; so does the search for the secret. -/
def harmless (v : FundsView Ev Repr) : (c : Call X Ev Repr) → Reply c.Answer → Prop
  | .sendMakerPaymentV2 _, r => r.reached = true → r.answer.any Except.isOk = true
  | .sendTakerFunding _, r => r.reached = true → r.answer.any Except.isOk = true
  | .storeEvent event, r => T.isFirst event = true → r.took = true
  | .refundMakerPaymentV2Timelock _, r => r.failed = true → r.reached = true ∨ v.data.Settled
  | .refundMakerPaymentV2Secret _, r => r.failed = true → r.reached = true ∨ v.data.Settled
  | .refundTakerFundingSecret _, r => r.failed = true → r.reached = true ∨ v.data.Settled
  | .refundCombinedTakerPayment _, r => r.failed = true → r.reached = true ∨ v.data.Settled
  | .spendMakerPaymentV2 _, r => r.failed = true → r.reached = true ∨ v.data.Settled
  | .extractSecretV2 _ _, r => r.failed = true → v.data.Settled
  | _, _ => True

instance decidableHarmless (v : FundsView Ev Repr) (c : Call X Ev Repr) (r : Reply c.Answer) :
    Decidable (T.harmless v c r) := by
  cases c <;> dsimp only [harmless] <;> infer_instance

instance (v : FundsView Ev Repr) (c : Call X Ev Repr) : Decidable (T.NotAbandoned v c) := by
  cases c <;> dsimp only [NotAbandoned] <;> infer_instance

/-- Before its first record there is no own payment. -/
def Stored (v : FundsView Ev Repr) : Prop :=
  match v.last with
  | none => v.data.paid = []
  | some event => T.record v.data event

def Owed (f : Funds) : Stage State → Prop
  | .start => f.paid = []
  | .entered s => T.state f s

/-- The machine works in a state. -/
structure Here (p : Mach × Stage State) (v : FundsView Ev Repr) : Prop where
  stored : T.Stored v
  owed : T.Owed v.data p.2

def contract (X : External) (Repr : Type) :
    Contract (Call X Ev Repr) Call.Answer (FundsView Ev Repr) where
  allowed := T.harmless
  pre := T.NotAbandoned
  stopped := T.Stored

instance (v : FundsView Ev Repr) (c : Call X Ev Repr) (r : Reply c.Answer) :
    Decidable ((T.contract X Repr).allowed v c r) := T.decidableHarmless v c r

abbrev Env (X : External) (Ev Repr : Type) := View.env (Funds.observer X Ev Repr)

/-- The machine has finished. -/
def Done (v : FundsView Ev Repr) : Prop :=
  T.Stored v ∧ v.data.Settled

abbrev PostOf (X : External) (Repr : Type) (s : Mach × Stage State) :=
  Post (T.contract X Repr) (fun p => T.Here p) (fun _ => T.Done) s

section Rules

variable {T} {p s : Mach × Stage State} {m : Mach} {v v' : FundsView Ev Repr}

/-- The call neither sends the payment nor stores an event, nor is it the last one. -/
def isPlain : Call X Ev Repr → Bool
  | .storeEvent _ => false
  | .markFinished => false
  | .sendMakerPaymentV2 _ => false
  | .sendTakerFunding _ => false
  | _ => true

theorem grows_react {c : Call X Ev Repr} (hc : Funds.isSend c = false) (r : Reply c.Answer) :
    v.data.Grows (v.react (Funds.observer X Ev Repr) c r).data := by
  rw [View.react_data]
  exact Funds.grows_note hc _ _ _

theorem isSend_of_isPlain {c : Call X Ev Repr} (hc : isPlain c = true) : Funds.isSend c = false := by
  cases c <;> first | rfl | cases hc

theorem Stored.mono (h : T.Stored v) (hlast : v'.last = v.last) (hf : v.data.Grows v'.data) :
    T.Stored v' := by
  unfold Stored at h ⊢
  rw [hlast]
  split at h
  · exact hf.paid.trans h
  · exact T.record_mono h hf

theorem Owed.mono {f f' : Funds} {stage : Stage State} (h : T.Owed f stage) (hf : f.Grows f') :
    T.Owed f' stage := by
  cases stage with
  | start => exact hf.paid.trans h
  | entered state => exact T.state_mono h hf

theorem Stored.react (h : T.Stored v) {c : Call X Ev Repr} (hc : isPlain c = true)
    (r : Reply c.Answer) : T.Stored (v.react (Funds.observer X Ev Repr) c r) :=
  h.mono (View.react_last _ _ (by rintro _ rfl; cases hc) r) (grows_react (isSend_of_isPlain hc) r)

theorem Here.react (h : T.Here p v) {c : Call X Ev Repr} (hc : isPlain c = true)
    (r : Reply c.Answer) : T.Here p (v.react (Funds.observer X Ev Repr) c r) :=
  ⟨h.stored.react hc r, h.owed.mono (grows_react (isSend_of_isPlain hc) r)⟩

theorem notAbandoned_of_isPlain {c : Call X Ev Repr} (hc : isPlain c = true) :
    T.NotAbandoned v c := by
  cases c <;> trivial

/-- Rule for a plain call. -/
theorem wp_ask {α : Type} {c : Call X Ev Repr} {k : c.Answer → SwapProc X Ev Repr α}
    {Q : α → FundsView Ev Repr → Prop} (h : T.Here p v) (hc : isPlain c = true)
    (hk : ∀ r a v', T.harmless v c r → r.answer = some a → T.Here p v' →
      v'.data = Funds.note ⟨v.now, c, r⟩ v.data →
      (k a).wp (Env X Ev Repr) (T.contract X Repr) Q v') :
    (ask c >>= k).wp (Env X Ev Repr) (T.contract X Repr) Q v :=
  (wp_call c k).mpr ⟨notAbandoned_of_isPlain hc, fun r hr =>
    ⟨fun _ => (h.react hc r).stored, fun a ha => hk r a _ hr ha (h.react hc r)
      (View.react_data _ _ _ _)⟩⟩

/-- Rule for a plain call whose reply does not matter. -/
theorem wp_plain {α : Type} {c : Call X Ev Repr} {k : c.Answer → SwapProc X Ev Repr α}
    {Q : α → FundsView Ev Repr → Prop} (h : T.Here p v) (hc : isPlain c = true)
    (hk : ∀ a v', T.Here p v' → (k a).wp (Env X Ev Repr) (T.contract X Repr) Q v') :
    (ask c >>= k).wp (Env X Ev Repr) (T.contract X Repr) Q v :=
  wp_ask h hc fun _ a v' _ _ h' _ => hk a v' h'

/-- A call that broadcasts the first own payment: it is sent exactly when it is reported. -/
theorem Here.of_pay {Tx : Type} {txHex : Tx → Bytes} {r : Reply (Except String Tx)}
    (h : T.Here p v) (hr : r.reached = true → r.answer.any Except.isOk = true)
    (hnot : r.answer.any Except.isOk = false) (hlast : v'.last = v.last)
    (hdata : v'.data = v.data.pay txHex r) : T.Here p v' := by
  rw [Funds.pay_eq_self hr hnot] at hdata
  exact ⟨h.stored.mono hlast (hdata ▸ .refl _), h.owed.mono (hdata ▸ .refl _)⟩

/-- Rule for a message. -/
theorem wp_recv {field : MsgField} {timeout : ℕ} {α : Type}
    {k : Except String field.Message → SwapProc X Ev Repr α} {Q : α → FundsView Ev Repr → Prop}
    (h : T.Here p v)
    (hk : ∀ res v', T.Here p v' → (k res).wp (Env X Ev Repr) (T.contract X Repr) Q v') :
    (recvSwapV2Msg field timeout >>= k).wp (Env X Ev Repr) (T.contract X Repr) Q v := by
  refine (wp_bind _ _).mpr (wp_recvSwapV2Msg (I := T.Here p) h ?_ ?_ ?_ ?_ ?_)
  · exact fun _ _ => trivial
  · exact fun v' r h' => h'.react rfl r
  · exact fun v' h' => h'.stored
  · exact fun e v' h' => hk _ v' h'
  · exact fun v' r msg h' _ => hk _ _ (h'.react rfl r)

/-- Rule for the change to another state. The first record of the payment has to be kept, any
other one may get lost. -/
theorem wp_changeTo (next : State)
    (hstored : T.Stored v ∨ T.isFirst (T.getEvent next) = true) (hnext : T.state v.data next) :
    (changeState T.getEvent m next).wp (Env X Ev Repr) (T.contract X Repr)
      (T.PostOf X Repr s) v := by
  have hrecord (v' : FundsView Ev Repr) (hdata : v'.data = v.data)
      (hlast : v'.last = some (T.getEvent next)) : T.Stored v' := by
    unfold Stored
    rw [hlast, hdata]
    exact T.record_getEvent hnext
  refine wp_changeState (fun hterminal => T.settled hterminal hnext)
    (fun r v' hr _ hlast hdata => ?_)
    fun r v' _ _ _ _ hlast hdata => ⟨hrecord v' hdata hlast, ?_⟩
  · have hstored' : T.Stored v' := by
      by_cases htook : r.took = true
      · rw [if_pos htook] at hlast
        exact hrecord v' hdata hlast
      · rw [if_neg htook] at hlast
        rcases hstored with hstored | hfirst
        · exact hstored.mono hlast (hdata ▸ .refl _)
        · exact absurd (hr hfirst) htook
    exact ⟨hstored', hstored'⟩
  · rw [hdata]
    exact hnext

theorem Here.change (h : T.Here p v) (next : State) (hnext : T.state v.data next) :
    (changeState T.getEvent m next).wp (Env X Ev Repr) (T.contract X Repr)
      (T.PostOf X Repr s) v :=
  wp_changeTo next (.inl h.stored) hnext

/-- The last states return at once. -/
theorem Here.finish {state : State} (h : T.Here (m, Stage.entered state) v)
    (hlast : T.isTerminal (T.getEvent state) = true) : T.Done v :=
  ⟨h.stored, T.settled hlast h.owed⟩

/-- Starting and restarting. -/
theorem wp_runFrom {toDbRepr : Mach → Repr} (h : T.Here p v) :
    (runFrom toDbRepr p.1 p.2).wp (Env X Ev Repr) (T.contract X Repr) (T.PostOf X Repr p) v := by
  refine wp_plain h rfl ?_
  rintro (e | _) v h
  · exact h.stored
  refine wp_plain h rfl ?_
  rintro (e | _ | _) v h
  · exact h.stored
  · refine wp_plain h rfl ?_
    rintro (e | _) v h
    · exact h.stored
    · exact h
  · exact h

theorem wp_onFinished (h : T.Done v) :
    onFinished.wp (Env X Ev Repr) (T.contract X Repr) (fun _ => T.Stored) v := by
  have hstored (r : Reply (Except String Unit)) :
      T.Stored (v.react (Funds.observer X Ev Repr) .markFinished r) :=
    h.1.mono (View.react_last _ v (c := .markFinished) nofun r)
      (grows_react (c := .markFinished) rfl r)
  exact (wp_call (K := T.contract X Repr) Call.markFinished _).mpr
    ⟨h.2, fun r _ => ⟨fun _ => hstored r, fun _ _ => hstored r⟩⟩

/-- A side whose states track the own payment, and whose restarts find it again. -/
theorem verified {M : SwapMachine X Mach State Ev Repr}
    (hinit : ∀ m v, T.Here (m, Stage.start) v → (M.onInitialize m).wp (Env X Ev Repr)
      (T.contract X Repr) (T.PostOf X Repr (m, Stage.start)) v)
    (hstate : ∀ m state v, T.Here (m, Stage.entered state) v → (M.onChanged m state).wp
      (Env X Ev Repr) (T.contract X Repr) (T.PostOf X Repr (m, Stage.entered state)) v)
    (hrecreate : ∀ repr events m state, M.recreateMachine repr events = .ok (m, state) →
      ∃ event ∈ events.getLast?, ∀ f, T.record f event → T.state f state) :
    Verified M.machine (Env X Ev Repr) (Funds.observer X Ev Repr).view (T.contract X Repr)
      (fun p => T.Here p) (fun _ => T.Done) where
  abstraction := (Funds.observer X Ev Repr).abstraction
  onChanged := by
    rintro ⟨m, _ | state⟩ v h
    · exact hinit m v h
    · exact hstate m state v h
  onFinished _ v h := wp_onFinished h
  elapse _ _ h := h
  resume w p hstored hp := by
    obtain ⟨repr, m, state, -, hm, rfl⟩ := SwapMachine.exists_of_restore hp
    obtain ⟨event, hevent, howed⟩ := hrecreate repr _ m state hm
    refine wp_runFrom (p := (m, .entered state)) ⟨hstored, howed _ ?_⟩
    have hrecord : T.Stored ((Funds.observer X Ev Repr).view w) := hstored
    unfold Stored at hrecord
    rwa [show ((Funds.observer X Ev Repr).view w).last = some event from hevent] at hrecord

end Rules

end Tracking

end DeXFG.SwapV2
