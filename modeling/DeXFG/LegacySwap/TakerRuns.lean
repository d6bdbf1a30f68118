import DeXFG.LegacySwap.TakerLog

/-!
# The runs of the taker

In every run of a taker swap the saved log follows the grammar, the command
under way is one that goes on after it, and the swap in memory is the one that
the log gives back, but for three fields: the reward of the watchers, which the
log does not keep, and the spend of the taker payment with its secret, which a
restart may find without recording it.
-/
namespace DeXFG.LegacySwap
open Ordermatch (MmNumber Uuid)
open SwapV2 (Side TransactionIdentifier)
open Library.Process Library.EventSourced Library.EventGrammar

namespace TakerSwap

/-! ## The swap of a log -/

/-- The log with its out-dated contract addresses replaced. -/
def refreshed (X : SwapEnv) : TakerSavedSwap → TakerSavedSwap
  | .started data :: events => .started (refresh X data) :: events
  | saved => saved

/-- The swap that the log gives back. -/
def restored (X : SwapEnv) (uuid : Uuid) (log : TakerSavedSwap) : TakerSwap :=
  (refreshed X log).foldl (applyEvent 0) (ofData X uuid {})

/-- The same swap for all that its commands do later; with `strict`, in every field of the
lock. -/
structure Same (strict : Prop) (a b : TakerSwap) : Prop where
  makerPaymentLock : b.makerPaymentLock = a.makerPaymentLock
  mutable : ∃ watcherReward takerPaymentSpend secret,
    b.mutable = { a.mutable with watcherReward, takerPaymentSpend, secret }
  strict : strict → b.mutable = a.mutable

section Same

variable {X : SwapEnv} {uuid : Uuid} {strict : Prop} {a b c : TakerSwap} {log : TakerSavedSwap}

theorem Same.refl (a : TakerSwap) : Same strict a a := ⟨rfl, ⟨_, _, _, rfl⟩, fun _ => rfl⟩

theorem Same.applyEvent (h : Same strict a b) (t t' : ℕ) (e : TakerSwapEvent) :
    Same strict (applyEvent t a e) (applyEvent t' b e) := by
  obtain ⟨hlock, ⟨r, sp, se, hmut⟩, hstrict⟩ := h
  constructor
  · cases e <;> simp [TakerSwap.applyEvent, w, pushError, hlock]
  · cases e with
    | takerPaymentSpent data =>
      simp only [TakerSwap.applyEvent, w, hmut]
      exact ⟨r, _, _, rfl⟩
    | _ =>
      simp only [TakerSwap.applyEvent, w, pushError, hmut]
      exact ⟨r, sp, se, rfl⟩
  · intro hs
    cases e <;> simp [TakerSwap.applyEvent, w, pushError, hstrict hs]

theorem Same.foldl (h : Same strict a b) (t t' : ℕ) :
    Same strict (log.foldl (TakerSwap.applyEvent t) a) (log.foldl (TakerSwap.applyEvent t') b) := by
  induction log generalizing a b with
  | nil => exact h
  | cons e log ih => exact ih (h.applyEvent t t' e)

theorem refresh_refresh (data : TakerSwapData) : refresh X (refresh X data) = refresh X data := by
  cases data with
  | mk _ _ _ _ _ _ _ _ _ _ _ _ _ _ _ _ _ maker taker _ _ =>
    cases maker <;> cases taker <;> simp [refresh]

theorem refreshed_append {es : TakerSavedSwap} (h : log ≠ [] ∨ refreshed X es = es) :
    refreshed X (log ++ es) = refreshed X log ++ es := by
  cases log with
  | nil => simpa [refreshed] using h
  | cons e log => cases e <;> rfl

theorem restored_append {es : TakerSavedSwap} (h : log ≠ [] ∨ refreshed X es = es) :
    restored X uuid (log ++ es) = es.foldl (TakerSwap.applyEvent 0) (restored X uuid log) := by
  rw [restored, refreshed_append h, List.foldl_append, restored]

theorem refreshed_refreshed : refreshed X (refreshed X log) = refreshed X log := by
  cases log with
  | nil => rfl
  | cons e log => cases e <;> simp [refreshed, refresh_refresh]

theorem restored_refreshed : restored X uuid (refreshed X log) = restored X uuid log := by
  rw [restored, refreshed_refreshed, restored]

theorem refreshed_ne_nil (h : log ≠ []) : refreshed X log ≠ [] := by
  cases log with
  | nil => exact absurd rfl h
  | cons e log => cases e <;> simp [refreshed]

theorem getLast?_refreshed_of_command {d : TakerSwapEvent} {c : TakerSwapCommand}
    (h : log.getLast? = some d) (hc : d.getCommand = some c) (hne : c ≠ .negotiate := by simp) :
    (refreshed X log).getLast? = some d := by
  cases log with
  | nil => simp at h
  | cons e log =>
    cases log with
    | nil =>
      obtain rfl := Option.some.inj h
      cases e with
      | started data =>
        obtain rfl := Option.some.inj hc
        exact absurd rfl hne
      | _ => rfl
    | cons e' log => cases e <;> simpa [refreshed, List.getLast?_cons_cons] using h

theorem grammar_refreshed (h : grammar.Log log) : grammar.Log (refreshed X log) := by
  cases log with
  | nil => exact h
  | cons e log =>
    cases e with
    | started data =>
      apply h.replace_head
      · exact .started _
      · rintro e (hcont | ⟨c, hres, hemit⟩)
        · cases hcont
        · cases hres with
          | next hc he => exact .inr ⟨c, .next hc (by simp), hemit⟩
          | discovered he => cases he
    | _ => exact h

end Same

/-! ## What holds along a run -/

/-- After the instructions alone the swap goes on without the maker payment that they came with. -/
def Stuck (log : TakerSavedSwap) (c : TakerSwapCommand) : Prop :=
  c = .validateMakerPayment ∧ ∃ i, log.getLast? = some (.takerPaymentInstructionsReceived i)

/-- The failures after which the running swap finishes and the loaded swap takes a refund. -/
def FailsApart : TakerSwapEvent → Prop
  | .takerPaymentWaitForSpendFailed _ => True
  | .makerPaymentSpendFailed _ => True
  | _ => False

/-- The event leads to the next command, or is a failure after which the swap finishes. -/
def LeadsTo (e : TakerSwapEvent) (next : Option TakerSwapCommand) : Prop :=
  e.getCommand = next ∨ FailsApart e ∧ next = some .finish

/-- The command does not spend the maker payment with a secret that is not recorded. -/
def Recorded (log : TakerSavedSwap) (c : TakerSwapCommand) : Prop :=
  ∀ d, log.getLast? = some d → d.getCommand = some .waitForTakerPaymentSpend →
    c ≠ .spendMakerPayment

structure Handling (strict : Prop) (X : SwapEnv) (uuid : Uuid) (log : TakerSavedSwap)
    (s : TakerSwap) (c : TakerSwapCommand) : Prop where
  legal : grammar.Log log
  same : Same strict (restored X uuid log) s
  pending : Pending log c ∨ Stuck log c
  recorded : strict → Recorded log c

/-- The events of the command `c` that are not saved yet are `es`. -/
structure Saving (strict : Prop) (X : SwapEnv) (uuid : Uuid) (log : TakerSavedSwap)
    (s : TakerSwap) (c : TakerSwapCommand) (es : List TakerSwapEvent)
    (next : Option TakerSwapCommand) : Prop where
  legal : grammar.Log (log ++ es)
  same : Same strict (restored X uuid log) s
  first : log ≠ [] ∨ refreshed X es = es
  pending : ∀ c, next = some c → Pending (log ++ es) c
  leads : ∀ e ∈ es, LeadsTo e next
  place : Pending log c ∧ (strict → Recorded log c) ∨
    ∃ d, log.getLast? = some d ∧ LeadsTo d next
  recorded : strict → es = [] → ∀ c, next = some c → Recorded log c
  turns : (c = .finish → next = none) ∧
    (c = .prepareForTakerPaymentRefund → next = some .refundTakerPayment)

/-- What holds of the log and the phase in every run. -/
def Along (strict : Prop) (X : SwapEnv) (uuid : Uuid) (log : TakerSavedSwap) :
    Phase TakerSwap TakerSwapEvent TakerSwapCommand → Prop
  | .loading _ => grammar.Log log
  | .handling s c => Handling strict X uuid log s c
  | .saving s c es next => Saving strict X uuid log s c es next

section Along

variable {X : SwapEnv} {uuid : Uuid} {strict : Prop} {R : (c : SwapCall) → c.Answer → Prop}
  {s s' : TakerSwap} {c : TakerSwapCommand} {next : Option TakerSwapCommand}
  {log es : TakerSavedSwap} {e : TakerSwapEvent}

theorem Along.legal {ph : Phase TakerSwap TakerSwapEvent TakerSwapCommand}
    (h : Along strict X uuid log ph) : grammar.Log log := by
  cases ph with
  | loading _ => exact h
  | handling s c => exact Handling.legal h
  | saving s c es next => exact (Saving.legal h).left

theorem Pending.start (h : Pending log .start) : log = [] := by
  cases log using List.reverseRecOn with
  | nil => rfl
  | append_singleton log d =>
    exfalso
    cases pending_snoc.mp h with
    | next hc _ => cases d <;> simp [TakerSwapEvent.getCommand] at hc

/-- Events of the log that come late enough are followed by nothing early. -/
theorem last_of_late {d : TakerSwapEvent} (h : grammar.Log (log ++ [d])) (he : e ∈ log ++ [d])
    (hlate : 2 ≤ stage e) : 2 ≤ stage d ∨ d = .finished ∨ ∃ err, d = .makerPaymentValidateFailed err := by
  apply h.last_of_forward (p := fun d => 2 ≤ stage d ∨ d = .finished ∨
    ∃ err, d = .makerPaymentValidateFailed err) _ he (.inl hlate)
  rintro d e (hcont | ⟨c, hres, hemit⟩) hd
  · cases hcont <;> simp_all [stage]
  · have hc : 2 ≤ needs c ∨ c = .finish := by
      cases hres with
      | next hc he =>
        cases d <;> simp_all [TakerSwapEvent.getCommand, stage] <;> subst hc <;> simp [needs]
      | secretNotExtracted => simp
      | makerPaymentNotSpent => simp
      | discovered _ => simp [needs]
    cases hemit <;> simp_all [stage, needs]

theorem Stuck.makerPayment (hstuck : Stuck log c) (h : grammar.Log log) :
    (restored X uuid log).mutable.makerPayment = none := by
  obtain ⟨-, i, hlast⟩ := hstuck
  obtain ⟨log, rfl⟩ := List.getLast?_eq_some_iff.mp hlast
  by_contra hsome
  have horigin := foldl_origin (P := fun s => s.mutable.makerPayment.isSome)
    (q := fun e => ∃ tx, e = .makerPaymentReceived tx) (s := ofData X uuid {})
    (f := applyEvent 0) (by
      intro s e
      cases e <;> simp [applyEvent, w, pushError]) (Option.ne_none_iff_isSome.mp hsome)
  obtain hbase | ⟨_, hmem, tx, rfl⟩ := horigin
  · simp [ofData] at hbase
  · have hmem' : TakerSwapEvent.makerPaymentReceived tx ∈
        log ++ [.takerPaymentInstructionsReceived i] := by
      revert hmem
      generalize log ++ [TakerSwapEvent.takerPaymentInstructionsReceived i] = l
      cases l with
      | nil => exact id
      | cons d l => cases d <;> simp [refreshed]
    simpa [stage] using last_of_late h hmem' (by simp [stage])

/-- A command changes nothing in memory but the reward of the watchers, at the start. -/
theorem Outcome.same (h : Outcome X R s c s' next es) :
    s' = s ∨ c = .start ∧ ∃ watcherReward, R .useWatcherReward watcherReward ∧
      s' = s.w ({ · with watcherReward }) := by
  cases h with
  | started data _ watcherReward hreward => exact .inr ⟨rfl, watcherReward, hreward, rfl⟩
  | _ => exact .inl rfl

theorem Outcome.refreshed (h : Outcome X R s c s' next es) : TakerSwap.refreshed X es = es := by
  cases h with
  | started data hdata _ _ =>
    have h := hdata.makerCoinSwapContractAddress
    have h' := hdata.takerCoinSwapContractAddress
    cases data
    simp_all [TakerSwap.refreshed, refresh]
  | _ => rfl

theorem Outcome.leads (h : Outcome X R s c s' next es) (he : e ∈ es) : LeadsTo e next := by
  cases h with
  | secretNotExtracted err tx hextract =>
    rw [List.mem_singleton] at he
    exact .inr ⟨he ▸ trivial, rfl⟩
  | makerPaymentNotSpent err =>
    rw [List.mem_singleton] at he
    exact .inr ⟨he ▸ trivial, rfl⟩
  | refundWaits => cases he
  | _ =>
    left
    simp only [List.mem_cons, List.not_mem_nil, or_false] at he
    first
    | (obtain rfl := he; rfl)
    | (obtain rfl | rfl := he <;> rfl)
    | (obtain rfl | rfl | rfl := he <;> rfl)

theorem Outcome.saving (h : Outcome X R s c s' next es)
    (hreward : strict → ∀ b, R .useWatcherReward b → b = false) (hlog : grammar.Log log)
    (hsame : Same strict (restored X uuid log) s) (hc : Pending log c)
    (hrecorded : strict → Recorded log c) : Saving strict X uuid log s' c es next where
  legal := (h.grammatical hlog hc).1
  same := by
    obtain rfl | ⟨rfl, b, hb, rfl⟩ := h.same
    · exact hsame
    · obtain ⟨hlock, ⟨r, sp, se, hmut⟩, hstrict⟩ := hsame
      constructor
      · exact hlock
      · exact ⟨b, sp, se, by simp [w, hmut]⟩
      · intro hs
        obtain rfl := hreward hs b hb
        obtain rfl := hc.start
        simp [w, hstrict hs, restored, TakerSwap.refreshed, ofData]
  first := .inr h.refreshed
  pending := (h.grammatical hlog hc).2
  leads _ he := h.leads he
  place := .inl ⟨hc, hrecorded⟩
  recorded hs hes := by
    cases h with
    | refundWaits =>
      rintro _ ⟨⟩ d - -
      simp
    | _ => cases hes
  turns := by cases h <;> simp

/-- Every command keeps what holds along a run. -/
theorem Handling.handled (h : Handling strict X uuid log s c)
    (hreward : strict → ∀ b, R .useWatcherReward b → b = false) :
    (handleCommand X c s).Sat R (Makes c) fun r =>
      ∀ s' next es, r = .ok (s', next, es) → Saving strict X uuid log s' c es next := by
  obtain ⟨hlog, hsame, hpending | hstuck, hrecorded⟩ := h
  · apply sat_mono (fun _ h => h) _ (handleCommand_sat c)
    rintro r hr s' next es rfl
    exact Outcome.saving hr hreward hlog hsame hpending hrecorded
  · have hnone : s.mutable.makerPayment = none := by
      obtain ⟨r, sp, se, hmut⟩ := hsame.mutable
      rw [hmut]
      exact hstuck.makerPayment hlog
    obtain ⟨rfl, -⟩ := hstuck
    simp [handleCommand, validateMakerPayment, hnone]

theorem Saving.saved (h : Saving strict X uuid log s c (e :: es) next) (t : ℕ) :
    Saving strict X uuid (log ++ [e]) (applyEvent t s e) c es next where
  legal := by simpa using h.legal
  same := by
    rw [restored_append]
    · exact h.same.applyEvent 0 t e
    · apply h.first.imp_right
      intro hfirst
      cases e <;> simp_all [refreshed]
  first := by simp
  pending := by simpa using h.pending
  leads d hd := h.leads d (List.mem_cons_of_mem _ hd)
  place := .inr ⟨e, by simp, h.leads e List.mem_cons_self⟩
  recorded _ _ c' hnext d hd hwait := by
    obtain rfl : e = d := by simpa using hd
    obtain hc | ⟨-, hc⟩ := h.leads e List.mem_cons_self
    · rw [hwait, hnext] at hc
      obtain rfl := Option.some.inj hc
      simp
    · rw [hnext] at hc
      obtain rfl := Option.some.inj hc
      simp
  turns := h.turns

theorem Saving.goesOn {c' : TakerSwapCommand} (h : Saving strict X uuid log s c [] (some c')) :
    Handling strict X uuid log s c' where
  legal := by simpa using h.legal
  same := h.same
  pending := .inl (by simpa using h.pending c' rfl)
  recorded hs := h.recorded hs rfl c' rfl

end Along

/-! ## Loading -/

/-- The calls of the search at a restart. -/
def Looks : SwapCall → Prop
  | .searchForSwapTxSpendMy _ _ => True
  | .searchForSwapTxSpendOther _ _ => True
  | .extractSecret _ _ _ => True
  | .takerValidatesPaymentSpendOrRefund _ _ => True
  | _ => False

/-- The environment of a run answers in `R` and lets the search ask. With `strict` there is no
reward of the watchers, and a restart that finds the taker payment spent finds the maker payment
spent too. -/
structure Surroundings (strict : Prop) (R : (c : SwapCall) → c.Answer → Prop)
    (K : TakerSavedSwap → Contract SwapCall SwapCall.Answer ℕ) : Prop where
  answers : ∀ {log t c r a}, (K log).allowed t c r → r.answer = some a → R c a
  looks : ∀ {log t c}, Looks c → (K log).pre t c
  reward : strict → ∀ b, R .useWatcherReward b → b = false
  discovers : ∀ {log t d input r}, strict → log.getLast? = some d →
    d.getCommand = some .waitForTakerPaymentSpend →
    (K log).allowed t (.searchForSwapTxSpendOther .maker input) r → r.answer ≠ some (.ok none)

/-- What loading ends with. -/
def Loaded (strict : Prop) (X : SwapEnv) (uuid : Uuid)
    (r : Except String (TakerSwap × Option TakerSwapCommand)) (w : Store TakerSwapEvent) : Prop :=
  grammar.Log w.log ∧ ∀ s c, r = .ok (s, some c) → Handling strict X uuid w.log s c

section Loading

variable {X : SwapEnv} {uuid : Uuid} {strict : Prop} {R : (c : SwapCall) → c.Answer → Prop}
  {K : TakerSavedSwap → Contract SwapCall SwapCall.Answer ℕ} {s : TakerSwap}
  {c : TakerSwapCommand} {log saved : TakerSavedSwap} {d e : TakerSwapEvent} {t : ℕ}

theorem loaded_error {err : String} (h : grammar.Log log) :
    Loaded strict X uuid (.error err) ⟨t, log⟩ := ⟨h, by simp⟩

theorem loaded_ok (h : Handling strict X uuid log s c) :
    Loaded strict X uuid (.ok (s, some c)) ⟨t, log⟩ := by
  constructor
  · exact h.legal
  · rintro s c ⟨⟩
    exact h

theorem handling_of_last (hlog : grammar.Log log) (hlast : log.getLast? = some d)
    (hc : d.getCommand = some c) (hsame : Same strict (restored X uuid log) s) :
    Handling strict X uuid log s c where
  legal := hlog
  same := hsame
  pending := by
    by_cases hi : ∃ i, d = .takerPaymentInstructionsReceived i
    · obtain ⟨i, rfl⟩ := hi
      exact .inr ⟨(Option.some.inj hc).symm, i, hlast⟩
    · left
      rw [Pending, hlast]
      exact .next hc (not_exists.mp hi)
  recorded _ d' hd' hwait := by
    obtain rfl := Option.some.inj (hlast.symm.trans hd')
    rw [hwait] at hc
    obtain rfl := Option.some.inj hc
    simp

theorem addAndSave_wp (hlog : grammar.Log log) (hsaved : grammar.Log saved) (hne : saved ≠ [])
    (hsame : Same strict (restored X uuid saved) s) (hnext : grammar.Next saved e)
    (hres : Resumes e c) (hspent : e.getCommand ≠ some .waitForTakerPaymentSpend) :
    (addAndSave s saved e c).wp storeEnv (contract K grammar.Log) (Loaded strict X uuid)
      ⟨t, log⟩ := by
  have hnew : grammar.Log (saved ++ [e]) := hsaved.snoc hnext
  apply wp_overwrite hlog hnew
  · intro t'
    apply loaded_ok
    constructor
    · exact hnew
    · rw [restored_append (.inl hne)]
      exact hsame.applyEvent 0 _ e
    · exact .inl (pending_snoc.mpr hres)
    · intro _ d hd hwait
      obtain rfl : e = d := by simpa using hd
      exact absurd hwait hspent
  · exact fun err t' l hl => loaded_error hl

variable (hK : Surroundings strict R K)

include hK

theorem addTakerPaymentRefundedByWatcherEvent_wp {refundTx : Bytes} (hlog : grammar.Log log)
    (hsaved : grammar.Log saved) (hne : saved ≠ [])
    (hsame : Same strict (restored X uuid saved) s) (hpending : Pending saved c)
    (hc : c = .waitForTakerPaymentSpend ∨ c = .prepareForTakerPaymentRefund ∨
      c = .refundTakerPayment) :
    (addTakerPaymentRefundedByWatcherEvent X s saved refundTx).wp storeEnv
      (contract K grammar.Log) (Loaded strict X uuid) ⟨t, log⟩ := by
  apply wp_ext hlog
  · exact hK.looks trivial
  · rintro r (err | _) - -
    · exact loaded_error hlog
    · apply addAndSave_wp hlog hsaved hne hsame
      · exact hpending.next (.refundedByWatcher _ hc)
      · exact .next rfl (by simp)
      · simp [TakerSwapEvent.getCommand]

theorem checkMakerPaymentSpendAndAddEvent_wp (hlog : grammar.Log log)
    (hsaved : grammar.Log saved) (hne : saved ≠ [])
    (hsame : Same strict (restored X uuid saved) s) (hpending : Pending saved .spendMakerPayment)
    (hunspent : ∀ input r t, (K log).allowed t (.searchForSwapTxSpendOther .maker input) r →
      r.answer = some (.ok none) → Handling strict X uuid log s .spendMakerPayment) :
    (checkMakerPaymentSpendAndAddEvent X s saved).wp storeEnv (contract K grammar.Log)
      (Loaded strict X uuid) ⟨t, log⟩ := by
  unfold checkMakerPaymentSpendAndAddEvent
  cases s.mutable.makerPayment with
  | none => exact loaded_error hlog
  | some makerPayment =>
    apply wp_ext hlog
    · exact hK.looks trivial
    · rintro r (err | _ | spendTx | refundTx) hr ha
      · exact loaded_error hlog
      · exact loaded_ok (hunspent _ r _ hr ha)
      · apply wp_ext hlog
        · exact hK.looks trivial
        · rintro r' (err | _) - -
          · exact loaded_error hlog
          · apply addAndSave_wp hlog hsaved hne hsame
            · exact hpending.next (.spentByWatcher _)
            · exact .next rfl (by simp)
            · simp [TakerSwapEvent.getCommand]
      · exact loaded_error hlog

theorem onWaitForSpend_wp (hlog : grammar.Log log) (hne : log ≠ [])
    (hsame : Same strict (restored X uuid log) s) (hlast : log.getLast? = some d)
    (hd : d.getCommand = some .waitForTakerPaymentSpend) :
    (onWaitForSpend X s (refreshed X log)).wp storeEnv (contract K grammar.Log)
      (Loaded strict X uuid) ⟨t, log⟩ := by
  have hlog' : grammar.Log (refreshed X log) := grammar_refreshed hlog
  have hne' : refreshed X log ≠ [] := refreshed_ne_nil hne
  have hsame' : Same strict (restored X uuid (refreshed X log)) s := by rwa [restored_refreshed]
  have hpending : Pending (refreshed X log) .waitForTakerPaymentSpend := by
    rw [Pending, getLast?_refreshed_of_command hlast hd]
    exact .next hd (by rintro i rfl; cases hd)
  unfold onWaitForSpend checkTakerPaymentSpend
  cases s.mutable.takerPayment with
  | none => exact loaded_error hlog
  | some takerPayment =>
    apply wp_ext hlog
    · exact hK.looks trivial
    · rintro r (err | _ | spendTx | refundTx) - -
      · exact loaded_error hlog
      · exact loaded_ok (handling_of_last hlog hlast hd hsame)
      · apply wp_ext hlog
        · exact hK.looks trivial
        · rintro r' (err | secret) - -
          · exact loaded_error hlog
          · apply checkMakerPaymentSpendAndAddEvent_wp hK hlog
            · exact hlog'.snoc (hpending.next (.takerPaymentSpent _))
            · simp
            · rw [restored_append (.inl hne')]
              rw [List.foldl_cons, List.foldl_nil]
              exact hsame'.applyEvent 0 _ _
            · exact pending_snoc.mpr (.next rfl (by simp))
            · intro input r'' t' hr ha
              constructor
              · exact hlog
              · obtain ⟨hlock, ⟨reward, sp, se, hmut⟩, _⟩ := hsame
                constructor
                · exact hlock
                · exact ⟨reward, some (X.takerCoin.ident spendTx), secret,
                    by simp only [applyEvent, w, hmut]⟩
                · exact fun hs => absurd ha (hK.discovers hs hlast hd hr)
              · left
                rw [Pending, hlast]
                exact .discovered hd
              · exact fun hs => absurd ha (hK.discovers hs hlast hd hr)
      · exact addTakerPaymentRefundedByWatcherEvent_wp hK hlog hlog' hne' hsame' hpending
          (.inl rfl)

theorem onRefund_wp (hlog : grammar.Log log) (hne : log ≠ [])
    (hsame : Same strict (restored X uuid log) s) (hlast : log.getLast? = some d)
    (hd : d.getCommand = some c)
    (hc : c = .prepareForTakerPaymentRefund ∨ c = .refundTakerPayment) :
    (onRefund X s (refreshed X log) c).wp storeEnv (contract K grammar.Log)
      (Loaded strict X uuid) ⟨t, log⟩ := by
  have hhandling : Handling strict X uuid log s c := handling_of_last hlog hlast hd hsame
  have hpending : Pending (refreshed X log) c := by
    rw [Pending, getLast?_refreshed_of_command hlast hd (by rintro rfl; simp at hc)]
    apply Resumes.next hd
    rintro i rfl
    obtain rfl := Option.some.inj hd
    simp at hc
  unfold onRefund checkTakerPaymentSpend
  change Proc.wp _ _ (if _ then _ else _) _ _
  split
  · exact loaded_ok hhandling
  · cases s.mutable.takerPayment with
    | none => exact loaded_error hlog
    | some takerPayment =>
      apply wp_ext hlog
      · exact hK.looks trivial
      · rintro r (err | _ | spendTx | refundTx) - -
        · exact loaded_error hlog
        · exact loaded_ok hhandling
        · exact loaded_error hlog
        · apply addTakerPaymentRefundedByWatcherEvent_wp hK hlog (grammar_refreshed hlog)
            (refreshed_ne_nil hne) _ hpending (.inr hc)
          rwa [restored_refreshed]

theorem getCommandBasedOnMakerOrWatcherActivity_wp (hlog : grammar.Log log) (hne : log ≠ [])
    (hsame : Same strict (restored X uuid log) s) (hlast : log.getLast? = some d)
    (hd : d.getCommand = some c) :
    (getCommandBasedOnMakerOrWatcherActivity X s (refreshed X log) c).wp storeEnv
      (contract K grammar.Log) (Loaded strict X uuid) ⟨t, log⟩ := by
  have hhandling : Handling strict X uuid log s c := handling_of_last hlog hlast hd hsame
  unfold getCommandBasedOnMakerOrWatcherActivity
  change Proc.wp _ _ (if _ then _ else _) _ _
  split
  · exact loaded_ok hhandling
  · cases c with
    | waitForTakerPaymentSpend => exact onWaitForSpend_wp hK hlog hne hsame hlast hd
    | spendMakerPayment =>
      apply checkMakerPaymentSpendAndAddEvent_wp hK hlog (grammar_refreshed hlog)
        (refreshed_ne_nil hne)
      · rwa [restored_refreshed]
      · rw [Pending, getLast?_refreshed_of_command hlast hd]
        exact .next hd (by rintro i rfl; cases hd)
      · exact fun _ _ _ _ _ => hhandling
    | prepareForTakerPaymentRefund => exact onRefund_wp hK hlog hne hsame hlast hd (.inl rfl)
    | refundTakerPayment => exact onRefund_wp hK hlog hne hsame hlast hd (.inr rfl)
    | _ => exact loaded_ok hhandling

omit hK in
theorem same_replay {data : TakerSwapData} {events : TakerSavedSwap} :
    Same strict (restored X uuid (.started data :: events)) (replay X uuid t data events) := by
  apply Same.foldl
  exact ⟨rfl, ⟨_, _, _, rfl⟩, fun _ => rfl⟩

theorem loadFromSaved_wp (hlog : grammar.Log log) :
    (loadFromSaved X uuid log).wp storeEnv (contract K grammar.Log) (Loaded strict X uuid)
      ⟨t, log⟩ := by
  cases log with
  | nil => exact loaded_error hlog
  | cons e events =>
    cases e with
    | started data =>
      have hlast : (TakerSwapEvent.started data :: events).getLast? =
          some (events.getLastD (.started data)) := by
        simp [List.getLast?_cons]
      change Proc.wp _ _ (commandAfter X (replay X uuid t data events) _ _) _ _
      unfold commandAfter
      cases hc : (events.getLastD (.started data)).getCommand with
      | none => exact ⟨hlog, by simp⟩
      | some c =>
        simp only
        split
        · exact getCommandBasedOnMakerOrWatcherActivity_wp hK hlog (by simp) same_replay hlast hc
        · exact loaded_ok (handling_of_last hlog hlast hc same_replay)
    | _ => exact loaded_error hlog

/-- What holds along the runs of the taker is kept by every step of them, when the commands keep
the contract. -/
theorem along_invariant (hcommands : ∀ log s c t, Handling strict X uuid log s c →
      (handleCommand X c s).wp clockEnv (K log) (fun _ _ => True) t) :
    Invariant (system X uuid) K grammar.Log (Along strict X uuid) where
  log := Along.legal
  handled t h := by
    apply wp_mono _ _ (wp_and_sat (fun _ _ _ hr _ => hK.answers hr) (hcommands _ _ _ t h)
      (h.handled hK.reward))
    rintro r t' ⟨-, hr⟩
    exact hr
  saved t h := h.saved t
  next h := h.goesOn
  loaded t h := loadFromSaved_wp hK h

/-- A swap before its first event, as `TakerSwap::new` makes it. -/
structure Fresh (s : TakerSwap) : Prop where
  makerPaymentLock : s.makerPaymentLock = 0
  mutable : s.mutable = {}

omit hK in
theorem Fresh.handling (h : Fresh s) : Handling strict X uuid [] s .start where
  legal := .nil
  same := ⟨h.makerPaymentLock, ⟨_, _, _, h.mutable⟩, fun _ => h.mutable⟩
  pending := .inl rfl
  recorded _ := by simp [Recorded]

omit hK in
theorem surroundings_free : Surroundings False (fun _ _ => True) (fun _ => free) where
  answers _ _ := trivial
  looks _ := trivial
  reward h := h.elim
  discovers h := h.elim

omit hK in
/-- What holds along a run holds with every environment. -/
theorem free_invariant :
    Invariant (system X uuid) (fun _ => free) grammar.Log (Along False X uuid) := by
  apply along_invariant surroundings_free
  intro log s c t _
  exact wp_mono _ (fun _ _ _ => trivial) (wp_of_sat (fun _ _ _ _ _ _ => trivial)
    (fun _ _ _ => trivial) (fun _ => trivial) (handleCommand_sat (R := fun _ _ => True) c))

omit hK in
/-- The log of every run of a new swap follows the grammar. -/
theorem legal_run (hs : Fresh s) (now : ℕ)
    (es : List (Library.DurableMachine.Event (StoreCall SwapCall TakerSwapEvent)
      (StoreCall.Answer SwapCall.Answer))) :
    grammar.Log ((system X uuid).machine.run (System.begin s .start now) es).world.log :=
  free_invariant.log_run .nil (good_begin hs.handling) allowedRun_free

end Loading

end TakerSwap

end DeXFG.LegacySwap
