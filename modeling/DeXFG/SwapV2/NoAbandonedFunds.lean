import DeXFG.SwapV2.MakerFunds
import DeXFG.SwapV2.TakerFunds

/-!
# No abandoned funds

Both sides enter a terminal state only with settled funds, unless a payment was
lost at its broadcast or a refund or a spend has failed: these failures lead to
a terminal state whatever was paid.
-/
namespace DeXFG.SwapV2.NoAbandonedFunds
open Library Library.Process Library.DurableMachine

variable {X : External} {Ev Repr : Type}

/-- In every run, with any delays, crashes, restarts and failures, in which the replies are
harmless, either side ends its swap only when its payment was never broadcast, was refunded, or
the other party's payment was spent. -/
theorem notAbandoned_of_run (hmaker : X.makerCoin.Lawful) (htaker : X.takerCoin.Lawful) :
    (∀ m now es, Runs.Meets (fun x e => some ((MakerSwap.makerSwap X).machine.step x e))
        (MakerSwap.MakerFunds.Harmless X) ((MakerSwap.makerSwap X).start m now) es →
      ∀ c, ((MakerSwap.makerSwap X).machine.run
          ((MakerSwap.makerSwap X).start m now) es).pending = some c →
        (MakerSwap.MakerFunds.tracking X).NotAbandoned
          ((Funds.observer X _ _).view ((MakerSwap.makerSwap X).machine.run
            ((MakerSwap.makerSwap X).start m now) es).world) c) ∧
    ∀ m now es, Runs.Meets (fun x e => some ((TakerSwap.takerSwap X).machine.step x e))
        (TakerSwap.TakerFunds.Harmless X) ((TakerSwap.takerSwap X).start m now) es →
      ∀ c, ((TakerSwap.takerSwap X).machine.run
          ((TakerSwap.takerSwap X).start m now) es).pending = some c →
        (TakerSwap.TakerFunds.tracking X).NotAbandoned
          ((Funds.observer X _ _).view ((TakerSwap.takerSwap X).machine.run
            ((TakerSwap.takerSwap X).start m now) es).world) c := by
  constructor
  · intro m now es hes c hc
    exact MakerSwap.MakerFunds.notAbandoned_of_harmless hmaker m now es hes c hc
  · intro m now es hes c hc
    exact TakerSwap.TakerFunds.notAbandoned_of_harmless htaker m now es hes c hc

def isFinish : Call X Ev Repr → Bool
  | .markFinished => true
  | _ => false

/-- Runs without trouble, to the point where the swap is marked as finished. -/
theorem notAbandoned_smooth :
    (MakerSwap.sampleRun 0 (MakerSwap.smoothEvents 0 false 45)).pending.any isFinish = true ∧
    (TakerSwap.sampleRun true (TakerSwap.smoothEvents false 48)).pending.any isFinish = true ∧
    (∀ c, (MakerSwap.sampleRun 0 (MakerSwap.smoothEvents 0 false 45)).pending = some c →
      (MakerSwap.MakerFunds.tracking .raw).NotAbandoned ((Funds.observer .raw _ _).view
        (MakerSwap.sampleRun 0 (MakerSwap.smoothEvents 0 false 45)).world) c) ∧
    ∀ c, (TakerSwap.sampleRun true (TakerSwap.smoothEvents false 48)).pending = some c →
      (TakerSwap.TakerFunds.tracking .raw).NotAbandoned ((Funds.observer .raw _ _).view
        (TakerSwap.sampleRun true (TakerSwap.smoothEvents false 48)).world) c := by
  have hboth := notAbandoned_of_run (X := .raw) (rawCoin_lawful _) (rawCoin_lawful _)
  exact ⟨by decide +kernel, by decide +kernel,
    hboth.1 (MakerSwap.sampleMaker 0) 0 (MakerSwap.smoothEvents 0 false 45) (by decide +kernel),
    hboth.2 (TakerSwap.sampleTaker true) 1700000000 (TakerSwap.smoothEvents false 48)
      (by decide +kernel)⟩

/-- The reply to a call when the coins fail for a moment. -/
def unlucky (startedAt lockDuration : ℕ) (recorded : Bool) :
    (c : Call .raw Ev Repr) → Reply c.Answer
  | .waitForConfirmations _ _ => refused
  | .refundMakerPaymentV2Timelock _ => refused
  | .refundTakerFundingSecret _ => refused
  | c => smooth startedAt lockDuration recorded c
where
  refused {α : Type} : Reply (Except String α) :=
    { delay := 0, reached := false, answer := some (.error "timeout") }

/-- The run ends in a call that abandons the own payment. -/
def Abandons {Mach State : Type} (T : Tracking State Ev)
    (x : Config (Call .raw Ev Repr) Call.Answer (World .raw Ev Repr) (Mach × Stage State)) : Prop :=
  ∃ c, x.pending = some c ∧ ¬ T.NotAbandoned ((Funds.observer .raw Ev Repr).view x.world) c

theorem abandons_of_any {Mach State : Type} {T : Tracking State Ev}
    {x : Config (Call .raw Ev Repr) Call.Answer (World .raw Ev Repr) (Mach × Stage State)}
    (h : x.pending.any (fun c => decide
      (¬ T.NotAbandoned ((Funds.observer .raw Ev Repr).view x.world) c)) = true) :
    Abandons T x := by
  obtain ⟨c, hc, habandoned⟩ := (Option.any_eq_true _ _).mp h
  exact ⟨c, hc, of_decide_eq_true habandoned⟩

/-- The other party's payment is not confirmed and one refund call fails: both sides abort with
their payment on the chain. -/
theorem abandons_sample :
    Abandons (MakerSwap.MakerFunds.tracking .raw) (MakerSwap.sampleRun 1700000000
      (MakerSwap.smoothEvents 1700000000 false 33 ++
        List.replicate 5 (.reply (unlucky 1700000000 5400 false)))) ∧
    Abandons (TakerSwap.TakerFunds.tracking .raw) (TakerSwap.sampleRun true
      (TakerSwap.smoothEvents false 29 ++
        List.replicate 4 (.reply (unlucky 1700000000 5400 false)))) :=
  ⟨abandons_of_any (by decide +kernel), abandons_of_any (by decide +kernel)⟩

end DeXFG.SwapV2.NoAbandonedFunds
