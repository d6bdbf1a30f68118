import DeXFG.Trading.MaxVolume
import Mathlib.Algebra.Order.BigOperators.Group.List

/-!
# What each swap adds to the locked amount of a coin

The locked amount of a coin is summed over the running swaps and over the
entries of the V2 machines. The amount locked by the other swaps leaves out one
swap of the first kind, and all of the second.
-/
namespace DeXFG.Trading
open Ordermatch (MmNumber Uuid)
open SwapV2 (LockedAmount LockedAmountInfo LockedAmounts)

/-- What an entry of a V2 machine locks of the coin it stands under. -/
def lockedOfEntry (coin : String) (info : LockedAmountInfo) : MmNumber :=
  info.lockedAmount.amount + lockedFee coin info.lockedAmount

/-- What one swap adds to `get_locked_amount`: its amounts of the coin, and its trade fees that
are paid in the coin. -/
def lockedBySwap (ctx : SwapsContext) (uuid : Uuid) (coin : String) : MmNumber :=
  ((ctx.runningSwaps.filter fun swap => swap.uuid = uuid).map (lockedOfSwap coin)).sum +
    (((ctx.lockedAmounts coin).filter fun info => info.swapUuid = uuid).map
      (lockedOfEntry coin)).sum

/-- What the V2 machines of the other swaps lock of a coin. -/
def lockedByOtherEntries (ctx : SwapsContext) (exceptUuid : Uuid) (coin : String) : MmNumber :=
  (((ctx.lockedAmounts coin).filter fun info => info.swapUuid ≠ exceptUuid).map
    (lockedOfEntry coin)).sum

theorem getLockedAmount_eq (ctx : SwapsContext) (uuid : Uuid) (coin : String) :
    getLockedAmount ctx coin =
      getLockedAmountByOtherSwaps ctx uuid coin + lockedByOtherEntries ctx uuid coin +
        lockedBySwap ctx uuid coin := by
  have hrunning := List.sum_map_filter_add_sum_map_filter_not (fun swap : RunningSwap =>
    swap.uuid = uuid) (lockedOfSwap coin) ctx.runningSwaps
  have hentries := List.sum_map_filter_add_sum_map_filter_not (fun info : LockedAmountInfo =>
    info.swapUuid = uuid) (lockedOfEntry coin) (ctx.lockedAmounts coin)
  have hall : getLockedAmount ctx coin = (ctx.runningSwaps.map (lockedOfSwap coin)).sum +
      ((ctx.lockedAmounts coin).map (lockedOfEntry coin)).sum := rfl
  rw [hall, ← hrunning, ← hentries, getLockedAmountByOtherSwaps, lockedByOtherEntries, lockedBySwap]
  ring

/-- An entry that locks nothing of the coin. -/
def LocksNothing (coin : String) (info : LockedAmountInfo) : Prop :=
  info.lockedAmount.amount = 0 ∧ lockedFee coin info.lockedAmount = 0

instance (coin : String) (info : LockedAmountInfo) : Decidable (LocksNothing coin info) :=
  inferInstanceAs (Decidable (_ ∧ _))

section

variable {ctx : SwapsContext} {coin : String} {uuid : Uuid}

theorem lockedOfEntry_eq_zero {info : LockedAmountInfo} (h : info ∈ ctx.lockedAmounts coin) :
    lockedOfEntry coin info = 0 ↔ LocksNothing coin info := by
  have hnonneg := ctx.locked_nonneg coin info h
  exact add_eq_zero_iff_of_nonneg hnonneg.1 (lockedFee_nonneg hnonneg coin)

theorem lockedByOtherEntries_eq_zero :
    lockedByOtherEntries ctx uuid coin = 0 ↔
      ∀ info ∈ ctx.lockedAmounts coin, info.swapUuid ≠ uuid → LocksNothing coin info := by
  have hnonneg : ∀ x ∈ ((ctx.lockedAmounts coin).filter fun info =>
      info.swapUuid ≠ uuid).map (lockedOfEntry coin), 0 ≤ x := by
    intro x hx
    obtain ⟨info, hinfo, rfl⟩ := List.mem_map.mp hx
    have hentry := ctx.locked_nonneg coin info (List.mem_filter.mp hinfo).1
    exact add_nonneg hentry.1 (lockedFee_nonneg hentry coin)
  constructor
  · intro hsum info hinfo hother
    have hmem : info ∈ (ctx.lockedAmounts coin).filter fun info => info.swapUuid ≠ uuid :=
      List.mem_filter.mpr ⟨hinfo, decide_eq_true hother⟩
    apply (lockedOfEntry_eq_zero hinfo).mp
    exact List.all_zero_of_le_zero_le_of_sum_eq_zero hnonneg hsum (List.mem_map_of_mem hmem)
  · intro hall
    apply List.sum_eq_zero
    intro x hx
    obtain ⟨info, hinfo, rfl⟩ := List.mem_map.mp hx
    obtain ⟨hmem, hother⟩ := List.mem_filter.mp hinfo
    exact (lockedOfEntry_eq_zero hmem).mpr (hall info hmem (by simpa using hother))

end

/-- Without one swap, what the others lock is what is locked less what that swap locks, exactly
when no V2 machine of another swap locks anything of the coin. -/
theorem getLockedAmountByOtherSwaps_iff (ctx : SwapsContext) (exceptUuid : Uuid) (coin : String) :
    getLockedAmountByOtherSwaps ctx exceptUuid coin =
        getLockedAmount ctx coin - lockedBySwap ctx exceptUuid coin ↔
      ∀ info ∈ ctx.lockedAmounts coin, info.swapUuid ≠ exceptUuid →
        info.lockedAmount.amount = 0 ∧ lockedFee coin info.lockedAmount = 0 := by
  have hsplit := getLockedAmount_eq ctx exceptUuid coin
  have hzero : getLockedAmountByOtherSwaps ctx exceptUuid coin =
        getLockedAmount ctx coin - lockedBySwap ctx exceptUuid coin ↔
      lockedByOtherEntries ctx exceptUuid coin = 0 := by
    rw [hsplit, add_sub_cancel_right, left_eq_add]
  exact hzero.trans lockedByOtherEntries_eq_zero

/-- A legacy swap locks 2 RICK and a V2 machine 3 RICK. -/
def lockingFive : SwapsContext where
  runningSwaps := [⟨1, [⟨"RICK", 2, none⟩]⟩]
  lockedAmounts := LockedAmounts.empty.push "RICK" ⟨7, ⟨"RICK", 3, none⟩⟩
  running_nonneg := by
    intro swap hswap locked hlocked
    obtain rfl := List.mem_singleton.mp hswap
    obtain rfl := List.mem_singleton.mp hlocked
    exact ⟨by norm_num, by simp⟩
  locked_nonneg := by
    intro ticker info hinfo
    by_cases hticker : ticker = "RICK"
    · subst hticker
      simp only [LockedAmounts.push, LockedAmounts.empty, Function.update_self, List.nil_append,
        List.mem_singleton] at hinfo
      subst hinfo
      exact ⟨by norm_num, by simp⟩
    · simp [LockedAmounts.push, LockedAmounts.empty, Function.update_of_ne hticker] at hinfo

/-- Another legacy swap would take none of the 3 RICK as locked. -/
theorem others_lock_three :
    getLockedAmount lockingFive "RICK" = 5 ∧ lockedBySwap lockingFive 1 "RICK" = 2 ∧
      ¬ getLockedAmountByOtherSwaps lockingFive 1 "RICK" =
        getLockedAmount lockingFive "RICK" - lockedBySwap lockingFive 1 "RICK" := by
  decide +kernel

end DeXFG.Trading
