import Mathlib.Data.Set.Basic
import Mathlib.Data.List.Basic

/-!
# Delayed effects on a set

An operation makes keys of a set present or absent. A sequence of operations
acts on each key by the last effect on it, so two batches that agree on the keys
they share may be exchanged. Batches that wait in an outbox may then be sent in
another order than they were made.
-/
namespace DeXFG.Library.DelayedEffects

variable {K O : Type*}

/-- What is done to each key: it is made present, made absent, or left alone. -/
abbrev Effect (K : Type*) := K → Option Bool

namespace Effect

def apply (f : Effect K) (s : Set K) : Set K := {k | (f k).elim (k ∈ s) (· = true)}

/-- First `f`, then `g`. -/
def andThen (f g : Effect K) : Effect K := fun k => (g k).or (f k)

/-- The effects agree on every key that both of them change. -/
def Compatible (f g : Effect K) : Prop := ∀ k, f k ≠ none → g k ≠ none → f k = g k

variable {f g : Effect K} {s : Set K} {k : K}

theorem mem_apply : k ∈ f.apply s ↔ (f k).elim (k ∈ s) (· = true) := Iff.rfl

theorem apply_none : apply (fun _ => none) s = s := rfl

theorem apply_andThen : (f.andThen g).apply s = g.apply (f.apply s) := by
  ext k
  simp only [mem_apply, andThen]
  cases g k with
  | none => rfl
  | some b => rfl

/-- Compatible effects commute. -/
theorem Compatible.comm (h : f.Compatible g) : g.apply (f.apply s) = f.apply (g.apply s) := by
  ext k
  simp only [mem_apply]
  cases hf : f k with
  | none => rfl
  | some b =>
    cases hg : g k with
    | none => rfl
    | some b' =>
      have hsame := h k (by simp [hf]) (by simp [hg])
      rw [hf, hg] at hsame
      rw [Option.some.inj hsame]

end Effect

open Effect

/-- The effect of operations one after the other. -/
def effectAll (effect : O → Effect K) : List O → Effect K
  | [] => fun _ => none
  | o :: os => (effect o).andThen (effectAll effect os)

variable {effect : O → Effect K} {o : O} {os os' : List O} {s : Set K} {k : K}

theorem effectAll_append :
    effectAll effect (os ++ os') k = (effectAll effect os' k).or (effectAll effect os k) := by
  induction os with
  | nil => simp [effectAll]
  | cons o os ih =>
    simp only [List.cons_append, effectAll, andThen, ih, Option.or_assoc]

theorem effectAll_eq_none : effectAll effect os k = none ↔ ∀ o ∈ os, effect o k = none := by
  induction os with
  | nil => simp [effectAll]
  | cons o os ih => simp [effectAll, andThen, Option.or_eq_none_iff, ih, and_comm]

theorem exists_of_effectAll {b : Bool} (h : effectAll effect os k = some b) :
    ∃ o ∈ os, effect o k = some b := by
  induction os with
  | nil => cases h
  | cons o os ih =>
    simp only [effectAll, andThen, Option.or_eq_some_iff] at h
    rcases h with h | ⟨_, h⟩
    · obtain ⟨o', ho', heffect⟩ := ih h
      exact ⟨o', List.mem_cons_of_mem _ ho', heffect⟩
    · exact ⟨o, List.mem_cons_self, h⟩

/-- The effect is that of the last operation that changes the key. -/
theorem effectAll_eq_some_iff {b : Bool} : effectAll effect os k = some b ↔
    ∃ before o after, os = before ++ o :: after ∧ effect o k = some b ∧
      ∀ o' ∈ after, effect o' k = none := by
  constructor
  · intro h
    induction os with
    | nil => cases h
    | cons o os ih =>
      simp only [effectAll, andThen, Option.or_eq_some_iff] at h
      rcases h with hlater | ⟨hnone, hfirst⟩
      · obtain ⟨before, o', after, rfl, heffect, hafter⟩ := ih hlater
        exact ⟨o :: before, o', after, rfl, heffect, hafter⟩
      · exact ⟨[], o, os, rfl, hfirst, effectAll_eq_none.mp hnone⟩
  · rintro ⟨before, o, after, rfl, heffect, hafter⟩
    rw [effectAll_append, effectAll, andThen, effectAll_eq_none.mpr hafter, heffect]
    rfl

/-- Operations that change a key in one way only. -/
theorem effectAll_eq_some_of_forall {b : Bool} (hex : ∃ o ∈ os, effect o k ≠ none)
    (hall : ∀ o ∈ os, effect o k ≠ none → effect o k = some b) :
    effectAll effect os k = some b := by
  cases h : effectAll effect os k with
  | none =>
    obtain ⟨o, ho, hne⟩ := hex
    exact absurd (effectAll_eq_none.mp h o ho) hne
  | some b' =>
    obtain ⟨o, ho, heffect⟩ := exists_of_effectAll h
    rw [← heffect, hall o ho (by simp [heffect])]

/-- A key that only one of several sequences changes. -/
theorem effectAll_flatMap {α : Type*} {f : α → List O} {l : List α} {a : α} (ha : a ∈ l)
    (hnodup : l.Nodup) (hother : ∀ b ∈ l, b ≠ a → ∀ o ∈ f b, effect o k = none) :
    effectAll effect (l.flatMap f) k = effectAll effect (f a) k := by
  induction l with
  | nil => cases ha
  | cons b l ih =>
    rw [List.nodup_cons] at hnodup
    rw [List.flatMap_cons, effectAll_append]
    rcases List.mem_cons.mp ha with rfl | hmem
    · have hrest : effectAll effect (l.flatMap f) k = none := by
        rw [effectAll_eq_none]
        intro o ho
        obtain ⟨b, hb, ho⟩ := List.mem_flatMap.mp ho
        refine hother b (List.mem_cons_of_mem _ hb) ?_ o ho
        rintro rfl
        exact hnodup.1 hb
      rw [hrest, Option.none_or]
    · have hfirst : effectAll effect (f b) k = none := by
        rw [effectAll_eq_none]
        refine hother b List.mem_cons_self ?_
        rintro rfl
        exact hnodup.1 hmem
      rw [hfirst, Option.or_none,
        ih hmem hnodup.2 fun b' hb' => hother b' (List.mem_cons_of_mem _ hb')]

/-- Apply batches one after the other. -/
def deliver (effect : O → Effect K) (batches : List O) (s : Set K) : Set K :=
  batches.foldl (fun s batch => (effect batch).apply s) s

theorem deliver_append :
    deliver effect (os ++ os') s = deliver effect os' (deliver effect os s) := by
  rw [deliver, List.foldl_append]
  rfl

/-- A batch may overtake the batches that it is compatible with. -/
theorem deliver_overtake (h : ∀ earlier ∈ os, (effect earlier).Compatible (effect o)) :
    deliver effect (os ++ [o]) s = deliver effect (o :: os) s := by
  induction os generalizing s with
  | nil => rfl
  | cons first os ih =>
    change deliver effect (os ++ [o]) ((effect first).apply s) =
      deliver effect os ((effect first).apply ((effect o).apply s))
    rw [ih fun earlier hmem => h earlier (List.mem_cons_of_mem _ hmem)]
    change deliver effect os ((effect o).apply ((effect first).apply s)) = _
    rw [(h first List.mem_cons_self).comm]

/-! ### Outboxes -/

/-- Batches that were sent and not applied yet, and batches that were not sent yet, in the order
in which they were made. -/
structure Outbox (O : Type*) where
  queue : List O := []
  unsent : List O := []

namespace Outbox

variable {outbox : Outbox O} {i : ℕ}

/-- What the set becomes when all waiting batches are applied in the order they stand in. -/
def settle (effect : O → Effect K) (outbox : Outbox O) (s : Set K) : Set K :=
  deliver effect (outbox.queue ++ outbox.unsent) s

def push (outbox : Outbox O) (batch : O) : Outbox O :=
  { outbox with unsent := outbox.unsent ++ [batch] }

/-- Send the batch at an index of the unsent ones. -/
def send (outbox : Outbox O) (i : ℕ) : Option (Outbox O) :=
  outbox.unsent[i]?.map fun batch => ⟨outbox.queue ++ [batch], outbox.unsent.eraseIdx i⟩

/-- The batch at the index agrees with the unsent ones before it. -/
def InTurn (effect : O → Effect K) (outbox : Outbox O) (i : ℕ) : Prop :=
  ∀ batch ∈ outbox.unsent[i]?, ∀ earlier ∈ outbox.unsent.take i,
    (effect earlier).Compatible (effect batch)

theorem settle_push (batch : O) :
    (outbox.push batch).settle effect s = (effect batch).apply (outbox.settle effect s) := by
  unfold settle push
  rw [← List.append_assoc, deliver_append]
  rfl

theorem settle_send (hturn : outbox.InTurn effect i) {outbox' : Outbox O}
    (h : outbox.send i = some outbox') : outbox'.settle effect s = outbox.settle effect s := by
  obtain ⟨batch, hbatch, rfl⟩ := Option.map_eq_some_iff.mp h
  obtain ⟨hlt, hget⟩ := List.getElem?_eq_some_iff.mp hbatch
  have hsplit : outbox.unsent = outbox.unsent.take i ++ batch :: outbox.unsent.drop (i + 1) := by
    rw [← hget, ← List.drop_eq_getElem_cons hlt, List.take_append_drop]
  have hcompatible := hturn batch hbatch
  unfold settle
  dsimp only
  rw [List.eraseIdx_eq_take_drop_succ, deliver_append, deliver_append, deliver_append]
  conv_rhs => rw [hsplit]
  rw [List.append_cons, deliver_append, deliver_append, deliver_overtake hcompatible]
  rfl

theorem settle_drain {batch : O} {queue : List O} (h : outbox.queue = batch :: queue) :
    Outbox.settle effect { outbox with queue := queue } ((effect batch).apply s) =
      outbox.settle effect s := by
  unfold settle
  rw [h]
  rfl

theorem settle_empty (hqueue : outbox.queue = []) (hunsent : outbox.unsent = []) :
    outbox.settle effect s = s := by
  unfold settle
  rw [hqueue, hunsent]
  rfl

end Outbox

end DeXFG.Library.DelayedEffects
