import Mathlib.Logic.Relation
import Mathlib.Data.Finset.Basic
import Mathlib.Data.Finset.Union

/-!
# Histories of spends

A spend consumes some outputs and makes others. A history is orderly when each
spend consumes only what is there after the earlier ones and makes only new
outputs; an output then descends from another along a chain of spends. The
lemmas say how descent changes when one more spend is made, and what is left
unspent below a given output.
-/
namespace DeXFG.Library.Spending

/-- One spend: the outputs it consumes and the outputs it makes. -/
@[ext] structure Spend (α : Type*) where
  ins : Finset α
  outs : Finset α

variable {α : Type*} {init : α → Prop} {h h' answer : List (Spend α)} {s t : Spend α} {a b i : α}

/-- Some spend of the history consumes the output. -/
def Spent (h : List (Spend α)) (a : α) : Prop := ∃ t ∈ h, a ∈ t.ins

/-- Some spend of the history makes the output. -/
def Made (h : List (Spend α)) (a : α) : Prop := ∃ t ∈ h, a ∈ t.outs

/-- One spend of the history consumes the first output and makes the second. -/
def Step (h : List (Spend α)) (a b : α) : Prop := ∃ t ∈ h, a ∈ t.ins ∧ b ∈ t.outs

/-- What is there after a history: the initial outputs and those made, without those spent. -/
def Unspent (init : α → Prop) (h : List (Spend α)) (a : α) : Prop :=
  (init a ∨ Made h a) ∧ ¬ Spent h a

/-- A spend that may follow a history: it consumes what is there and makes new outputs. -/
structure Follows (init : α → Prop) (h : List (Spend α)) (t : Spend α) : Prop where
  unspent : ∀ a ∈ t.ins, Unspent init h a
  unmade : ∀ b ∈ t.outs, ¬ init b ∧ ¬ Made h b

instance [DecidableEq α] (h : List (Spend α)) (a : α) : Decidable (Spent h a) :=
  inferInstanceAs (Decidable (∃ t ∈ h, a ∈ t.ins))

instance [DecidableEq α] (h : List (Spend α)) (a : α) : Decidable (Made h a) :=
  inferInstanceAs (Decidable (∃ t ∈ h, a ∈ t.outs))

instance [DecidableEq α] [DecidablePred init] (h : List (Spend α)) (a : α) :
    Decidable (Unspent init h a) :=
  inferInstanceAs (Decidable ((init a ∨ Made h a) ∧ ¬ Spent h a))

instance [DecidableEq α] [DecidablePred init] (h : List (Spend α)) (t : Spend α) :
    Decidable (Follows init h t) :=
  decidable_of_iff ((∀ a ∈ t.ins, Unspent init h a) ∧ ∀ b ∈ t.outs, ¬ init b ∧ ¬ Made h b)
    ⟨fun ht => ⟨ht.1, ht.2⟩, fun ht => ⟨ht.unspent, ht.unmade⟩⟩

/-- A history each of whose spends may follow the ones before it. -/
inductive Orderly (init : α → Prop) : List (Spend α) → Prop
  | nil : Orderly init []
  | snoc (h : List (Spend α)) (t : Spend α) :
      Orderly init h → Follows init h t → Orderly init (h ++ [t])

/-! ## One more spend -/

@[simp] theorem spent_append : Spent (h ++ [t]) a ↔ Spent h a ∨ a ∈ t.ins := by
  simp [Spent, or_and_right, exists_or]

@[simp] theorem made_append : Made (h ++ [t]) a ↔ Made h a ∨ a ∈ t.outs := by
  simp [Made, or_and_right, exists_or]

@[simp] theorem step_append :
    Step (h ++ [t]) a b ↔ Step h a b ∨ (a ∈ t.ins ∧ b ∈ t.outs) := by
  simp [Step, or_and_right, exists_or]

theorem Step.spent (hstep : Step h a b) : Spent h a :=
  have ⟨t, ht, ha, _⟩ := hstep
  ⟨t, ht, ha⟩

theorem Step.made (hstep : Step h a b) : Made h b :=
  have ⟨t, ht, _, hb⟩ := hstep
  ⟨t, ht, hb⟩

theorem spent_of_transGen (hab : Relation.TransGen (Step h) a b) : Spent h a := by
  obtain ⟨_, hstep, _⟩ := Relation.TransGen.head'_iff.mp hab
  exact hstep.spent

theorem made_of_transGen (hab : Relation.TransGen (Step h) a b) : Made h b := by
  obtain ⟨_, _, hstep⟩ := Relation.TransGen.tail'_iff.mp hab
  exact hstep.made

theorem orderly_append :
    Orderly init (h ++ [t]) ↔ Orderly init h ∧ Follows init h t := by
  constructor
  · intro ho
    generalize heq : h ++ [t] = h' at ho
    cases ho with
    | nil => simp at heq
    | snoc h' t' ho hfollows =>
      obtain ⟨rfl, htt⟩ := List.append_inj' heq rfl
      obtain rfl := List.singleton_inj.mp htt
      exact ⟨ho, hfollows⟩
  · exact fun ho => Orderly.snoc h t ho.1 ho.2

/-- Everything an orderly history spends was there before. -/
theorem Orderly.known (ho : Orderly init h) (ha : Spent h a) : init a ∨ Made h a := by
  induction ho with
  | nil =>
    obtain ⟨_, ht, _⟩ := ha
    cases ht
  | snoc h t _ hfollows ih =>
    rcases spent_append.mp ha with hspent | hin
    · rcases ih hspent with hinit | hmade
      · exact Or.inl hinit
      · exact Or.inr (made_append.mpr (Or.inl hmade))
    · rcases (hfollows.unspent a hin).1 with hinit | hmade
      · exact Or.inl hinit
      · exact Or.inr (made_append.mpr (Or.inl hmade))

/-- The outputs of the next spend are not spent yet. -/
theorem Follows.not_spent (hfollows : Follows init h t) (ho : Orderly init h) (hb : b ∈ t.outs) :
    ¬ Spent h b := by
  intro hspent
  rcases ho.known hspent with hinit | hmade
  · exact (hfollows.unmade b hb).1 hinit
  · exact (hfollows.unmade b hb).2 hmade

/-- No spend consumes what it makes. -/
theorem Follows.not_mem_ins (hfollows : Follows init h t) (hb : b ∈ t.outs) : b ∉ t.ins := by
  intro hin
  rcases (hfollows.unspent b hin).1 with hinit | hmade
  · exact (hfollows.unmade b hb).1 hinit
  · exact (hfollows.unmade b hb).2 hmade

/-- Descent after one more spend: the old descent, or down to an input of the spend and
through it. No step leaves the new outputs, so the new spend can only be the last step. -/
theorem transGen_append (ho : Orderly init h) (hfollows : Follows init h t) :
    Relation.TransGen (Step (h ++ [t])) a b ↔
      Relation.TransGen (Step h) a b ∨
        (b ∈ t.outs ∧ ∃ i ∈ t.ins, Relation.ReflTransGen (Step h) a i) := by
  constructor
  · intro hab
    induction hab with
    | single hstep =>
      rcases step_append.mp hstep with hold | ⟨hin, hout⟩
      · exact Or.inl (Relation.TransGen.single hold)
      · exact Or.inr ⟨hout, a, hin, Relation.ReflTransGen.refl⟩
    | @tail b c hab hstep ih =>
      rcases step_append.mp hstep with hold | ⟨hin, hout⟩
      · rcases ih with hdesc | ⟨hb, _⟩
        · exact Or.inl (hdesc.tail hold)
        · exact absurd hold.spent (hfollows.not_spent ho hb)
      · rcases ih with hdesc | ⟨hb, _⟩
        · exact Or.inr ⟨hout, b, hin, hdesc.to_reflTransGen⟩
        · exact absurd hin (hfollows.not_mem_ins hb)
  · intro hab
    have hmono : ∀ a b, Step h a b → Step (h ++ [t]) a b :=
      fun a b hstep => step_append.mpr (Or.inl hstep)
    rcases hab with hdesc | ⟨hout, i, hin, hdesc⟩
    · exact Relation.TransGen.mono hmono _ _ hdesc
    · have hlast : Step (h ++ [t]) i b := step_append.mpr (Or.inr ⟨hin, hout⟩)
      exact Relation.TransGen.tail' (Relation.ReflTransGen.mono hmono _ _ hdesc) hlast

/-! ## Ancestors and what is left below an output -/

/-- The outputs a given one descends from. -/
def Ancestors (h : List (Spend α)) (b : α) (A : Finset α) : Prop :=
  ∀ a, a ∈ A ↔ Relation.TransGen (Step h) a b

/-- The unspent outputs that descend from a given one. -/
def Frontier (h : List (Spend α)) (a : α) (F : Finset α) : Prop :=
  ∀ b, b ∈ F ↔ Relation.TransGen (Step h) a b ∧ ¬ Spent h b

/-- An output the new spend does not make keeps its ancestors. -/
theorem Ancestors.append {A : Finset α} (hA : Ancestors h b A) (ho : Orderly init h)
    (hfollows : Follows init h t) (hb : b ∉ t.outs) : Ancestors (h ++ [t]) b A := by
  intro a
  rw [transGen_append ho hfollows, hA a]
  simp [hb]

/-- An output of the new spend descends from the inputs and from their ancestors. -/
theorem ancestors_of_mem_outs {A : Finset α} (ho : Orderly init h) (hfollows : Follows init h t)
    (hb : b ∈ t.outs)
    (hA : ∀ a, a ∈ A ↔ a ∈ t.ins ∨ ∃ i ∈ t.ins, Relation.TransGen (Step h) a i) :
    Ancestors (h ++ [t]) b A := by
  intro a
  have hold : ¬ Relation.TransGen (Step h) a b := fun hab =>
    (hfollows.unmade b hb).2 (made_of_transGen hab)
  rw [transGen_append ho hfollows, hA a]
  simp only [hold, hb, true_and, false_or]
  constructor
  · intro ha
    rcases ha with hin | ⟨i, hin, hdesc⟩
    · exact ⟨a, hin, Relation.ReflTransGen.refl⟩
    · exact ⟨i, hin, hdesc.to_reflTransGen⟩
  · intro ha
    obtain ⟨i, hin, hdesc⟩ := ha
    rcases Relation.reflTransGen_iff_eq_or_transGen.mp hdesc with heq | htrans
    · exact Or.inl (heq ▸ hin)
    · exact Or.inr ⟨i, hin, htrans⟩

/-- Below a freshly spent output are the outputs of its spend. -/
theorem frontier_of_mem_ins (ho : Orderly init h) (hfollows : Follows init h t)
    (ha : a ∈ t.ins) : Frontier (h ++ [t]) a t.outs := by
  intro b
  have hnew : ∀ c, ¬ Relation.TransGen (Step h) a c := fun c hac =>
    (hfollows.unspent a ha).2 (spent_of_transGen hac)
  rw [transGen_append ho hfollows]
  simp only [hnew, false_or]
  constructor
  · intro hb
    refine ⟨⟨hb, a, ha, Relation.ReflTransGen.refl⟩, ?_⟩
    simp [hfollows.not_spent ho hb, hfollows.not_mem_ins hb]
  · exact fun hb => hb.1.1

/-- Below an output spent earlier: what was left and is not spent now, and the outputs of the
new spend when one of its inputs descends from it. -/
theorem Frontier.append {F G : Finset α} (hF : Frontier h a F) (ho : Orderly init h)
    (hfollows : Follows init h t) (ha : Spent h a)
    (hG : ∀ b, b ∈ G ↔
      (b ∈ F ∧ ∀ i ∈ t.ins, Relation.TransGen (Step h) a i → b ≠ i) ∨
        (b ∈ t.outs ∧ ∃ i ∈ t.ins, Relation.TransGen (Step h) a i)) :
    Frontier (h ++ [t]) a G := by
  intro b
  have hrefl : ∀ i ∈ t.ins,
      (Relation.ReflTransGen (Step h) a i ↔ Relation.TransGen (Step h) a i) := by
    intro i hi
    rw [Relation.reflTransGen_iff_eq_or_transGen]
    refine or_iff_right ?_
    intro heq
    exact (hfollows.unspent i hi).2 (heq ▸ ha)
  rw [hG b, hF b, transGen_append ho hfollows, spent_append]
  constructor
  · intro hb
    rcases hb with ⟨⟨hdesc, hunspent⟩, hne⟩ | ⟨hout, i, hin, hdesc⟩
    · refine ⟨Or.inl hdesc, ?_⟩
      intro hspent
      rcases hspent with hold | hin
      · exact hunspent hold
      · exact hne b hin hdesc rfl
    · refine ⟨Or.inr ⟨hout, i, hin, (hrefl i hin).mpr hdesc⟩, ?_⟩
      simp [hfollows.not_spent ho hout, hfollows.not_mem_ins hout]
  · intro hb
    obtain ⟨hdesc, hunspent⟩ := hb
    rcases hdesc with hdesc | ⟨hout, i, hin, hdesc⟩
    · refine Or.inl ⟨⟨hdesc, fun hold => hunspent (Or.inl hold)⟩, ?_⟩
      intro i hin _ heq
      exact hunspent (Or.inr (heq ▸ hin))
    · exact Or.inr ⟨hout, i, hin, (hrefl i hin).mp hdesc⟩

/-! ## Replacing what is spent -/

/-- Replacing every spent member of a set by what is left below it leaves the unspent
outputs that are members or descend from a member. -/
theorem unspent_below_iff {U : α → Prop} {F : α → Finset α}
    (hF : ∀ a, Spent h a → Frontier h a (F a)) :
    ((U b ∧ ¬ Spent h b) ∨ ∃ a, U a ∧ Spent h a ∧ b ∈ F a) ↔
      (∃ a, U a ∧ Relation.ReflTransGen (Step h) a b) ∧ ¬ Spent h b := by
  constructor
  · intro hb
    rcases hb with ⟨hmem, hunspent⟩ | ⟨a, hmem, hspent, hbelow⟩
    · exact ⟨⟨b, hmem, Relation.ReflTransGen.refl⟩, hunspent⟩
    · obtain ⟨hdesc, hunspent⟩ := (hF a hspent b).mp hbelow
      exact ⟨⟨a, hmem, hdesc.to_reflTransGen⟩, hunspent⟩
  · intro hb
    obtain ⟨⟨a, hmem, hdesc⟩, hunspent⟩ := hb
    rcases Relation.reflTransGen_iff_eq_or_transGen.mp hdesc with heq | htrans
    · exact Or.inl ⟨heq ▸ hmem, heq ▸ hunspent⟩
    · exact Or.inr ⟨a, hmem, spent_of_transGen htrans, (hF a (spent_of_transGen htrans) b).mpr
        ⟨htrans, hunspent⟩⟩

/-! ## Views of a part of the history -/

theorem Orderly.spender_unique (ho : Orderly init h) (hs : s ∈ h) (ht : t ∈ h)
    (has : a ∈ s.ins) (hat : a ∈ t.ins) : s = t := by
  induction ho with
  | nil => cases hs
  | snoc h u _ hfollows ih =>
    simp only [List.mem_append, List.mem_singleton] at hs ht
    rcases hs with hs | rfl
    · rcases ht with ht | rfl
      · exact ih hs ht
      · exact absurd ⟨s, hs, has⟩ (hfollows.unspent a hat).2
    · rcases ht with ht | rfl
      · exact absurd ⟨t, ht, hat⟩ (hfollows.unspent a has).2
      · rfl

theorem Orderly.maker_unique (ho : Orderly init h) (hs : s ∈ h) (ht : t ∈ h)
    (has : a ∈ s.outs) (hat : a ∈ t.outs) : s = t := by
  induction ho with
  | nil => cases hs
  | snoc h u _ hfollows ih =>
    simp only [List.mem_append, List.mem_singleton] at hs ht
    rcases hs with hs | rfl
    · rcases ht with ht | rfl
      · exact ih hs ht
      · exact absurd ⟨s, hs, has⟩ (hfollows.unmade a hat).2
    · rcases ht with ht | rfl
      · exact absurd ⟨t, ht, hat⟩ (hfollows.unmade a has).2
      · rfl

theorem Orderly.not_init (ho : Orderly init h) (hb : Made h b) : ¬ init b := by
  induction ho with
  | nil =>
    obtain ⟨_, ht, _⟩ := hb
    cases ht
  | snoc h t _ hfollows ih =>
    rcases made_append.mp hb with hold | hout
    · exact ih hold
    · exact (hfollows.unmade b hout).1

/-- A part of a history that has, with each spend, those that made its inputs. -/
structure ClosedPart (h answer : List (Spend α)) : Prop where
  subset : answer ⊆ h
  closed : ∀ t ∈ answer, ∀ a ∈ t.ins, ∀ s ∈ h, a ∈ s.outs → s ∈ answer

/-- A closed part that makes an output has spent all that the output descends from. -/
theorem ClosedPart.spent_of_transGen (hpart : ClosedPart h answer) (ho : Orderly init h)
    (hab : Relation.TransGen (Step h) a b) (hb : Made answer b) : Spent answer a := by
  induction hab with
  | single hstep =>
    obtain ⟨t, ht, hin, hout⟩ := hstep
    obtain ⟨s, hs, hsout⟩ := hb
    obtain rfl := ho.maker_unique (hpart.subset hs) ht hsout hout
    exact ⟨s, hs, hin⟩
  | tail hdesc hstep ih =>
    obtain ⟨t, ht, hin, hout⟩ := hstep
    obtain ⟨s, hs, hsout⟩ := hb
    obtain rfl := ho.maker_unique (hpart.subset hs) ht hsout hout
    apply ih
    obtain ⟨r, hr, hrout⟩ := made_of_transGen hdesc
    exact ⟨r, hpart.closed s hs _ hin r hr hrout, hrout⟩

/-- What a closed part leaves unspent does not descend from what it leaves unspent. -/
theorem ClosedPart.not_transGen (hpart : ClosedPart h answer) (ho : Orderly init h)
    (ha : Unspent init answer a) (hb : Unspent init answer b) :
    ¬ Relation.TransGen (Step h) a b := by
  intro hab
  rcases hb.1 with hinit | hmade
  · exact ho.not_init (made_of_transGen hab) hinit
  · exact ha.2 (hpart.spent_of_transGen ho hab hmade)

/-- Every output the part has not spent descends from one it leaves unspent, when every spend
has an input: a spend the part lacks has an input that the part has not spent either. -/
theorem Orderly.descends (ho : Orderly init h) (hsub : answer ⊆ h)
    (hins : ∀ t ∈ h, t.ins.Nonempty) (hb : init b ∨ Made h b) (hunspent : ¬ Spent answer b) :
    ∃ a, Unspent init answer a ∧ Relation.ReflTransGen (Step h) a b := by
  -- the induction is over the beginnings of the history, the part stays what it is
  suffices hall : ∀ h₁ h₂, h = h₁ ++ h₂ → Orderly init h₁ → ∀ b, init b ∨ Made h₁ b →
      ¬ Spent answer b → ∃ a, Unspent init answer a ∧ Relation.ReflTransGen (Step h) a b by
    exact hall h [] (List.append_nil h).symm ho b hb hunspent
  intro h₁ h₂ heq ho₁
  induction ho₁ generalizing h₂ with
  | nil =>
    intro b hb hunspent
    rcases hb with hinit | ⟨_, ht, _⟩
    · exact ⟨b, ⟨Or.inl hinit, hunspent⟩, Relation.ReflTransGen.refl⟩
    · cases ht
  | snoc h₁ t _ hfollows ih =>
    intro b hb hunspent
    have hbefore := ih (t :: h₂) (by rw [heq, List.append_assoc, List.singleton_append])
    rw [made_append, ← or_assoc] at hb
    rcases hb with hold | hout
    · exact hbefore b hold hunspent
    · have ht : t ∈ h := by simp [heq]
      by_cases hmem : t ∈ answer
      · exact ⟨b, ⟨Or.inr ⟨t, hmem, hout⟩, hunspent⟩, Relation.ReflTransGen.refl⟩
      · obtain ⟨i, hin⟩ := hins t ht
        have hi : ¬ Spent answer i := by
          intro hspent
          obtain ⟨s, hs, hsin⟩ := hspent
          exact hmem (ho.spender_unique (hsub hs) ht hsin hin ▸ hs)
        obtain ⟨a, ha, hdesc⟩ := hbefore i (hfollows.unspent i hin).1 hi
        exact ⟨a, ha, hdesc.tail ⟨t, ht, hin, hout⟩⟩

end DeXFG.Library.Spending
