import Mathlib.Data.List.Forall2
import Mathlib.Control.Lawful

/-!
# Lists of keyed entries, mapped with effects

A traversal that keeps the keys relates its result to its argument entry by
entry. This is what remains of it once it is known to have succeeded.
-/
namespace DeXFG.Library.KeyedLists

variable {K V W ε : Type} {R : K → V → W → Prop} {l : List (K × V)} {l' : List (K × W)} {k : K}

/-- Entries with the same keys, whose values are related one by one. -/
def Keyed (R : K → V → W → Prop) (l : List (K × V)) (l' : List (K × W)) : Prop :=
  List.Forall₂ (fun entry entry' => entry'.1 = entry.1 ∧ R entry.1 entry.2 entry'.2) l l'

theorem Keyed.map_fst (h : Keyed R l l') : l'.map Prod.fst = l.map Prod.fst := by
  induction h with
  | nil => rfl
  | cons hentry _ ih => rw [List.map_cons, List.map_cons, ih, hentry.1]

theorem Keyed.exists_left (h : Keyed R l l') {w : W} (hw : (k, w) ∈ l') :
    ∃ v, (k, v) ∈ l ∧ R k v w := by
  induction h with
  | nil => cases hw
  | cons hentry _ ih =>
    rcases List.mem_cons.mp hw with heq | htail
    · obtain ⟨hkey, hR⟩ := hentry
      rw [← heq] at hkey hR
      exact ⟨_, List.mem_cons.mpr (Or.inl (Prod.ext hkey rfl)), by rwa [← hkey] at hR⟩
    · obtain ⟨v, hv, hR⟩ := ih htail
      exact ⟨v, List.mem_cons_of_mem _ hv, hR⟩

theorem Keyed.exists_right (h : Keyed R l l') {v : V} (hv : (k, v) ∈ l) :
    ∃ w, (k, w) ∈ l' ∧ R k v w := by
  induction h with
  | nil => cases hv
  | cons hentry _ ih =>
    rcases List.mem_cons.mp hv with heq | htail
    · obtain ⟨hkey, hR⟩ := hentry
      rw [← heq] at hkey hR
      exact ⟨_, List.mem_cons.mpr (Or.inl (Prod.ext hkey.symm rfl)), hR⟩
    · obtain ⟨w, hw, hR⟩ := ih htail
      exact ⟨w, List.mem_cons_of_mem _ hw, hR⟩

/-- A traversal that succeeded, in a monad whose successes can be told apart. -/
theorem Keyed.of_mapM {m : Type → Type} [Monad m] [LawfulMonad m] (ok : ∀ {α}, m α → α → Prop)
    (hpure : ∀ {α} {x y : α}, ok (pure x : m α) y → x = y)
    (hbind : ∀ {α β} {x : m α} {f : α → m β} {y : β}, ok (x >>= f) y → ∃ z, ok x z ∧ ok (f z) y)
    {f : K × V → m (K × W)} (hf : ∀ entry entry', ok (f entry) entry' →
      entry'.1 = entry.1 ∧ R entry.1 entry.2 entry'.2)
    (h : ok (l.mapM f) l') : Keyed R l l' := by
  induction l generalizing l' with
  | nil =>
    rw [List.mapM_nil] at h
    obtain rfl := hpure h
    exact List.Forall₂.nil
  | cons entry l ih =>
    rw [List.mapM_cons] at h
    obtain ⟨entry', hentry, h⟩ := hbind h
    obtain ⟨rest, hrest, h⟩ := hbind h
    obtain rfl := hpure h
    exact List.Forall₂.cons (hf entry entry' hentry) (ih hrest)

theorem Keyed.of_mapM_except {f : K × V → Except ε (K × W)} (hf : ∀ entry entry',
      f entry = .ok entry' → entry'.1 = entry.1 ∧ R entry.1 entry.2 entry'.2)
    (h : l.mapM f = .ok l') : Keyed R l l' := by
  refine Keyed.of_mapM (m := Except ε) (fun x y => x = .ok y) ?_ ?_ hf h
  · intro α x y hxy
    exact Except.ok.inj hxy
  · intro α β x f y hxy
    cases x with
    | error err => cases hxy
    | ok z => exact ⟨z, rfl, hxy⟩

theorem Keyed.of_mapM_exceptT {f : K × V → ExceptT ε Option (K × W)} (hf : ∀ entry entry',
      (f entry).run = some (.ok entry') → entry'.1 = entry.1 ∧ R entry.1 entry.2 entry'.2)
    (h : (l.mapM f).run = some (.ok l')) : Keyed R l l' := by
  refine Keyed.of_mapM (m := ExceptT ε Option) (fun x y => x.run = some (.ok y)) ?_ ?_ hf h
  · intro α x y hxy
    exact Except.ok.inj (Option.some.inj hxy)
  · intro α β x f y hxy
    rw [ExceptT.run_bind] at hxy
    obtain ⟨result, hresult, hrest⟩ := Option.bind_eq_some_iff.mp hxy
    cases result with
    | error err => cases hrest
    | ok z => exact ⟨z, hresult, hrest⟩

end DeXFG.Library.KeyedLists
