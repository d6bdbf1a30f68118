import Mathlib.Data.Nat.Digits.Lemmas
import Mathlib.Data.List.Basic

/-!
# Readers and the bytes they take

A reader takes a value off the front of its input. It is described by a function
that writes values and by the values it can return: it reads back what is written,
and what it takes is what would be written, as long as nothing is encoded longer
than it has to be.
-/
namespace DeXFG.Library.Reading

abbrev Bytes := List UInt8

/-- What is left to read, in some context. The last field is no part of any reader's
behaviour: it says whether all numbers read so far had their shortest form. -/
structure Input (γ : Type) where
  buffer : Bytes
  context : γ
  canonical : Bool

abbrev Reader (γ ε α : Type) := StateT (Input γ) (Except ε) α

variable {γ ε α β : Type} {r : Reader γ ε α} {f : α → Reader γ ε β} {write : α → Bytes}
  {write' : β → Bytes} {V : α → Prop} {s s' : Input γ} {x : α}

/-! ## Running readers -/

@[simp] theorem run_pure (x : α) (s : Input γ) : (pure x : Reader γ ε α).run s = .ok (x, s) := rfl

theorem run_bind_of_ok (h : r.run s = .ok (x, s')) : (r >>= f).run s = (f x).run s' := by
  rw [StateT.run_bind, h]
  rfl

theorem run_bind_eq_ok {y : β} :
    (r >>= f).run s = .ok (y, s') ↔ ∃ x s₁, r.run s = .ok (x, s₁) ∧ (f x).run s₁ = .ok (y, s') := by
  constructor
  · intro h
    rw [StateT.run_bind] at h
    cases hr : r.run s with
    | error e =>
      rw [hr] at h
      cases h
    | ok p =>
      rw [hr] at h
      exact ⟨p.1, p.2, rfl, h⟩
  · intro h
    obtain ⟨x, s₁, hr, hf⟩ := h
    rw [run_bind_of_ok hr, hf]

/-- A reader that may fail on what it has read. -/
theorem run_bind_of_error {e : ε} (h : r.run s = .error e) : (r >>= f).run s = .error e := by
  rw [StateT.run_bind, h]
  rfl

/-! ## Codecs -/

/-- From one input to another some bytes are taken, those given if all was canonical. -/
structure Takes (s : Input γ) (shortest : Bytes) (s' : Input γ) : Prop where
  context : s'.context = s.context
  bytes : ∃ taken, s.buffer = taken ++ s'.buffer ∧ shortest.length ≤ taken.length ∧
    (s'.canonical = true → s.canonical = true ∧ taken = shortest)

/-- A reader returns the values that fit, from what is written for them. -/
structure Codec (r : Reader γ ε α) (write : α → Bytes) (V : α → Prop) : Prop where
  reads : ∀ x, V x → ∀ rest context canonical,
    r.run ⟨write x ++ rest, context, canonical⟩ = .ok (x, ⟨rest, context, canonical⟩)
  sound : ∀ {s x s'}, r.run s = .ok (x, s') → V x ∧ Takes s (write x) s'

theorem Takes.refl (s : Input γ) : Takes s [] s where
  context := rfl
  bytes := ⟨[], rfl, le_rfl, fun h => ⟨h, rfl⟩⟩

theorem Takes.trans {s₁ s₂ s₃ : Input γ} {w w' : Bytes} (h : Takes s₁ w s₂) (h' : Takes s₂ w' s₃) :
    Takes s₁ (w ++ w') s₃ := by
  obtain ⟨taken, hbuffer, hle, hcanonical⟩ := h.bytes
  obtain ⟨taken', hbuffer', hle', hcanonical'⟩ := h'.bytes
  refine ⟨h'.context.trans h.context, taken ++ taken', ?_, ?_, ?_⟩
  · rw [hbuffer, hbuffer', List.append_assoc]
  · simp only [List.length_append]
    omega
  · intro hc
    obtain ⟨hc₂, heq'⟩ := hcanonical' hc
    obtain ⟨hc₁, heq⟩ := hcanonical hc₂
    exact ⟨hc₁, by rw [heq, heq']⟩

theorem Takes.length_le {w : Bytes} (h : Takes s w s') :
    w.length + s'.buffer.length ≤ s.buffer.length := by
  obtain ⟨taken, hbuffer, hle, _⟩ := h.bytes
  rw [hbuffer, List.length_append]
  omega

/-- If all was canonical then the bytes taken are those given. -/
theorem Takes.buffer_eq {w : Bytes} (h : Takes s w s') (hc : s'.canonical = true) :
    s.buffer = w ++ s'.buffer ∧ s.canonical = true := by
  obtain ⟨taken, hbuffer, _, hcanonical⟩ := h.bytes
  obtain ⟨hs, heq⟩ := hcanonical hc
  exact ⟨by rw [hbuffer, heq], hs⟩

namespace Codec

theorem congr {write₁ : α → Bytes} {V₁ : α → Prop} (h : Codec r write V)
    (hV : ∀ x, V₁ x ↔ V x) (hwrite : ∀ x, V x → write₁ x = write x) : Codec r write₁ V₁ where
  reads := by
    intro x hx rest context canonical
    rw [hwrite x ((hV x).mp hx)]
    exact h.reads x ((hV x).mp hx) rest context canonical
  sound := by
    intro s x s' hrun
    obtain ⟨hx, htakes⟩ := h.sound hrun
    exact ⟨(hV x).mpr hx, by rwa [hwrite x hx]⟩

/-- The same bytes, written by another name. -/
theorem of_write_eq {write₁ : α → Bytes} (h : Codec r write V) (hwrite : ∀ x, write₁ x = write x) :
    Codec r write₁ V :=
  h.congr (fun _ => Iff.rfl) fun x _ => hwrite x

theorem pure (hV : ∀ y, V y ↔ y = x) : Codec (Pure.pure x : Reader γ ε α) (fun _ => []) V where
  reads := by
    intro y hy rest context canonical
    rw [(hV y).mp hy]
    rfl
  sound := by
    intro s y s' hrun
    rw [run_pure] at hrun
    cases hrun
    exact ⟨(hV x).mpr rfl, Takes.refl s⟩

/-- A value is read and kept as a part of the result. -/
theorem bind (part : β → α) {V' : β → Prop} (hr : Codec r write V)
    (hV : ∀ y, V' y → V (part y))
    (hf : ∀ x, V x → Codec (f x) write' fun y => V' y ∧ part y = x) :
    Codec (r >>= f) (fun y => write (part y) ++ write' y) V' where
  reads := by
    intro y hy rest context canonical
    rw [List.append_assoc, run_bind_of_ok (hr.reads _ (hV y hy) _ _ _)]
    exact (hf _ (hV y hy)).reads y ⟨hy, rfl⟩ rest context canonical
  sound := by
    intro s y s' hrun
    obtain ⟨x, s₁, hx, hy⟩ := run_bind_eq_ok.mp hrun
    obtain ⟨hVx, htakes⟩ := hr.sound hx
    obtain ⟨⟨hVy, hpart⟩, htakes'⟩ := (hf x hVx).sound hy
    rw [hpart]
    exact ⟨hVy, htakes.trans htakes'⟩

/-- A part of the result that can be anything. -/
theorem field (part : β → α) {V' : β → Prop} (hr : Codec r write fun _ => True)
    (hf : ∀ x, Codec (f x) write' fun y => V' y ∧ part y = x) :
    Codec (r >>= f) (fun y => write (part y) ++ write' y) V' :=
  hr.bind part (fun _ _ => trivial) fun x _ => hf x

/-- The result of a reader under a function that has an inverse. -/
theorem map {write' : β → Bytes} {V' : β → Prop} (hr : Codec r write V) (g : α → β) (part : β → α)
    (hinv : ∀ x, V x → part (g x) = x ∧ V' (g x) ∧ write' (g x) = write x)
    (hV : ∀ y, V' y → V (part y) ∧ g (part y) = y) :
    Codec (do let x ← r; Pure.pure (g x)) write' V' where
  reads := by
    intro y hy rest context canonical
    obtain ⟨hx, hy'⟩ := hV y hy
    obtain ⟨_, _, hwrite⟩ := hinv _ hx
    rw [← hy', hwrite, run_bind_of_ok (hr.reads _ hx _ _ _), run_pure]
  sound := by
    intro s y s' hrun
    obtain ⟨x, s₁, hx, hy⟩ := run_bind_eq_ok.mp hrun
    obtain ⟨hVx, htakes⟩ := hr.sound hx
    rw [run_pure] at hy
    cases hy
    obtain ⟨_, hVy, hwrite⟩ := hinv x hVx
    exact ⟨hVy, by rwa [hwrite]⟩

/-- A reader that fails where nothing fits. -/
theorem guard (e : ε) (c : Prop) [Decidable c] (hfail : c → ∀ x, ¬ V x)
    (hr : ¬ c → Codec r write V) :
    Codec (if c then throw e else r) write V where
  reads := by
    intro x hx rest context canonical
    have hc : ¬ c := fun hc => hfail hc x hx
    rw [if_neg hc]
    exact (hr hc).reads x hx rest context canonical
  sound := by
    intro s x s' hrun
    by_cases hc : c
    · rw [if_pos hc] at hrun
      cases hrun
    · rw [if_neg hc] at hrun
      exact (hr hc).sound hrun

/-- Two readers for two kinds of values. -/
theorem ite {r₁ r₂ : Reader γ ε α} (c : Prop) [Decidable c] (h₁ : c → Codec r₁ write V)
    (h₂ : ¬ c → Codec r₂ write V) : Codec (if c then r₁ else r₂) write V := by
  by_cases hc : c
  · rw [if_pos hc]
    exact h₁ hc
  · rw [if_neg hc]
    exact h₂ hc

end Codec

/-! ## Bytes -/

/-- As many bytes as asked for. -/
def takeBytes (e : ε) (n : ℕ) : Reader γ ε Bytes := fun s =>
  if s.buffer.length < n then .error e
  else .ok (s.buffer.take n, { s with buffer := s.buffer.drop n })

theorem codec_takeBytes (e : ε) (n : ℕ) :
    Codec (takeBytes e n : Reader γ ε Bytes) id fun bytes => bytes.length = n where
  reads := by
    intro bytes hlength rest context canonical
    subst hlength
    simp [takeBytes, StateT.run]
  sound := by
    intro s bytes s' hrun
    change (if s.buffer.length < n then _ else _) = _ at hrun
    split at hrun
    · cases hrun
    · rename_i hle
      cases hrun
      have hlength : (s.buffer.take n).length = n := by
        rw [List.length_take]
        omega
      exact ⟨hlength, rfl, s.buffer.take n, (List.take_append_drop n s.buffer).symm, le_rfl,
        fun hc => ⟨hc, rfl⟩⟩

/-- The front of the input has a fixed length. -/
def readFixed (e : ε) (n : ℕ) : Reader γ ε {bytes : Bytes // bytes.length = n} := fun s =>
  if h : s.buffer.length < n then .error e
  else .ok (⟨s.buffer.take n, List.length_take_of_le (not_lt.mp h)⟩,
    { s with buffer := s.buffer.drop n })

theorem codec_readFixed (e : ε) (n : ℕ) :
    Codec (readFixed e n : Reader γ ε {bytes : Bytes // bytes.length = n}) Subtype.val
      fun _ => True where
  reads := by
    intro bytes _ rest context canonical
    obtain ⟨bytes, hlength⟩ := bytes
    subst hlength
    simp [readFixed, StateT.run]
  sound := by
    intro s bytes s' hrun
    change (if h : s.buffer.length < n then _ else _) = _ at hrun
    split at hrun
    · cases hrun
    · cases hrun
      exact ⟨trivial, rfl, s.buffer.take n, (List.take_append_drop n s.buffer).symm, le_rfl,
        fun hc => ⟨hc, rfl⟩⟩

/-! ## Little-endian numbers -/

/-- The little-endian bytes of a number, as many as asked for. -/
def leBytes : ℕ → ℕ → Bytes
  | 0, _ => []
  | size + 1, n => UInt8.ofNat n :: leBytes size (n / 256)

/-- The number of little-endian bytes. -/
def leNat : Bytes → ℕ
  | [] => 0
  | b :: bytes => b.toNat + 256 * leNat bytes

@[simp] theorem length_leBytes (size n : ℕ) : (leBytes size n).length = size := by
  induction size generalizing n with
  | zero => rfl
  | succ size ih => simp [leBytes, ih]

theorem leNat_leBytes {size n : ℕ} (h : n < 256 ^ size) : leNat (leBytes size n) = n := by
  induction size generalizing n with
  | zero =>
    rw [pow_zero] at h
    rw [leBytes, leNat]
    omega
  | succ size ih =>
    have hdiv : n / 256 < 256 ^ size := by
      rw [pow_succ] at h
      omega
    rw [leBytes, leNat, ih hdiv, UInt8.toNat_ofNat']
    omega

theorem leNat_lt (bytes : Bytes) : leNat bytes < 256 ^ bytes.length := by
  induction bytes with
  | nil => simp [leNat]
  | cons b bytes ih =>
    have hb := b.toNat_lt
    rw [leNat, List.length_cons, pow_succ]
    omega

theorem leBytes_leNat (bytes : Bytes) : leBytes bytes.length (leNat bytes) = bytes := by
  induction bytes with
  | nil => rfl
  | cons b bytes ih =>
    have hb := b.toNat_lt
    have hdiv : leNat (b :: bytes) / 256 = leNat bytes := by
      rw [leNat]
      omega
    have hhead : UInt8.ofNat (leNat (b :: bytes)) = b := by
      apply UInt8.toNat_inj.mp
      rw [UInt8.toNat_ofNat', leNat]
      omega
    rw [List.length_cons, leBytes, hdiv, ih, hhead]

/-- A little-endian number of some bytes. -/
def readLe (e : ε) (size : ℕ) : Reader γ ε ℕ := do
  let bytes ← takeBytes e size
  Pure.pure (leNat bytes)

theorem codec_readLe (e : ε) (size : ℕ) :
    Codec (readLe e size : Reader γ ε ℕ) (leBytes size) fun n => n < 256 ^ size := by
  apply (codec_takeBytes e size).map leNat (leBytes size)
  · intro bytes hlength
    subst hlength
    exact ⟨leBytes_leNat bytes, leNat_lt bytes, leBytes_leNat bytes⟩
  · intro n hn
    exact ⟨length_leBytes size n, leNat_leBytes hn⟩

/-! ## Readers on given bytes -/

theorem of_takeBytes {e : ε} {n : ℕ} {bytes : Bytes}
    (h : (takeBytes e n : Reader γ ε Bytes).run s = .ok (bytes, s')) :
    bytes.length = n ∧ s.buffer = bytes ++ s'.buffer := by
  change (if s.buffer.length < n then _ else _) = _ at h
  split at h
  · cases h
  · cases h
    refine ⟨?_, (List.take_append_drop n s.buffer).symm⟩
    rw [List.length_take]
    omega

theorem of_readLe {e : ε} {size n : ℕ}
    (h : (readLe e size : Reader γ ε ℕ).run s = .ok (n, s')) :
    n < 256 ^ size ∧ s.buffer = leBytes size n ++ s'.buffer := by
  obtain ⟨bytes, s₁, htake, hpure⟩ := run_bind_eq_ok.mp h
  rw [run_pure] at hpure
  cases hpure
  obtain ⟨hlength, hbuffer⟩ := of_takeBytes htake
  rw [← hlength, leBytes_leNat]
  exact ⟨leNat_lt bytes, hbuffer⟩

/-- What a reader makes of some bytes, whatever follows them. -/
def Reads (r : Reader γ ε α) (bytes : Bytes) (x : α) : Prop :=
  ∀ rest context canonical,
    r.run ⟨bytes ++ rest, context, canonical⟩ = .ok (x, ⟨rest, context, canonical⟩)

namespace Reads

variable {bytes bytes' : Bytes}

theorem pure (x : α) : Reads (Pure.pure x : Reader γ ε α) [] x :=
  fun _ _ _ => rfl

theorem bind {y : β} (hr : Reads r bytes x) (hf : Reads (f x) bytes' y) :
    Reads (r >>= f) (bytes ++ bytes') y := by
  intro rest context canonical
  rw [List.append_assoc, run_bind_of_ok (hr _ _ _)]
  exact hf rest context canonical

/-- The result is used and nothing more is read. -/
theorem map (hr : Reads r bytes x) (g : α → β) :
    Reads (do let x ← r; Pure.pure (g x)) bytes (g x) := by
  intro rest context canonical
  rw [run_bind_of_ok (hr _ _ _), run_pure]

theorem takeBytes (e : ε) (bytes : Bytes) :
    Reads (Reading.takeBytes e bytes.length : Reader γ ε Bytes) bytes bytes :=
  (codec_takeBytes e bytes.length).reads bytes rfl

/-- A reader makes one thing of its input. -/
theorem eq_of_run {y : α} {buffer : Bytes} {context : γ} {canonical : Bool}
    (hr : Reads r bytes x) (h : r.run ⟨bytes ++ buffer, context, canonical⟩ = .ok (y, s')) :
    y = x ∧ s' = ⟨buffer, context, canonical⟩ := by
  rw [hr buffer context canonical] at h
  cases h
  exact ⟨rfl, rfl⟩

end Reads

/-! ## Lists -/

/-- As many values as asked for, one after the other. -/
def readMany (r : Reader γ ε α) : ℕ → Reader γ ε (List α)
  | 0 => Pure.pure []
  | n + 1 => do
    let x ← r
    let xs ← readMany r n
    Pure.pure (x :: xs)

theorem codec_readMany (hr : Codec r write V) (n : ℕ) :
    Codec (readMany r n) (fun xs => xs.flatMap write) fun xs =>
      xs.length = n ∧ ∀ x ∈ xs, V x where
  reads := by
    intro xs hxs
    obtain ⟨hlength, hV⟩ := hxs
    induction xs generalizing n with
    | nil =>
      intro rest context canonical
      cases hlength
      rfl
    | cons x xs ih =>
      intro rest context canonical
      cases hlength
      rw [List.forall_mem_cons] at hV
      rw [List.length_cons, readMany, List.flatMap_cons, List.append_assoc,
        run_bind_of_ok (hr.reads x hV.1 _ _ _), run_bind_of_ok (ih xs.length rfl hV.2 _ _ _),
        run_pure]
  sound := by
    induction n with
    | zero =>
      intro s xs s' hrun
      rw [readMany, run_pure] at hrun
      cases hrun
      exact ⟨⟨rfl, by simp⟩, Takes.refl s⟩
    | succ n ih =>
      intro s xs s' hrun
      rw [readMany] at hrun
      obtain ⟨x, s₁, hx, hrest⟩ := run_bind_eq_ok.mp hrun
      obtain ⟨ys, s₂, hys, hpure⟩ := run_bind_eq_ok.mp hrest
      rw [run_pure] at hpure
      cases hpure
      obtain ⟨hVx, htakes⟩ := hr.sound hx
      obtain ⟨⟨hlength, hVys⟩, htakes'⟩ := ih hys
      refine ⟨⟨by rw [List.length_cons, hlength], ?_⟩, ?_⟩
      · rw [List.forall_mem_cons]
        exact ⟨hVx, hVys⟩
      · rw [List.flatMap_cons]
        exact htakes.trans htakes'

/-! ## Numbers of several lengths -/

/-- Notes whether a number had its shortest form. -/
def note (shortest : Bool) : Reader γ ε Unit := fun s =>
  .ok ((), { s with canonical := s.canonical && shortest })

/-- A number after what says how long it is, which a longer form may say as well. -/
theorem takes_note {w : Bytes} {shortest : Bool} {taken : Bytes}
    (hbuffer : s.buffer = taken ++ s'.buffer) (hcontext : s'.context = s.context)
    (hc : s'.canonical = s.canonical) (hle : w.length ≤ taken.length)
    (hshortest : shortest = true → taken = w) :
    Takes s w { s' with canonical := s'.canonical && shortest } where
  context := hcontext
  bytes := by
    refine ⟨taken, hbuffer, hle, ?_⟩
    intro h
    rw [Bool.and_eq_true] at h
    exact ⟨hc ▸ h.1, hshortest h.2⟩

/-! ## Readers that do not look ahead -/

/-- A reader takes bytes off the front, and would return the same on them whatever comes
after, as long as the result can end there. -/
def Local (ends : α → Bytes → Prop) (r : Reader γ ε α) : Prop :=
  ∀ ⦃s x s'⦄, r.run s = .ok (x, s') → ∃ taken, s.buffer = taken ++ s'.buffer ∧
    ∀ rest, ends x rest → r.run { s with buffer := taken ++ rest } =
      .ok (x, { s' with buffer := rest })

/-- A result that can end anywhere. -/
abbrev anywhere : α → Bytes → Prop := fun _ _ => True

namespace Local

variable {ends : α → Bytes → Prop} {ends' : β → Bytes → Prop}

theorem pure (x : α) : Local ends (Pure.pure x : Reader γ ε α) := by
  intro s y s' hrun
  rw [run_pure] at hrun
  cases hrun
  exact ⟨[], rfl, fun rest _ => rfl⟩

theorem throw (e : ε) : Local ends (throw e : Reader γ ε α) := by
  intro s y s' hrun
  cases hrun

theorem bind (hr : Local anywhere r) (hf : ∀ x, Local ends' (f x)) : Local ends' (r >>= f) := by
  intro s y s' hrun
  obtain ⟨x, s₁, hx, hy⟩ := run_bind_eq_ok.mp hrun
  obtain ⟨taken, hbuffer, hsame⟩ := hr hx
  obtain ⟨taken', hbuffer', hsame'⟩ := hf x hy
  refine ⟨taken ++ taken', by rw [hbuffer, hbuffer', List.append_assoc], ?_⟩
  intro rest hends
  rw [List.append_assoc, run_bind_of_ok (hsame _ trivial)]
  exact hsame' rest hends

theorem ite {r₁ r₂ : Reader γ ε α} (c : Prop) [Decidable c] (h₁ : c → Local ends r₁)
    (h₂ : ¬ c → Local ends r₂) : Local ends (if c then r₁ else r₂) := by
  by_cases hc : c
  · rw [if_pos hc]
    exact h₁ hc
  · rw [if_neg hc]
    exact h₂ hc

theorem takeBytes (e : ε) (n : ℕ) :
    Local anywhere (Reading.takeBytes e n : Reader γ ε Bytes) := by
  intro s x s' hrun
  have hlength := (codec_takeBytes e n).sound hrun
  change (if s.buffer.length < n then _ else _) = _ at hrun
  split at hrun
  · cases hrun
  · cases hrun
    refine ⟨s.buffer.take n, (List.take_append_drop n s.buffer).symm, ?_⟩
    intro rest _
    exact (codec_takeBytes e n).reads _ hlength.1 rest s.context s.canonical

theorem readFixed (e : ε) (n : ℕ) :
    Local anywhere (Reading.readFixed e n : Reader γ ε {bytes : Bytes // bytes.length = n}) := by
  intro s x s' hrun
  change (if h : s.buffer.length < n then _ else _) = _ at hrun
  split at hrun
  · cases hrun
  · rename_i hle
    cases hrun
    refine ⟨s.buffer.take n, (List.take_append_drop n s.buffer).symm, ?_⟩
    intro rest _
    exact (codec_readFixed e n).reads ⟨s.buffer.take n, List.length_take_of_le (not_lt.mp hle)⟩
      trivial rest s.context s.canonical

theorem readLe (e : ε) (size : ℕ) : Local anywhere (Reading.readLe e size : Reader γ ε ℕ) :=
  (takeBytes e size).bind fun _ => pure _

theorem readMany (hr : Local anywhere r) (n : ℕ) : Local anywhere (Reading.readMany r n) := by
  induction n with
  | zero => exact pure []
  | succ n ih => exact hr.bind fun _ => ih.bind fun _ => pure _

theorem note (shortest : Bool) : Local anywhere (note shortest : Reader γ ε Unit) := by
  intro s x s' hrun
  cases hrun
  exact ⟨[], rfl, fun rest _ => rfl⟩

end Local

/-! ## How far readers go -/

/-- One length after the other. -/
def endAfter (first second : Bytes → Option ℕ) (bytes : Bytes) : Option ℕ :=
  (first bytes).bind fun n => (second (bytes.drop n)).map (n + ·)

def endFixed (n : ℕ) (bytes : Bytes) : Option ℕ := if bytes.length < n then none else some n

/-- A reader takes as many bytes as a function of them says, and fails where it says none. -/
def Advances (r : Reader γ ε α) (length : Bytes → Option ℕ) : Prop :=
  ∀ s, (∀ n, length s.buffer = some n → ∃ x canonical,
      r.run s = .ok (x, ⟨s.buffer.drop n, s.context, canonical⟩)) ∧
    (length s.buffer = none → ∃ e, r.run s = .error e)

namespace Advances

variable {first second : Bytes → Option ℕ}

theorem pure (x : α) : Advances (Pure.pure x : Reader γ ε α) (endFixed 0) := by
  intro s
  constructor
  · intro n hn
    cases hn
    exact ⟨x, s.canonical, rfl⟩
  · intro h
    simp [endFixed] at h

theorem takeBytes (e : ε) (n : ℕ) :
    Advances (Reading.takeBytes e n : Reader γ ε Bytes) (endFixed n) := by
  intro s
  by_cases h : s.buffer.length < n
  · constructor
    · intro m hm
      rw [endFixed, if_pos h] at hm
      cases hm
    · intro _
      exact ⟨e, if_pos h⟩
  · constructor
    · intro m hm
      rw [endFixed, if_neg h] at hm
      cases hm
      exact ⟨s.buffer.take n, s.canonical, if_neg h⟩
    · intro hnone
      rw [endFixed, if_neg h] at hnone
      cases hnone

theorem readFixed (e : ε) (n : ℕ) :
    Advances (Reading.readFixed e n : Reader γ ε {bytes : Bytes // bytes.length = n})
      (endFixed n) := by
  intro s
  by_cases h : s.buffer.length < n
  · constructor
    · intro m hm
      rw [endFixed, if_pos h] at hm
      cases hm
    · intro _
      exact ⟨e, dif_pos h⟩
  · constructor
    · intro m hm
      rw [endFixed, if_neg h] at hm
      cases hm
      exact ⟨_, s.canonical, dif_neg h⟩
    · intro hnone
      rw [endFixed, if_neg h] at hnone
      cases hnone

theorem bind (hr : Advances r first) (hf : ∀ x, Advances (f x) second) :
    Advances (r >>= f) (endAfter first second) := by
  intro s
  rw [endAfter]
  cases hfirst : first s.buffer with
  | none =>
    constructor
    · intro n hn
      cases hn
    · intro _
      obtain ⟨e, he⟩ := (hr s).2 hfirst
      exact ⟨e, run_bind_of_error he⟩
  | some n =>
    obtain ⟨x, canonical, hx⟩ := (hr s).1 n hfirst
    have hrest := hf x ⟨s.buffer.drop n, s.context, canonical⟩
    rw [run_bind_of_ok hx, Option.bind_some]
    constructor
    · intro m hm
      obtain ⟨k, hk, rfl⟩ := Option.map_eq_some_iff.mp hm
      obtain ⟨y, canonical', hy⟩ := hrest.1 k hk
      rw [List.drop_drop] at hy
      exact ⟨y, canonical', hy⟩
    · intro hnone
      exact hrest.2 (Option.map_eq_none_iff.mp hnone)

/-- The result is used and nothing more is read. -/
theorem map (hr : Advances r first) (g : α → β) :
    Advances (do let x ← r; Pure.pure (g x)) first := by
  intro s
  constructor
  · intro n hn
    obtain ⟨x, canonical, hx⟩ := (hr s).1 n hn
    exact ⟨g x, canonical, run_bind_of_ok hx⟩
  · intro hnone
    obtain ⟨e, he⟩ := (hr s).2 hnone
    exact ⟨e, run_bind_of_error he⟩

theorem readLe (e : ε) (size : ℕ) :
    Advances (Reading.readLe e size : Reader γ ε ℕ) (endFixed size) :=
  (takeBytes e size).map leNat

end Advances

theorem endAfter_fixed (m n : ℕ) : endAfter (endFixed m) (endFixed n) = endFixed (m + n) := by
  funext bytes
  simp only [endAfter, endFixed]
  by_cases hm : bytes.length < m
  · rw [if_pos hm, if_pos (by omega)]
    rfl
  · rw [if_neg hm, Option.bind_some, List.length_drop]
    by_cases hn : bytes.length - m < n
    · rw [if_pos hn, if_pos (by omega)]
      rfl
    · rw [if_neg hn, if_neg (by omega)]
      rfl

theorem endAfter_assoc (f g h : Bytes → Option ℕ) :
    endAfter (endAfter f g) h = endAfter f (endAfter g h) := by
  funext bytes
  simp only [endAfter]
  cases f bytes with
  | none => rfl
  | some n =>
    simp only [Option.bind_some]
    cases g (bytes.drop n) with
    | none => rfl
    | some m =>
      simp only [Option.bind_some, Option.map_some, List.drop_drop, Option.map_map]
      congr 1
      funext k
      exact Nat.add_assoc n m k

theorem endAfter_fixed_zero (f : Bytes → Option ℕ) : endAfter f (endFixed 0) = f := by
  funext bytes
  simp only [endAfter, endFixed]
  cases f bytes with
  | none => rfl
  | some n => simp

end DeXFG.Library.Reading
