import DeXFG.Spv.MerkleProof
import DeXFG.Utxo.Deserialize

/-!
# Lists of inputs and outputs, checked and read

The check of the inputs and outputs of a proven transaction finds the ends of the
items by itself. The reader of the codec finds them by reading.
-/
namespace DeXFG.Spv
open Utxo Library
open Library.Reading hiding Bytes readLe

/-! ## Compact integers -/

/-- The number of bytes that a compact integer takes where it stands. -/
def encodedLength : Bytes → ℕ
  | [] => 1
  | flag :: _ => 1 + dataLength flag

variable {bytes rest : Bytes} {flag : UInt8} {n : ℕ}

theorem encodedLength_pos (bytes : Bytes) : 0 < encodedLength bytes := by
  cases bytes with
  | nil => exact Nat.one_pos
  | cons flag rest =>
    rw [encodedLength]
    omega

theorem leNat_eq_readLe (bytes : Bytes) : leNat bytes = BitcoinScript.readLe bytes := by
  induction bytes with
  | nil => rfl
  | cons b bytes ih =>
    rw [leNat, ih, BitcoinScript.readLe, BitcoinScript.readLe, List.map_cons, Nat.ofDigits_cons]

theorem eq_flag {m : ℕ} (hm : m < 256) : flag = .ofNat m ↔ flag.toNat = m := by
  rw [← UInt8.toNat_inj, UInt8.toNat_ofNat_of_lt' hm]

theorem dataLength_of_short (h : flag.toNat ≤ 0xfc) : dataLength flag = 0 := by
  have hd : flag ≠ 0xfd := fun heq => by
    rw [heq] at h
    exact absurd h (by decide)
  have he : flag ≠ 0xfe := fun heq => by
    rw [heq] at h
    exact absurd h (by decide)
  have hf : flag ≠ 0xff := fun heq => by
    rw [heq] at h
    exact absurd h (by decide)
  rw [dataLength, if_neg hd, if_neg he, if_neg hf]

theorem dataLength_of_long (h : ¬ flag.toNat ≤ 0xfc) :
    dataLength flag = if flag.toNat = 0xfd then 2 else if flag.toNat = 0xfe then 4 else 8 := by
  have hlt := flag.toNat_lt
  have hd : flag = 0xfd ↔ flag.toNat = 0xfd := eq_flag (by norm_num)
  have he : flag = 0xfe ↔ flag.toNat = 0xfe := eq_flag (by norm_num)
  have hf : flag = 0xff ↔ flag.toNat = 0xff := eq_flag (by norm_num)
  rw [dataLength]
  simp only [hd, he, hf]
  by_cases hfd : flag.toNat = 0xfd
  · rw [if_pos hfd, if_pos hfd]
  · by_cases hfe : flag.toNat = 0xfe
    · rw [if_neg hfd, if_pos hfe, if_neg hfd, if_pos hfe]
    · rw [if_neg hfd, if_neg hfe, if_pos (by omega), if_neg hfd, if_neg hfe]

theorem dataLength_eq_zero : dataLength flag = 0 ↔ flag.toNat ≤ 0xfc := by
  constructor
  · intro h
    by_contra hlong
    rw [dataLength_of_long hlong] at h
    split at h
    · cases h
    · split at h
      · cases h
      · cases h
  · exact dataLength_of_short

theorem parseCompactInt_of_short (h : flag.toNat ≤ 0xfc) :
    parseCompactInt (flag :: rest) = .ok flag.toNat := by
  rw [parseCompactInt]
  exact if_pos (dataLength_of_short h)

theorem parseCompactInt_of_long (h : ¬ flag.toNat ≤ 0xfc) :
    parseCompactInt (flag :: rest) =
      if rest.length < dataLength flag then .error (.parseError "Insufficient bytes!")
      else .ok (leNat (rest.take (dataLength flag))) := by
  rw [parseCompactInt, leNat_eq_readLe]
  exact if_neg fun hzero => h (dataLength_eq_zero.mp hzero)

theorem encodedLength_le (h : parseCompactInt bytes = .ok n) :
    encodedLength bytes ≤ bytes.length := by
  cases bytes with
  | nil => cases h
  | cons flag rest =>
    rw [encodedLength, List.length_cons]
    by_cases hshort : flag.toNat ≤ 0xfc
    · rw [dataLength_of_short hshort]
      omega
    · rw [parseCompactInt_of_long hshort] at h
      split at h
      · cases h
      · omega

theorem serializedLength_le_nine (n : ℕ) : serializedLength n ≤ 9 := by
  rw [serializedLength]
  split_ifs <;> omega

theorem serializedLength_le_five (h : n < 256 ^ 4) : serializedLength n ≤ 5 := by
  rw [serializedLength]
  split_ifs <;> omega

theorem serializedLength_le_three (h : n < 256 ^ 2) : serializedLength n ≤ 3 := by
  rw [serializedLength]
  split_ifs <;> omega

/-- No form is shorter than the one that the check takes a number to have. -/
theorem serializedLength_le (h : parseCompactInt bytes = .ok n) :
    serializedLength n ≤ encodedLength bytes := by
  cases bytes with
  | nil => cases h
  | cons flag rest =>
    rw [encodedLength]
    by_cases hshort : flag.toNat ≤ 0xfc
    · rw [parseCompactInt_of_short hshort] at h
      cases h
      rw [serializedLength, if_pos hshort]
      omega
    · rw [parseCompactInt_of_long hshort] at h
      split at h
      · cases h
      · rename_i hlength
        have hlt := leNat_lt (rest.take (dataLength flag))
        rw [List.length_take_of_le (not_lt.mp hlength)] at hlt
        cases h
        generalize leNat (rest.take (dataLength flag)) = n at hlt ⊢
        rw [dataLength_of_long hshort] at hlt ⊢
        by_cases hd : flag.toNat = 0xfd
        · rw [if_pos hd] at hlt ⊢
          exact serializedLength_le_three hlt
        · rw [if_neg hd] at hlt ⊢
          by_cases he : flag.toNat = 0xfe
          · rw [if_pos he] at hlt ⊢
            exact serializedLength_le_five hlt
          · rw [if_neg he] at hlt ⊢
            exact serializedLength_le_nine n

theorem run_flag (s : Input ChainVariant) (hbuffer : s.buffer = flag :: rest) :
    (Reading.readLe .unexpectedEnd 1 : Reader ℕ).run s =
      .ok (flag.toNat, ⟨rest, s.context, s.canonical⟩) := by
  have hlt : flag.toNat < 256 ^ 1 := by simpa using flag.toNat_lt
  have hread := (codec_readLe (γ := ChainVariant) SerError.unexpectedEnd 1).reads flag.toNat hlt
    rest s.context s.canonical
  have hs : s = ⟨leBytes 1 flag.toNat ++ rest, s.context, s.canonical⟩ := by
    cases s
    simp only at hbuffer
    simp [hbuffer, leBytes]
  rw [hs]
  exact hread

/-- Where the check finds a number the reader finds the same, and where not, none. -/
theorem run_compactInteger (s : Input ChainVariant) :
    (∀ n, parseCompactInt s.buffer = .ok n → ∃ canonical, Reader.compactInteger.run s =
      .ok (n, ⟨s.buffer.drop (encodedLength s.buffer), s.context, canonical⟩)) ∧
    (∀ e, parseCompactInt s.buffer = .error e → ∃ e, Reader.compactInteger.run s = .error e) := by
  cases hbuffer : s.buffer with
  | nil =>
    constructor
    · intro n h
      cases h
    · intro e _
      obtain ⟨e', he'⟩ := (Advances.readLe (γ := ChainVariant) SerError.unexpectedEnd 1 s).2
        (by simp [hbuffer, endFixed])
      exact ⟨e', run_bind_of_error he'⟩
  | cons flag rest =>
    have hflag := run_flag s hbuffer
    by_cases hshort : flag.toNat ≤ 0xfc
    · rw [parseCompactInt_of_short hshort, encodedLength, dataLength_of_short hshort]
      constructor
      · intro n h
        cases h
        refine ⟨s.canonical, ?_⟩
        rw [Reader.compactInteger, run_bind_of_ok hflag, if_pos hshort]
        rfl
      · intro e h
        cases h
    · rw [parseCompactInt_of_long hshort, encodedLength]
      have hsize := (dataLength_of_long hshort).symm
      have hadvance := Advances.takeBytes (γ := ChainVariant) SerError.unexpectedEnd
        (dataLength flag) ⟨rest, s.context, s.canonical⟩
      split
      · rename_i hlength
        constructor
        · intro n h
          cases h
        · intro e _
          obtain ⟨e', he'⟩ := (Advances.readLe (γ := ChainVariant) SerError.unexpectedEnd
            (dataLength flag) ⟨rest, s.context, s.canonical⟩).2 (if_pos hlength)
          refine ⟨e', ?_⟩
          rw [Reader.compactInteger, run_bind_of_ok hflag, if_neg hshort, hsize]
          exact run_bind_of_error he'
      · rename_i hlength
        constructor
        · intro n h
          cases h
          have hrun : (Reading.readLe .unexpectedEnd (dataLength flag) : Reader ℕ).run
              ⟨rest, s.context, s.canonical⟩ = .ok (leNat (rest.take (dataLength flag)),
                ⟨rest.drop (dataLength flag), s.context, s.canonical⟩) := by
            have htake : (Reading.takeBytes .unexpectedEnd (dataLength flag) : Reader Bytes).run
                ⟨rest, s.context, s.canonical⟩ = .ok (rest.take (dataLength flag),
                  ⟨rest.drop (dataLength flag), s.context, s.canonical⟩) := if_neg hlength
            exact run_bind_of_ok htake
          rw [Nat.add_comm, List.drop_succ_cons]
          exact ⟨_, run_compactInteger_of_flag hshort hsize hflag hrun⟩
        · intro e h
          cases h

/-! ## One item -/

/-- What is before the length of an item's script, and what is after the script. -/
structure ItemForm where
  head : ℕ
  tail : ℕ
  /-- The error where there is not even a length. -/
  short : SPVError

/-- The outpoint before the script and the sequence after it. -/
def inputForm : ItemForm := ⟨36, 4, .readOverrun⟩

/-- The value before the script. -/
def outputForm : ItemForm := ⟨8, 0, .malformattedOutput⟩

namespace ItemForm

variable (form : ItemForm)

/-- The length of an item with the shortest form of its script's length. -/
def length (script : ℕ) : ℕ := form.head + form.tail + serializedLength script + script

def determineLength (item : Bytes) : Except SPVError ℕ :=
  if item.length < form.head + 1 then .error form.short
  else match parseCompactInt (item.drop form.head) with
    | .error _ => .error .badCompactInt
    | .ok script => .ok (wrapUsize (form.length script))

/-- How far the reader goes. -/
def endBytes (bytes : Bytes) : Option ℕ :=
  match parseCompactInt bytes with
  | .error _ => none
  | .ok len =>
    if 65536 < len then none
    else (endFixed len (bytes.drop (encodedLength bytes))).map (encodedLength bytes + ·)

def itemEnd : Bytes → Option ℕ :=
  endAfter (endFixed form.head) (endAfter endBytes (endFixed form.tail))

variable {form}

theorem determineInputLength_eq : determineInputLength = inputForm.determineLength := rfl

theorem determineOutputLength_eq : determineOutputLength = outputForm.determineLength := rfl

theorem advances_bytes : Advances Reader.bytes endBytes := by
  intro s
  have hnumber := run_compactInteger s
  rw [endBytes]
  cases hparse : parseCompactInt s.buffer with
  | error e =>
    constructor
    · intro n h
      cases h
    · intro _
      obtain ⟨e', he'⟩ := hnumber.2 e hparse
      exact ⟨e', run_bind_of_error he'⟩
  | ok len =>
    obtain ⟨canonical, hlen⟩ := hnumber.1 len hparse
    by_cases hmax : 65536 < len
    · simp only [if_pos hmax]
      constructor
      · intro n h
        cases h
      · intro _
        refine ⟨.malformedData, ?_⟩
        rw [Reader.bytes, run_bind_of_ok hlen, if_pos hmax]
        rfl
    · simp only [if_neg hmax]
      have htake := Advances.takeBytes (γ := ChainVariant) SerError.unexpectedEnd len
        ⟨s.buffer.drop (encodedLength s.buffer), s.context, canonical⟩
      rw [Reader.bytes, run_bind_of_ok hlen, if_neg hmax]
      constructor
      · intro n h
        obtain ⟨m, hm, rfl⟩ := Option.map_eq_some_iff.mp h
        obtain ⟨data, canonical', hdata⟩ := htake.1 m hm
        rw [List.drop_drop] at hdata
        exact ⟨data, canonical', hdata⟩
      · intro h
        exact htake.2 (Option.map_eq_none_iff.mp h)

theorem advances_u32 : Advances Reader.u32 (endFixed 4) :=
  (Advances.readLe _ 4).map UInt32.ofNat

theorem advances_outPoint : Advances OutPoint.deserialize (endFixed 36) := by
  have h := (Advances.readFixed (γ := ChainVariant) SerError.unexpectedEnd 32).bind
    fun hash => advances_u32.map fun index => ({ hash := hash, index := index } : OutPoint)
  rwa [endAfter_fixed] at h

theorem advances_input : Advances TransactionInput.deserialize inputForm.itemEnd :=
  advances_outPoint.bind fun previousOutput => advances_bytes.bind fun scriptSig =>
    advances_u32.map fun sequence =>
      ({ previousOutput := previousOutput, scriptSig := scriptSig, sequence := sequence
         scriptWitness := [] } : TransactionInput)

theorem advances_output : Advances TransactionOutput.deserialize outputForm.itemEnd := by
  have h := (Advances.readLe (γ := ChainVariant) SerError.unexpectedEnd 8).bind
    fun value => advances_bytes.map fun scriptPubkey =>
      ({ value := value, scriptPubkey := scriptPubkey } : TransactionOutput)
  rw [itemEnd, outputForm, endAfter_fixed_zero]
  exact h

/-- The reader takes an item if it is there as a whole and its script is not too long. -/
theorem itemEnd_eq_some : form.itemEnd bytes = some n ↔
    ∃ script, parseCompactInt (bytes.drop form.head) = .ok script ∧ script ≤ 65536 ∧
      n = form.head + form.tail + encodedLength (bytes.drop form.head) + script ∧
      n ≤ bytes.length := by
  rw [itemEnd, endAfter, endFixed]
  by_cases hhead : bytes.length < form.head
  · have hnil : bytes.drop form.head = [] := List.drop_eq_nil_of_le hhead.le
    rw [if_pos hhead, hnil]
    simp [parseCompactInt]
  · rw [if_neg hhead, Option.bind_some, endAfter, endBytes]
    cases hparse : parseCompactInt (bytes.drop form.head) with
    | error e => simp
    | ok script =>
      have henc := encodedLength_le hparse
      rw [List.length_drop] at henc
      generalize encodedLength (bytes.drop form.head) = enc at henc ⊢
      simp only [endFixed, List.length_drop, Except.ok.injEq, exists_eq_left']
      by_cases hmax : 65536 < script
      · simp only [if_pos hmax, Option.bind_none, Option.map_none, reduceCtorEq, false_iff]
        omega
      · by_cases hscript : bytes.length - form.head - enc < script
        · simp only [if_neg hmax, if_pos hscript, Option.map_none, Option.bind_none, reduceCtorEq,
            false_iff]
          omega
        · by_cases htail : bytes.length - form.head - (enc + script) < form.tail
          · simp only [if_neg hmax, if_neg hscript, Option.map_some, Option.bind_some,
              if_pos htail, Option.map_none, reduceCtorEq,
              false_iff]
            omega
          · simp only [if_neg hmax, if_neg hscript, Option.map_some, Option.bind_some,
              if_neg htail, Option.some.injEq]
            omega

theorem itemEnd_le (h : form.itemEnd bytes = some n) : n ≤ bytes.length := by
  obtain ⟨_, _, _, _, hle⟩ := itemEnd_eq_some.mp h
  exact hle

end ItemForm

/-! ## What a number keeps when bytes are added or cut off -/

theorem parseCompactInt_append (h : parseCompactInt bytes = .ok n) (more : Bytes) :
    parseCompactInt (bytes ++ more) = .ok n ∧
      encodedLength (bytes ++ more) = encodedLength bytes := by
  cases bytes with
  | nil => cases h
  | cons flag rest =>
    refine ⟨?_, rfl⟩
    rw [List.cons_append]
    by_cases hshort : flag.toNat ≤ 0xfc
    · rw [parseCompactInt_of_short hshort] at h ⊢
      exact h
    · rw [parseCompactInt_of_long hshort] at h ⊢
      split at h
      · cases h
      · rename_i hlength
        have hmore : ¬ (rest ++ more).length < dataLength flag := by
          rw [List.length_append]
          omega
        rw [if_neg hmore, List.take_append_of_le_length (not_lt.mp hlength)]
        exact h

theorem parseCompactInt_take (h : parseCompactInt bytes = .ok n) {k : ℕ}
    (hk : encodedLength bytes ≤ k) :
    parseCompactInt (bytes.take k) = .ok n ∧
      encodedLength (bytes.take k) = encodedLength bytes := by
  cases bytes with
  | nil => cases h
  | cons flag rest =>
    rw [encodedLength] at hk
    obtain ⟨k, rfl⟩ : ∃ k', k = k' + 1 := Nat.exists_eq_succ_of_ne_zero (by omega)
    refine ⟨?_, rfl⟩
    rw [List.take_succ_cons]
    by_cases hshort : flag.toNat ≤ 0xfc
    · rw [parseCompactInt_of_short hshort] at h ⊢
      exact h
    · rw [parseCompactInt_of_long hshort] at h ⊢
      split at h
      · cases h
      · rename_i hlength
        have hcut : ¬ (rest.take k).length < dataLength flag := by
          rw [List.length_take]
          omega
        rw [if_neg hcut, List.take_take, min_eq_left (by omega)]
        exact h

/-! ## Lists of items -/

section Lists

variable {α : Type} (form : ItemForm) (bytes : Bytes) (r : Reader α)

/-- The offsets at which the check determines the length of an item. -/
def offsets : ℕ → ℕ → List ℕ
  | 0, _ => []
  | n + 1, offset =>
    if bytes.length ≤ offset then []
    else match form.determineLength (bytes.drop offset) with
      | .error _ => []
      | .ok v => offset :: offsets n (wrapUsize (offset + v))

/-- The length of the script of the item at an offset. -/
def scriptAt (offset : ℕ) : Except CompactIntegerError ℕ :=
  parseCompactInt (bytes.drop (offset + form.head))

/-- The sums stay within a `usize`. -/
def InRange (offset : ℕ) : Prop :=
  ∀ script, scriptAt form bytes offset = .ok script → offset + form.length script < 2 ^ 64

/-- An item that does not overrun the end has a script whose length has the shortest form
and is within the limit of the reader. -/
def PlainAt (offset : ℕ) : Prop :=
  ∀ script, scriptAt form bytes offset = .ok script →
    offset + form.length script ≤ bytes.length →
    serializedLength script = encodedLength (bytes.drop (offset + form.head)) ∧ script ≤ 65536

/-- The reader takes just the bytes that an item has for the check. -/
def SameEnd (offset : ℕ) : Prop :=
  ∀ script, scriptAt form bytes offset = .ok script →
    offset + form.length script ≤ bytes.length →
    ∃ x s', r.run ⟨(bytes.drop offset).take (form.length script), .standard, true⟩ = .ok (x, s') ∧
      s'.buffer = []

/-- The bytes are a list of at least one item, with nothing left over. -/
def IsItemList : Prop :=
  ∃ items s', (Reader.list r).run ⟨bytes, .standard, true⟩ = .ok (items, s') ∧ items ≠ [] ∧
    s'.buffer = []

/-- The check stays within its types and finds the numbers and the items that the reader finds. -/
structure AgreesWithReader (check : Bytes → Bool) : Prop where
  inRange : ∀ n, parseCompactInt bytes = .ok n → n ≠ 0 →
    ∀ offset ∈ offsets form bytes n (serializedLength n), InRange form bytes offset
  count : ∀ n, parseCompactInt bytes = .ok n → n ≠ 0 →
    ∃ s', Reader.compactInteger.run ⟨bytes.take (serializedLength n), .standard, true⟩ =
      .ok (n, s') ∧ s'.buffer = []
  items : ∀ n, parseCompactInt bytes = .ok n → n ≠ 0 →
    ∀ offset ∈ offsets form bytes n (serializedLength n), SameEnd form bytes r offset
  verdict : check bytes = true ↔ IsItemList bytes r

/-- The numbers that the check reads have their shortest forms, and no sum overflows. -/
def PlainForms : Prop :=
  ∀ n, parseCompactInt bytes = .ok n → n ≠ 0 → serializedLength n = encodedLength bytes ∧
    ∀ offset ∈ offsets form bytes n (serializedLength n),
      InRange form bytes offset ∧ PlainAt form bytes offset

variable {form bytes r} {offset script : ℕ}

/-- The item as the check cuts it out. -/
theorem drop_take_item (h : offset + form.length script ≤ bytes.length) :
    ((bytes.drop offset).take (form.length script)).drop form.head =
        (bytes.drop (offset + form.head)).take (form.length script - form.head) ∧
      ((bytes.drop offset).take (form.length script)).length = form.length script := by
  constructor
  · rw [List.drop_take, List.drop_drop]
  · rw [List.length_take, List.length_drop]
    omega

theorem sameEnd_iff (hr : Advances r form.itemEnd) :
    SameEnd form bytes r offset ↔ PlainAt form bytes offset := by
  apply forall_congr'
  intro script
  apply imp_congr_right
  intro hscript
  apply imp_congr_right
  intro hend
  obtain ⟨hdrop, hlength⟩ := drop_take_item hend
  have hadvance := hr ⟨(bytes.drop offset).take (form.length script), .standard, true⟩
  have hle := serializedLength_le hscript
  constructor
  · intro h
    obtain ⟨x, s', hrun, hnil⟩ := h
    cases hitem : form.itemEnd ((bytes.drop offset).take (form.length script)) with
    | none =>
      obtain ⟨e, he⟩ := hadvance.2 hitem
      rw [hrun] at he
      cases he
    | some m =>
      obtain ⟨x', canonical, hrun'⟩ := hadvance.1 m hitem
      rw [hrun] at hrun'
      cases hrun'
      have hm := ItemForm.itemEnd_le hitem
      rw [hlength] at hm
      obtain ⟨script', hparse, hmax, heq, _⟩ := ItemForm.itemEnd_eq_some.mp hitem
      have hwhole := parseCompactInt_append hparse
        ((bytes.drop (offset + form.head)).drop (form.length script - form.head))
      rw [hdrop, List.take_append_drop] at hwhole
      cases hscript.symm.trans hwhole.1
      have hlast := List.drop_eq_nil_iff.mp hnil
      rw [hlength] at hlast
      rw [ItemForm.length] at hm hlast
      rw [hdrop] at heq
      rw [hwhole.2]
      omega
  · intro h
    obtain ⟨hshortest, hmax⟩ := h
    have hlong : encodedLength (bytes.drop (offset + form.head)) ≤
        form.length script - form.head := by
      rw [ItemForm.length]
      omega
    obtain ⟨hparse, henc⟩ := parseCompactInt_take hscript hlong
    have hitem : form.itemEnd ((bytes.drop offset).take (form.length script)) =
        some (form.length script) := by
      apply ItemForm.itemEnd_eq_some.mpr
      rw [hdrop, hlength]
      refine ⟨script, hparse, hmax, ?_, le_rfl⟩
      rw [henc, ItemForm.length, hshortest]
    obtain ⟨x, canonical, hrun⟩ := hadvance.1 _ hitem
    refine ⟨x, _, hrun, ?_⟩
    apply List.drop_eq_nil_of_le
    rw [hlength]

theorem count_iff {n : ℕ} (h : parseCompactInt bytes = .ok n) :
    (∃ s', Reader.compactInteger.run ⟨bytes.take (serializedLength n), .standard, true⟩ =
      .ok (n, s') ∧ s'.buffer = []) ↔ serializedLength n = encodedLength bytes := by
  have hle := serializedLength_le h
  have henc := encodedLength_le h
  have hrun := run_compactInteger ⟨bytes.take (serializedLength n), .standard, true⟩
  constructor
  · intro hread
    obtain ⟨s', hok, hnil⟩ := hread
    cases hparse : parseCompactInt (bytes.take (serializedLength n)) with
    | error e =>
      obtain ⟨e', he'⟩ := hrun.2 e hparse
      rw [hok] at he'
      cases he'
    | ok m =>
      have hwhole := parseCompactInt_append hparse (bytes.drop (serializedLength n))
      rw [List.take_append_drop] at hwhole
      have htaken := encodedLength_le hparse
      rw [List.length_take] at htaken
      omega
  · intro heq
    obtain ⟨hparse, hsame⟩ := parseCompactInt_take h heq.ge
    obtain ⟨canonical, hok⟩ := hrun.1 n hparse
    refine ⟨_, hok, ?_⟩
    apply List.drop_eq_nil_of_le
    simp only [hsame, List.length_take]
    omega

theorem skipItems_of_lt {determineLength : Bytes → Except SPVError ℕ} (n : ℕ)
    (h : bytes.length < offset) : skipItems determineLength bytes n offset ≠ some bytes.length := by
  cases n with
  | zero =>
    rw [skipItems, Ne, Option.some.injEq]
    omega
  | succ n =>
    rw [skipItems, if_pos h.le]
    simp

theorem determineLength_of_ok (h : scriptAt form bytes offset = .ok script) :
    form.determineLength (bytes.drop offset) = .ok (wrapUsize (form.length script)) := by
  have henc := encodedLength_le h
  have hpos := encodedLength_pos (bytes.drop (offset + form.head))
  rw [List.length_drop] at henc
  have hlong : ¬ (bytes.drop offset).length < form.head + 1 := by
    rw [List.length_drop]
    omega
  rw [scriptAt] at h
  rw [ItemForm.determineLength, if_neg hlong, List.drop_drop, h]

/-- Where no item lies within the bytes the reader takes none. -/
theorem itemEnd_eq_none (h : ∀ script, scriptAt form bytes offset = .ok script →
    bytes.length < offset + form.length script) : form.itemEnd (bytes.drop offset) = none := by
  cases hitem : form.itemEnd (bytes.drop offset) with
  | none => rfl
  | some m =>
    obtain ⟨script, hparse, _, hm, hle⟩ := ItemForm.itemEnd_eq_some.mp hitem
    rw [List.drop_drop] at hparse hm
    have hlt := h script hparse
    have henc := serializedLength_le hparse
    have hpos := encodedLength_pos (bytes.drop (offset + form.head))
    rw [List.length_drop] at hle
    rw [ItemForm.length] at hlt
    omega

theorem readMany_fails (hr : Advances r form.itemEnd) (n : ℕ) {canonical : Bool}
    (h : form.itemEnd (bytes.drop offset) = none) :
    ¬ ∃ xs s', (readMany r (n + 1)).run ⟨bytes.drop offset, .standard, canonical⟩ = .ok (xs, s') ∧
      s'.buffer = [] := by
  intro hread
  obtain ⟨xs, s', hrun, _⟩ := hread
  obtain ⟨e, he⟩ := (hr ⟨bytes.drop offset, .standard, canonical⟩).2 h
  rw [readMany, run_bind_of_error he] at hrun
  cases hrun

theorem determineLength_of_error {e : CompactIntegerError}
    (h : scriptAt form bytes offset = .error e) :
    ∃ e', form.determineLength (bytes.drop offset) = .error e' := by
  rw [ItemForm.determineLength]
  split
  · exact ⟨_, rfl⟩
  · rw [scriptAt] at h
    rw [List.drop_drop, h]
    exact ⟨_, rfl⟩

/-- Step by step the check and the reader go equally far. -/
theorem skipItems_iff (hr : Advances r form.itemEnd) (n : ℕ) {offset : ℕ} {canonical : Bool}
    (hoffset : offset ≤ bytes.length)
    (hplain : ∀ o ∈ offsets form bytes n offset, InRange form bytes o ∧ PlainAt form bytes o) :
    skipItems form.determineLength bytes n offset = some bytes.length ↔
      ∃ xs s', (readMany r n).run ⟨bytes.drop offset, .standard, canonical⟩ = .ok (xs, s') ∧
        s'.buffer = [] := by
  induction n generalizing offset canonical with
  | zero =>
    rw [skipItems, readMany]
    constructor
    · intro h
      have heq : offset = bytes.length := by simpa using h
      exact ⟨[], _, rfl, List.drop_eq_nil_of_le heq.ge⟩
    · intro h
      obtain ⟨xs, s', hrun, hnil⟩ := h
      cases hrun
      have hle := List.drop_eq_nil_iff.mp hnil
      rw [Nat.le_antisymm hoffset hle]
  | succ n ih =>
    have hadvance := hr ⟨bytes.drop offset, .standard, canonical⟩
    by_cases hend : bytes.length ≤ offset
    · -- nothing is left, where an item has at least a length
      have hnone : form.itemEnd (bytes.drop offset) = none := by
        apply itemEnd_eq_none
        intro script hscript
        have henc := encodedLength_le hscript
        rw [List.drop_eq_nil_of_le (by omega)] at henc
        simp [encodedLength] at henc
      rw [skipItems, if_pos hend]
      simpa using readMany_fails hr n hnone
    · cases hscript : scriptAt form bytes offset with
      | error e =>
        obtain ⟨e', he'⟩ := determineLength_of_error hscript
        have hnone : form.itemEnd (bytes.drop offset) = none := by
          apply itemEnd_eq_none
          intro script hok
          rw [hscript] at hok
          cases hok
        rw [skipItems, if_neg hend, he']
        simpa using readMany_fails hr n hnone
      | ok script =>
        have hfirst : offset ∈ offsets form bytes (n + 1) offset := by
          rw [offsets, if_neg hend]
          rw [determineLength_of_ok hscript]
          exact List.mem_cons_self
        obtain ⟨hrange, hshort⟩ := hplain offset hfirst
        have hlt : offset + form.length script < 2 ^ 64 := hrange script hscript
        have hlength : form.determineLength (bytes.drop offset) = .ok (form.length script) := by
          rw [determineLength_of_ok hscript, wrapUsize, Nat.mod_eq_of_lt (by omega)]
        have hwrap : wrapUsize (offset + form.length script) = offset + form.length script :=
          Nat.mod_eq_of_lt hlt
        have hrest : ∀ o ∈ offsets form bytes n (offset + form.length script),
            InRange form bytes o ∧ PlainAt form bytes o := by
          intro o ho
          apply hplain o
          rw [offsets, if_neg hend, hlength]
          simp only [hwrap]
          exact List.mem_cons_of_mem _ ho
        rw [skipItems, if_neg hend, hlength]
        simp only [hwrap]
        by_cases hover : bytes.length < offset + form.length script
        · have hnone : form.itemEnd (bytes.drop offset) = none := by
            apply itemEnd_eq_none
            intro script' hscript'
            cases hscript.symm.trans hscript'
            exact hover
          simp only [skipItems_of_lt n hover, false_iff]
          exact readMany_fails hr n hnone
        · obtain ⟨hshortest, hmax⟩ := hshort script hscript (by omega)
          have hitem : form.itemEnd (bytes.drop offset) = some (form.length script) := by
            apply ItemForm.itemEnd_eq_some.mpr
            rw [List.drop_drop, List.length_drop, ← hshortest]
            refine ⟨script, hscript, hmax, rfl, by omega⟩
          obtain ⟨x, canonical', hrun⟩ := hadvance.1 _ hitem
          rw [List.drop_drop] at hrun
          rw [ih (by omega) hrest, readMany, run_bind_of_ok hrun]
          constructor
          · intro h
            obtain ⟨xs, s', hxs, hnil⟩ := h
            refine ⟨x :: xs, s', ?_, hnil⟩
            rw [run_bind_of_ok hxs]
            rfl
          · intro h
            obtain ⟨xs, s', hxs, hnil⟩ := h
            obtain ⟨ys, s₁, hys, hpure⟩ := run_bind_eq_ok.mp hxs
            cases hpure
            exact ⟨ys, _, hys, hnil⟩


theorem length_of_readMany {n : ℕ} {s s' : Input ChainVariant} {xs : List α}
    (h : (readMany r n).run s = .ok (xs, s')) : xs.length = n := by
  induction n generalizing s xs with
  | zero =>
    cases h
    rfl
  | succ n ih =>
    obtain ⟨x, s₁, _, hrest⟩ := run_bind_eq_ok.mp h
    obtain ⟨ys, s₂, hys, hpure⟩ := run_bind_eq_ok.mp hrest
    cases hpure
    rw [List.length_cons, ih hys]

theorem verdict_iff (hr : Advances r form.itemEnd) (h : PlainForms form bytes) :
    validateItems form.determineLength bytes = true ↔ IsItemList bytes r := by
  have hnumber := run_compactInteger ⟨bytes, .standard, true⟩
  rw [validateItems]
  cases hparse : parseCompactInt bytes with
  | error e =>
    obtain ⟨e', he'⟩ := hnumber.2 e hparse
    simp only [Bool.false_eq_true, false_iff]
    intro hread
    obtain ⟨items, s', hrun, _⟩ := hread
    rw [Reader.list, run_bind_of_error he'] at hrun
    cases hrun
  | ok n =>
    obtain ⟨canonical, hcount⟩ := hnumber.1 n hparse
    have hlist : (Reader.list r).run ⟨bytes, .standard, true⟩ =
        (readMany r n).run ⟨bytes.drop (encodedLength bytes), .standard, canonical⟩ := by
      rw [Reader.list, run_bind_of_ok hcount]
    by_cases hzero : n = 0
    · simp only [if_pos hzero, Bool.false_eq_true, false_iff]
      intro hread
      obtain ⟨items, s', hrun, hne, _⟩ := hread
      rw [hlist] at hrun
      exact hne (List.eq_nil_of_length_eq_zero ((length_of_readMany hrun).trans hzero))
    · obtain ⟨hshortest, hplain⟩ := h n hparse hzero
      have hle := encodedLength_le hparse
      simp only [if_neg hzero, decide_eq_true_eq]
      have hskip := @skipItems_iff α form bytes r hr n (serializedLength n) canonical
        (hshortest.trans_le hle) hplain
      rw [hskip, hshortest]
      constructor
      · intro hread
        obtain ⟨items, s', hrun, hnil⟩ := hread
        refine ⟨items, s', hlist.trans hrun, ?_, hnil⟩
        intro hitems
        rw [hitems] at hrun
        exact hzero (length_of_readMany hrun).symm
      · intro hread
        obtain ⟨items, s', hrun, _, hnil⟩ := hread
        exact ⟨items, s', hlist.symm.trans hrun, hnil⟩

theorem agreesWithReader_iff (hr : Advances r form.itemEnd) :
    AgreesWithReader form bytes r (validateItems form.determineLength) ↔ PlainForms form bytes := by
  constructor
  · intro h n hparse hzero
    constructor
    · exact (count_iff hparse).mp (h.count n hparse hzero)
    · intro offset hoffset
      exact ⟨h.inRange n hparse hzero offset hoffset,
        (sameEnd_iff hr).mp (h.items n hparse hzero offset hoffset)⟩
  · intro h
    exact {
      inRange := fun n hparse hzero offset hoffset => ((h n hparse hzero).2 offset hoffset).1
      count := fun n hparse hzero => (count_iff hparse).mpr (h n hparse hzero).1
      items := fun n hparse hzero offset hoffset =>
        (sameEnd_iff hr).mpr ((h n hparse hzero).2 offset hoffset).2
      verdict := verdict_iff hr h }

end Lists

/-- The checks of inputs and outputs agree with the reader exactly if the numbers that they
read have their shortest forms, no script exceeds the reader's limit and no sum overflows. -/
theorem validate_agrees_iff (bytes : Bytes) :
    (AgreesWithReader inputForm bytes TransactionInput.deserialize validateVin ↔
      PlainForms inputForm bytes) ∧
    (AgreesWithReader outputForm bytes TransactionOutput.deserialize validateVout ↔
      PlainForms outputForm bytes) :=
  ⟨agreesWithReader_iff ItemForm.advances_input, agreesWithReader_iff ItemForm.advances_output⟩

/-- One input, with its number in the form of two bytes. -/
def longCountVin : Bytes := [0xfd, 1, 0] ++ List.replicate 36 0 ++ [0] ++ List.replicate 4 0xff

/-- The reader takes the input and the check refuses it. -/
theorem long_count_refused :
    validateVin longCountVin = false ∧ IsItemList longCountVin TransactionInput.deserialize := by
  constructor
  · decide
  · exact ⟨_, _, rfl, by simp, rfl⟩

end DeXFG.Spv
