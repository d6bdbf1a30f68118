import DeXFG.Library.Utf8
import DeXFG.Utxo.Deserialize

/-!
# The formats of transactions

For each format the transactions that it can hold and the bytes that it reads them
from.
-/
namespace DeXFG.Utxo
open Library Library.Reading

variable {α : Type} {r : Reader α} {write : α → Bytes} {V : α → Prop} {txType : TxType}
  {overwintered : Bool} {version : Int32} {s s' : Input ChainVariant}

/-! ## The sections -/

theorem codec_readIf (present : Bool) (hr : Codec r write V) :
    Codec (readIf present r) (optional write) fun part? =>
      part?.isSome = present ∧ ∀ x, part? = some x → V x where
  reads := by
    intro part? hfits rest context canonical
    obtain ⟨hpresent, hV⟩ := hfits
    subst hpresent
    cases part? with
    | none => rfl
    | some x =>
      rw [readIf, Option.isSome_some, if_pos rfl]
      exact run_bind_of_ok (hr.reads x (hV x rfl) rest context canonical)
  sound := by
    intro s part? s' hrun
    cases present with
    | false =>
      rw [readIf, if_neg Bool.false_ne_true, run_pure] at hrun
      cases hrun
      exact ⟨⟨rfl, by simp⟩, Takes.refl s⟩
    | true =>
      rw [readIf, if_pos rfl] at hrun
      obtain ⟨x, s₁, hx, hpure⟩ := run_bind_eq_ok.mp hrun
      rw [run_pure] at hpure
      cases hpure
      obtain ⟨hVx, htakes⟩ := hr.sound hx
      refine ⟨⟨rfl, ?_⟩, htakes⟩
      intro y hy
      cases hy
      exact hVx

/-- A list of inputs is empty in the place of the flag. -/
def HasFlag (txType : TxType) (overwintered : Bool) : Prop :=
  overwintered = false ∧ txType.usesWitness = true

/-- What the inputs are read from: with witnesses, an empty list and a flag come first. -/
def writeInputs (inputs : Bool × List TransactionInput) : Bytes :=
  (if inputs.1 then [Transaction.witnessMarker, Transaction.witnessFlag] else []) ++
    Stream.list TransactionInput.serialize inputs.2

def InputsFit (txType : TxType) (overwintered : Bool) (inputs : Bool × List TransactionInput) :
    Prop :=
  (inputs.2.length ≤ maxListSize ∧ ∀ input ∈ inputs.2, input.Fits) ∧
    if inputs.1 then HasFlag txType overwintered
    else ¬ (inputs.2 = [] ∧ HasFlag txType overwintered)

theorem codec_inputs : Codec (Reader.listMax maxListSize TransactionInput.deserialize)
    (Stream.list TransactionInput.serialize) fun inputs =>
      inputs.length ≤ maxListSize ∧ ∀ input ∈ inputs, input.Fits :=
  codec_listMax codec_transactionInput (by norm_num [maxListSize])

theorem run_readInputs_of_flag {s₁ s₂ s₃ : Input ChainVariant} {inputs : List TransactionInput}
    (hnone : (Reader.listMax maxListSize TransactionInput.deserialize).run s = .ok ([], s₁))
    (hflag : HasFlag txType overwintered) (hbyte : Reader.u8.run s₁ = .ok (Transaction.witnessFlag, s₂))
    (hinputs : (Reader.listMax maxListSize TransactionInput.deserialize).run s₂ =
      .ok (inputs, s₃)) :
    (readInputs txType overwintered).run s = .ok ((true, inputs), s₃) := by
  rw [readInputs, run_bind_of_ok hnone, if_pos ⟨rfl, hflag⟩, run_bind_of_ok hbyte,
    if_neg (fun hne => hne rfl), run_bind_of_ok hinputs, run_pure]

theorem codec_readInputs : Codec (readInputs txType overwintered) writeInputs
    (InputsFit txType overwintered) where
  reads := by
    intro inputs hfits rest context canonical
    obtain ⟨witness, inputs⟩ := inputs
    obtain ⟨hinputs, hform⟩ := hfits
    cases witness with
    | false =>
      have hnot : ¬ (inputs = [] ∧ overwintered = false ∧ txType.usesWitness = true) := hform
      rw [readInputs]
      refine (run_bind_of_ok (codec_inputs.reads inputs hinputs rest context canonical)).trans ?_
      rw [if_neg hnot, run_pure]
    | true =>
      have hnone := codec_inputs.reads [] (by simp)
        ([Transaction.witnessFlag] ++ (Stream.list TransactionInput.serialize inputs ++ rest)) context canonical
      have hbyte := codec_u8.reads Transaction.witnessFlag trivial
        (Stream.list TransactionInput.serialize inputs ++ rest) context canonical
      exact run_readInputs_of_flag hnone hform hbyte
        (codec_inputs.reads inputs hinputs rest context canonical)
  sound := by
    intro s inputs s' hrun
    rw [readInputs] at hrun
    obtain ⟨first, s₁, hfirst, hrest⟩ := run_bind_eq_ok.mp hrun
    obtain ⟨hV, htakes⟩ := codec_inputs.sound hfirst
    split at hrest
    · rename_i hflag
      obtain ⟨byte, s₂, hbyte, hrest⟩ := run_bind_eq_ok.mp hrest
      obtain ⟨_, htakes₂⟩ := codec_u8.sound hbyte
      split at hrest
      · cases hrest
      · rename_i heq
        obtain ⟨second, s₃, hsecond, hpure⟩ := run_bind_eq_ok.mp hrest
        rw [run_pure] at hpure
        cases hpure
        obtain ⟨hV', htakes₃⟩ := codec_inputs.sound hsecond
        rw [hflag.1] at htakes
        rw [not_not.mp heq] at htakes₂
        exact ⟨⟨hV', hflag.2⟩, (htakes.trans htakes₂).trans htakes₃⟩
    · rename_i hflag
      rw [run_pure] at hrest
      cases hrest
      exact ⟨⟨hV, hflag⟩, htakes⟩

/-- An input without its witness. -/
def TransactionInput.bare (input : TransactionInput) : TransactionInput :=
  { input with scriptWitness := [] }

def writeWitness (input : TransactionInput) : Bytes := Stream.list Stream.bytes input.scriptWitness

def WitnessFits (input : TransactionInput) : Prop :=
  input.scriptWitness.length ≤ maxListSize ∧ ∀ item ∈ input.scriptWitness, item.length ≤ 65536

theorem codec_witness : Codec (Reader.listMax maxListSize Reader.bytes) (Stream.list Stream.bytes)
    fun items => items.length ≤ maxListSize ∧ ∀ item ∈ items, item.length ≤ 65536 :=
  codec_listMax codec_bytes (by norm_num [maxListSize])

theorem codec_readWitnesses (inputs : List TransactionInput)
    (hbare : ∀ input ∈ inputs, input.scriptWitness = []) :
    Codec (readWitnesses inputs) (fun inputs => inputs.flatMap writeWitness) fun inputs' =>
      inputs'.map TransactionInput.bare = inputs ∧ ∀ input ∈ inputs', WitnessFits input where
  reads := by
    intro inputs' hfits
    obtain ⟨hmap, hwitness⟩ := hfits
    induction inputs' generalizing inputs with
    | nil =>
      intro rest context canonical
      cases hmap
      rfl
    | cons input inputs' ih =>
      intro rest context canonical
      cases hmap
      rw [List.forall_mem_cons] at hwitness
      have htail := ih _ (by simp [TransactionInput.bare]) rfl hwitness.2 rest context canonical
      have hhead := codec_witness.reads _ hwitness.1
        (inputs'.flatMap writeWitness ++ rest) context canonical
      rw [List.map_cons, readWitnesses, List.flatMap_cons, List.append_assoc]
      refine (run_bind_of_ok hhead).trans ((run_bind_of_ok htail).trans ?_)
      rfl
  sound := by
    induction inputs with
    | nil =>
      intro s inputs' s' hrun
      rw [readWitnesses, run_pure] at hrun
      cases hrun
      exact ⟨⟨rfl, by simp⟩, Takes.refl s⟩
    | cons input inputs ih =>
      intro s inputs' s' hrun
      rw [List.forall_mem_cons] at hbare
      rw [readWitnesses] at hrun
      obtain ⟨items, s₁, hitems, hrest⟩ := run_bind_eq_ok.mp hrun
      obtain ⟨tail, s₂, htail, hpure⟩ := run_bind_eq_ok.mp hrest
      rw [run_pure] at hpure
      cases hpure
      obtain ⟨hV, htakes⟩ := codec_witness.sound hitems
      obtain ⟨⟨hmap, hwitness⟩, htakes'⟩ := ih hbare.2 htail
      refine ⟨⟨?_, ?_⟩, htakes.trans htakes'⟩
      · have hinput : input = input.bare := by
          cases input
          simp only [TransactionInput.bare, TransactionInput.mk.injEq, true_and]
          exact hbare.1
        rw [List.map_cons, hmap]
        exact congrArg (· :: inputs) hinput.symm
      · rw [List.forall_mem_cons]
        exact ⟨hV, hwitness⟩

def writeShielded (overwintered : Bool) (version : Int32) (shielded : Shielded) : Bytes :=
  if overwintered = true ∧ 3 ≤ version then
    Stream.u32 shielded.expiryHeight ++
      if 4 ≤ version then
        Stream.i64 shielded.valueBalance ++
          (Stream.list ShieldedSpend.serialize shielded.spends ++
            Stream.list ShieldedOutput.serialize shielded.outputs)
      else []
  else []

def ShieldedFits (overwintered : Bool) (version : Int32) (shielded : Shielded) : Prop :=
  if overwintered = true ∧ 3 ≤ version then
    if 4 ≤ version then
      shielded.spends.length ≤ maxListSize ∧ shielded.outputs.length ≤ maxListSize
    else shielded.valueBalance = 0 ∧ shielded.spends = [] ∧ shielded.outputs = []
  else shielded = Shielded.none

theorem codec_readShielded : Codec (readShielded overwintered version)
    (writeShielded overwintered version) (ShieldedFits overwintered version) := by
  have hmax : maxListSize < 2 ^ 64 := by norm_num [maxListSize]
  unfold readShielded
  apply Codec.ite
  · intro hlong
    have hwrite : ∀ shielded : Shielded, writeShielded overwintered version shielded =
        Stream.u32 shielded.expiryHeight ++
          if 4 ≤ version then
            Stream.i64 shielded.valueBalance ++
              (Stream.list ShieldedSpend.serialize shielded.spends ++
                Stream.list ShieldedOutput.serialize shielded.outputs)
          else [] := fun _ => if_pos hlong
    have hfits : ∀ shielded : Shielded, ShieldedFits overwintered version shielded ↔
        if 4 ≤ version then
          shielded.spends.length ≤ maxListSize ∧ shielded.outputs.length ≤ maxListSize
        else shielded.valueBalance = 0 ∧ shielded.spends = [] ∧ shielded.outputs = [] :=
      fun _ => (if_pos hlong).to_iff
    by_cases hfour : 4 ≤ version
    · refine (Codec.field Shielded.expiryHeight codec_u32 fun expiryHeight => ?_).of_write_eq
        fun shielded => (hwrite shielded).trans (congrArg _ (if_pos hfour))
      rw [if_pos hfour]
      refine (Codec.field Shielded.valueBalance codec_i64 fun valueBalance =>
        Codec.bind Shielded.spends (codec_listMax codec_shieldedSpend hmax) ?_ fun spends hspends =>
        Codec.bind Shielded.outputs (codec_listMax codec_shieldedOutput hmax) ?_
          fun outputs houtputs => Codec.pure ?_).of_write_eq ?_
      · intro shielded h
        have hlength := (hfits shielded).mp h.1.1
        rw [if_pos hfour] at hlength
        exact ⟨hlength.1, fun _ _ => trivial⟩
      · intro shielded h
        have hlength := (hfits shielded).mp h.1.1.1
        rw [if_pos hfour] at hlength
        exact ⟨hlength.2, fun _ _ => trivial⟩
      · intro shielded
        rw [hfits, if_pos hfour]
        constructor
        · intro h
          obtain ⟨⟨⟨⟨_, rfl⟩, rfl⟩, rfl⟩, rfl⟩ := h
          rfl
        · intro h
          subst h
          exact ⟨⟨⟨⟨⟨hspends.1, houtputs.1⟩, rfl⟩, rfl⟩, rfl⟩, rfl⟩
      · intro shielded
        rw [List.append_nil]
    · refine (Codec.field Shielded.expiryHeight codec_u32 fun expiryHeight => ?_).of_write_eq
        fun shielded => (hwrite shielded).trans (congrArg _ (if_neg hfour))
      rw [if_neg hfour]
      apply Codec.pure
      intro shielded
      rw [hfits, if_neg hfour]
      constructor
      · intro h
        obtain ⟨⟨hbalance, hspends, houtputs⟩, rfl⟩ := h
        cases shielded
        simp only at hbalance hspends houtputs
        rw [hbalance, hspends, houtputs]
        rfl
      · intro h
        subst h
        exact ⟨⟨rfl, rfl, rfl⟩, rfl⟩
  · intro hlong
    apply Codec.of_write_eq
    · apply Codec.pure
      intro shielded
      exact (if_neg hlong).to_iff
    · intro shielded
      exact if_neg hlong

def writeJoinSplits (hasJoinSplits : Bool) (joins : JoinSplits) : Bytes :=
  if hasJoinSplits then
    Stream.list JoinSplit.serialize joins.joinSplits ++
      if joins.joinSplits = [] then [] else joins.pubkey.val ++ joins.sig.val
  else []

def JoinSplitsFit (hasJoinSplits : Bool) (version : Int32) (joins : JoinSplits) : Prop :=
  if hasJoinSplits then
    (joins.joinSplits.length ≤ maxListSize ∧
      ∀ split ∈ joins.joinSplits, split.zkproof.isGroth = decide (2 < version)) ∧
    (joins.joinSplits = [] → joins = JoinSplits.none)
  else joins = JoinSplits.none

/-- The join splits with what follows them. -/
theorem codec_someJoinSplits {n : ℕ} (hpos : 0 < n) (hmax : n ≤ maxListSize) :
    Codec (do
        let joinSplits ← readMany (deserializeJoinSplit (decide (2 < version))) n
        let pubkey ← Reader.fixed 32
        let sig ← Reader.fixed 64
        pure ({ joinSplits := joinSplits, pubkey := pubkey, sig := sig } : JoinSplits))
      (fun joins => joins.joinSplits.flatMap JoinSplit.serialize ++
        if joins.joinSplits = [] then [] else joins.pubkey.val ++ joins.sig.val)
      fun joins => JoinSplitsFit true version joins ∧ joins.joinSplits.length = n := by
  have hne : ∀ joinSplits : List JoinSplit, joinSplits.length = n → joinSplits ≠ [] := by
    intro joinSplits hlength hnil
    rw [hnil] at hlength
    exact absurd hlength (by simpa using hpos.ne)
  refine (Codec.bind JoinSplits.joinSplits (codec_readMany (codec_joinSplit _) n)
      (fun _ h => ⟨h.2, h.1.1.2⟩) fun joinSplits hsplits =>
    Codec.field JoinSplits.pubkey (codec_fixed 32) fun pubkey =>
    Codec.field JoinSplits.sig (codec_fixed 64) fun sig => Codec.pure ?_).congr
      (fun _ => Iff.rfl) ?_
  · intro joins
    constructor
    · intro h
      obtain ⟨⟨⟨_, rfl⟩, rfl⟩, rfl⟩ := h
      rfl
    · intro h
      subst h
      have hlength : joinSplits.length ≤ maxListSize := by omega
      exact ⟨⟨⟨⟨⟨⟨hlength, hsplits.2⟩, fun hnil => absurd hnil (hne _ hsplits.1)⟩, hsplits.1⟩,
        rfl⟩, rfl⟩, rfl⟩
  · intro joins hjoins
    rw [if_neg (hne _ hjoins.2), List.append_nil]

theorem codec_readJoinSplits (hasJoinSplits : Bool) :
    Codec (readJoinSplits hasJoinSplits version) (writeJoinSplits hasJoinSplits)
      (JoinSplitsFit hasJoinSplits version) := by
  cases hasJoinSplits with
  | false =>
    apply Codec.of_write_eq
    · apply Codec.pure
      intro joins
      rfl
    · intro joins
      rfl
  | true =>
    have hcounted := @codec_counted JoinSplits (fun joins => joins.joinSplits.length)
      (fun joins => joins.joinSplits.flatMap JoinSplit.serialize ++
        if joins.joinSplits = [] then [] else joins.pubkey.val ++ joins.sig.val)
      (JoinSplitsFit true version)
      (fun len => if 0 < len then
          if maxListSize < len then throw .malformedData
          else do
            let joinSplits ← readMany (deserializeJoinSplit (decide (2 < version))) len
            let pubkey ← Reader.fixed 32
            let sig ← Reader.fixed 64
            pure { joinSplits := joinSplits, pubkey := pubkey, sig := sig }
        else pure JoinSplits.none)
    refine (hcounted ?_ ?_).of_write_eq ?_
    · intro n _
      apply Codec.ite
      · intro hpos
        apply Codec.guard
        · intro hmax joins hjoins
          have hle : joins.joinSplits.length ≤ maxListSize := hjoins.1.1.1
          omega
        · intro hmax
          exact codec_someJoinSplits hpos (not_lt.mp hmax)
      · intro hpos
        have hzero : n = 0 := by omega
        have hpure : Codec (pure JoinSplits.none : Reader JoinSplits) (fun _ => [])
            fun joins => joins = JoinSplits.none := Codec.pure fun _ => Iff.rfl
        apply hpure.congr
        · intro joins
          constructor
          · intro h
            exact h.1.2 (List.length_eq_zero_iff.mp (h.2.trans hzero))
          · intro h
            subst h
            exact ⟨⟨⟨Nat.zero_le _, by simp [JoinSplits.none]⟩, fun _ => rfl⟩, hzero.symm⟩
        · intro joins h
          subst h
          rfl
    · intro joins hjoins
      have hle : joins.joinSplits.length ≤ maxListSize := hjoins.1.1
      have hmax : maxListSize < 2 ^ 64 := by norm_num [maxListSize]
      omega
    · intro joins
      simp [writeJoinSplits, Stream.list]

/-! ## What follows them -/

theorem fromUtf8_eq_some {bytes : Bytes} {string : String} :
    fromUtf8 bytes = some string ↔ string.toUTF8.data.toList = bytes :=
  Utf8.decode_eq_some

def writeString (string : String) : Bytes := Stream.bytes string.toUTF8.data.toList

/-- The size of a string that can be read. -/
def StringFits (string : String) : Prop := string.toUTF8.data.toList.length < 2 ^ 64

theorem length_compactInteger_pos (n : ℕ) : 0 < (Stream.compactInteger n).length := by
  rw [length_compactInteger]
  split
  · omega
  · split
    · omega
    · split <;> omega

theorem bytes_append_ne_nil (data rest : Bytes) : Stream.bytes data ++ rest ≠ [] := by
  intro hnil
  have hpos := length_compactInteger_pos data.length
  have hzero := congrArg List.length hnil
  simp only [Stream.bytes, List.length_append, List.length_nil] at hzero
  omega

theorem run_isFinished (s : Input ChainVariant) :
    Reader.isFinished.run s = .ok (decide (s.buffer = []), s) := rfl

/-- At the end, or in another format, there is no string. -/
theorem run_readStrDZeel_none (h : txType = .posWithNTime → s.buffer = []) :
    (readStrDZeel txType).run s = .ok (none, s) := by
  rw [readStrDZeel, run_bind_of_ok (run_isFinished s)]
  by_cases htype : txType = .posWithNTime
  · rw [if_neg]
    · rfl
    · simp [h htype]
  · rw [if_neg (fun hand => htype hand.1), run_pure]

theorem run_readStrDZeel_some {string : String} (htype : txType = .posWithNTime)
    (hfits : StringFits string) (rest : Bytes) (context : ChainVariant) (canonical : Bool) :
    (readStrDZeel txType).run ⟨writeString string ++ rest, context, canonical⟩ =
      .ok (some string, ⟨rest, context, canonical⟩) := by
  have hne : writeString string ++ rest ≠ [] := bytes_append_ne_nil _ rest
  have hutf8 : fromUtf8 string.toUTF8.data.toList = some string := fromUtf8_eq_some.mpr rfl
  have hlen := codec_compactInteger.reads _ hfits (string.toUTF8.data.toList ++ rest) context
    canonical
  have hbytes := (codec_takeBytes (γ := ChainVariant) SerError.unexpectedEnd
    string.toUTF8.data.toList.length).reads _ rfl rest context canonical
  rw [readStrDZeel, run_bind_of_ok (run_isFinished _), if_pos ⟨htype, decide_eq_false hne⟩,
    writeString, Stream.bytes, List.append_assoc, run_bind_of_ok hlen]
  refine (run_bind_of_ok hbytes).trans ?_
  rw [hutf8]
  rfl

theorem sound_readStrDZeel {string? : Option String}
    (hrun : (readStrDZeel txType).run s = .ok (string?, s')) :
    (∀ string, string? = some string → txType = .posWithNTime ∧ StringFits string) ∧
      (string? = none → txType = .posWithNTime → s.buffer = []) ∧
      Takes s (optional writeString string?) s' := by
  rw [readStrDZeel, run_bind_of_ok (run_isFinished s)] at hrun
  split at hrun
  · rename_i hstring
    obtain ⟨len, s₁, hlen, hrest⟩ := run_bind_eq_ok.mp hrun
    obtain ⟨buf, s₂, hbuf, hutf8⟩ := run_bind_eq_ok.mp hrest
    obtain ⟨hlt, htakes⟩ := codec_compactInteger.sound hlen
    obtain ⟨hlength, htakes'⟩ := (codec_takeBytes _ len).sound hbuf
    cases hdecoded : fromUtf8 buf with
    | none =>
      rw [hdecoded] at hutf8
      cases hutf8
    | some string =>
      rw [hdecoded] at hutf8
      cases hutf8
      have hbytes := fromUtf8_eq_some.mp hdecoded
      refine ⟨?_, by simp, ?_⟩
      · intro string' hstring'
        cases hstring'
        exact ⟨hstring.1, by rw [StringFits, hbytes, hlength]; exact hlt⟩
      · rw [optional, writeString, Stream.bytes, hbytes, hlength]
        exact htakes.trans htakes'
  · rename_i hnone
    rw [run_pure] at hrun
    cases hrun
    refine ⟨by simp, ?_, Takes.refl s⟩
    intro _ htype
    by_contra hbuffer
    exact hnone ⟨htype, decide_eq_false hbuffer⟩

theorem run_readExtraPayload_none {spark : Bool} (h : spark = true → s.buffer = []) :
    (readExtraPayload spark).run s = .ok (none, s) := by
  rw [readExtraPayload, run_bind_of_ok (run_isFinished s)]
  by_cases hspark : spark = true
  · rw [if_neg]
    · rfl
    · simp [h hspark]
  · rw [if_neg (fun hand => hspark hand.1), run_pure]

theorem run_readExtraPayload_some {spark : Bool} {payload : Bytes} (hspark : spark = true)
    (hfits : payload.length < 2 ^ 64) (rest : Bytes) (context : ChainVariant) (canonical : Bool) :
    (readExtraPayload spark).run ⟨Stream.bytes payload ++ rest, context, canonical⟩ =
      .ok (some payload, ⟨rest, context, canonical⟩) := by
  have hne := bytes_append_ne_nil payload rest
  have hlen := codec_compactInteger.reads _ hfits (payload ++ rest) context canonical
  have hbytes := (codec_takeBytes (γ := ChainVariant) SerError.unexpectedEnd
    payload.length).reads _ rfl rest context canonical
  rw [readExtraPayload, run_bind_of_ok (run_isFinished _), if_pos ⟨hspark, decide_eq_false hne⟩,
    Stream.bytes, List.append_assoc, run_bind_of_ok hlen]
  exact run_bind_of_ok hbytes

theorem sound_readExtraPayload {spark : Bool} {payload? : Option Bytes}
    (hrun : (readExtraPayload spark).run s = .ok (payload?, s')) :
    (∀ payload, payload? = some payload → spark = true ∧ payload.length < 2 ^ 64) ∧
      (payload? = none → spark = true → s.buffer = []) ∧
      Takes s (optional Stream.bytes payload?) s' := by
  rw [readExtraPayload, run_bind_of_ok (run_isFinished s)] at hrun
  split at hrun
  · rename_i hpayload
    obtain ⟨len, s₁, hlen, hrest⟩ := run_bind_eq_ok.mp hrun
    obtain ⟨buf, s₂, hbuf, hpure⟩ := run_bind_eq_ok.mp hrest
    obtain ⟨hlt, htakes⟩ := codec_compactInteger.sound hlen
    obtain ⟨hlength, htakes'⟩ := (codec_takeBytes _ len).sound hbuf
    rw [run_pure] at hpure
    cases hpure
    refine ⟨?_, by simp, ?_⟩
    · intro payload hsome
      cases hsome
      exact ⟨hpayload.1, by rw [hlength]; exact hlt⟩
    · rw [optional, Stream.bytes, hlength]
      exact htakes.trans htakes'
  · rename_i hnone
    rw [run_pure] at hrun
    cases hrun
    refine ⟨by simp, ?_, Takes.refl s⟩
    intro _ hspark
    by_contra hbuffer
    exact hnone ⟨hspark, decide_eq_false hbuffer⟩

end DeXFG.Utxo
