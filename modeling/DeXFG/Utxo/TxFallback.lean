import DeXFG.Utxo.TxRoundTrip

/-!
# The formats one after the other

A transaction of unknown format is read in the first format that can read it, from
the front of the bytes.
-/
namespace DeXFG.Utxo
open Library Library.Reading

variable {α : Type} {r : Reader α} {txType : TxType} {witness : Bool} {tx : Transaction}
  {s s' : Input ChainVariant}

/-! ## What the readers look at -/

theorem local_u8 : Local anywhere Reader.u8 := (Local.readLe _ 1).bind fun _ => .pure _

theorem local_u32 : Local anywhere Reader.u32 := (Local.readLe _ 4).bind fun _ => .pure _

theorem local_i32 : Local anywhere Reader.i32 := (Local.readLe _ 4).bind fun _ => .pure _

theorem local_i64 : Local anywhere Reader.i64 := (Local.readLe _ 8).bind fun _ => .pure _

theorem local_fixed (n : ℕ) : Local anywhere (Reader.fixed n) := Local.readFixed _ n

theorem local_compactInteger : Local anywhere Reader.compactInteger := by
  apply (Local.readLe _ 1).bind
  intro flag
  apply Local.ite
  · intro _
    exact .pure flag
  · intro _
    exact (Local.readLe _ _).bind fun n => (Local.note _).bind fun _ => .pure n

theorem local_bytes : Local anywhere Reader.bytes := by
  apply local_compactInteger.bind
  intro len
  exact .ite _ (fun _ => .throw _) fun _ => .takeBytes _ len

theorem local_listMax (hr : Local anywhere r) (max : ℕ) : Local anywhere (Reader.listMax max r) := by
  apply local_compactInteger.bind
  intro len
  exact .ite _ (fun _ => .throw _) fun _ => hr.readMany len

theorem local_two (hr : Local anywhere r) : Local anywhere (Reader.two r) :=
  hr.bind fun _ => hr.bind fun _ => .pure _

theorem local_readIf (present : Bool) (hr : Local anywhere r) : Local anywhere (readIf present r) :=
  .ite _ (fun _ => hr.bind fun _ => .pure _) fun _ => .pure _

theorem local_transactionInput : Local anywhere TransactionInput.deserialize := by
  have houtpoint : Local anywhere OutPoint.deserialize :=
    (local_fixed 32).bind fun _ => local_u32.bind fun _ => .pure _
  exact houtpoint.bind fun _ => local_bytes.bind fun _ => local_u32.bind fun _ => .pure _

theorem local_transactionOutput : Local anywhere TransactionOutput.deserialize :=
  (Local.readLe _ 8).bind fun _ => local_bytes.bind fun _ => .pure _

theorem local_shieldedSpend : Local anywhere ShieldedSpend.deserialize :=
  (local_fixed 32).bind fun _ => (local_fixed 32).bind fun _ => (local_fixed 32).bind fun _ =>
  (local_fixed 32).bind fun _ => (local_fixed 192).bind fun _ => (local_fixed 64).bind fun _ =>
  .pure _

theorem local_shieldedOutput : Local anywhere ShieldedOutput.deserialize :=
  (local_fixed 32).bind fun _ => (local_fixed 32).bind fun _ => (local_fixed 32).bind fun _ =>
  (local_fixed 580).bind fun _ => (local_fixed 80).bind fun _ => (local_fixed 192).bind fun _ =>
  .pure _

theorem local_joinSplit (useGroth : Bool) : Local anywhere (deserializeJoinSplit useGroth) := by
  have hproof : Local anywhere (JoinSplitProof.deserialize useGroth) :=
    .ite _ (fun _ => (local_fixed 192).bind fun _ => .pure _)
      fun _ => (local_fixed 296).bind fun _ => .pure _
  have htwo := local_two (local_fixed 32)
  exact (local_fixed 8).bind fun _ => (local_fixed 8).bind fun _ => (local_fixed 32).bind fun _ =>
    htwo.bind fun _ => htwo.bind fun _ => (local_fixed 32).bind fun _ =>
    (local_fixed 32).bind fun _ => htwo.bind fun _ => hproof.bind fun _ =>
    (local_two (local_fixed 601)).bind fun _ => .pure _

theorem local_readInputs (overwintered : Bool) :
    Local anywhere (readInputs txType overwintered) := by
  apply (local_listMax local_transactionInput _).bind
  intro inputs
  apply Local.ite
  · intro _
    apply local_u8.bind
    intro flag
    exact .ite _ (fun _ => .throw _)
      fun _ => (local_listMax local_transactionInput _).bind fun _ => .pure _
  · intro _
    exact .pure _

theorem local_readWitnesses (inputs : List TransactionInput) :
    Local anywhere (readWitnesses inputs) := by
  induction inputs with
  | nil => exact .pure []
  | cons input inputs ih =>
    exact (local_listMax local_bytes _).bind fun _ => ih.bind fun _ => .pure _

theorem local_readShielded (overwintered : Bool) (version : Int32) :
    Local anywhere (readShielded overwintered version) := by
  apply Local.ite
  · intro _
    apply local_u32.bind
    intro expiryHeight
    apply Local.ite
    · intro _
      exact local_i64.bind fun _ => (local_listMax local_shieldedSpend _).bind fun _ =>
        (local_listMax local_shieldedOutput _).bind fun _ => .pure _
    · intro _
      exact .pure _
  · intro _
    exact .pure _

theorem local_readJoinSplits (hasJoinSplits : Bool) (version : Int32) :
    Local anywhere (readJoinSplits hasJoinSplits version) := by
  apply Local.ite
  · intro _
    apply local_compactInteger.bind
    intro len
    apply Local.ite
    · intro _
      apply Local.ite
      · intro _
        exact .throw _
      · intro _
        exact ((local_joinSplit _).readMany len).bind fun _ => (local_fixed 32).bind fun _ =>
          (local_fixed 64).bind fun _ => .pure _
    · intro _
      exact .pure _
  · intro _
    exact .pure _

/-- A value that is read unless the bytes end before it. -/
theorem local_unless_finished (c : Prop) [Decidable c] {r : Reader (Option α)}
    (hr : Local anywhere r)
    (htaken : ∀ {s x s'}, r.run s = .ok (x, s') → s'.buffer.length < s.buffer.length) :
    Local (fun x? rest => c → x? = none → rest = []) (do
      let finished ← Reader.isFinished
      if c ∧ finished = false then r else pure none) := by
  intro s x? s' hrun
  rw [run_bind_of_ok (run_isFinished s)] at hrun
  split at hrun
  · rename_i hand
    have hlt := htaken hrun
    obtain ⟨taken, hbuffer, hsame⟩ := hr hrun
    refine ⟨taken, hbuffer, ?_⟩
    intro rest _
    have hne : taken ++ rest ≠ [] := by
      intro hnil
      rw [hbuffer, (List.append_eq_nil_iff.mp hnil).1, List.nil_append] at hlt
      exact lt_irrefl _ hlt
    rw [run_bind_of_ok (run_isFinished _), if_pos ⟨hand.1, decide_eq_false hne⟩]
    exact hsame rest trivial
  · rw [run_pure] at hrun
    cases hrun
    refine ⟨[], rfl, ?_⟩
    intro rest hends
    rw [run_bind_of_ok (run_isFinished _), if_neg]
    · rfl
    · intro hand
      exact of_decide_eq_false hand.2 (hends hand.1 rfl)

/-- What a length and its bytes are followed by. -/
theorem length_lt_of_counted {f : ℕ → Bytes → Reader (Option α)}
    {x? : Option α}
    (hf : ∀ len buf, Local anywhere (f len buf))
    (hrun : (do
      let len ← Reader.compactInteger
      let buf ← takeBytes .unexpectedEnd len
      f len buf : Reader (Option α)).run s = .ok (x?, s')) :
    s'.buffer.length < s.buffer.length := by
  obtain ⟨len, s₁, hlen, hrun⟩ := run_bind_eq_ok.mp hrun
  obtain ⟨buf, s₂, hbuf, hrun⟩ := run_bind_eq_ok.mp hrun
  obtain ⟨taken, hbuffer, _⟩ := hf len buf hrun
  have hle := (codec_compactInteger.sound hlen).2.length_le
  have hle' := ((codec_takeBytes _ len).sound hbuf).2.length_le
  have hpos := length_compactInteger_pos len
  rw [hbuffer, List.length_append] at hle'
  omega

theorem local_readStrDZeel :
    Local (fun string? rest => txType = .posWithNTime → string? = none → rest = [])
      (readStrDZeel txType) := by
  apply local_unless_finished
  · apply local_compactInteger.bind
    intro len
    apply (Local.takeBytes _ len).bind
    intro buf
    cases fromUtf8 buf with
    | none => exact .throw _
    | some string => exact .pure _
  · intro s string? s' hrun
    apply length_lt_of_counted _ hrun
    intro len buf
    cases fromUtf8 buf with
    | none => exact .throw _
    | some string => exact .pure _

theorem local_readExtraPayload (spark : Bool) :
    Local (fun payload? rest => spark = true → payload? = none → rest = [])
      (readExtraPayload spark) := by
  apply local_unless_finished
  · exact local_compactInteger.bind fun len => (Local.takeBytes _ len).bind fun _ => .pure _
  · intro s payload? s' hrun
    exact length_lt_of_counted (fun _ _ => .pure _) hrun

/-- The end of a transaction, which reads on unless the bytes end there. -/
theorem local_ending (spark : Bool) (make : Option String → Option Bytes → Transaction)
    (hstring : ∀ string? payload?, (make string? payload?).strDZeel = string?)
    (hpayload : ∀ string? payload?, (make string? payload?).vExtraPayload = payload?)
    (hspark : ∀ string? payload?, (make string? payload?).isSpark = spark) :
    Local (Transaction.Ends txType) (do
      let string? ← readStrDZeel txType
      let payload? ← readExtraPayload spark
      pure (make string? payload?)) := by
  intro s tx s' hrun
  obtain ⟨string?, s₁, hs, hrun⟩ := run_bind_eq_ok.mp hrun
  obtain ⟨payload?, s₂, hp, hrun⟩ := run_bind_eq_ok.mp hrun
  rw [run_pure] at hrun
  cases hrun
  obtain ⟨taken, hbuffer, hsame⟩ := local_readStrDZeel hs
  obtain ⟨taken', hbuffer', hsame'⟩ := local_readExtraPayload spark hp
  refine ⟨taken ++ taken', by rw [hbuffer, hbuffer', List.append_assoc], ?_⟩
  intro rest hends
  have hfirst : txType = .posWithNTime → string? = none → taken' ++ rest = [] := by
    intro htype hnone
    have hrest := (hends.strDZeel htype ((hstring _ _).trans hnone)).2
    have hnil := (sound_readStrDZeel hs).2.1 hnone htype
    rw [hbuffer, hbuffer'] at hnil
    simp only [List.append_eq_nil_iff] at hnil
    rw [hnil.2.1, hrest]
    rfl
  have hsecond : spark = true → payload? = none → rest = [] := fun hsp hnone =>
    hends.vExtraPayload ((hspark _ _).trans hsp) ((hpayload _ _).trans hnone)
  rw [List.append_assoc, run_bind_of_ok (hsame _ hfirst)]
  refine (run_bind_of_ok (hsame' _ hsecond)).trans ?_
  rfl

/-- What a format takes decides the transaction, if this can end there. -/
theorem local_deserializeTx : Local (Transaction.Ends txType) (deserializeTx txType) := by
  apply local_i32.bind
  intro header
  apply (local_readIf _ local_u32).bind
  intro versionGroupId
  apply (local_readIf _ local_u32).bind
  intro nTime
  apply (local_readInputs _).bind
  intro inputs
  apply (local_listMax local_transactionOutput _).bind
  intro outputs
  apply Local.ite
  · intro _
    exact .throw _
  intro _
  apply Local.bind (.ite _ (fun _ => local_readWitnesses _) fun _ => .pure _)
  intro inputs'
  apply local_u32.bind
  intro lockTime
  apply (local_readIf _ local_u32).bind
  intro nTimeV
  apply (local_readShielded _ _).bind
  intro shielded
  apply (local_readJoinSplits _ _).bind
  intro joins
  apply (local_readIf _ (local_fixed 64)).bind
  intro bindingSig
  apply local_ending
  · intro _ _
    rfl
  · intro _ _
    rfl
  · intro _ _
    rw [Transaction.isSpark]
    exact congrArg maybeSpark (header_versionOf header)

/-! ## The first format -/

/-- The order of the formats in `Transaction::deserialize`. -/
def TxType.rank : TxType → ℕ
  | posvWithNTime => 0
  | standardWithWitness => 1
  | posWithNTime => 2
  | zcash => 3

/-- The bytes are read in a format after all those before it have failed. -/
def Succeeds (bytes : Bytes) (txType : TxType) (tx : Transaction) (rest : Bytes) : Prop :=
  (∃ canonical, (deserializeTx txType).run ⟨bytes, .standard, true⟩ =
    .ok (tx, ⟨rest, .standard, canonical⟩)) ∧
  ∀ earlier : TxType, earlier.rank < txType.rank →
    ∃ e, (deserializeTx earlier).run ⟨bytes, .standard, true⟩ = .error e

/-- A format that has read leaves bytes of the same kind of chain. -/
theorem ok_of_run {bytes : Bytes} (hrun : (deserializeTx txType).run ⟨bytes, .standard, true⟩ =
    .ok (tx, s')) : ∃ canonical, (deserializeTx txType).run ⟨bytes, .standard, true⟩ =
      .ok (tx, ⟨s'.buffer, .standard, canonical⟩) := by
  obtain ⟨_, _, _, htakes⟩ := deserializeTx_sound hrun
  have hcontext : s'.context = .standard := htakes.context
  refine ⟨s'.canonical, ?_⟩
  rw [hrun, ← hcontext]

theorem orElse_eq_ok {ε : Type} {x y : Except ε α} {a : α} :
    (x <|> y) = .ok a ↔ x = .ok a ∨ (∃ e, x = .error e) ∧ y = .ok a := by
  cases x with
  | ok b =>
    constructor
    · exact Or.inl
    · intro h
      rcases h with h | ⟨⟨_, h⟩, _⟩
      · exact h
      · cases h
  | error e =>
    constructor
    · intro h
      exact Or.inr ⟨⟨e, rfl⟩, h⟩
    · intro h
      rcases h with h | ⟨_, h⟩
      · cases h
      · exact h

theorem map_fst_eq_ok {bytes : Bytes} :
    ((deserializeTx txType).run ⟨bytes, .standard, true⟩).map Prod.fst = .ok tx ↔
      ∃ rest canonical, (deserializeTx txType).run ⟨bytes, .standard, true⟩ =
        .ok (tx, ⟨rest, .standard, canonical⟩) := by
  constructor
  · intro h
    cases hrun : (deserializeTx txType).run ⟨bytes, .standard, true⟩ with
    | error e =>
      rw [hrun] at h
      cases h
    | ok read =>
      rw [hrun] at h
      cases h
      obtain ⟨canonical, hok⟩ := ok_of_run hrun
      exact ⟨read.2.buffer, canonical, hrun ▸ hok⟩
  · intro h
    obtain ⟨rest, canonical, hrun⟩ := h
    rw [hrun]
    rfl

theorem map_fst_eq_error {bytes : Bytes} {e : SerError} :
    ((deserializeTx txType).run ⟨bytes, .standard, true⟩).map Prod.fst = .error e ↔
      (deserializeTx txType).run ⟨bytes, .standard, true⟩ = .error e := by
  cases (deserializeTx txType).run ⟨bytes, .standard, true⟩ with
  | error e' => simp [Except.map]
  | ok read =>
    constructor
    · intro h
      cases h
    · intro h
      cases h

theorem forall_earlier {P : TxType → Prop} : (∀ earlier : TxType, earlier.rank < txType.rank →
    P earlier) ↔ match txType with
      | .posvWithNTime => True
      | .standardWithWitness => P .posvWithNTime
      | .posWithNTime => P .posvWithNTime ∧ P .standardWithWitness
      | .zcash => P .posvWithNTime ∧ P .standardWithWitness ∧ P .posWithNTime := by
  constructor
  · intro h
    cases txType with
    | posvWithNTime => trivial
    | standardWithWitness => exact h _ (by decide)
    | posWithNTime => exact ⟨h _ (by decide), h _ (by decide)⟩
    | zcash => exact ⟨h _ (by decide), h _ (by decide), h _ (by decide)⟩
  · intro h earlier hlt
    cases txType <;> cases earlier <;> simp [TxType.rank] at hlt h ⊢ <;> simp [h]

theorem deserialize_eq_ok {bytes : Bytes} :
    Transaction.deserialize bytes = .ok tx ↔ ∃ txType rest, Succeeds bytes txType tx rest := by
  simp only [Transaction.deserialize, orElse_eq_ok, map_fst_eq_ok, map_fst_eq_error]
  constructor
  · intro h
    rcases h with ⟨rest, hrun⟩ | ⟨he, ⟨rest, hrun⟩ | ⟨he', ⟨rest, hrun⟩ | ⟨he'', rest, hrun⟩⟩⟩
    · exact ⟨.posvWithNTime, rest, hrun, forall_earlier.mpr trivial⟩
    · exact ⟨.standardWithWitness, rest, hrun, forall_earlier.mpr he⟩
    · exact ⟨.posWithNTime, rest, hrun, forall_earlier.mpr ⟨he, he'⟩⟩
    · exact ⟨.zcash, rest, hrun, forall_earlier.mpr ⟨he, he', he''⟩⟩
  · intro h
    obtain ⟨txType, rest, hrun, hearlier⟩ := h
    have hbefore := forall_earlier.mp hearlier
    cases txType with
    | posvWithNTime => exact Or.inl ⟨rest, hrun⟩
    | standardWithWitness => exact Or.inr ⟨hbefore, Or.inl ⟨rest, hrun⟩⟩
    | posWithNTime => exact Or.inr ⟨hbefore.1, Or.inr ⟨hbefore.2, Or.inl ⟨rest, hrun⟩⟩⟩
    | zcash =>
      exact Or.inr ⟨hbefore.1, Or.inr ⟨hbefore.2.1, Or.inr ⟨hbefore.2.2, rest, hrun⟩⟩⟩

/-! ## What the bytes begin with -/

/-- The bytes are a whole transaction of a format and some more, before which it can end. -/
def BeginsWith (txType : TxType) (tx : Transaction) (rest bytes : Bytes) : Prop :=
  ∃ whole, bytes = whole ++ rest ∧ tx.Ends txType rest ∧ ∃ canonical,
    (deserializeTx txType).run ⟨whole, .standard, true⟩ = .ok (tx, ⟨[], .standard, canonical⟩)

/-- A format reads what the bytes begin with. -/
theorem run_iff_beginsWith {rest bytes : Bytes} :
    (∃ canonical, (deserializeTx txType).run ⟨bytes, .standard, true⟩ =
      .ok (tx, ⟨rest, .standard, canonical⟩)) ↔ BeginsWith txType tx rest bytes := by
  constructor
  · intro h
    obtain ⟨canonical, hrun⟩ := h
    obtain ⟨_, _, hends, _⟩ := deserializeTx_sound hrun
    obtain ⟨whole, hbuffer, hsame⟩ := local_deserializeTx hrun
    have hwhole := hsame [] hends.nil
    rw [List.append_nil] at hwhole
    exact ⟨whole, hbuffer, hends, canonical, hwhole⟩
  · intro h
    obtain ⟨whole, rfl, hends, canonical, hrun⟩ := h
    obtain ⟨taken, hbuffer, hsame⟩ := local_deserializeTx hrun
    have htaken : whole = taken := by
      rw [List.append_nil] at hbuffer
      exact hbuffer
    rw [htaken]
    exact ⟨canonical, hsame rest hends⟩

/-- A transaction that is returned was read from all of the bytes. -/
def TakesAll (bytes : Bytes) : Prop :=
  ∀ tx, Transaction.deserialize bytes = .ok tx →
    ∀ txType rest, Succeeds bytes txType tx rest → rest = []

/-- In the first format of which the bytes begin with a transaction, more bytes follow it. -/
def MoreFollows (bytes : Bytes) : Prop :=
  ∃ txType tx rest, BeginsWith txType tx rest bytes ∧ rest ≠ [] ∧
    ∀ earlier : TxType, earlier.rank < txType.rank → ∀ tx rest, ¬ BeginsWith earlier tx rest bytes

theorem error_iff_not_beginsWith {bytes : Bytes} :
    (∃ e, (deserializeTx txType).run ⟨bytes, .standard, true⟩ = .error e) ↔
      ∀ tx rest, ¬ BeginsWith txType tx rest bytes := by
  simp only [← run_iff_beginsWith]
  constructor
  · intro h tx rest hok
    obtain ⟨e, he⟩ := h
    obtain ⟨canonical, hrun⟩ := hok
    rw [he] at hrun
    cases hrun
  · intro h
    cases hrun : (deserializeTx txType).run ⟨bytes, .standard, true⟩ with
    | error e => exact ⟨e, rfl⟩
    | ok read => exact absurd (ok_of_run hrun) (h read.1 read.2.buffer)

theorem succeeds_iff {bytes rest : Bytes} : Succeeds bytes txType tx rest ↔
    BeginsWith txType tx rest bytes ∧
      ∀ earlier : TxType, earlier.rank < txType.rank → ∀ tx rest,
        ¬ BeginsWith earlier tx rest bytes := by
  simp only [Succeeds, run_iff_beginsWith, error_iff_not_beginsWith]

theorem takesAll_iff {bytes : Bytes} : TakesAll bytes ↔ ¬ MoreFollows bytes := by
  constructor
  · intro hall hmore
    obtain ⟨txType, tx, rest, hbegins, hne, hfirst⟩ := hmore
    have hsucceeds := succeeds_iff.mpr ⟨hbegins, hfirst⟩
    exact hne (hall tx (deserialize_eq_ok.mpr ⟨_, _, hsucceeds⟩) txType rest hsucceeds)
  · intro hnot tx _ txType rest hsucceeds
    obtain ⟨hbegins, hfirst⟩ := succeeds_iff.mp hsucceeds
    by_contra hne
    exact hnot ⟨txType, tx, rest, hbegins, hne, hfirst⟩

/-! ## Written and read in any format -/

/-- A transaction that could have been read in a format. -/
def IsOf (txType : TxType) (tx : Transaction) : Prop :=
  ∃ witness, tx.Fits txType witness ∧ tx.Ends txType []

/-- Formats of one transaction agree on whether there is a flag. -/
theorem usesWitness_of_isOf {txType' : TxType} (h : IsOf txType tx) (h' : IsOf txType' tx)
    (hover : tx.overwintered = false) (huses : txType.usesWitness = true) :
    txType'.usesWitness = true := by
  obtain ⟨witness, hfits, _⟩ := h
  obtain ⟨witness', hfits', _⟩ := h'
  have hzcash := hfits.zcash.symm.trans hfits'.zcash
  have hnTime := hfits.nTime.symm.trans hfits'.nTime
  have hposv := hfits'.posv
  cases txType' with
  | standardWithWitness => rfl
  | posvWithNTime => rfl
  | zcash =>
    cases txType <;> simp [hover, TxType.usesWitness] at hzcash huses
  | posWithNTime =>
    have hnot : tx.posv = false := by
      rw [hposv]
      rfl
    rw [hnot] at hnTime
    cases txType <;> simp [TxType.usesWitness] at hnTime huses

theorem WrittenWhole.of_isOf {txType' : TxType} (hwhole : WrittenWhole txType tx)
    (h : IsOf txType tx) (h' : IsOf txType' tx) : WrittenWhole txType' tx where
  inputs := by
    intro hall
    exact hwhole.inputs ⟨hall.1, usesWitness_of_isOf h' h hall.2.2 hall.2.1, hall.2.2⟩
  witness := hwhole.witness
  payload := hwhole.payload

/-- The transaction is written whole and no format before the first that it is of finds a
transaction at the front of its bytes. -/
def Unambiguous (txType : TxType) (tx : Transaction) : Prop :=
  WrittenWhole txType tx ∧ ∀ earlier : TxType,
    (∀ other : TxType, other.rank ≤ earlier.rank → ¬ IsOf other tx) →
      ∀ tx' rest, ¬ BeginsWith earlier tx' rest tx.serializeWithWitness

theorem isOf_of_run (hrun : (deserializeTx txType).run s = .ok (tx, s')) : IsOf txType tx := by
  obtain ⟨witness, hfits, hends, _⟩ := deserializeTx_sound hrun
  exact ⟨witness, hfits, hends.nil⟩

theorem unambiguous_of_deserialize (h : IsOf txType tx)
    (hback : Transaction.deserialize tx.serializeWithWitness = .ok tx) :
    Unambiguous txType tx := by
  obtain ⟨txType', rest, hsucceeds⟩ := deserialize_eq_ok.mp hback
  obtain ⟨canonical, hrun⟩ := hsucceeds.1
  have hisOf := isOf_of_run hrun
  constructor
  · exact (writtenWhole_of_run rfl hrun).of_isOf hisOf h
  · intro earlier hnone
    apply (succeeds_iff.mp hsucceeds).2
    by_contra hle
    exact hnone txType' (not_lt.mp hle) hisOf

/-- The first format that a transaction is of. -/
theorem exists_first (h : IsOf txType tx) : ∃ first, IsOf first tx ∧
    ∀ other : TxType, other.rank < first.rank → ¬ IsOf other tx := by
  classical
  have hex : ∃ n, ∃ t : TxType, t.rank = n ∧ IsOf t tx := ⟨_, txType, rfl, h⟩
  obtain ⟨first, hrank, hfirst⟩ := Nat.find_spec hex
  refine ⟨first, hfirst, ?_⟩
  intro other hlt hother
  rw [hrank] at hlt
  exact Nat.find_min hex hlt ⟨other, rfl, hother⟩

theorem Unambiguous.deserialize (hun : Unambiguous txType tx) (h : IsOf txType tx) :
    Transaction.deserialize tx.serializeWithWitness = .ok tx := by
  obtain ⟨first, hfirst, hbefore⟩ := exists_first h
  obtain ⟨witness, hfits, hends⟩ := hfirst
  have hback := (hun.1.of_isOf h ⟨witness, hfits, hends⟩).readsBack hfits hends
  apply deserialize_eq_ok.mpr
  refine ⟨first, [], ⟨true, hback .standard true⟩, ?_⟩
  intro earlier hlt
  apply error_iff_not_beginsWith.mpr
  apply hun.2
  intro other hle
  exact hbefore other (lt_of_le_of_lt hle hlt)

/-- A transaction of Zcash without join splits has the bytes of a standard one. -/
theorem fits_standard_of_zcash (h : tx.Fits .zcash false) (hover : tx.overwintered = false)
    (hversion : tx.version ≠ 2) (hinputs : tx.inputs ≠ []) (houtputs : tx.outputs ≠ []) :
    ({ tx with zcash := false } : Transaction).Fits .standardWithWitness false ∧
      ({ tx with zcash := false } : Transaction).wire .standardWithWitness false =
        tx.wire .zcash false := by
  have hnone : tx.hasJoinSplits = false := by
    simp [Transaction.hasJoinSplits, hover, hversion]
  have hjoins := h.joins
  have hbinding := h.bindingSig
  rw [hnone] at hjoins
  constructor
  · exact
      { h with
        inputs := ⟨h.inputs.1, fun hall => hinputs (List.map_eq_nil_iff.mp hall.1)⟩
        hasOutputs := fun _ => houtputs
        posv := h.posv
        nTime := h.nTime
        zcash := by simp [hover]
        joins := by simpa [Transaction.hasJoinSplits, Transaction.joins] using hjoins
        bindingSig := by simpa [Transaction.hasBindingSig, hover] using hbinding
        strDZeel := fun string hstring => by cases (h.strDZeel string hstring).1 }
  · simp [Transaction.wire, Transaction.body, Transaction.hasJoinSplits,
      Transaction.hasBindingSig, hover, hversion, Transaction.shielded, Transaction.joins]

/-- Such a transaction is never given back, as the standard format comes first. -/
theorem deserialize_zcash_ne (h : tx.Fits .zcash false) (hends : tx.Ends .zcash [])
    (hover : tx.overwintered = false) (hversion : tx.version ≠ 2) (hinputs : tx.inputs ≠ [])
    (houtputs : tx.outputs ≠ []) :
    Transaction.deserialize tx.serializeWithWitness ≠ .ok tx := by
  intro hback
  have hun := unambiguous_of_deserialize ⟨false, h, hends⟩ hback
  obtain ⟨witness, hfits, hbytes⟩ := h.serializeWithWitness_eq hun.1
  have hwitness : witness = false := by
    cases witness with
    | false => rfl
    | true => cases hfits.hasFlag.2
  subst hwitness
  obtain ⟨hstandard, hwire⟩ := fits_standard_of_zcash h hover hversion hinputs houtputs
  have hends' : ({ tx with zcash := false } : Transaction).Ends .standardWithWitness [] :=
    ⟨nofun, fun _ _ => rfl⟩
  have hread := deserializeTx_reads hstandard hends' .standard true
  rw [hwire, List.append_nil, ← hbytes] at hread
  apply hun.2 .standardWithWitness _ _ _ (run_iff_beginsWith.mp ⟨true, hread⟩)
  intro other hle hother
  obtain ⟨witness, hother, _⟩ := hother
  have hzcash := h.zcash.symm.trans hother.zcash
  cases other <;> simp [hover, TxType.rank] at hzcash hle

/-- A transaction of Zcash before it had join splits. -/
def plainTx : Transaction :=
  { stakeTx with
    nTime := none
    inputs :=
      [{ previousOutput := { hash := H256.default, index := 0 }, scriptSig := []
         sequence := 0xFFFFFFFF, scriptWitness := [] }]
    zcash := true
    posv := false }

theorem plainTx_fits : plainTx.Fits .zcash false where
  version := by decide
  versionGroupId := fun _ => rfl
  inputs := by
    refine ⟨⟨by decide, ?_⟩, ?_⟩
    · simp [plainTx, TransactionInput.bare, TransactionInput.Fits]
    · simp [plainTx]
  witnesses := by simp [plainTx]
  outputs := by simp [plainTx, stakeTx, TransactionOutput.Fits, maxListSize]
  hasOutputs := nofun
  posv := by decide
  nTime := rfl
  shielded := rfl
  zcash := rfl
  joins := rfl
  bindingSig := fun _ => rfl
  strDZeel := nofun
  vExtraPayload := nofun
  txHashAlgo := rfl

theorem plainTx_ends : plainTx.Ends .zcash [] where
  strDZeel := nofun
  vExtraPayload := fun _ _ => rfl

theorem plainTx_returned : Returned .zcash plainTx :=
  ⟨_, _, deserializeTx_reads plainTx_fits plainTx_ends .standard true⟩

end DeXFG.Utxo
