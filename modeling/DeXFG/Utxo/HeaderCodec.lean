import DeXFG.Utxo.HeaderReader
import DeXFG.Utxo.TxRoundTrip

/-!
# Block headers read back

A header stands in the bytes in a form that it is read from. The writer gives the
same bytes where it writes all sections of the form.
-/
namespace DeXFG.Utxo
open Library Library.Reading

/-- How a header stands in the bytes. -/
inductive HeaderForm where
  | plain (front : HeaderFront) (back : HeaderBack)
  /-- The coinbase transaction stands with a flag or without. -/
  | merged (front : HeaderFront) (witness : Bool) (coinbaseTx : Transaction)
      (parentBlockHash : H256) (coinbaseBranch blockchainBranch : MerkleBranch)
      (parent : HeaderForm) (back : HeaderBack)

namespace HeaderForm

/-- The header that is read. -/
def header : HeaderForm → BlockHeader
  | plain front back => ⟨headerFields front back, none⟩
  | merged front _ coinbaseTx parentBlockHash coinbaseBranch blockchainBranch parent back =>
    ⟨headerFields front back, some
      { coinbaseTx := coinbaseTx, parentBlockHash := parentBlockHash
        coinbaseBranch := coinbaseBranch, blockchainBranch := blockchainBranch
        parentBlockHeader := parent.header }⟩

def wire : HeaderForm → Bytes
  | plain front back => front.wire ++ back.wire
  | merged front witness coinbaseTx parentBlockHash coinbaseBranch blockchainBranch parent back =>
    front.wire ++
    (coinbaseTx.wire .standardWithWitness witness ++
    (parentBlockHash.val ++
    (coinbaseBranch.serialize ++
    (blockchainBranch.serialize ++
    (parent.wire ++
    back.wire)))))

/-- The transactions that can stand before other bytes. -/
structure CoinbaseFits (witness : Bool) (coinbaseTx : Transaction) : Prop where
  fits : coinbaseTx.Fits .standardWithWitness witness
  payload : coinbaseTx.isSpark = true → coinbaseTx.vExtraPayload ≠ none

def Fits (variant : ChainVariant) : HeaderForm → Prop
  | plain front back =>
    front.Fits variant ∧ BlockHeader.hasAuxPow variant front.version = false ∧
      back.Fits variant front.version front.time
  | merged front witness coinbaseTx _ coinbaseBranch blockchainBranch parent back =>
    (front.Fits variant ∧ BlockHeader.hasAuxPow variant front.version = true ∧
      back.Fits variant front.version front.time) ∧
    CoinbaseFits witness coinbaseTx ∧
    coinbaseBranch.branchHashes.length < 2 ^ 64 ∧
    blockchainBranch.branchHashes.length < 2 ^ 64 ∧
    parent.Fits variant

/-- The number of headers. -/
def depth : HeaderForm → ℕ
  | plain _ _ => 1
  | merged _ _ _ _ _ _ parent _ => parent.depth + 1

end HeaderForm

variable {variant : ChainVariant} {s s' : Input ChainVariant} {h : BlockHeader}
  {form : HeaderForm} {fuel : ℕ}

theorem four_le_length_front (front : HeaderFront) : 4 ≤ front.wire.length := by
  rw [HeaderFront.wire, List.length_append, Stream.u32, length_leBytes]
  omega

theorem depth_le_length (form : HeaderForm) : form.depth ≤ form.wire.length := by
  induction form with
  | plain front back =>
    have hfour := four_le_length_front front
    rw [HeaderForm.depth, HeaderForm.wire, List.length_append]
    omega
  | merged front witness coinbaseTx parentBlockHash coinbaseBranch blockchainBranch parent back ih =>
    have hfour := four_le_length_front front
    simp only [HeaderForm.depth, HeaderForm.wire, List.length_append]
    omega

/-- A transaction with bytes after it ends there. -/
theorem coinbase_ends {witness : Bool} {coinbaseTx : Transaction}
    (h : HeaderForm.CoinbaseFits witness coinbaseTx) (rest : Bytes) :
    coinbaseTx.Ends .standardWithWitness rest where
  strDZeel := nofun
  vExtraPayload := fun hspark hnone => absurd hnone (h.payload hspark)

theorem reads_none {α : Type} (r : Reader α) (s : Input ChainVariant) :
    (readIf false r).run s = .ok (none, s) := rfl

theorem reads_some {α : Type} {r : Reader α} {x : α} (hrun : r.run s = .ok (x, s')) :
    (readIf true r).run s = .ok (some x, s') := by
  rw [readIf, if_pos rfl, run_bind_of_ok hrun, run_pure]

/-- The bytes of a form are read back. -/
theorem deserializeFuel_reads (hfits : form.Fits variant) (hdepth : form.depth ≤ fuel)
    (rest : Bytes) (context : ChainVariant) (canonical : Bool) :
    (BlockHeader.deserializeFuel variant fuel).run ⟨form.wire ++ rest, context, canonical⟩ =
      .ok (form.header, ⟨rest, context, canonical⟩) := by
  induction form generalizing fuel rest with
  | plain front back =>
    obtain ⟨hfront, hnone, hback⟩ := hfits
    cases fuel with
    | zero => cases hdepth
    | succ fuel =>
      rw [HeaderForm.wire, List.append_assoc]
      refine (run_bind_of_ok (codec_readFront.reads front hfront _ context canonical)).trans ?_
      rw [hnone]
      refine (run_bind_of_ok (reads_none _ _)).trans ?_
      refine (run_bind_of_ok (codec_readBack.reads back hback rest context canonical)).trans ?_
      rfl
  | merged front witness coinbaseTx parentBlockHash coinbaseBranch blockchainBranch parent back ih =>
    obtain ⟨⟨hfront, hsome, hback⟩, hcoinbase, hbranch, hbranch', hparent⟩ := hfits
    cases fuel with
    | zero => cases hdepth
    | succ fuel =>
      have haux : (BlockHeader.readAuxPow (BlockHeader.deserializeFuel variant fuel)).run
          ⟨coinbaseTx.wire .standardWithWitness witness ++ (parentBlockHash.val ++
            (coinbaseBranch.serialize ++ (blockchainBranch.serialize ++ (parent.wire ++
              (back.wire ++ rest))))), context, canonical⟩ =
          .ok ({ coinbaseTx := coinbaseTx, parentBlockHash := parentBlockHash,
                 coinbaseBranch := coinbaseBranch, blockchainBranch := blockchainBranch,
                 parentBlockHeader := parent.header }, ⟨back.wire ++ rest, context, canonical⟩) := by
        refine (run_bind_of_ok (deserializeTx_reads hcoinbase.fits (coinbase_ends hcoinbase _)
          context canonical)).trans ?_
        refine (run_bind_of_ok ((codec_fixed 32).reads _ trivial _ context canonical)).trans ?_
        refine (run_bind_of_ok (codec_merkleBranch.reads _ hbranch _ context canonical)).trans ?_
        refine (run_bind_of_ok (codec_merkleBranch.reads _ hbranch' _ context canonical)).trans ?_
        refine (run_bind_of_ok (ih hparent (Nat.le_of_succ_le_succ hdepth) _)).trans ?_
        rfl
      simp only [HeaderForm.wire, List.append_assoc]
      refine (run_bind_of_ok (codec_readFront.reads front hfront _ context canonical)).trans ?_
      rw [hsome]
      refine (run_bind_of_ok (reads_some haux)).trans ?_
      refine (run_bind_of_ok (codec_readBack.reads back hback rest context canonical)).trans ?_
      rfl

/-- What is read stands in the bytes in some form. -/
theorem deserializeFuel_sound
    (hrun : (BlockHeader.deserializeFuel variant fuel).run s = .ok (h, s')) :
    ∃ form : HeaderForm, form.Fits variant ∧ form.header = h ∧ Takes s form.wire s' := by
  induction fuel generalizing s s' h with
  | zero => cases hrun
  | succ fuel ih =>
    rw [BlockHeader.deserializeFuel, BlockHeader.deserializeWith] at hrun
    obtain ⟨front, s₁, hfront, hrun⟩ := run_bind_eq_ok.mp hrun
    obtain ⟨auxPow, s₂, haux, hrun⟩ := run_bind_eq_ok.mp hrun
    obtain ⟨back, s₃, hback, hrun⟩ := run_bind_eq_ok.mp hrun
    rw [run_pure] at hrun
    cases hrun
    obtain ⟨hffit, htfront⟩ := codec_readFront.sound hfront
    obtain ⟨hbfit, htback⟩ := codec_readBack.sound hback
    cases hhas : BlockHeader.hasAuxPow variant front.version with
    | false =>
      rw [hhas, reads_none] at haux
      cases haux
      exact ⟨.plain front back, ⟨hffit, hhas, hbfit⟩, rfl, htfront.trans htback⟩
    | true =>
      rw [hhas, readIf, if_pos rfl] at haux
      obtain ⟨pow, s₄, hpow, hpure⟩ := run_bind_eq_ok.mp haux
      rw [run_pure] at hpure
      cases hpure
      rw [BlockHeader.readAuxPow] at hpow
      obtain ⟨coinbaseTx, s₅, hcoinbase, hpow⟩ := run_bind_eq_ok.mp hpow
      obtain ⟨parentBlockHash, s₆, hhash, hpow⟩ := run_bind_eq_ok.mp hpow
      obtain ⟨coinbaseBranch, s₇, hbranch, hpow⟩ := run_bind_eq_ok.mp hpow
      obtain ⟨blockchainBranch, s₈, hbranch', hpow⟩ := run_bind_eq_ok.mp hpow
      obtain ⟨parent, s₉, hparent, hpow⟩ := run_bind_eq_ok.mp hpow
      rw [run_pure] at hpow
      cases hpow
      obtain ⟨witness, hcfit, hends, htcoinbase⟩ := deserializeTx_sound hcoinbase
      obtain ⟨_, hthash⟩ := (codec_fixed 32).sound hhash
      obtain ⟨hbrfit, htbranch⟩ := codec_merkleBranch.sound hbranch
      obtain ⟨hbrfit', htbranch'⟩ := codec_merkleBranch.sound hbranch'
      obtain ⟨parentForm, hpfit, rfl, htparent⟩ := ih hparent
      have hpayload : coinbaseTx.isSpark = true → coinbaseTx.vExtraPayload ≠ none := by
        intro hspark hnone
        have hnil := hends.vExtraPayload hspark hnone
        have hle := hthash.length_le
        rw [hnil, parentBlockHash.2, List.length_nil] at hle
        omega
      refine ⟨.merged front witness coinbaseTx parentBlockHash coinbaseBranch blockchainBranch
        parentForm back, ⟨⟨hffit, hhas, hbfit⟩, ⟨hcfit, hpayload⟩, hbrfit, hbrfit', hpfit⟩, rfl, ?_⟩
      exact htfront.trans (htcoinbase.trans (hthash.trans (htbranch.trans (htbranch'.trans
        (htparent.trans htback)))))

/-! ## One header reads the next -/

theorem run_bind_congr {γ ε α β : Type} {r : Reading.Reader γ ε α}
    {f g : α → Reading.Reader γ ε β} {s : Input γ}
    (h : ∀ x s', r.run s = .ok (x, s') → (f x).run s' = (g x).run s') :
    (r >>= f).run s = (r >>= g).run s := by
  cases hrun : r.run s with
  | error e => rw [run_bind_of_error hrun, run_bind_of_error hrun]
  | ok read => rw [run_bind_of_ok hrun, run_bind_of_ok hrun, h _ _ hrun]

/-- A header asks for that of its parent only after bytes of its own. -/
theorem deserializeWith_congr {parent parent' : Reader BlockHeader}
    (h : ∀ s', s'.buffer.length < s.buffer.length → s'.context = s.context →
      parent.run s' = parent'.run s') :
    (BlockHeader.deserializeWith variant parent).run s =
      (BlockHeader.deserializeWith variant parent').run s := by
  apply run_bind_congr
  intro front s₁ hfront
  obtain ⟨_, htfront⟩ := codec_readFront.sound hfront
  have hle := htfront.length_le
  have hfour := four_le_length_front front
  have haux : (readIf (BlockHeader.hasAuxPow variant front.version)
        (BlockHeader.readAuxPow parent)).run s₁ =
      (readIf (BlockHeader.hasAuxPow variant front.version)
        (BlockHeader.readAuxPow parent')).run s₁ := by
    cases BlockHeader.hasAuxPow variant front.version with
    | false => rfl
    | true =>
      have hpow : (BlockHeader.readAuxPow parent).run s₁ =
          (BlockHeader.readAuxPow parent').run s₁ := by
        apply run_bind_congr
        intro coinbaseTx s₂ hcoinbase
        obtain ⟨_, _, _, htcoinbase⟩ := deserializeTx_sound hcoinbase
        apply run_bind_congr
        intro parentBlockHash s₃ hhash
        have hthash := ((codec_fixed 32).sound hhash).2
        apply run_bind_congr
        intro coinbaseBranch s₄ hbranch
        have htbranch := (codec_merkleBranch.sound hbranch).2
        apply run_bind_congr
        intro blockchainBranch s₅ hbranch'
        have htbranch' := (codec_merkleBranch.sound hbranch').2
        have htakes := htcoinbase.trans (hthash.trans (htbranch.trans htbranch'))
        have hle' := htakes.length_le
        have hparent := h s₅ (by omega) (htakes.context.trans htfront.context)
        rw [StateT.run_bind, StateT.run_bind, hparent]
      rw [readIf, readIf, if_pos rfl, if_pos rfl, StateT.run_bind, StateT.run_bind, hpow]
  rw [StateT.run_bind, StateT.run_bind, haux]

theorem deserializeWith_nil (parent : Reader BlockHeader) (hnil : s.buffer = []) :
    (BlockHeader.deserializeWith variant parent).run s = .error .unexpectedEnd := by
  have hfour : (takeBytes SerError.unexpectedEnd 4 : Reader Bytes).run s = .error .unexpectedEnd := by
    change (if s.buffer.length < 4 then _ else _) = _
    rw [hnil]
    rfl
  exact run_bind_of_error (run_bind_of_error (run_bind_of_error (run_bind_of_error hfour)))

/-- Fuel for every byte is enough. -/
theorem deserializeFuel_eq {fuel' : ℕ} (hfuel : s.buffer.length ≤ fuel)
    (hfuel' : s.buffer.length ≤ fuel') :
    (BlockHeader.deserializeFuel variant fuel).run s =
      (BlockHeader.deserializeFuel variant fuel').run s := by
  induction fuel generalizing fuel' s with
  | zero =>
    have hnil := List.eq_nil_of_length_eq_zero (Nat.le_zero.mp hfuel)
    cases fuel' with
    | zero => rfl
    | succ fuel' => exact (deserializeWith_nil _ hnil).symm
  | succ fuel ih =>
    cases fuel' with
    | zero =>
      have hnil := List.eq_nil_of_length_eq_zero (Nat.le_zero.mp hfuel')
      exact deserializeWith_nil _ hnil
    | succ fuel' =>
      apply deserializeWith_congr
      intro s' hlt _
      exact ih (by omega) (by omega)

theorem run_deserialize (s : Input ChainVariant) : BlockHeader.deserialize.run s =
    (BlockHeader.deserializeFuel s.context s.buffer.length).run s := by
  rw [BlockHeader.deserialize, StateT.run_bind, StateT.run_get, pure_bind]

/-- The reader of the source, which calls itself. -/
theorem deserialize_run (s : Input ChainVariant) : BlockHeader.deserialize.run s =
    (BlockHeader.deserializeWith s.context BlockHeader.deserialize).run s := by
  rw [run_deserialize, deserializeFuel_eq le_rfl (Nat.le_succ _), BlockHeader.deserializeFuel]
  apply deserializeWith_congr
  intro s' hlt hcontext
  rw [run_deserialize, hcontext, deserializeFuel_eq hlt.le le_rfl]

theorem deserialize_reads (hfits : form.Fits variant) (rest : Bytes) (canonical : Bool) :
    BlockHeader.deserialize.run ⟨form.wire ++ rest, variant, canonical⟩ =
      .ok (form.header, ⟨rest, variant, canonical⟩) := by
  have hdepth := depth_le_length form
  have hfuel : form.depth ≤ (form.wire ++ rest).length := by
    rw [List.length_append]
    omega
  rw [run_deserialize]
  exact deserializeFuel_reads hfits hfuel rest variant canonical

theorem deserialize_sound (hrun : BlockHeader.deserialize.run s = .ok (h, s')) :
    ∃ form : HeaderForm, form.Fits s.context ∧ form.header = h ∧ Takes s form.wire s' := by
  rw [run_deserialize] at hrun
  exact deserializeFuel_sound hrun

/-! ## What the writer leaves out -/

namespace HeaderFront

variable {front : HeaderFront} {back : HeaderBack}

/-- The writer gives both roots of the shielded pool and every nonce. -/
structure WrittenWhole (variant : ChainVariant) (front : HeaderFront) : Prop where
  roots : ¬ (variant = .pivx ∧ front.version = 4)
  progPow : ¬ (variant.isKmdAssetchain = true ∧ front.version = mtpPowVersion ∧
    progPowSwitchTime ≤ front.time)
  kawpow : ¬ (front.version = kawpowVersion ∧ front.nonce = some (.u32 0))

theorem writeVersion_eq : (if (headerFields front back).isVerus
    then (headerFields front back).version ^^^ 0x00010000
    else (headerFields front back).version) = front.rawVersion := by
  have hisVerus : (headerFields front back).isVerus = isVerusVersion front.rawVersion := rfl
  have hversion : (headerFields front back).version = versionOfRaw front.rawVersion := rfl
  rw [hisVerus, hversion, versionOfRaw]
  by_cases hverus : isVerusVersion front.rawVersion = true
  · rw [if_pos hverus, if_pos hverus, UInt32.xor_assoc, UInt32.xor_self, UInt32.xor_zero]
  · rw [if_neg hverus, if_neg hverus]

/-- What is written of a nonce. -/
def writeNonce (fields : BlockHeaderFields) : Bytes :=
  if !fields.isProgPow ∧ (fields.version ≠ kawpowVersion ∨ fields.nonce ≠ .u32 0) then
    fields.nonce.serialize
  else []

theorem length_nonce_pos (nonce : BlockHeaderNonce) : 0 < nonce.serialize.length := by
  cases nonce with
  | u32 n =>
    rw [BlockHeaderNonce.serialize, Stream.u32, length_leBytes]
    omega
  | h256 h =>
    rw [BlockHeaderNonce.serialize, h.2]
    omega

/-- Headers of this kind are not in the style of Zcash unless they are of test chains. -/
theorem isKmd_of_isZcashStyle {version : UInt32} (h : variant.isZcashStyle version = true)
    (hversion : version ≠ 4) : variant.isKmdAssetchain = true := by
  simp only [ChainVariant.isZcashStyle, decide_eq_true_eq] at h
  rcases h with h | h
  · exact absurd h.1 hversion
  · exact h

/-- The nonces that the writer leaves out. -/
def OmitsNonce (front : HeaderFront) : Prop :=
  (front.version = mtpPowVersion ∧ progPowSwitchTime ≤ front.time) ∨
    (front.version = kawpowVersion ∧ front.nonce.getD (.u32 0) = .u32 0)

theorem writeNonce_eq_nil (h : front.OmitsNonce) : writeNonce (headerFields front back) = [] := by
  apply if_neg
  intro hand
  rcases h with h | h
  · have hprog : (headerFields front back).isProgPow = true := decide_eq_true h
    rw [hprog] at hand
    exact Bool.noConfusion hand.1
  · exact hand.2.elim (fun hne => hne h.1) fun hne => hne h.2

theorem writeNonce_eq_serialize (h : ¬ front.OmitsNonce) :
    writeNonce (headerFields front back) = (front.nonce.getD (.u32 0)).serialize := by
  apply if_pos
  constructor
  · have hprog : (headerFields front back).isProgPow = false :=
      decide_eq_false fun hand => h (Or.inl hand)
    rw [hprog]
    rfl
  · by_contra hnot
    push Not at hnot
    exact h (Or.inr hnot)

/-- A nonce that was not read is not written. -/
theorem omitsNonce_of_none (hfits : front.Fits variant) (hnone : front.nonce = none) :
    front.OmitsNonce := by
  have hsome := hfits.nonce.1
  rw [hnone, Option.isSome_none, eq_comm, hasNonce, decide_eq_false_iff_not] at hsome
  push Not at hsome
  rcases hsome.2 with hkawpow | hmtp
  · rw [ChainVariant.isKawpow, decide_eq_true_eq] at hkawpow
    exact Or.inr ⟨hkawpow.1, by rw [hnone, Option.getD_none]⟩
  · exact Or.inl hmtp

/-- A nonce that was read is left out in two kinds of headers. -/
theorem omitsNonce_of_some (hfits : front.Fits variant) {nonce : BlockHeaderNonce}
    (hsome : front.nonce = some nonce) : front.OmitsNonce ↔
      (variant.isKmdAssetchain = true ∧ front.version = mtpPowVersion ∧
        progPowSwitchTime ≤ front.time) ∨
      (front.version = kawpowVersion ∧ front.nonce = some (.u32 0)) := by
  have hhas := hfits.nonce.1
  rw [hsome, Option.isSome_some, eq_comm, hasNonce, decide_eq_true_eq] at hhas
  rw [OmitsNonce, hsome, Option.getD_some, Option.some.injEq]
  constructor
  · intro h
    rcases h with hmtp | hkawpow
    · left
      refine ⟨?_, hmtp⟩
      have hstyle := hhas.resolve_right fun hnot => hnot (Or.inr hmtp)
      apply isKmd_of_isZcashStyle hstyle
      rw [hmtp.1]
      decide
    · exact Or.inr hkawpow
  · intro h
    rcases h with hkmd | hkawpow
    · exact Or.inl hkmd.2
    · exact Or.inr hkawpow

theorem writeNonce_eq (hfits : front.Fits variant) (hwhole : front.WrittenWhole variant) :
    writeNonce (headerFields front back) = optional BlockHeaderNonce.serialize front.nonce := by
  cases hnonce : front.nonce with
  | none => exact writeNonce_eq_nil (omitsNonce_of_none hfits hnonce)
  | some nonce =>
    have homits : ¬ front.OmitsNonce := by
      rw [omitsNonce_of_some hfits hnonce]
      exact not_or.mpr ⟨hwhole.progPow, hwhole.kawpow⟩
    rw [writeNonce_eq_serialize homits, hnonce]
    rfl

theorem length_writeNonce_le (hfits : front.Fits variant) :
    (writeNonce (headerFields front back)).length ≤
      (optional BlockHeaderNonce.serialize front.nonce).length := by
  by_cases homits : front.OmitsNonce
  · rw [writeNonce_eq_nil homits]
    exact Nat.zero_le _
  · cases hnonce : front.nonce with
    | none => exact absurd (omitsNonce_of_none hfits hnonce) homits
    | some nonce =>
      rw [writeNonce_eq_serialize homits, hnonce]
      rfl

/-! ### The roots -/

/-- What is written of the roots, before the time and after the nonce. -/
def writeRoots (fields : BlockHeaderFields) : Bytes × Bytes :=
  (if fields.solution.isSome then optional Subtype.val fields.hashFinalSaplingRoot else [],
    if fields.solution.isNone then optional Subtype.val fields.hashFinalSaplingRoot else [])

/-- The root that a header keeps. -/
theorem saplingRoot_eq : (headerFields front back).hashFinalSaplingRoot =
    if front.lateSaplingRoot.isSome then front.lateSaplingRoot else front.earlySaplingRoot := rfl

/-- In the style of Zcash and of PIVX at once. -/
theorem version_eq_four_of_pivx {version : UInt32}
    (hstyle : ChainVariant.isZcashStyle .pivx version = true) : version = 4 := by
  by_contra hne
  cases isKmd_of_isZcashStyle hstyle hne

theorem writeRoots_of_style (hfits : front.Fits variant)
    (hstyle : variant.isZcashStyle front.version = true) :
    writeRoots (headerFields front back) =
      (optional Subtype.val (headerFields front back).hashFinalSaplingRoot, []) := by
  have hsome : (headerFields front back).solution.isSome = true :=
    hfits.solution.1.trans hstyle
  have hnone : (headerFields front back).solution.isNone = false := by
    rw [← Option.not_isSome, hsome]
    rfl
  rw [writeRoots, hsome, hnone]
  rfl

theorem writeRoots_of_not_style (hfits : front.Fits variant)
    (hstyle : variant.isZcashStyle front.version = false) :
    writeRoots (headerFields front back) =
      ([], optional Subtype.val front.lateSaplingRoot) := by
  have hsome : (headerFields front back).solution.isSome = false :=
    hfits.solution.1.trans hstyle
  have hnone : (headerFields front back).solution.isNone = true := by
    rw [← Option.not_isSome, hsome]
    rfl
  have hearly : front.earlySaplingRoot = none :=
    eq_none_of_isSome hfits.earlySaplingRoot hstyle
  rw [writeRoots, hsome, hnone, saplingRoot_eq, hearly]
  cases front.lateSaplingRoot <;> rfl

theorem writeRoots_eq (hfits : front.Fits variant) (hwhole : front.WrittenWhole variant) :
    writeRoots (headerFields front back) =
      (optional Subtype.val front.earlySaplingRoot, optional Subtype.val front.lateSaplingRoot) := by
  cases hstyle : variant.isZcashStyle front.version with
  | false =>
    rw [writeRoots_of_not_style hfits hstyle,
      eq_none_of_isSome hfits.earlySaplingRoot hstyle, optional]
  | true =>
    have hlate : front.lateSaplingRoot = none := by
      apply eq_none_of_isSome hfits.lateSaplingRoot
      apply decide_eq_false
      rintro rfl
      exact hwhole.roots ⟨rfl, version_eq_four_of_pivx hstyle⟩
    rw [writeRoots_of_style hfits hstyle, saplingRoot_eq, hlate]
    rfl

/-- At most one root is written. -/
theorem length_writeRoots (hfits : front.Fits variant) :
    (writeRoots (headerFields front back)).1.length +
        (writeRoots (headerFields front back)).2.length ≤
      (optional Subtype.val front.earlySaplingRoot).length +
        (optional Subtype.val front.lateSaplingRoot).length ∧
    (variant = .pivx ∧ front.version = 4 →
      (writeRoots (headerFields front back)).1.length +
          (writeRoots (headerFields front back)).2.length <
        (optional Subtype.val front.earlySaplingRoot).length +
          (optional Subtype.val front.lateSaplingRoot).length) := by
  have hlength : ∀ root : H256, (optional Subtype.val (some root)).length = 32 := fun root => root.2
  cases hstyle : variant.isZcashStyle front.version with
  | false =>
    rw [writeRoots_of_not_style hfits hstyle]
    constructor
    · exact Nat.add_le_add_right (Nat.zero_le _) _
    · intro hpivx
      rw [hpivx.1, hpivx.2] at hstyle
      cases hstyle
  | true =>
    rw [writeRoots_of_style hfits hstyle, saplingRoot_eq]
    obtain ⟨early, hearly⟩ :=
      Option.isSome_iff_exists.mp (hfits.earlySaplingRoot.trans hstyle)
    rw [hearly]
    cases hlate : front.lateSaplingRoot with
    | none =>
      refine ⟨by simp, ?_⟩
      intro hpivx
      have hsome := hfits.lateSaplingRoot
      rw [hlate, decide_eq_true hpivx.1] at hsome
      cases hsome
    | some late =>
      rw [Option.isSome_some, if_pos rfl, hlength, hlength, List.length_nil]
      exact ⟨by omega, fun _ => by omega⟩

/-! ### All that comes first -/

theorem serializeBefore_eq : (headerFields front back).serializeBefore =
    Stream.u32 front.rawVersion ++ front.previousHeaderHash.val ++ front.merkleRootHash.val ++
      optional Subtype.val front.claimTrieRoot ++ (writeRoots (headerFields front back)).1 ++
      Stream.u32 front.time ++ front.bits.serialize ++ writeNonce (headerFields front back) ++
      (writeRoots (headerFields front back)).2 ++ optional Stream.bytes front.solution := by
  rw [BlockHeaderFields.serializeBefore, writeVersion_eq]
  rfl

theorem serializeBefore_of_whole (hfits : front.Fits variant)
    (hwhole : front.WrittenWhole variant) :
    (headerFields front back).serializeBefore = front.wire := by
  rw [serializeBefore_eq, writeRoots_eq hfits hwhole, writeNonce_eq hfits hwhole, wire]
  simp only [List.append_assoc]

theorem length_serializeBefore (hfits : front.Fits variant) :
    (headerFields front back).serializeBefore.length ≤ front.wire.length ∧
      (¬ front.WrittenWhole variant →
        (headerFields front back).serializeBefore.length < front.wire.length) := by
  obtain ⟨hroots, hroots'⟩ := @length_writeRoots variant front back hfits
  have hnonce := @length_writeNonce_le variant front back hfits
  have hlength : (headerFields front back).serializeBefore.length +
      ((optional Subtype.val front.earlySaplingRoot).length +
        (optional Subtype.val front.lateSaplingRoot).length) +
        (optional BlockHeaderNonce.serialize front.nonce).length =
      front.wire.length + ((writeRoots (headerFields front back)).1.length +
        (writeRoots (headerFields front back)).2.length) +
        (writeNonce (headerFields front back)).length := by
    rw [serializeBefore_eq, wire]
    simp only [List.length_append]
    omega
  constructor
  · omega
  · intro hlost
    by_contra hle
    apply hlost
    have homits : front.OmitsNonce → front.nonce = none := by
      intro homits
      by_contra hne
      obtain ⟨nonce, hsome⟩ := Option.ne_none_iff_exists'.mp hne
      have hpos : 0 < (optional BlockHeaderNonce.serialize front.nonce).length := by
        rw [hsome]
        exact length_nonce_pos nonce
      have hzero : (writeNonce (headerFields front back)).length = 0 := by
        rw [writeNonce_eq_nil homits]
        rfl
      omega
    constructor
    case roots =>
      intro hpivx
      have hlt := hroots' hpivx
      omega
    case progPow =>
      intro hkmd
      have hhas := hfits.nonce.1
      have hstyle : variant.isZcashStyle front.version = true := decide_eq_true (Or.inr hkmd.1)
      rw [homits (Or.inl hkmd.2), hasNonce, decide_eq_true (Or.inl hstyle)] at hhas
      cases hhas
    case kawpow =>
      intro hkawpow
      have hnone := homits (Or.inr ⟨hkawpow.1, by rw [hkawpow.2]; rfl⟩)
      rw [hkawpow.2] at hnone
      cases hnone

end HeaderFront

theorem serializeAfter_eq (front : HeaderFront) (back : HeaderBack) :
    (headerFields front back).serializeAfter = back.wire := by
  simp only [BlockHeaderFields.serializeAfter, HeaderBack.wire, List.append_assoc]
  rfl

/-! ### The coinbase transaction and the parents -/

namespace HeaderForm

/-- All of a header is written, and all of those that it holds. -/
def WrittenWhole (variant : ChainVariant) : HeaderForm → Prop
  | plain front _ => front.WrittenWhole variant
  | merged front witness coinbaseTx _ _ _ parent _ =>
    front.WrittenWhole variant ∧ (witness = false ∧ coinbaseTx.vExtraPayload ≠ some []) ∧
      parent.WrittenWhole variant

end HeaderForm

theorem serialize_of_whole {txType : TxType} {tx : Transaction} (h : tx.Fits txType false)
    (hpayload : tx.vExtraPayload ≠ some []) : tx.serialize = tx.wire txType false := by
  rw [h.serialize_eq, Transaction.wire, Transaction.writePayload_eq hpayload]

/-- A transaction is never written with its flag. -/
theorem length_serialize {txType : TxType} {witness : Bool} {tx : Transaction}
    (h : tx.Fits txType witness) : tx.serialize.length ≤ (tx.wire txType witness).length ∧
      (¬ (witness = false ∧ tx.vExtraPayload ≠ some []) →
        tx.serialize.length < (tx.wire txType witness).length) := by
  have hlonger := @Transaction.length_body_true txType tx
  obtain ⟨hshort, hempty⟩ := Transaction.length_writePayload tx.vExtraPayload
  rw [h.serialize_eq, Transaction.wire, List.length_append, List.length_append]
  cases witness with
  | true => exact ⟨by omega, fun _ => by omega⟩
  | false =>
    refine ⟨by omega, ?_⟩
    intro hlost
    have hsome : tx.vExtraPayload = some [] := by
      by_contra hne
      exact hlost ⟨rfl, hne⟩
    have hlt := hempty hsome
    omega

theorem header_serialize_of_whole (hfits : form.Fits variant)
    (hwhole : form.WrittenWhole variant) : form.header.serialize = form.wire := by
  induction form with
  | plain front back =>
    rw [HeaderForm.header, BlockHeader.serialize, serializeAfter_eq,
      HeaderFront.serializeBefore_of_whole hfits.1 hwhole, HeaderForm.wire]
  | merged front witness coinbaseTx parentBlockHash coinbaseBranch blockchainBranch parent back ih =>
    obtain ⟨hfront, ⟨rfl, hpayload⟩, hparent⟩ := hwhole
    have hcoinbase := serialize_of_whole hfits.2.1.fits hpayload
    rw [HeaderForm.header, BlockHeader.serialize, serializeAfter_eq,
      HeaderFront.serializeBefore_of_whole hfits.1.1 hfront, hcoinbase,
      ih hfits.2.2.2.2 hparent, HeaderForm.wire]
    simp only [List.append_assoc]

theorem length_header_serialize (hfits : form.Fits variant) :
    form.header.serialize.length ≤ form.wire.length ∧
      (¬ form.WrittenWhole variant → form.header.serialize.length < form.wire.length) := by
  induction form with
  | plain front back =>
    obtain ⟨hle, hlt⟩ := @HeaderFront.length_serializeBefore variant front back hfits.1
    rw [HeaderForm.header, BlockHeader.serialize, serializeAfter_eq, HeaderForm.wire,
      List.length_append, List.length_append]
    constructor
    · omega
    · intro hlost
      have hfront := hlt hlost
      omega
  | merged front witness coinbaseTx parentBlockHash coinbaseBranch blockchainBranch parent back ih =>
    obtain ⟨hle, hlt⟩ := @HeaderFront.length_serializeBefore variant front back hfits.1.1
    obtain ⟨hcle, hclt⟩ := length_serialize hfits.2.1.fits
    obtain ⟨hple, hplt⟩ := ih hfits.2.2.2.2
    rw [HeaderForm.header, BlockHeader.serialize, serializeAfter_eq]
    simp only [HeaderForm.wire, List.length_append]
    constructor
    · omega
    · intro hlost
      by_contra hnot
      apply hlost
      refine ⟨?_, ?_, ?_⟩
      · by_contra hfront
        have hlt' := hlt hfront
        omega
      · by_contra hcoinbase
        have hlt' := hclt hcoinbase
        omega
      · by_contra hparent
        have hlt' := hplt hparent
        omega

/-! ## Headers as they were received -/

/-- A header has the hash of its bytes, and is read again from what is stored. -/
structure KeptAsReceived (variant : ChainVariant) (received : Bytes) (header : BlockHeader) :
    Prop where
  serialize : header.serialize = received
  raw : header.raw = received
  hash : ∀ crypto, header.hash crypto = crypto.dhash256 received
  reads : ∀ canonical, BlockHeader.deserialize.run ⟨header.raw, variant, canonical⟩ =
    .ok (header, ⟨[], variant, canonical⟩)

/-- The bytes are those of a header in a form that is written whole. -/
def StandsWhole (variant : ChainVariant) (received : Bytes) : Prop :=
  ∃ form : HeaderForm, form.Fits variant ∧ form.wire = received ∧ form.WrittenWhole variant

theorem keptAsReceived_iff {received rest : Bytes} {header : BlockHeader}
    (hrun : BlockHeader.deserialize.run ⟨received ++ rest, variant, true⟩ =
      .ok (header, ⟨rest, variant, true⟩)) :
    KeptAsReceived variant received header ↔ StandsWhole variant received := by
  constructor
  · intro hkept
    obtain ⟨form, hfits, rfl, htakes⟩ := deserialize_sound hrun
    have hwire : received = form.wire :=
      List.append_cancel_right (htakes.buffer_eq rfl).1
    refine ⟨form, hfits, hwire.symm, ?_⟩
    by_contra hlost
    have hlt := (length_header_serialize hfits).2 hlost
    rw [hkept.serialize, hwire] at hlt
    exact lt_irrefl _ hlt
  · intro hstands
    obtain ⟨form, hfits, rfl, hwhole⟩ := hstands
    rw [deserialize_reads hfits rest true] at hrun
    cases hrun
    have hserialize := header_serialize_of_whole hfits hwhole
    refine ⟨hserialize, hserialize, ?_, ?_⟩
    · intro crypto
      rw [BlockHeader.hash, hserialize]
    · intro canonical
      have hread := deserialize_reads hfits [] canonical
      rw [List.append_nil] at hread
      rw [BlockHeader.raw, hserialize]
      exact hread

/-! ### Bitcoin -/

theorem exists_u32 {bytes : Bytes} (hlength : bytes.length = 4) :
    ∃ n : UInt32, Stream.u32 n = bytes ∧ n = UInt32.ofNat (leNat bytes) := by
  have hlt := leNat_lt bytes
  rw [hlength] at hlt
  refine ⟨UInt32.ofNat (leNat bytes), ?_, rfl⟩
  rw [Stream.u32, UInt32.toNat_ofNat_of_lt' hlt, ← hlength, leBytes_leNat]

/-- The number at the front of some bytes. -/
def leadU32 (bytes : Bytes) : UInt32 := UInt32.ofNat (leNat (bytes.take 4))

theorem run_u32 {bytes : Bytes} (hlength : 4 ≤ bytes.length) (context : ChainVariant)
    (canonical : Bool) : Reader.u32.run ⟨bytes, context, canonical⟩ =
      .ok (leadU32 bytes, ⟨bytes.drop 4, context, canonical⟩) := by
  obtain ⟨n, hbytes, hn⟩ := @exists_u32 (bytes.take 4) (by rw [List.length_take]; omega)
  have hread := codec_u32.reads n trivial (bytes.drop 4) context canonical
  rw [hbytes, List.take_append_drop, hn] at hread
  exact hread

theorem run_fixed {bytes : Bytes} {n : ℕ} (hlength : n ≤ bytes.length) (context : ChainVariant)
    (canonical : Bool) : ∃ front : FixedBytes n,
      (Reader.fixed n).run ⟨bytes, context, canonical⟩ =
        .ok (front, ⟨bytes.drop n, context, canonical⟩) := by
  have hread := (codec_fixed n).reads ⟨bytes.take n, List.length_take_of_le hlength⟩ trivial
    (bytes.drop n) context canonical
  rw [List.take_append_drop] at hread
  exact ⟨_, hread⟩

theorem rawVersion_eq {front : HeaderFront} (hrun : (readFront variant).run s = .ok (front, s')) :
    ∃ s₁, Reader.u32.run s = .ok (front.rawVersion, s₁) := by
  rw [readFront] at hrun
  obtain ⟨rawVersion, s₁, hversion, hrun⟩ := run_bind_eq_ok.mp hrun
  obtain ⟨_, _, _, hrun⟩ := run_bind_eq_ok.mp hrun
  obtain ⟨_, _, _, hrun⟩ := run_bind_eq_ok.mp hrun
  obtain ⟨_, _, _, hrun⟩ := run_bind_eq_ok.mp hrun
  obtain ⟨_, _, _, hrun⟩ := run_bind_eq_ok.mp hrun
  obtain ⟨_, _, _, hrun⟩ := run_bind_eq_ok.mp hrun
  obtain ⟨_, _, _, hrun⟩ := run_bind_eq_ok.mp hrun
  obtain ⟨_, _, _, hrun⟩ := run_bind_eq_ok.mp hrun
  obtain ⟨_, _, _, hrun⟩ := run_bind_eq_ok.mp hrun
  obtain ⟨_, _, _, hrun⟩ := run_bind_eq_ok.mp hrun
  rw [run_pure] at hrun
  cases hrun
  exact ⟨s₁, hversion⟩

theorem isZcashStyle_btc (version : UInt32) : ChainVariant.isZcashStyle .btc version = false := by
  simp [ChainVariant.isZcashStyle, ChainVariant.isKmdAssetchain]

theorem hasAuxPow_btc (version : UInt32) : BlockHeader.hasAuxPow .btc version = false := by
  simp [BlockHeader.hasAuxPow]

/-- The sections of a header of Bitcoin. -/
theorem run_readFront_btc {bytes : Bytes} (hlength : bytes.length = 80)
    (hversion : versionOfRaw (leadU32 bytes) ≠ mtpPowVersion) :
    ∃ front, front.rawVersion = leadU32 bytes ∧
      (readFront .btc).run ⟨bytes, .btc, true⟩ = .ok (front, ⟨[], .btc, true⟩) := by
  have hnonce : ∀ time, hasNonce .btc (versionOfRaw (leadU32 bytes)) time = true := by
    intro time
    simp [hasNonce, ChainVariant.isKawpow, hversion]
  obtain ⟨previousHeaderHash, hprevious⟩ := @run_fixed (bytes.drop 4) 32
    (by rw [List.length_drop]; omega) .btc true
  obtain ⟨merkleRootHash, hmerkle⟩ := @run_fixed ((bytes.drop 4).drop 32) 32
    (by simp only [List.length_drop]; omega) .btc true
  have htime := @run_u32 (((bytes.drop 4).drop 32).drop 32)
    (by simp only [List.length_drop]; omega) .btc true
  have hbits := @run_u32 ((((bytes.drop 4).drop 32).drop 32).drop 4)
    (by simp only [List.length_drop]; omega) .btc true
  have hlast := @run_u32 (((((bytes.drop 4).drop 32).drop 32).drop 4).drop 4)
    (by simp only [List.length_drop]; omega) .btc true
  have hnil : (((((bytes.drop 4).drop 32).drop 32).drop 4).drop 4).drop 4 = [] := by
    apply List.eq_nil_of_length_eq_zero
    simp only [List.length_drop]
    omega
  rw [hnil] at hlast
  have hclaim : decide (versionOfRaw (leadU32 bytes) = bip9NoSoftForkBlockHeaderVersion ∧
      ChainVariant.btc = .lbc) = false := by simp
  have hpivx : decide (ChainVariant.btc = .pivx) = false := by decide
  refine ⟨?_, ?_, ?_⟩
  rotate_left 2
  · rw [readFront]
    refine (run_bind_of_ok (run_u32 (by omega) .btc true)).trans ?_
    refine (run_bind_of_ok hprevious).trans ((run_bind_of_ok hmerkle).trans ?_)
    rw [hclaim, isZcashStyle_btc]
    refine (run_bind_of_ok (reads_none _ _)).trans ((run_bind_of_ok (reads_none _ _)).trans ?_)
    refine (run_bind_of_ok htime).trans ?_
    have hbits' : (BlockHeaderBits.deserialize false).run
        ⟨(((bytes.drop 4).drop 32).drop 32).drop 4, .btc, true⟩ = .ok (.compact _, _) :=
      run_bind_of_ok hbits
    have hnonce' : (BlockHeaderNonce.deserialize false).run
        ⟨((((bytes.drop 4).drop 32).drop 32).drop 4).drop 4, .btc, true⟩ = .ok (.u32 _, _) :=
      run_bind_of_ok hlast
    refine (run_bind_of_ok hbits').trans ?_
    rw [hnonce, hpivx]
    refine (run_bind_of_ok (reads_some hnonce')).trans ?_
    refine (run_bind_of_ok (reads_none _ _)).trans ((run_bind_of_ok (reads_none _ _)).trans ?_)
    rfl
  · rfl

theorem versionOfRaw_ne {rawVersion : UInt32} (h : rawVersion ≠ mtpPowVersion) :
    versionOfRaw rawVersion ≠ mtpPowVersion := by
  unfold versionOfRaw
  split
  · rename_i hverus
    have hfour : rawVersion ^^^ 0x00010000 = 4 := of_decide_eq_true hverus
    rw [hfour]
    decide
  · exact h

def HeaderBack.none : HeaderBack where
  progPow := Option.none
  mtpPow := Option.none
  hashStateRoot := Option.none
  hashUtxoRoot := Option.none
  prevoutStake := Option.none
  vchBlockSigDlgt := Option.none
  nHeight := Option.none
  nNonceU64 := Option.none
  mixHash := Option.none

theorem fits_none_btc {version time : UInt32} (h : version ≠ mtpPowVersion) :
    HeaderBack.none.Fits .btc version time := by
  constructor <;>
    simp [HeaderBack.none, h, ChainVariant.isQtumStyle, ChainVariant.isKawpow]

/-- The back of a header of this version has a proof of work of its own. -/
theorem length_back_of_mtp {back : HeaderBack} {time : UInt32}
    (hfits : back.Fits variant mtpPowVersion time) : 44 ≤ back.wire.length := by
  have hprog := hfits.progPow
  have hmtp := hfits.mtpPow
  rw [HeaderBack.wire, List.length_append, List.length_append]
  by_cases htime : progPowSwitchTime ≤ time
  · rw [decide_eq_true ⟨rfl, htime⟩] at hprog
    obtain ⟨pow, hpow⟩ := Option.isSome_iff_exists.mp hprog
    have hlength : (optional ProgPow.serialize back.progPow).length = 44 := by
      rw [hpow, optional, ProgPow.serialize, Stream.u32]
      simp only [List.length_append, length_leBytes, pow.mixHash.2]
    omega
  · rw [decide_eq_true ⟨rfl, UInt32.not_le.mp htime⟩] at hmtp
    obtain ⟨pow, hpow⟩ := Option.isSome_iff_exists.mp hmtp
    have hlength : (optional MtpPow.serialize back.mtpPow).length = 100 := by
      rw [hpow, optional, MtpPow.serialize, Stream.i32]
      simp only [List.length_append, length_leBytes, pow.mtpHashValue.2, pow.reserved0.2,
        pow.reserved1.2]
    omega

theorem length_front (front : HeaderFront) : 76 ≤ front.wire.length := by
  have hbits : front.bits.serialize.length = 4 := by
    cases front.bits <;> simp [BlockHeaderBits.serialize, Stream.u32]
  simp only [HeaderFront.wire, List.length_append, Stream.u32, length_leBytes, hbits,
    front.previousHeaderHash.2, front.merkleRootHash.2]
  omega

/-- Bitcoin's headers are read unless they have the version of another chain. -/
theorem btc_accepts_iff {bytes : Bytes} (hlength : bytes.length = 80) :
    (∃ header canonical, BlockHeader.deserialize.run ⟨bytes, .btc, true⟩ =
      .ok (header, ⟨[], .btc, canonical⟩)) ↔ leadU32 bytes ≠ mtpPowVersion := by
  constructor
  · intro haccepts hversion
    obtain ⟨header, canonical, hrun⟩ := haccepts
    rw [deserialize_run, BlockHeader.deserializeWith] at hrun
    obtain ⟨front, s₁, hfront, hrun⟩ := run_bind_eq_ok.mp hrun
    obtain ⟨auxPow, s₂, haux, hrun⟩ := run_bind_eq_ok.mp hrun
    obtain ⟨back, s₃, hback, hrun⟩ := run_bind_eq_ok.mp hrun
    have hraw : front.rawVersion = mtpPowVersion := by
      obtain ⟨s₄, hu32⟩ := rawVersion_eq hfront
      rw [run_u32 (by omega), Except.ok.injEq, Prod.mk.injEq] at hu32
      rw [← hu32.1]
      exact hversion
    have hmtp : front.version = mtpPowVersion := by
      rw [HeaderFront.version, hraw]
      rfl
    rw [hasAuxPow_btc, reads_none] at haux
    cases haux
    rw [hmtp] at hback
    have hle := (codec_readFront.sound hfront).2.length_le
    obtain ⟨hfits, htakes⟩ := codec_readBack.sound hback
    have hle' := htakes.length_le
    have hfrontLength := length_front front
    have hbackLength := length_back_of_mtp hfits
    simp only [hlength] at hle
    omega
  · intro hversion
    have hne := versionOfRaw_ne hversion
    obtain ⟨front, hraw, hfront⟩ := run_readFront_btc hlength hne
    have hmtp : front.version ≠ mtpPowVersion := by
      rw [HeaderFront.version, hraw]
      exact hne
    have hback := codec_readBack.reads HeaderBack.none (@fits_none_btc _ front.time hmtp)
      [] .btc true
    refine ⟨⟨headerFields front HeaderBack.none, none⟩, true, ?_⟩
    rw [deserialize_run]
    refine (run_bind_of_ok hfront).trans ?_
    rw [hasAuxPow_btc]
    refine (run_bind_of_ok (reads_none _ _)).trans ?_
    refine (run_bind_of_ok hback).trans ?_
    rfl

/-- Which headers are kept as they were received, and which Bitcoin's are accepted. -/
theorem header_codec_iff (variant : ChainVariant) (received rest bytes : Bytes)
    (header : BlockHeader) :
    (BlockHeader.deserialize.run ⟨received ++ rest, variant, true⟩ =
        .ok (header, ⟨rest, variant, true⟩) →
      (KeptAsReceived variant received header ↔ StandsWhole variant received)) ∧
    (bytes.length = 80 →
      ((∃ header canonical, BlockHeader.deserialize.run ⟨bytes, .btc, true⟩ =
        .ok (header, ⟨[], .btc, canonical⟩)) ↔ leadU32 bytes ≠ mtpPowVersion)) := by
  constructor
  · intro hrun
    exact keptAsReceived_iff hrun
  · intro hlength
    exact btc_accepts_iff hlength

/-! ### Headers of Bitcoin -/

/-- A header of 80 bytes, but for its hashes. -/
def bitcoinForm (rawVersion nonce : UInt32) : HeaderForm :=
  .plain
    { rawVersion := rawVersion, previousHeaderHash := H256.default
      merkleRootHash := H256.default, claimTrieRoot := none, earlySaplingRoot := none
      time := 1231006505, bits := .compact 0x1d00ffff, nonce := some (.u32 nonce)
      lateSaplingRoot := none, solution := none }
    HeaderBack.none

theorem bitcoinForm_fits {rawVersion nonce : UInt32} (h : rawVersion ≠ mtpPowVersion) :
    (bitcoinForm rawVersion nonce).Fits .btc := by
  have hne := versionOfRaw_ne h
  refine ⟨?_, hasAuxPow_btc _, fits_none_btc hne⟩
  constructor
  case claimTrieRoot => simp
  case earlySaplingRoot => exact (isZcashStyle_btc _).symm
  case bits => exact (isZcashStyle_btc _).symm
  case nonce =>
    constructor
    · simp [hasNonce, ChainVariant.isKawpow, HeaderFront.version, hne]
    · intro nonce hnonce
      cases hnonce
      exact (isZcashStyle_btc _).symm
  case lateSaplingRoot => simp
  case solution => exact ⟨(isZcashStyle_btc _).symm, nofun⟩

theorem bitcoinForm_run {rawVersion nonce : UInt32} (h : rawVersion ≠ mtpPowVersion) :
    BlockHeader.deserialize.run ⟨(bitcoinForm rawVersion nonce).wire ++ [], .btc, true⟩ =
      .ok ((bitcoinForm rawVersion nonce).header, ⟨[], .btc, true⟩) :=
  deserialize_reads (bitcoinForm_fits h) [] true

theorem header_codec_genesis :
    KeptAsReceived .btc (bitcoinForm 1 2083236893).wire (bitcoinForm 1 2083236893).header ↔
      StandsWhole .btc (bitcoinForm 1 2083236893).wire :=
  (header_codec_iff .btc _ [] [] _).1 (bitcoinForm_run (by decide))

/-- A header of 80 bytes whose version asks for another proof of work. -/
def mtpHeader : Bytes := Stream.u32 mtpPowVersion ++ List.replicate 76 0

/-- A header with the version of another chain and no nonce is not kept as it was received,
and another is not accepted. -/
theorem header_codec_fails :
    (BlockHeader.deserialize.run ⟨(bitcoinForm kawpowVersion 0).wire ++ [], .btc, true⟩ =
        .ok ((bitcoinForm kawpowVersion 0).header, ⟨[], .btc, true⟩) ∧
      (bitcoinForm kawpowVersion 0).header.serialize ≠ (bitcoinForm kawpowVersion 0).wire) ∧
    mtpHeader.length = 80 ∧
    ¬ ∃ header canonical, BlockHeader.deserialize.run ⟨mtpHeader, .btc, true⟩ =
      .ok (header, ⟨[], .btc, canonical⟩) := by
  have hversion : kawpowVersion ≠ mtpPowVersion := by decide
  refine ⟨⟨bitcoinForm_run hversion, ?_⟩, by decide, ?_⟩
  · intro hsame
    have hlost : ¬ (bitcoinForm kawpowVersion 0).WrittenWhole .btc :=
      fun hwhole => hwhole.kawpow ⟨by decide, rfl⟩
    have hlt := (length_header_serialize (bitcoinForm_fits hversion)).2 hlost
    rw [hsame] at hlt
    exact lt_irrefl _ hlt
  · intro haccepts
    exact (btc_accepts_iff (by decide)).mp haccepts (by decide)

end DeXFG.Utxo
