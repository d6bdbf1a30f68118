import DeXFG.Library.Spending
import DeXFG.Utxo.Types
import Mathlib.Data.List.Dedup
import Mathlib.Data.Set.Function
import Mathlib.Tactic

/-!
# The cache of recently spent outputs

The daemon may list outputs that the wallet has already spent. The cache maps
each spent output to what is left of it, through any number of own
transactions, so that a stale answer is brought up to date.
-/
namespace DeXFG.Utxo
open Library.Spending

structure CachedUnspentInfo where
  outpoint : OutPoint
  value : ℕ
  deriving DecidableEq, Repr

namespace CachedUnspentInfo

def fromUnspentInfo (unspent : UnspentInfo) : CachedUnspentInfo where
  outpoint := unspent.outpoint
  value := unspent.value

def toUnspentInfo (cached : CachedUnspentInfo) (script : Script) : UnspentInfo where
  outpoint := cached.outpoint
  value := cached.value
  height := none
  script := script

@[simp] theorem fromUnspentInfo_toUnspentInfo (cached : CachedUnspentInfo) (script : Script) :
    fromUnspentInfo (cached.toUnspentInfo script) = cached := rfl

end CachedUnspentInfo

open CachedUnspentInfo

/-- A `HashMap` from outputs to sets of outputs, by its lookups. -/
abbrev OutputMap := CachedUnspentInfo → Option (Finset CachedUnspentInfo)

structure RecentlySpentOutPoints where
  /-- The outputs that `spent` an output, as far as they are unspent. -/
  inputToOutputMap : OutputMap
  /-- The outputs that `were spent by` an output. -/
  outputToInputMap : OutputMap
  /-- The cache includes only outputs with this script. -/
  forScriptPubkey : Script

namespace RecentlySpentOutPoints

def new (forScriptPubkey : Script) : RecentlySpentOutPoints where
  inputToOutputMap := fun _ => none
  outputToInputMap := fun _ => none
  forScriptPubkey := forScriptPubkey

/-- The outputs of a transaction that replace its inputs. -/
def ownOutputs (script : Script) (spendTxHash : H256) (outputs : List TransactionOutput) :
    Finset CachedUnspentInfo :=
  ((outputs.zipIdx.filter fun output => output.1.scriptPubkey = script).map fun output =>
    { outpoint := { hash := spendTxHash, index := UInt32.ofNat output.2 }
      value := output.1.value : CachedUnspentInfo }).toFinset

/-- One pass of the loop over the inputs: every output from which the input descends is now
replaced by the new outputs in place of the input. -/
def replaceInput (outputToInputMap : OutputMap) (toReplace : Finset CachedUnspentInfo)
    (s : OutputMap × Finset CachedUnspentInfo) (input : CachedUnspentInfo) :
    OutputMap × Finset CachedUnspentInfo :=
  match outputToInputMap input with
  | none => s
  | some prevInputs =>
    (fun prevInput =>
      if prevInput ∈ prevInputs then
        (s.1 prevInput).map fun outputs => outputs.erase input ∪ toReplace
      else s.1 prevInput,
    s.2 ∪ prevInputs.filter fun prevInput => (s.1 prevInput).isSome)

/-- The set of inputs is read in the order of the list. -/
def addSpent (c : RecentlySpentOutPoints) (inputs : List UnspentInfo) (spendTxHash : H256)
    (outputs : List TransactionOutput) : RecentlySpentOutPoints :=
  let inputs := (inputs.map fromUnspentInfo).dedup
  let toReplace := ownOutputs c.forScriptPubkey spendTxHash outputs
  let (inputToOutputMap, prevInputsSpent) :=
    inputs.foldl (replaceInput c.outputToInputMap toReplace) (c.inputToOutputMap, ∅)
  let prevInputsSpent := prevInputsSpent ∪ inputs.toFinset
  { c with
    outputToInputMap := fun output =>
      if output ∈ toReplace then some prevInputsSpent else c.outputToInputMap output
    inputToOutputMap := fun input =>
      if input ∈ inputs then some toReplace else inputToOutputMap input }

/-- The outputs that the cache does not know to be spent. -/
def retain (c : RecentlySpentOutPoints) (outputs : Finset UnspentInfo) : Finset UnspentInfo :=
  outputs.filter fun unspent => c.inputToOutputMap (fromUnspentInfo unspent) = none

/-- What is left of the outputs that the cache knows to be spent. -/
def replacementUnspents (c : RecentlySpentOutPoints) (outputs : Finset UnspentInfo) :
    Finset CachedUnspentInfo :=
  outputs.biUnion fun unspent => (c.inputToOutputMap (fromUnspentInfo unspent)).getD ∅

/-- The recursion runs while something was replaced. -/
def replaceSpentOutputsWithCache (c : RecentlySpentOutPoints) :
    ℕ → Finset UnspentInfo → Option (Finset UnspentInfo)
  | 0, _ => none
  | fuel + 1, outputs =>
    if c.replacementUnspents outputs = ∅ then
      some (c.retain outputs)
    else
      c.replaceSpentOutputsWithCache fuel (c.retain outputs ∪
        (c.replacementUnspents outputs).image fun cached => cached.toUnspentInfo c.forScriptPubkey)

end RecentlySpentOutPoints

/-- What is recorded of an own transaction. -/
structure SpentTx where
  inputs : List UnspentInfo
  hash : H256
  outputs : List TransactionOutput

/-- An own transaction as a spend of own outputs. -/
def SpentTx.toSpend (script : Script) (tx : SpentTx) : Spend CachedUnspentInfo where
  ins := (tx.inputs.map fromUnspentInfo).toFinset
  outs := RecentlySpentOutPoints.ownOutputs script tx.hash tx.outputs

/-- The cache after a sequence of own transactions. -/
def recorded (script : Script) (history : List SpentTx) : RecentlySpentOutPoints :=
  history.foldl (fun c tx => c.addSpent tx.inputs tx.hash tx.outputs)
    (RecentlySpentOutPoints.new script)

/-- The spends of a sequence of own transactions. -/
def spends (script : Script) (history : List SpentTx) : List (Spend CachedUnspentInfo) :=
  history.map (SpentTx.toSpend script)

namespace RecentlySpentOutPoints

/-! ## The loop over the inputs -/

section Loop

variable {oi io : OutputMap} {toReplace prev F : Finset CachedUnspentInfo}
  {s : OutputMap × Finset CachedUnspentInfo} {inputs : List CachedUnspentInfo}
  {input p b : CachedUnspentInfo}

/-- What the cache holds an output to descend from. -/
def prevInputsOf (oi : OutputMap) (input : CachedUnspentInfo) : Finset CachedUnspentInfo :=
  (oi input).getD ∅

theorem replaceInput_fst :
    (replaceInput oi toReplace s input).1 p =
      if p ∈ prevInputsOf oi input then
        (s.1 p).map fun outputs => outputs.erase input ∪ toReplace
      else s.1 p := by
  unfold replaceInput prevInputsOf
  cases oi input with
  | none => simp
  | some prevInputs => rfl

theorem mem_replaceInput_snd :
    p ∈ (replaceInput oi toReplace s input).2 ↔
      p ∈ s.2 ∨ (p ∈ prevInputsOf oi input ∧ (s.1 p).isSome) := by
  unfold replaceInput prevInputsOf
  cases oi input with
  | none => simp
  | some prevInputs => simp

theorem isSome_replaceInput_fst :
    ((replaceInput oi toReplace s input).1 p).isSome = (s.1 p).isSome := by
  rw [replaceInput_fst]
  split
  · exact Option.isSome_map
  · rfl

theorem isSome_foldl_fst :
    ((inputs.foldl (replaceInput oi toReplace) s).1 p).isSome = (s.1 p).isSome := by
  induction inputs generalizing s with
  | nil => rfl
  | cons input inputs ih => rw [List.foldl_cons, ih, isSome_replaceInput_fst]

theorem mem_foldl_snd :
    p ∈ (inputs.foldl (replaceInput oi toReplace) s).2 ↔
      p ∈ s.2 ∨ ((s.1 p).isSome ∧ ∃ i ∈ inputs, p ∈ prevInputsOf oi i) := by
  induction inputs generalizing s with
  | nil => simp
  | cons input inputs ih =>
    rw [List.foldl_cons, ih, mem_replaceInput_snd, isSome_replaceInput_fst]
    simp only [List.mem_cons, exists_eq_or_imp]
    tauto

/-- An output left of `p` after the loop was left before and is not an input that descends
from `p`, or is new and some input descends from `p`. -/
theorem mem_foldl_fst (hnew : ∀ i ∈ inputs, i ∉ toReplace) (hF : s.1 p = some F) :
    ∃ G, (inputs.foldl (replaceInput oi toReplace) s).1 p = some G ∧
      ∀ b, b ∈ G ↔
        (b ∈ F ∧ ∀ i ∈ inputs, p ∈ prevInputsOf oi i → b ≠ i) ∨
          (b ∈ toReplace ∧ ∃ i ∈ inputs, p ∈ prevInputsOf oi i) := by
  induction inputs generalizing s F with
  | nil => exact ⟨F, hF, by simp⟩
  | cons input inputs ih =>
    rw [List.forall_mem_cons] at hnew
    by_cases hp : p ∈ prevInputsOf oi input
    · have hstep : (replaceInput oi toReplace s input).1 p =
          some (F.erase input ∪ toReplace) := by
        rw [replaceInput_fst, if_pos hp, hF]
        rfl
      obtain ⟨G, hG, hmem⟩ := ih hnew.2 hstep
      refine ⟨G, hG, fun b => ?_⟩
      have hne : b ∈ toReplace → ∀ i ∈ inputs, p ∈ prevInputsOf oi i → b ≠ i :=
        fun hb i hi _ heq => hnew.2 i hi (heq ▸ hb)
      rw [hmem b]
      simp only [Finset.mem_union, Finset.mem_erase, List.mem_cons, forall_eq_or_imp,
        exists_eq_or_imp, hp, forall_const, true_or, and_true]
      tauto
    · have hstep : (replaceInput oi toReplace s input).1 p = some F := by
        rw [replaceInput_fst, if_neg hp, hF]
      obtain ⟨G, hG, hmem⟩ := ih hnew.2 hstep
      refine ⟨G, hG, fun b => ?_⟩
      rw [hmem b]
      simp [hp]

end Loop

/-! ## What the cache knows -/

/-- The cache agrees with a history: it has an entry for each spent output, namely what is
left below it, and holds each output to descend from what it descends from. -/
structure Tracks (c : RecentlySpentOutPoints) (h : List (Spend CachedUnspentInfo)) : Prop where
  spent : ∀ a, (c.inputToOutputMap a).isSome ↔ Spent h a
  frontier : ∀ a F, c.inputToOutputMap a = some F → Frontier h a F
  ancestors : ∀ b, Ancestors h b (prevInputsOf c.outputToInputMap b)

variable {c : RecentlySpentOutPoints} {h : List (Spend CachedUnspentInfo)} {tx : SpentTx}
  {deposits : CachedUnspentInfo → Prop} {script : Script} {history answered : List SpentTx}
  {outputs result : Finset UnspentInfo} {a b : CachedUnspentInfo}

theorem tracks_new : Tracks (new script) [] := by
  have hstep : ∀ a b : CachedUnspentInfo, ¬ Relation.TransGen (Step []) a b := by
    intro a b hab
    obtain ⟨t, ht, _⟩ := spent_of_transGen hab
    cases ht
  constructor
  · simp [new, Spent]
  · intro a F hF
    cases hF
  · intro b a
    simp [prevInputsOf, new, hstep]

theorem prevInputsOf_addSpent :
    prevInputsOf (c.addSpent tx.inputs tx.hash tx.outputs).outputToInputMap b =
      if b ∈ (tx.toSpend c.forScriptPubkey).outs then
        ((tx.inputs.map fromUnspentInfo).dedup.foldl
          (replaceInput c.outputToInputMap (tx.toSpend c.forScriptPubkey).outs)
          (c.inputToOutputMap, ∅)).2 ∪ (tx.inputs.map fromUnspentInfo).dedup.toFinset
      else prevInputsOf c.outputToInputMap b := by
  change (if b ∈ (tx.toSpend c.forScriptPubkey).outs then _ else _ :
    Option (Finset CachedUnspentInfo)).getD ∅ = _
  split <;> rfl

/-- Recording a transaction that may follow the history keeps the agreement. -/
theorem Tracks.addSpent (tx : SpentTx) (hc : Tracks c h) (ho : Orderly deposits h)
    (hfollows : Follows deposits h (tx.toSpend c.forScriptPubkey)) :
    Tracks (c.addSpent tx.inputs tx.hash tx.outputs) (h ++ [tx.toSpend c.forScriptPubkey]) := by
  have hins : ∀ i, i ∈ (tx.toSpend c.forScriptPubkey).ins ↔
      i ∈ (tx.inputs.map fromUnspentInfo).dedup := by
    simp [SpentTx.toSpend]
  have hnew : ∀ i ∈ (tx.inputs.map fromUnspentInfo).dedup,
      i ∉ (tx.toSpend c.forScriptPubkey).outs :=
    fun i hi hout => hfollows.not_mem_ins hout ((hins i).mpr hi)
  constructor
  · intro a
    rw [spent_append, hins]
    simp only [RecentlySpentOutPoints.addSpent]
    split
    · simp [*]
    · rw [isSome_foldl_fst, hc.spent]
      simp [*]
  · intro a G hG
    simp only [RecentlySpentOutPoints.addSpent] at hG
    split at hG
    · cases hG
      exact frontier_of_mem_ins ho hfollows ((hins a).mpr ‹_›)
    · have hsome : (c.inputToOutputMap a).isSome := by
        rw [← isSome_foldl_fst (s := (c.inputToOutputMap, ∅)), hG]
        rfl
      obtain ⟨F, hF⟩ := Option.isSome_iff_exists.mp hsome
      obtain ⟨G', hG', hmem⟩ := mem_foldl_fst (s := (c.inputToOutputMap, ∅)) hnew hF
      have heq : G = G' := Option.some.inj (hG.symm.trans hG')
      rw [heq]
      apply (hc.frontier a F hF).append ho hfollows ((hc.spent a).mp hsome)
      intro b
      rw [hmem b]
      simp only [hins, (hc.ancestors _) _]
  · intro b
    rw [prevInputsOf_addSpent]
    split
    · rename_i hout
      apply ancestors_of_mem_outs ho hfollows hout
      intro a
      have hspent : (∃ i ∈ (tx.toSpend c.forScriptPubkey).ins,
          Relation.TransGen (Step h) a i) → Spent h a :=
        fun ⟨_, _, hdesc⟩ => spent_of_transGen hdesc
      rw [Finset.mem_union, mem_foldl_snd, List.mem_toFinset, ← hins, hc.spent a]
      simp only [← hins, (hc.ancestors _) _, Finset.notMem_empty, false_or]
      rw [and_iff_right_of_imp hspent, or_comm]
    · exact (hc.ancestors b).append ho hfollows ‹_›

theorem recorded_append :
    recorded script (history ++ [tx]) =
      (recorded script history).addSpent tx.inputs tx.hash tx.outputs := by
  simp [recorded]

@[simp] theorem forScriptPubkey_recorded : (recorded script history).forScriptPubkey = script := by
  induction history using List.reverseRecOn with
  | nil => rfl
  | append_singleton history tx ih =>
    rw [recorded_append]
    exact ih

/-- The cache agrees with every orderly history it has recorded. -/
theorem tracks_recorded (ho : Orderly deposits (spends script history)) :
    Tracks (recorded script history) (spends script history) := by
  induction history using List.reverseRecOn with
  | nil => exact tracks_new
  | append_singleton history tx ih =>
    have hspends : spends script (history ++ [tx]) = spends script history ++ [tx.toSpend script] :=
      List.map_append
    rw [hspends] at ho ⊢
    obtain ⟨hbefore, hfollows⟩ := orderly_append.mp ho
    rw [recorded_append]
    have hscript : tx.toSpend (recorded script history).forScriptPubkey = tx.toSpend script := by
      rw [forScriptPubkey_recorded]
    have hstep := (ih hbefore).addSpent tx hbefore (hscript ▸ hfollows)
    rwa [hscript] at hstep

/-! ## Replacing spent outputs -/

theorem mem_replacementUnspents :
    b ∈ c.replacementUnspents outputs ↔
      ∃ unspent ∈ outputs, b ∈ (c.inputToOutputMap (fromUnspentInfo unspent)).getD ∅ := by
  simp [replacementUnspents]

/-- What the cache holds to be left of an output is indeed below it. -/
theorem Tracks.frontier_getD (hc : Tracks c h) (ha : Spent h a) :
    Frontier h a ((c.inputToOutputMap a).getD ∅) := by
  obtain ⟨F, hF⟩ := Option.isSome_iff_exists.mp ((hc.spent a).mpr ha)
  rw [hF]
  exact hc.frontier a F hF

theorem Tracks.eq_none_iff (hc : Tracks c h) : c.inputToOutputMap a = none ↔ ¬ Spent h a := by
  rw [← hc.spent a, Option.not_isSome_iff_eq_none]

theorem Tracks.spent_of_mem (hc : Tracks c h) (hb : b ∈ (c.inputToOutputMap a).getD ∅) :
    Spent h a := by
  by_contra hunspent
  rw [hc.eq_none_iff.mpr hunspent] at hb
  exact absurd hb (Finset.notMem_empty b)

/-- Nothing is to be replaced once no output is spent. -/
theorem replace_of_none (hnone : ∀ unspent ∈ outputs,
    c.inputToOutputMap (fromUnspentInfo unspent) = none) (fuel : ℕ) :
    c.replaceSpentOutputsWithCache (fuel + 1) outputs = some outputs := by
  have hempty : c.replacementUnspents outputs = ∅ := by
    ext b
    rw [mem_replacementUnspents]
    constructor
    · intro hb
      obtain ⟨unspent, hmem, hb⟩ := hb
      rwa [hnone unspent hmem] at hb
    · exact fun hb => absurd hb (Finset.notMem_empty b)
  rw [replaceSpentOutputsWithCache, if_pos hempty, retain, Finset.filter_true_of_mem hnone]

/-- Two rounds suffice: what replaces a spent output is unspent. -/
theorem Tracks.replace_eq (hc : Tracks c h) (fuel : ℕ) :
    c.replaceSpentOutputsWithCache (fuel + 2) outputs = some (c.retain outputs ∪
      (c.replacementUnspents outputs).image fun cached =>
        cached.toUnspentInfo c.forScriptPubkey) := by
  rw [replaceSpentOutputsWithCache]
  split
  · rename_i hempty
    rw [hempty, Finset.image_empty, Finset.union_empty]
  · apply replace_of_none
    intro unspent hmem
    rcases Finset.mem_union.mp hmem with hretained | hreplaced
    · exact (Finset.mem_filter.mp hretained).2
    · obtain ⟨cached, hcached, rfl⟩ := Finset.mem_image.mp hreplaced
      obtain ⟨spent, _, hbelow⟩ := mem_replacementUnspents.mp hcached
      rw [fromUnspentInfo_toUnspentInfo, hc.eq_none_iff]
      exact ((hc.frontier_getD (hc.spent_of_mem hbelow) cached).mp hbelow).2

/-- The outputs left are the unspent ones among those that the given ones lead to. -/
theorem Tracks.mem_replaced (hc : Tracks c h) (script : Script) :
    b ∈ (c.retain outputs ∪ (c.replacementUnspents outputs).image fun cached =>
        cached.toUnspentInfo script).image fromUnspentInfo ↔
      (∃ a ∈ outputs.image fromUnspentInfo, Relation.ReflTransGen (Step h) a b) ∧
        ¬ Spent h b := by
  rw [← unspent_below_iff (U := fun a => a ∈ outputs.image fromUnspentInfo)
    (F := fun a => (c.inputToOutputMap a).getD ∅) fun a ha => hc.frontier_getD ha]
  rw [Finset.image_union, Finset.mem_union, Finset.image_image]
  apply or_congr
  · simp only [retain, Finset.mem_image, Finset.mem_filter, hc.eq_none_iff]
    constructor
    · intro hb
      obtain ⟨unspent, ⟨hmem, hunspent⟩, rfl⟩ := hb
      exact ⟨⟨unspent, hmem, rfl⟩, hunspent⟩
    · intro hb
      obtain ⟨⟨unspent, hmem, rfl⟩, hunspent⟩ := hb
      exact ⟨unspent, ⟨hmem, hunspent⟩, rfl⟩
  · change b ∈ (c.replacementUnspents outputs).image id ↔ _
    rw [Finset.image_id, mem_replacementUnspents]
    simp only [Finset.exists_mem_image]
    constructor
    · intro hb
      obtain ⟨unspent, hmem, hb⟩ := hb
      exact ⟨unspent, hmem, hc.spent_of_mem hb, hb⟩
    · intro hb
      obtain ⟨unspent, hmem, _, hb⟩ := hb
      exact ⟨unspent, hmem, hb⟩

/-- No output is listed twice, when the answer shows a closed part of the history: what
replaces a spent output was not in the answer. -/
theorem Tracks.injOn_replaced (hc : Tracks c (spends script history))
    (ho : Orderly deposits (spends script history))
    (hpart : ClosedPart (spends script history) (spends script answered))
    (hanswer : ∀ a, a ∈ outputs.image fromUnspentInfo ↔
      Unspent deposits (spends script answered) a)
    (hinj : Set.InjOn fromUnspentInfo outputs) :
    Set.InjOn fromUnspentInfo (c.retain outputs ∪ (c.replacementUnspents outputs).image
      fun cached => cached.toUnspentInfo script : Finset UnspentInfo) := by
  have hapart : ∀ u ∈ c.retain outputs, ∀ cached ∈ c.replacementUnspents outputs,
      fromUnspentInfo u ≠ cached := by
    intro u hu cached hcached heq
    obtain ⟨spent, hspent, hbelow⟩ := mem_replacementUnspents.mp hcached
    have hdesc := ((hc.frontier_getD (hc.spent_of_mem hbelow) cached).mp hbelow).1
    have hmem := Finset.mem_image_of_mem fromUnspentInfo (Finset.mem_filter.mp hu).1
    rw [← heq] at hdesc
    exact hpart.not_transGen ho ((hanswer _).mp (Finset.mem_image_of_mem _ hspent))
      ((hanswer _).mp hmem) hdesc
  intro u hu v hv heq
  rw [Finset.mem_coe, Finset.mem_union] at hu hv
  rcases hu with hu | hu
  · rcases hv with hv | hv
    · exact hinj (Finset.mem_filter.mp hu).1 (Finset.mem_filter.mp hv).1 heq
    · obtain ⟨cached, hcached, rfl⟩ := Finset.mem_image.mp hv
      exact absurd heq (hapart u hu cached hcached)
  · obtain ⟨cached, hcached, rfl⟩ := Finset.mem_image.mp hu
    rcases hv with hv | hv
    · exact absurd heq.symm (hapart v hv cached hcached)
    · obtain ⟨cached', _, rfl⟩ := Finset.mem_image.mp hv
      have hsame : cached = cached' := heq
      rw [hsame]

/-- Every unspent output descends from the answer, and nothing else is left of it. -/
theorem unspent_iff_descends (ho : Orderly deposits (spends script history))
    (hsub : spends script answered ⊆ spends script history)
    (hanswer : ∀ a, a ∈ outputs.image fromUnspentInfo ↔
      Unspent deposits (spends script answered) a)
    (hins : ∀ tx ∈ history, tx.inputs ≠ []) :
    Unspent deposits (spends script history) b ↔
      (∃ a ∈ outputs.image fromUnspentInfo,
        Relation.ReflTransGen (Step (spends script history)) a b) ∧
        ¬ Spent (spends script history) b := by
  constructor
  · intro hb
    obtain ⟨hknown, hunspent⟩ := hb
    refine ⟨?_, hunspent⟩
    have hnonempty : ∀ t ∈ spends script history, t.ins.Nonempty := by
      intro t ht
      obtain ⟨tx, htx, rfl⟩ := List.mem_map.mp ht
      obtain ⟨unspent, hmem⟩ := List.exists_mem_of_ne_nil _ (hins tx htx)
      exact ⟨fromUnspentInfo unspent, by
        simpa [SpentTx.toSpend] using ⟨unspent, hmem, rfl⟩⟩
    have hunspent' : ¬ Spent (spends script answered) b := fun ⟨t, ht, hin⟩ =>
      hunspent ⟨t, hsub ht, hin⟩
    obtain ⟨a, ha, hdesc⟩ := ho.descends hsub hnonempty hknown hunspent'
    exact ⟨a, (hanswer a).mpr ha, hdesc⟩
  · intro hb
    obtain ⟨⟨a, ha, hdesc⟩, hunspent⟩ := hb
    refine ⟨?_, hunspent⟩
    rcases Relation.reflTransGen_iff_eq_or_transGen.mp hdesc with heq | htrans
    · rw [heq]
      rcases ((hanswer a).mp ha).1 with hinit | ⟨t, ht, hout⟩
      · exact Or.inl hinit
      · exact Or.inr ⟨t, hsub ht, hout⟩
    · exact Or.inr (made_of_transGen htrans)

/-- Bringing an answer of the daemon up to date. The recursion ends after at most two rounds.
The outputs it returns are those that no recorded transaction spends among the ones reachable
from the answer. When the answer shows a part of the own transactions they are all the unspent
own outputs, each once. -/
theorem replace_spent_outputs_exact (script : Script) (deposits : CachedUnspentInfo → Prop)
    (history answered : List SpentTx) (outputs : Finset UnspentInfo)
    (ho : Orderly deposits (spends script history))
    (hpart : ClosedPart (spends script history) (spends script answered))
    (hanswer : ∀ a, a ∈ outputs.image fromUnspentInfo ↔
      Unspent deposits (spends script answered) a)
    (fuel : ℕ) :
    ∃ result, (recorded script history).replaceSpentOutputsWithCache (fuel + 2) outputs =
        some result ∧
      (∀ b, b ∈ result.image fromUnspentInfo ↔
        (∃ a ∈ outputs.image fromUnspentInfo,
          Relation.ReflTransGen (Step (spends script history)) a b) ∧
          ¬ Spent (spends script history) b) ∧
      ((∀ tx ∈ history, tx.inputs ≠ []) → ∀ b, b ∈ result.image fromUnspentInfo ↔
        Unspent deposits (spends script history) b) ∧
      (Set.InjOn fromUnspentInfo outputs → Set.InjOn fromUnspentInfo result) := by
  have hc := tracks_recorded ho
  refine ⟨_, hc.replace_eq fuel, fun b => hc.mem_replaced _, ?_, ?_⟩
  · intro hins b
    rw [hc.mem_replaced, unspent_iff_descends ho hpart.subset hanswer hins]
  · intro hinj
    rw [forScriptPubkey_recorded]
    exact hc.injOn_replaced ho hpart hanswer hinj

/-! A deposit of 100, a payment of 30 from it with change of 60, and the change sent back to the
own address. -/

def sampleDeposit : UnspentInfo where
  outpoint := { hash := ⟨List.replicate 32 1, rfl⟩, index := 0 }
  value := 100
  height := some 7
  script := [0x51]

def samplePayment : SpentTx where
  inputs := [sampleDeposit]
  hash := ⟨List.replicate 32 2, rfl⟩
  outputs := [{ value := 30, scriptPubkey := [0x52] }, { value := 60, scriptPubkey := [0x51] }]

def sampleReturn : SpentTx where
  inputs := [{ outpoint := { hash := ⟨List.replicate 32 2, rfl⟩, index := 1 }, value := 60
               height := none, script := [0x51] }]
  hash := ⟨List.replicate 32 3, rfl⟩
  outputs := [{ value := 50, scriptPubkey := [0x51] }]

theorem replace_spent_outputs_sample :
    ∃ result, (recorded [0x51] [samplePayment, sampleReturn]).replaceSpentOutputsWithCache 2
        {sampleDeposit} = some result ∧
      (∀ b, b ∈ result.image fromUnspentInfo ↔
        (∃ a ∈ ({sampleDeposit} : Finset UnspentInfo).image fromUnspentInfo,
          Relation.ReflTransGen (Step (spends [0x51] [samplePayment, sampleReturn])) a b) ∧
          ¬ Spent (spends [0x51] [samplePayment, sampleReturn]) b) ∧
      ((∀ tx ∈ [samplePayment, sampleReturn], tx.inputs ≠ []) →
        ∀ b, b ∈ result.image fromUnspentInfo ↔
          Unspent (· = fromUnspentInfo sampleDeposit)
            (spends [0x51] [samplePayment, sampleReturn]) b) ∧
      (Set.InjOn fromUnspentInfo ({sampleDeposit} : Finset UnspentInfo) →
        Set.InjOn fromUnspentInfo result) := by
  apply replace_spent_outputs_exact [0x51] (· = fromUnspentInfo sampleDeposit)
    [samplePayment, sampleReturn] [] {sampleDeposit} _ _ _ 0
  · exact Orderly.snoc [samplePayment.toSpend [0x51]] _
      (Orderly.snoc [] _ Orderly.nil (by decide)) (by decide)
  · constructor
    · exact List.nil_subset _
    · intro t ht
      cases ht
  · intro a
    simp [spends, Unspent, Spent, Made]

end RecentlySpentOutPoints

end DeXFG.Utxo
