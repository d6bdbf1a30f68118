import DeXFG.Library.ShortestPrefix
import DeXFG.Utxo.TxBuilder

/-!
# What the builder builds

As long as no sum leaves a `u64`, the loop ends: what it goes on with needs a larger fee than what
it came with, and no transaction needs a larger one than that with all inputs and a change output.
-/
namespace DeXFG.Utxo
open Library.Loops (Flow loop loop_ends of_loop)
open Library.ShortestPrefix (IsShortest)

/-! ## Sums -/

def totalValue (utxos : List UnspentInfo) : ℕ := (utxos.map UnspentInfo.value).sum

def totalOutputs (outputs : List TransactionOutput) : ℕ :=
  (outputs.map TransactionOutput.value).sum

@[simp] theorem totalValue_append (utxos utxos' : List UnspentInfo) :
    totalValue (utxos ++ utxos') = totalValue utxos + totalValue utxos' := by
  simp [totalValue]

@[simp] theorem totalOutputs_append (outputs outputs' : List TransactionOutput) :
    totalOutputs (outputs ++ outputs') = totalOutputs outputs + totalOutputs outputs' := by
  simp [totalOutputs]

theorem totalValue_le_of_prefix {utxos utxos' : List UnspentInfo} (h : utxos <+: utxos') :
    totalValue utxos ≤ totalValue utxos' := by
  obtain ⟨rest, rfl⟩ := h
  simp

theorem sumValues_eq (values : List ℕ) : sumValues values = wrapping values.sum := by
  have hfold : ∀ values total, List.foldl (fun total value => wrapping (total + value))
      (wrapping total) values = wrapping (total + List.sum values) := by
    intro values
    induction values with
    | nil => simp
    | cons value values ih =>
      intro total
      rw [List.foldl_cons, wrapping_wrapping_add, ih, List.sum_cons, Nat.add_assoc]
  simpa [sumValues, wrapping] using hfold values 0

theorem sumValues_of_lt {values : List ℕ} (h : values.sum < 2 ^ 64) :
    sumValues values = values.sum := by
  rw [sumValues_eq, wrapping_eq h]

/-- The fewest available inputs that reach the amount are taken, from the first one on. -/
theorem takeAvailable_isShortest (amount : ℕ) {total : ℕ} {utxos : List UnspentInfo}
    (hfits : total + totalValue utxos < 2 ^ 64) :
    IsShortest (fun taken => amount ≤ total + totalValue taken) utxos
      (takeAvailable amount total utxos) := by
  induction utxos generalizing total with
  | nil =>
    refine { isPrefix := List.prefix_rfl, reaches := .inr rfl, shorter := ?_ }
    intro p hp hne
    exact absurd (List.prefix_nil.mp hp) hne
  | cons utxo utxos ih =>
    have hsum : total + totalValue (utxo :: utxos) = total + utxo.value + totalValue utxos := by
      simp [totalValue, Nat.add_assoc]
    rw [takeAvailable]
    split
    next hreached =>
      refine { isPrefix := List.nil_prefix, reaches := .inl (by simpa [totalValue]), shorter := ?_ }
      intro p hp hne
      exact absurd (List.prefix_nil.mp hp) hne
    next hreached =>
      rw [hsum] at hfits
      have hshortest := ih hfits
      rw [wrapping_eq (by omega)]
      have hcons : ∀ taken, amount ≤ total + totalValue (utxo :: taken) ↔
          amount ≤ total + utxo.value + totalValue taken := by
        intro taken
        simp [totalValue, Nat.add_assoc]
      refine { isPrefix := ?_, reaches := ?_, shorter := ?_ }
      · exact List.prefix_cons_inj utxo |>.mpr hshortest.isPrefix
      · rw [hcons]
        exact hshortest.reaches.imp_right (congrArg (utxo :: ·))
      · intro p hp hne
        cases p with
        | nil => simpa [totalValue] using hreached
        | cons first p =>
          obtain ⟨rfl, hp⟩ := List.cons_prefix_cons.mp hp
          rw [hcons]
          exact hshortest.shorter p hp fun h => hne (by rw [h])

/-! ## Interest -/

def totalAmount (inputs : List UnsignedTransactionInput) : ℕ :=
  (inputs.map UnsignedTransactionInput.amount).sum

theorem totalAmount_toInput (utxos : List UnspentInfo) :
    totalAmount (utxos.map UnspentInfo.toInput) = totalValue utxos := by
  simp [totalAmount, totalValue, Function.comp_def, UnspentInfo.toInput]

theorem sumInterest_le {prevTxns : H256 → Option VerboseTransaction} {lockTime : UInt32}
    {inputs : List UnsignedTransactionInput} {interest result : ℕ}
    (h : sumInterest prevTxns lockTime interest inputs = .ok result) :
    20 * result ≤ 20 * interest + totalAmount inputs := by
  induction inputs generalizing interest with
  | nil =>
    cases h
    exact Nat.le_add_right _ _
  | cons input inputs ih =>
    have hcons : totalAmount (input :: inputs) = input.amount + totalAmount inputs := by
      simp [totalAmount]
    rw [sumInterest] at h
    split at h
    · cases h
    · split at h
      next outputInterest hinterest =>
        have hreward := twenty_mul_kmdInterest_le hinterest
        have hwrap := wrapping_le (interest + outputInterest)
        have hrest := ih h
        omega
      next =>
        have hrest := ih h
        omega

/-- Only the lock time is changed, and the interest is at most a twentieth of the inputs. -/
theorem of_calcInterestIfRequired {coin : TxGenerationOps} {turn : ℕ}
    {unsigned tx : TransactionInputSigner} {interest : ℕ}
    (h : calcInterestIfRequired coin turn unsigned = .ok (tx, interest)) :
    (∃ lockTime, tx = { unsigned with lockTime := lockTime }) ∧
      20 * interest ≤ totalAmount unsigned.inputs ∧
      (coin.supportsInterest = false → interest = 0) := by
  rw [calcInterestIfRequired] at h
  split at h
  next hsupports =>
    cases hmtp : (coin.interestSources turn).currentMtp with
    | error e => simp [hmtp, bind, Except.bind] at h
    | ok mtp =>
      cases htxns : (coin.interestSources turn).prevTxns with
      | error e => simp [hmtp, htxns, bind, Except.bind] at h
      | ok prevTxns =>
        cases hsum : sumInterest prevTxns mtp 0 unsigned.inputs with
        | error e => simp [hmtp, htxns, hsum, bind, Except.bind] at h
        | ok total =>
          simp only [hmtp, htxns, hsum, bind, Except.bind, pure, Except.pure, Except.ok.injEq,
            Prod.mk.injEq] at h
          obtain ⟨htx, rfl⟩ := h
          exact ⟨⟨_, htx.symm⟩, by simpa using sumInterest_le hsum,
            fun hfalse => absurd hsupports (by simp [hfalse])⟩
  next =>
    cases h
    exact ⟨⟨unsigned.lockTime, rfl⟩, Nat.zero_le _, fun _ => rfl⟩

/-! ## The bounds of a build -/

namespace UtxoTxBuilder

/-- What the turns of the loop change. -/
structure Work where
  inputs : List UnsignedTransactionInput
  outputs : List TransactionOutput
  lockTime : UInt32
  sumInputs : ℕ
  sumOutputs : ℕ
  txFeeNeeded : ℕ
  interest : ℕ

namespace Started

variable (coin : TxGenerationOps) (s : Started)

def working (w : Work) : UtxoTxBuilder :=
  { s.builder with
    tx := { s.builder.tx with inputs := w.inputs, outputs := w.outputs, lockTime := w.lockTime }
    sumInputs := w.sumInputs
    sumOutputs := w.sumOutputs
    txFeeNeeded := w.txFeeNeeded
    interest := w.interest }

def allInputs : List UnspentInfo := s.builder.requiredInputs ++ s.builder.availableInputs

def gas : ℕ := s.builder.gasFee.getD 0

/-- The transaction of all inputs, with a change output. -/
def largest : TransactionInputSigner :=
  { s.builder.tx with
    inputs := s.allInputs.map UnspentInfo.toInput
    outputs := s.builder.outputs ++ [{ value := 0, scriptPubkey := s.changeScriptPubkey }] }

/-- The fee that a transaction needs for its size. -/
def feeOf (tx : TransactionInputSigner) : ℕ :=
  getTxFeeWithRelayFee s.feeRate (txSizeInVBytes s.format (.fromSigner tx))
    s.builder.minRelayFeeRate

def maxFee : ℕ := s.feeOf s.largest

/-- What the inputs have to be worth for a fee. -/
def required (fee : ℕ) : ℕ :=
  match s.builder.feePolicy with
  | .sendExact => totalOutputs s.builder.outputs + fee + s.gas
  | .deductFromOutput _ => totalOutputs s.builder.outputs

/-- A new builder whose sums and products all fit in a `u64`. -/
structure Fits : Prop where
  fresh : s.builder.txFeeNeeded = 0
  rate : s.feeRate.perKb * txSizeInVBytes s.format (.fromSigner s.largest) < 2 ^ 64
  relay : ∀ minRelay, s.builder.minRelayFeeRate = some minRelay →
    minRelay * txSizeInVBytes s.format (.fromSigner s.largest) < 2 ^ 64
  amounts : 2 * totalValue s.allInputs + totalOutputs s.builder.outputs + s.maxFee + s.gas +
    s.builder.dustLimit coin < 2 ^ 64

/-- The outputs that were asked for, less the fee where it is taken from one of them. -/
def Deducted (fee : ℕ) (paid : List TransactionOutput) : Prop :=
  match s.builder.feePolicy with
  | .sendExact => paid = s.builder.outputs
  | .deductFromOutput i => ∃ output, s.builder.outputs[i]? = some output ∧
      fee + s.gas + s.builder.dustLimit coin ≤ output.value ∧
      paid = s.builder.outputs.set i { output with value := output.value - (fee + s.gas) }

variable {coin s} {w : Work} {fee : ℕ}

theorem required_mono {fee' : ℕ} (h : fee ≤ fee') : s.required fee ≤ s.required fee' := by
  simp only [required]
  split <;> omega

/-- No transaction of the loop is larger than the one with all inputs and a change output. -/
theorem feeOf_le_maxFee (hfits : s.Fits coin) {utxos : List UnspentInfo}
    {outputs : List TransactionOutput} (change : List TransactionOutput) (lockTime : UInt32)
    (hutxos : utxos.length ≤ s.allInputs.length)
    (houtputs : outputs.map TransactionOutput.scriptPubkey =
      s.builder.outputs.map TransactionOutput.scriptPubkey)
    (hchange : change = [] ∨
      ∃ value, change = [{ value := value, scriptPubkey := s.changeScriptPubkey }]) :
    s.feeOf { s.builder.tx with
      inputs := utxos.map UnspentInfo.toInput, outputs := outputs ++ change
      lockTime := lockTime } ≤ s.maxFee := by
  have hlength : outputs.length = s.builder.outputs.length := by
    simpa using congrArg List.length houtputs
  apply getTxFeeWithRelayFee_mono _ hfits.rate hfits.relay
  apply txSizeInVBytes_mono
  · simpa using hutxos
  · rw [List.length_append, List.length_append, hlength]
    rcases hchange with rfl | ⟨value, rfl⟩ <;> simp
  · rw [outputsLength_append, outputsLength_append, outputsLength_congr houtputs]
    apply Nat.add_le_add_left
    rcases hchange with rfl | ⟨value, rfl⟩
    · simp [outputsLength]
    · exact (outputsLength_congr (by simp)).le

/-! ## The inputs of a turn -/

/-- The inputs are the required ones and the fewest others that reach what is required. -/
structure Taken (s : Started) (fee : ℕ) (inputs : List UnsignedTransactionInput) (sum : ℕ)
    (taken : List UnspentInfo) : Prop where
  shortest : IsShortest
    (fun taken => s.required fee ≤ totalValue (s.builder.requiredInputs ++ taken))
    s.builder.availableInputs taken
  inputs_eq : inputs = (s.builder.requiredInputs ++ taken).map UnspentInfo.toInput
  sum_eq : sum = totalValue (s.builder.requiredInputs ++ taken)

namespace Taken

variable {inputs : List UnsignedTransactionInput} {sum : ℕ} {taken : List UnspentInfo}

theorem sum_le (h : Taken s fee inputs sum taken) : sum ≤ totalValue s.allInputs := by
  have hle := totalValue_le_of_prefix h.shortest.isPrefix
  rw [h.sum_eq, allInputs, totalValue_append, totalValue_append]
  omega

theorem length_le (h : Taken s fee inputs sum taken) :
    (s.builder.requiredInputs ++ taken).length ≤ s.allInputs.length := by
  have hle := h.shortest.isPrefix.length_le
  rw [allInputs, List.length_append, List.length_append]
  omega

/-- All inputs are taken where they do not reach what is required. -/
theorem sum_eq_of_lt (h : Taken s fee inputs sum taken) (hlt : sum < s.required fee) :
    sum = totalValue s.allInputs := by
  cases h.shortest.reaches with
  | inl hreached =>
    rw [← h.sum_eq] at hreached
    omega
  | inr hall => rw [h.sum_eq, hall, allInputs]

end Taken

theorem totalTxFeeNeeded_working (hfits : s.Fits coin) (hfee : w.txFeeNeeded ≤ s.maxFee) :
    (s.working w).totalTxFeeNeeded = w.txFeeNeeded + s.gas := by
  have hamounts := hfits.amounts
  exact wrapping_eq (show w.txFeeNeeded + s.gas < 2 ^ 64 by omega)

theorem requiredAmount_working (hfits : s.Fits coin) (hfee : w.txFeeNeeded ≤ s.maxFee) :
    (s.working w).requiredAmount = s.required w.txFeeNeeded := by
  have hamounts := hfits.amounts
  have houtputs : sumValues (s.builder.outputs.map TransactionOutput.value) =
      totalOutputs s.builder.outputs := sumValues_of_lt (by rw [← totalOutputs]; omega)
  simp only [requiredAmount, required, totalTxFeeNeeded_working hfits hfee]
  simp only [working, houtputs]
  cases s.builder.feePolicy with
  | sendExact =>
    simp only
    rw [wrapping_eq (by omega)]
    omega
  | deductFromOutput i => rfl

theorem taken_selected (hfits : s.Fits coin) (hfee : w.txFeeNeeded ≤ s.maxFee) :
    ∃ taken, (s.working w).selected (s.working w).requiredAmount =
        s.builder.requiredInputs ++ taken ∧
      Taken s w.txFeeNeeded
        (((s.working w).selected (s.working w).requiredAmount).map UnspentInfo.toInput)
        (sumValues (((s.working w).selected (s.working w).requiredAmount).map UnspentInfo.value))
        taken := by
  have hamounts := hfits.amounts
  have hall : totalValue s.allInputs =
      totalValue s.builder.requiredInputs + totalValue s.builder.availableInputs := by
    rw [allInputs, totalValue_append]
  have hrequired : sumValues (s.builder.requiredInputs.map UnspentInfo.value) =
      totalValue s.builder.requiredInputs := sumValues_of_lt (by rw [← totalValue]; omega)
  have hshortest := takeAvailable_isShortest (s.required w.txFeeNeeded)
    (show totalValue s.builder.requiredInputs + totalValue s.builder.availableInputs < 2 ^ 64 by
      omega)
  set taken := takeAvailable (s.required w.txFeeNeeded) (totalValue s.builder.requiredInputs)
    s.builder.availableInputs
  have hselected : (s.working w).selected (s.working w).requiredAmount =
      s.builder.requiredInputs ++ taken := by
    rw [requiredAmount_working hfits hfee, selected]
    simp only [working, hrequired]
    rfl
  have hle := totalValue_le_of_prefix hshortest.isPrefix
  refine ⟨taken, hselected, ?_, by rw [hselected], ?_⟩
  · simpa only [totalValue_append] using hshortest
  · rw [hselected]
    apply sumValues_of_lt
    rw [← totalValue, totalValue_append]
    omega

/-- What the first half of a turn leaves; its fee is that of a transaction without change, or the
one it came with. -/
structure Collected (coin : TxGenerationOps) (s : Started) (fee : ℕ) (w : Work) : Prop where
  taken : ∃ taken, Taken s fee w.inputs w.sumInputs taken
  enough : s.required fee ≤ w.sumInputs
  outputs_eq : w.outputs = s.builder.outputs
  sumOutputs_eq : w.sumOutputs = totalOutputs s.builder.outputs
  interest_le : 20 * w.interest ≤ w.sumInputs
  interest_eq : coin.supportsInterest = false → w.interest = 0

/-- Why a turn fails. -/
inductive Fails (coin : TxGenerationOps) (s : Started) : GenerateTxError → Prop
  | interest {n : ℕ} {tx : TransactionInputSigner} {e : GenerateTxError}
      (h : calcInterestIfRequired coin n tx = .error e) : Fails coin s e
  | notEnough {required : ℕ} (h : totalValue s.allInputs < s.required s.maxFee) :
      Fails coin s (.notEnoughUtxos (totalValue s.allInputs) required)
  | tooSmall {i required : ℕ} {output : TransactionOutput}
      (hpolicy : s.builder.feePolicy = .deductFromOutput i)
      (houtput : s.builder.outputs[i]? = some output) (hvalue : output.value < required)
      (hrequired : required ≤ s.maxFee + s.gas + s.builder.dustLimit coin) :
      Fails coin s (.deductFeeFromOutputFailed i output.value required)
  | noOutput {i : ℕ} (hpolicy : s.builder.feePolicy = .deductFromOutput i)
      (hlength : s.builder.outputs.length ≤ i) : Fails coin s .panic

theorem of_collect (hfits : s.Fits coin) (hfee : w.txFeeNeeded ≤ s.maxFee) (n : ℕ)
    (later : Bool) :
    (∃ e, (s.working w).collect coin s n later = .error e ∧ Fails coin s e) ∨
      ∃ w', (s.working w).collect coin s n later = .ok (s.working w') ∧
        Collected coin s w.txFeeNeeded w' ∧ w'.txFeeNeeded ≤ s.maxFee ∧
        (later = true → w'.txFeeNeeded = w.txFeeNeeded) := by
  obtain ⟨taken, hselected, htaken⟩ := taken_selected hfits hfee
  have hamount := requiredAmount_working hfits hfee
  have houtputs : sumValues (s.builder.outputs.map TransactionOutput.value) =
      totalOutputs s.builder.outputs := by
    have hamounts := hfits.amounts
    exact sumValues_of_lt (by rw [← totalOutputs]; omega)
  rw [collect]
  cases hcalc : calcInterestIfRequired coin n
      (((s.working w).addTxInputs (s.working w).requiredAmount).addTxOutputs).tx with
  | error e => exact .inl ⟨e, rfl, .interest hcalc⟩
  | ok result =>
    obtain ⟨tx, interest⟩ := result
    obtain ⟨⟨lockTime, rfl⟩, hinterest, hnone⟩ := of_calcInterestIfRequired hcalc
    let w₁ : Work :=
      { inputs := ((s.working w).selected (s.working w).requiredAmount).map UnspentInfo.toInput
        outputs := s.builder.outputs
        lockTime := lockTime
        sumInputs := sumValues
          (((s.working w).selected (s.working w).requiredAmount).map UnspentInfo.value)
        sumOutputs := sumValues (s.builder.outputs.map TransactionOutput.value)
        txFeeNeeded := w.txFeeNeeded
        interest := interest }
    let w' : Work := if later then w₁ else
      { w₁ with txFeeNeeded := s.feeOf (s.working w₁).tx }
    have htaken' : Taken s w.txFeeNeeded w'.inputs w'.sumInputs taken := by
      cases later <;> exact htaken
    have hfee' : w'.txFeeNeeded ≤ s.maxFee := by
      cases later with
      | true => exact hfee
      | false =>
        have hle := feeOf_le_maxFee hfits [] lockTime htaken.length_le rfl (.inl rfl)
        rw [List.append_nil, ← hselected] at hle
        exact hle
    have hcollect : (if later then s.working w₁ else
        (s.working w₁).updateTxFee s.format s.feeRate) = s.working w' := by
      cases later <;> rfl
    have hbound : totalAmount w₁.inputs = w'.sumInputs := by
      rw [htaken'.sum_eq, ← totalAmount_toInput, ← htaken.inputs_eq]
    have hcheck : (s.working w').checkInputs (s.working w).requiredAmount =
        if w'.sumInputs < s.required w.txFeeNeeded then
          .error (.notEnoughUtxos w'.sumInputs (s.working w').requiredAmount)
        else .ok (s.working w') := by
      rw [hamount]
      rfl
    change (∃ e, checkInputs (if later then s.working w₁ else
        (s.working w₁).updateTxFee s.format s.feeRate) _ = _ ∧ _) ∨
      ∃ w', checkInputs (if later then s.working w₁ else
        (s.working w₁).updateTxFee s.format s.feeRate) _ = _ ∧ _
    rw [hcollect, hcheck]
    by_cases hlt : w'.sumInputs < s.required w.txFeeNeeded
    · left
      rw [if_pos hlt]
      refine ⟨_, rfl, ?_⟩
      have hall := htaken'.sum_eq_of_lt hlt
      rw [hall] at hlt ⊢
      exact .notEnough (hlt.trans_le (required_mono hfee))
    · right
      rw [if_neg hlt]
      refine ⟨w', rfl, ⟨⟨taken, htaken'⟩, not_lt.mp hlt, ?_, ?_, ?_, ?_⟩, hfee', ?_⟩
      · cases later <;> rfl
      · cases later <;> exact houtputs
      · rw [← hbound]
        cases later <;> exact hinterest
      · cases later <;> exact hnone
      · rintro rfl
        rfl

/-! ## The outputs of a turn -/

theorem totalOutputs_set {outputs : List TransactionOutput} {i : ℕ} (fee : ℕ)
    {output : TransactionOutput} (h : outputs[i]? = some output) (hfee : fee ≤ output.value) :
    totalOutputs (outputs.set i { output with value := output.value - fee }) + fee =
      totalOutputs outputs := by
  induction outputs generalizing i with
  | nil => cases h
  | cons first outputs ih =>
    cases i with
    | zero =>
      cases h
      simp only [List.set_cons_zero, totalOutputs, List.map_cons, List.sum_cons]
      omega
    | succ i =>
      have hrest := ih h
      simp only [totalOutputs, List.set_cons_succ, List.map_cons, List.sum_cons] at hrest ⊢
      omega

/-- Either way the inputs have to pay for the outputs there are and the fee. -/
theorem required_eq_of_deducted {paid : List TransactionOutput}
    (h : s.Deducted coin fee paid) : s.required fee = totalOutputs paid + fee + s.gas := by
  rw [Deducted] at h
  rw [required]
  split
  next hpolicy =>
    rw [hpolicy] at h
    rw [h]
  next i hpolicy =>
    rw [hpolicy] at h
    obtain ⟨output, houtput, hle, rfl⟩ := h
    have hset := totalOutputs_set (fee + s.gas) houtput (by omega)
    omega

theorem scripts_of_deducted {paid : List TransactionOutput} (h : s.Deducted coin fee paid) :
    paid.map TransactionOutput.scriptPubkey =
      s.builder.outputs.map TransactionOutput.scriptPubkey := by
  rw [Deducted] at h
  split at h
  next => rw [h]
  next i hpolicy =>
    obtain ⟨output, houtput, hle, rfl⟩ := h
    rw [List.map_set]
    apply List.ext_getElem?
    intro j
    rw [List.getElem?_set]
    split
    next heq =>
      subst heq
      rw [List.getElem?_map, houtput]
      simpa using (List.getElem?_eq_some_iff.mp houtput).1
    next => rfl

/-- The change that a turn adds, for the fee it is charged. -/
inductive Changed (coin : TxGenerationOps) (s : Started) (charged : ℕ) (w : Work) :
    List TransactionOutput → Prop
  | nothingLeft (h : w.sumInputs < w.sumOutputs + charged + s.gas) : Changed coin s charged w []
  | dust (h : w.sumOutputs + charged + s.gas ≤ w.sumInputs)
      (hdust : w.sumInputs + w.interest <
        w.sumOutputs + charged + s.gas + s.builder.dustLimit coin) : Changed coin s charged w []
  | output {value : ℕ} (hvalue : s.builder.dustLimit coin ≤ value)
      (h : w.sumInputs + w.interest = w.sumOutputs + charged + s.gas) :
      Changed coin s charged w [{ value := value, scriptPubkey := s.changeScriptPubkey }]

/-- What a turn ends with, if its inputs were taken for one fee and its outputs charged another. -/
structure Settled (coin : TxGenerationOps) (s : Started) (requested charged : ℕ) (w : Work) :
    Prop where
  taken : ∃ taken, Taken s requested w.inputs w.sumInputs taken
  enough : s.required requested ≤ w.sumInputs
  outputs : ∃ paid change, w.outputs = paid ++ change ∧ s.Deducted coin charged paid ∧
    Changed coin s charged w change
  sumOutputs_eq : w.sumOutputs = totalOutputs w.outputs
  fee_eq : w.txFeeNeeded = s.feeOf (s.working w).tx
  fee_le : w.txFeeNeeded ≤ s.maxFee
  interest_le : 20 * w.interest ≤ w.sumInputs
  interest_eq : coin.supportsInterest = false → w.interest = 0

/-- The fee that is paid at the end of a turn, or the next turn is charged more. -/
def Unpaid (s : Started) (w : Work) : Prop :=
  w.sumInputs + w.interest < w.sumOutputs + w.txFeeNeeded + s.gas

theorem Settled.fee_lt (h : Settled coin s fee fee w) (hunpaid : s.Unpaid w) :
    fee < w.txFeeNeeded := by
  obtain ⟨paid, change, houtputs, hdeducted, hchanged⟩ := h.outputs
  have henough := h.enough
  rw [required_eq_of_deducted hdeducted] at henough
  have hsum := h.sumOutputs_eq
  rw [Unpaid] at hunpaid
  cases hchanged with
  | nothingLeft hlt =>
    rw [houtputs, List.append_nil] at hsum
    omega
  | dust hle hdust => omega
  | output hvalue heq => omega

/-- The fee is taken from the output, if there is one that is worth enough. -/
theorem of_deductTxfeeFromOutput (hfits : s.Fits coin) (houtputs : w.outputs = s.builder.outputs)
    (hfee : w.txFeeNeeded ≤ s.maxFee) :
    (∃ e, (s.working w).deductTxfeeFromOutput coin = .error e ∧ Fails coin s e) ∨
      ∃ paid deducted, (s.working w).deductTxfeeFromOutput coin =
          .ok (s.working { w with outputs := paid }, deducted) ∧
        s.Deducted coin w.txFeeNeeded paid ∧
        totalOutputs paid + deducted = totalOutputs s.builder.outputs := by
  have hamounts := hfits.amounts
  rw [deductTxfeeFromOutput, totalTxFeeNeeded_working hfits hfee]
  have hpolicy : (s.working w).feePolicy = s.builder.feePolicy := rfl
  have htx : (s.working w).tx.outputs = s.builder.outputs := houtputs
  have hdust : (s.working w).dustLimit coin = s.builder.dustLimit coin := rfl
  have hmin : wrapping (w.txFeeNeeded + s.gas + s.builder.dustLimit coin) =
      w.txFeeNeeded + s.gas + s.builder.dustLimit coin := wrapping_eq (by omega)
  rw [hpolicy, htx, hdust]
  cases hp : s.builder.feePolicy with
  | sendExact =>
    right
    refine ⟨w.outputs, 0, rfl, ?_, by rw [houtputs, Nat.add_zero]⟩
    rw [Deducted, hp]
    exact houtputs
  | deductFromOutput i =>
    simp only [hmin]
    cases houtput : s.builder.outputs[i]? with
    | none => exact .inl ⟨_, rfl, .noOutput hp (List.getElem?_eq_none_iff.mp houtput)⟩
    | some output =>
      simp only
      split
      next hlt => exact .inl ⟨_, rfl, .tooSmall hp houtput hlt (by omega)⟩
      next hle =>
        right
        refine ⟨_, w.txFeeNeeded + s.gas, by rw [← hp]; rfl, ?_,
          totalOutputs_set _ houtput (by omega)⟩
        rw [Deducted, hp]
        exact ⟨output, houtput, not_lt.mp hle, rfl⟩

theorem of_addChange (hfits : s.Fits coin) (hfee : w.txFeeNeeded ≤ s.maxFee)
    (hinputs : w.sumInputs ≤ totalValue s.allInputs) (hinterest : 20 * w.interest ≤ w.sumInputs)
    (houtputs : w.sumOutputs ≤ totalOutputs s.builder.outputs) :
    ∃ change value, (s.working w).addChange coin s.changeScriptPubkey =
        (s.working { w with outputs := w.outputs ++ change }, value) ∧
      totalOutputs change = value ∧
      Changed coin s w.txFeeNeeded { w with sumOutputs := w.sumOutputs + value } change := by
  have hamounts := hfits.amounts
  have hdust : (s.working w).dustLimit coin = s.builder.dustLimit coin := rfl
  have hsum : (s.working w).sumInputs = w.sumInputs := rfl
  have hsum' : (s.working w).sumOutputs = w.sumOutputs := rfl
  have hinterest' : (s.working w).interest = w.interest := rfl
  have hneeded : wrapping (w.sumOutputs + (w.txFeeNeeded + s.gas)) =
      w.sumOutputs + (w.txFeeNeeded + s.gas) := wrapping_eq (by omega)
  have hworth : wrapping (w.sumInputs + w.interest) = w.sumInputs + w.interest :=
    wrapping_eq (by omega)
  have hnone : s.working { w with outputs := w.outputs ++ [] } = s.working w := by
    rw [List.append_nil]
  simp only [addChange, totalTxFeeNeeded_working hfits hfee, hdust, hsum, hsum', hinterest',
    hneeded, hworth]
  split
  next hlt =>
    refine ⟨[], 0, by rw [hnone], rfl, .nothingLeft ?_⟩
    simp only
    omega
  next hle =>
    split
    next hlt =>
      refine ⟨[], 0, by rw [hnone], rfl, .dust ?_ ?_⟩ <;> simp only <;> omega
    next hge =>
      refine ⟨_, _, rfl, by simp [totalOutputs], .output (not_lt.mp hge) ?_⟩
      simp only
      omega

/-- What a turn is once its change is added. -/
def settledWork (s : Started) (w : Work) (change : List TransactionOutput) (value : ℕ) : Work :=
  let w := { w with outputs := w.outputs ++ change, sumOutputs := wrapping (w.sumOutputs + value) }
  { w with txFeeNeeded := s.feeOf (s.working w).tx }

theorem addChangeAndFee_working {deducted value : ℕ} {change : List TransactionOutput}
    (hadd : (s.working { w with sumOutputs := w.sumOutputs - deducted }).addChange coin
        s.changeScriptPubkey =
      (s.working { w with outputs := w.outputs ++ change, sumOutputs := w.sumOutputs - deducted },
        value)) :
    (s.working w).addChangeAndFee coin s deducted =
      (s.working (s.settledWork { w with sumOutputs := w.sumOutputs - deducted } change value),
        decide (wrapping ((s.settledWork { w with sumOutputs := w.sumOutputs - deducted } change
          value).sumOutputs + (s.working (s.settledWork
            { w with sumOutputs := w.sumOutputs - deducted } change value)).totalTxFeeNeeded) ≤
              wrapping (w.sumInputs + w.interest))) := by
  have hadd' : addChange coin { s.working w with sumOutputs := w.sumOutputs - deducted }
      s.changeScriptPubkey =
    (s.working { w with outputs := w.outputs ++ change, sumOutputs := w.sumOutputs - deducted },
      value) := hadd
  have hsum : (s.working w).sumOutputs = w.sumOutputs := rfl
  simp only [addChangeAndFee, hsum, hadd']
  rfl

theorem of_settle (hfits : s.Fits coin) {requested : ℕ} (h : Collected coin s requested w)
    (hfee : w.txFeeNeeded ≤ s.maxFee) :
    (∃ e, (s.working w).settle coin s = .error e ∧ Fails coin s e) ∨
      ∃ w' paid, (s.working w).settle coin s = .ok (s.working w', paid) ∧
        Settled coin s requested w.txFeeNeeded w' ∧ (paid = true ↔ ¬ s.Unpaid w') := by
  obtain ⟨taken, htaken⟩ := h.taken
  have hamounts := hfits.amounts
  have hinputs := htaken.sum_le
  have hinterest := h.interest_le
  rw [settle]
  cases of_deductTxfeeFromOutput hfits h.outputs_eq hfee with
  | inl hfails =>
    obtain ⟨e, he, hfails⟩ := hfails
    rw [he]
    exact .inl ⟨e, rfl, hfails⟩
  | inr hdeducts =>
    right
    obtain ⟨paid, deducted, hok, hdeducted, hsum⟩ := hdeducts
    have hsumOutputs : w.sumOutputs - deducted = totalOutputs paid := by
      rw [h.sumOutputs_eq]
      omega
    obtain ⟨change, value, hadd, hvalue, hchanged⟩ :=
      of_addChange (w := { w with outputs := paid, sumOutputs := w.sumOutputs - deducted })
        hfits hfee hinputs hinterest (by simp only; omega)
    set w' := s.settledWork { w with outputs := paid, sumOutputs := w.sumOutputs - deducted }
      change value with hw'
    have hfee' : w'.txFeeNeeded ≤ s.maxFee := by
      have hle := feeOf_le_maxFee hfits change w.lockTime htaken.length_le
        (scripts_of_deducted hdeducted) (by
          cases hchanged with
          | output => exact .inr ⟨_, rfl⟩
          | _ => exact .inl rfl)
      rw [← htaken.inputs_eq] at hle
      exact hle
    have hle : totalOutputs paid + value ≤
        totalOutputs s.builder.outputs + 2 * w.sumInputs := by
      cases hchanged with
      | output _ hpaid =>
        simp only at hpaid
        omega
      | _ =>
        simp only [totalOutputs, List.map_nil, List.sum_nil] at hvalue
        omega
    have hsum' : w'.sumOutputs = w.sumOutputs - deducted + value :=
      wrapping_eq (by simp only; omega)
    refine ⟨w', decide (wrapping (w'.sumOutputs + (s.working w').totalTxFeeNeeded) ≤
      wrapping (w.sumInputs + w.interest)), ?_, ?_, ?_⟩
    · have hnot : ¬ w.sumOutputs < deducted := by
        rw [h.sumOutputs_eq]
        omega
      rw [hok]
      change (if w.sumOutputs < deducted then _ else _) = _
      rw [if_neg hnot]
      exact congrArg Except.ok (addChangeAndFee_working hadd)
    · exact
        { taken := ⟨taken, htaken⟩
          enough := h.enough
          outputs := ⟨paid, change, rfl, hdeducted, by
            cases hchanged with
            | nothingLeft hlt => exact .nothingLeft (by rw [hsum']; exact hlt)
            | dust hle hdust => exact .dust (by rw [hsum']; exact hle) (by rw [hsum']; exact hdust)
            | output hdust hpaid => exact .output hdust (by rw [hsum']; exact hpaid)⟩
          sumOutputs_eq := by
            rw [hsum', hsumOutputs, ← hvalue]
            exact (totalOutputs_append paid change).symm
          fee_eq := rfl
          fee_le := hfee'
          interest_le := h.interest_le
          interest_eq := h.interest_eq }
    · have hinputs' : w'.sumInputs = w.sumInputs := rfl
      have hinterest' : w'.interest = w.interest := rfl
      rw [decide_eq_true_iff, totalTxFeeNeeded_working hfits hfee', wrapping_eq (by omega),
        wrapping_eq (by omega), Unpaid]
      omega

/-! ## The loop -/

/-- A builder in the loop, whose fee is that of some transaction. -/
def InLoop (s : Started) (b : UtxoTxBuilder) : Prop :=
  ∃ w, b = s.working w ∧ w.txFeeNeeded ≤ s.maxFee

/-- What the loop ends with. -/
def Ended (coin : TxGenerationOps) (s : Started) : Except GenerateTxError UtxoTxBuilder → Prop
  | .ok b => ∃ w requested charged, b = s.working w ∧ requested ≤ s.maxFee ∧
      charged ≤ s.maxFee ∧ Settled coin s requested charged w ∧ ¬ s.Unpaid w
  | .error e => Fails coin s e

/-- How much the fee can rise; the first turn may come with any. -/
def room (s : Started) (p : ℕ × UtxoTxBuilder) : ℕ :=
  if p.1 = 0 then s.maxFee + 1 else s.maxFee - p.2.txFeeNeeded

theorem inLoop_builder (hfits : s.Fits coin) : s.InLoop s.builder := by
  refine ⟨{ inputs := s.builder.tx.inputs, outputs := s.builder.tx.outputs
            lockTime := s.builder.tx.lockTime, sumInputs := s.builder.sumInputs
            sumOutputs := s.builder.sumOutputs, txFeeNeeded := s.builder.txFeeNeeded
            interest := s.builder.interest }, rfl, ?_⟩
  rw [hfits.fresh]
  exact Nat.zero_le _

theorem turn_holds (hfits : s.Fits coin) (p : ℕ × UtxoTxBuilder) (h : s.InLoop p.2) :
    (turn coin s p).Holds (Ended coin s) fun p' => s.InLoop p'.2 ∧ s.room p' < s.room p := by
  obtain ⟨n, b⟩ := p
  obtain ⟨w, rfl, hfee⟩ := h
  cases of_collect hfits hfee n (decide (n ≠ 0)) with
  | inl hfails =>
    obtain ⟨e, he, hfails⟩ := hfails
    simp only [turn, he]
    exact hfails
  | inr hcollects =>
    obtain ⟨w₁, hcollect, hcollected, hfee₁, hlater⟩ := hcollects
    cases of_settle hfits hcollected hfee₁ with
    | inl hfails =>
      obtain ⟨e, he, hfails⟩ := hfails
      simp only [turn, hcollect, bind, Except.bind, he]
      exact hfails
    | inr hsettles =>
      obtain ⟨w₂, paid, hsettle, hsettled, hpaid⟩ := hsettles
      simp only [turn, hcollect, bind, Except.bind, hsettle]
      cases paid with
      | true => exact ⟨w₂, _, _, rfl, hfee, hfee₁, hsettled, hpaid.mp rfl⟩
      | false =>
        have hunpaid : s.Unpaid w₂ := not_not.mp fun h => Bool.false_ne_true (hpaid.mpr h)
        refine ⟨⟨w₂, rfl, hsettled.fee_le⟩, ?_⟩
        have hfee₂ := hsettled.fee_le
        have hroom : s.room (n + 1, s.working w₂) = s.maxFee - w₂.txFeeNeeded := rfl
        rw [hroom]
        cases n with
        | zero =>
          change s.maxFee - w₂.txFeeNeeded < s.maxFee + 1
          omega
        | succ n =>
          change s.maxFee - w₂.txFeeNeeded < s.maxFee - w.txFeeNeeded
          have heq : w₁.txFeeNeeded = w.txFeeNeeded := hlater (by simp)
          rw [heq] at hsettled
          have hlt := hsettled.fee_lt hunpaid
          omega

end Started

/-- What is built: the outputs that were asked for and maybe a change, paid by the required inputs
and the fewest others that are enough for some fee. -/
structure Built (coin : TxGenerationOps) (s : Started) (tx : TransactionInputSigner)
    (data : AdditionalTxData) : Prop where
  inputs : ∃ taken fee, fee ≤ s.maxFee ∧
    s.Taken fee tx.inputs data.spentByMe taken ∧ s.required fee ≤ data.spentByMe
  outputs : ∃ paid change fee, fee ≤ s.maxFee ∧ tx.outputs = paid ++ change ∧
    s.Deducted coin fee paid ∧
    ((change = [] ∧ data.feeAmount ≤
        s.maxFee + max (s.builder.dustLimit coin) (data.kmdRewards.getD 0)) ∨
      ∃ value, s.builder.dustLimit coin ≤ value ∧
        change = [{ value := value, scriptPubkey := s.changeScriptPubkey }] ∧
        data.feeAmount ≤ s.maxFee)
  /-- The rest of the transaction is that of the builder, but for the lock time. -/
  rest : tx = { s.builder.tx with
    inputs := tx.inputs, outputs := tx.outputs, lockTime := tx.lockTime }
  conserved : data.spentByMe + data.kmdRewards.getD 0 =
    totalOutputs tx.outputs + s.gas + data.feeAmount
  fee_le : s.feeOf tx ≤ data.feeAmount
  received : data.receivedByMe = totalOutputs
    (tx.outputs.filter fun output => output.scriptPubkey = s.changeScriptPubkey)

theorem totalOutputs_filter_le (p : TransactionOutput → Bool) (outputs : List TransactionOutput) :
    totalOutputs (outputs.filter p) ≤ totalOutputs outputs := by
  induction outputs with
  | nil => simp
  | cons output outputs ih =>
    simp only [totalOutputs, List.filter_cons, List.map_cons, List.sum_cons] at ih ⊢
    split
    · simp only [List.map_cons, List.sum_cons]
      omega
    · omega

theorem finish_of_ended {coin : TxGenerationOps} {s : Started} {b : UtxoTxBuilder}
    (hfits : s.Fits coin) (h : Started.Ended coin s (.ok b)) :
    ∃ tx data, b.finish coin s = .ok (tx, data) ∧ Built coin s tx data := by
  obtain ⟨w, requested, charged, rfl, hrequested, hcharged, hsettled, hpaid⟩ := h
  obtain ⟨taken, htaken⟩ := hsettled.taken
  obtain ⟨paid, change, houtputs, hdeducted, hchanged⟩ := hsettled.outputs
  have hamounts := hfits.amounts
  have hinputs := htaken.sum_le
  have hinterest := hsettled.interest_le
  have hsum := hsettled.sumOutputs_eq
  rw [Started.Unpaid, not_lt] at hpaid
  have hfee : (s.working w).txFeeFact = .ok (w.sumInputs + w.interest - s.gas - w.sumOutputs) := by
    have hwrap : wrapping (w.sumInputs + w.interest) = w.sumInputs + w.interest :=
      wrapping_eq (by omega)
    change (if wrapping (w.sumInputs + w.interest) < s.gas then _
      else if wrapping (w.sumInputs + w.interest) - s.gas < w.sumOutputs then _ else
        Except.ok (wrapping (w.sumInputs + w.interest) - s.gas - w.sumOutputs)) = _
    rw [hwrap, if_neg (by omega), if_neg (by omega)]
  have hrewards : (if coin.supportsInterest then some (s.working w).interest else none).getD 0 =
      w.interest := by
    split
    next => rfl
    next hnone => exact (hsettled.interest_eq (Bool.not_eq_true _ ▸ hnone)).symm
  refine ⟨_, _, by rw [finish, hfee]; rfl, ?_⟩
  exact
    { inputs := ⟨taken, requested, hrequested, htaken, hsettled.enough⟩
      outputs := by
        refine ⟨paid, change, charged, hcharged, houtputs, hdeducted, ?_⟩
        simp only [hrewards]
        cases hchanged with
        | nothingLeft hlt =>
          left
          refine ⟨rfl, ?_⟩
          have hmax := le_max_right (s.builder.dustLimit coin) w.interest
          omega
        | dust hle hdust =>
          left
          refine ⟨rfl, ?_⟩
          have hmax := le_max_left (s.builder.dustLimit coin) w.interest
          omega
        | output hvalue heq =>
          right
          refine ⟨_, hvalue, rfl, ?_⟩
          omega
      rest := rfl
      conserved := by
        simp only [hrewards]
        change w.sumInputs + w.interest = totalOutputs w.outputs + s.gas + _
        omega
      fee_le := by
        rw [show s.feeOf (s.working w).tx = w.txFeeNeeded from hsettled.fee_eq.symm]
        simp only
        omega
      received := by
        apply sumValues_of_lt
        have hle := totalOutputs_filter_le
          (fun output => decide (output.scriptPubkey = s.changeScriptPubkey)) w.outputs
        change totalOutputs (w.outputs.filter _) < 2 ^ 64
        omega }

/-- With fuel for every fee that a transaction can need the builder ends, and then fails only
where interest or the fee's output fails, or where not even all inputs pay for the largest fee. -/
theorem build_ends {coin : TxGenerationOps} {platform : Platform} {b : UtxoTxBuilder}
    {s : Started} {fuel : ℕ} (hstart : b.start coin platform = .ok s) (hfits : s.Fits coin)
    (hfuel : s.maxFee + 1 < fuel) :
    ∃ result, b.build coin platform fuel = some result ∧
      ∀ e, result = .error e → Started.Fails coin s e := by
  have hends : ∃ result, loop (turn coin s) fuel (0, s.builder) = some result ∧
      Started.Ended coin s result :=
    loop_ends s.room (Started.turn_holds hfits) (Started.inLoop_builder hfits) hfuel
  obtain ⟨result, hloop, hended⟩ := hends
  rw [build, hstart]
  simp only [hloop, Option.map_some]
  refine ⟨_, rfl, ?_⟩
  intro e he
  cases result with
  | error e' =>
    cases he
    exact hended
  | ok b' =>
    obtain ⟨tx, data, hfinish, _⟩ := finish_of_ended hfits hended
    cases hfinish.symm.trans he

/-- What the builder builds conserves the value of the inputs and pays the fee for its size. -/
theorem build_pays {coin : TxGenerationOps} {platform : Platform} {b : UtxoTxBuilder}
    {s : Started} {fuel : ℕ} {tx : TransactionInputSigner} {data : AdditionalTxData}
    (hstart : b.start coin platform = .ok s) (hfits : s.Fits coin)
    (hbuild : b.build coin platform fuel = some (.ok (tx, data))) : Built coin s tx data := by
  rw [build, hstart] at hbuild
  obtain ⟨result, hloop, hresult⟩ := Option.map_eq_some_iff.mp hbuild
  have hended : Started.Ended coin s result := by
    apply of_loop (I := fun p => s.InLoop p.2) _ (Started.inLoop_builder hfits) hloop
    intro p hp
    exact (Started.turn_holds hfits p hp).mono (fun _ => id) fun _ => And.left
  cases result with
  | error e => cases hresult
  | ok b' =>
    obtain ⟨tx', data', hfinish, hbuilt⟩ := finish_of_ended hfits hended
    cases hfinish.symm.trans hresult
    exact hbuilt

/-! ## A payment with change -/

namespace Sample

def txHash : H256 := ⟨List.replicate 32 0, length_zeros32⟩

def keyHash : H160 := ⟨List.replicate 20 0, length_zeros20⟩

theorem length_p2pkhPrefix : ([0] : Bytes).length ≤ 2 := by decide

def address : Address where
  addressPrefix := ⟨[0], length_p2pkhPrefix⟩
  hrp := none
  pubkey := none
  hash := .addressHash keyHash
  checksumType := .dsha256
  addrFormat := .standard
  scriptType := .p2pkh

def preimage : TransactionInputSigner where
  version := 1
  nTime := none
  overwintered := false
  versionGroupId := 0
  consensusBranchId := 0
  expiryHeight := 0
  valueBalance := 0
  inputs := []
  outputs := []
  lockTime := 0
  joinSplits := []
  shieldedSpends := []
  shieldedOutputs := []
  zcash := false
  posv := false
  strDZeel := none
  hashAlgo := .dsha256
  vExtraPayload := none

def noInterest : InterestSources where
  currentMtp := .error (.internal "no interest")
  prevTxns := .error (.internal "no interest")
  nowSec := 0

def coin : TxGenerationOps where
  dustAmount := 546
  supportsInterest := false
  getFeeRate := .ok (.dynamic 1000)
  getMinRelayRate := .ok none
  interestSources _ := noInterest

def unspent : UnspentInfo where
  outpoint := ⟨txHash, 0⟩
  value := 100000
  height := none
  script := []

def payment : TransactionOutput where
  value := 50000
  scriptPubkey := [Opcode.op1]

def changeScript : Script := Builder.p2pkhOf (.addressHash keyHash)

def builder : UtxoTxBuilder :=
  ((new preimage (some address)).addAvailableInputs [unspent]).addOutputs [payment]

def started : Started where
  builder := builder
  format := .standard
  feeRate := .dynamic 1000
  changeScriptPubkey := changeScript

/-- The payment, and the rest less a fee of 202. -/
def paid : TransactionInputSigner :=
  { preimage with
    inputs := [unspent.toInput]
    outputs := [payment, { value := 49798, scriptPubkey := changeScript }] }

theorem start_builder : builder.start coin .bits64 = .ok started := by rfl

theorem fits : started.Fits coin where
  fresh := rfl
  rate := by decide
  relay := fun _ h => by cases h
  amounts := by decide

end Sample

theorem build_ends_sample :
    ∃ result, Sample.builder.build Sample.coin .bits64 300 = some result ∧
      ∀ e, result = .error e → Started.Fails Sample.coin Sample.started e :=
  build_ends Sample.start_builder Sample.fits (by decide)

theorem build_pays_sample :
    Built Sample.coin Sample.started Sample.paid
      { feeAmount := 202, receivedByMe := 49798, spentByMe := 100000, kmdRewards := none } :=
  build_pays Sample.start_builder Sample.fits
    (show Sample.builder.build Sample.coin .bits64 2 = _ by rfl)

end UtxoTxBuilder

end DeXFG.Utxo
