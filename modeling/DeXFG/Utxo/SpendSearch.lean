import DeXFG.Utxo.ExtractSecret
import DeXFG.Utxo.Serialize

/-!
# What became of a payment

A party that recovers looks for the transaction that spends a payment and tells a
spend from a refund by the opcodes at fixed places of the input, while the script
takes the branch that the top of the stack selects.
-/
namespace DeXFG.Utxo
open Library.BitcoinScript

structure SpentOutputInfo where
  /-- The input that spends the output. -/
  input : TransactionInput
  /-- The index of the spending input. -/
  inputIndex : ℕ
  /-- The transaction spending the output. -/
  spendingTx : Transaction
  /-- The block height that includes the spending transaction. -/
  spentInBlock : Int
  deriving DecidableEq

/-- An item of the history of a script, with the transaction of its hash as the server sends it. -/
structure HistoryItem where
  height : Int
  transaction : Except String Transaction

/-- The first input of a transaction that spends the output. -/
def spendingInput (txHash : H256) (vout : ℕ) (tx : Transaction) :
    Option (TransactionInput × ℕ) :=
  tx.inputs.zipIdx.find? fun entry =>
    entry.1.previousOutput.hash = txHash ∧ entry.1.previousOutput.index = UInt32.ofNat vout

def findOutputSpendIn (txHash : H256) (vout : ℕ) (txHashAlgo : TxHashAlgo) :
    List HistoryItem → Except String (Option SpentOutputInfo)
  | [] => .ok none
  | item :: history =>
    match item.transaction with
    | .error e => .error e
    | .ok tx =>
      let maybeSpendTx := { tx with txHashAlgo := txHashAlgo }
      match spendingInput txHash vout maybeSpendTx with
      | some (input, index) =>
        .ok (some
          { input := input
            inputIndex := index
            spendingTx := maybeSpendTx
            spentInBlock := item.height })
      | none => findOutputSpendIn txHash vout txHashAlgo history

/-- `find_output_spend` of the electrum client. -/
def findOutputSpend (getHistory : Except String (List HistoryItem)) (txHash : H256) (vout : ℕ)
    (txHashAlgo : TxHashAlgo) : Except String (Option SpentOutputInfo) := do
  let history ← getHistory
  if history.length < 2 then .ok none else findOutputSpendIn txHash vout txHashAlgo history

inductive FoundSwapTxSpend where
  | spent (tx : Transaction)
  | refunded (tx : Transaction)
  deriving DecidableEq

inductive SearchError where
  | rpc (e : String)
  | noOutputs
  | noOutput (index : ℕ)
  | scriptPubkeyMismatch (tx : Transaction) (index : ℕ) (expected : Script)
  | noInstruction (tx : Transaction)
  deriving DecidableEq

/-- The opcode of an instruction that the iterator yields. -/
def Script.opcodeAt (script : Script) (n : ℕ) : Option Opcode :=
  match script.iter[n]? with
  | some (.ok instruction) => some instruction.opcode
  | _ => none

/-- The input of a spend is told from that of a refund. -/
def classify (info : SpentOutputInfo) : Except SearchError (Option FoundSwapTxSpend) :=
  let script : Script := info.input.scriptSig
  if script.opcodeAt 2 = some Opcode.op0 then .ok (some (.spent info.spendingTx))
  else if script.opcodeAt 1 = some Opcode.op1 then .ok (some (.refunded info.spendingTx))
  else .error (.noInstruction info.spendingTx)

/-- The coin's hash algorithm and the history of the output's script, as the server answers. -/
def searchForSwapOutputSpend (crypto : Bitcrypto) (txHashAlgo : TxHashAlgo)
    (getHistory : Except String (List HistoryItem)) (timeLock : UInt32)
    (firstPub secondPub : Public) (secretHash : Bytes) (paymentTx : Transaction)
    (outputIndex : ℕ) : Except SearchError (Option FoundSwapTxSpend) :=
  let tx := { paymentTx with txHashAlgo := txHashAlgo }
  if tx.outputs = [] then .error .noOutputs
  else
    let script := paymentScript crypto timeLock secretHash firstPub secondPub
    let expectedScriptPubkey := Builder.buildP2sh (crypto.dhash160 script)
    match tx.outputs[outputIndex]? with
    | none => .error (.noOutput outputIndex)
    | some output =>
      if output.scriptPubkey ≠ expectedScriptPubkey then
        .error (.scriptPubkeyMismatch tx outputIndex expectedScriptPubkey)
      else
        match findOutputSpend getHistory (tx.hash crypto) outputIndex txHashAlgo with
        | .error e => .error (.rpc e)
        | .ok none => .ok none
        | .ok (some info) => classify info

/-! ## What is found -/

variable {crypto : Bitcrypto} {check : InputCheck} {timeLock : UInt32} {pub0 pub1 : Public}
  {secretHash : Bytes} {txHash : H256} {vout : ℕ} {txHashAlgo : TxHashAlgo}
  {history : List HistoryItem} {getHistory : Except String (List HistoryItem)}
  {info : SpentOutputInfo} {script : Script} {instrs : List Instr}

theorem spendingInput_eq_some {tx : Transaction} {entry : TransactionInput × ℕ}
    (h : spendingInput txHash vout tx = some entry) :
    entry.1 ∈ tx.inputs ∧ entry.1.previousOutput = ⟨txHash, UInt32.ofNat vout⟩ := by
  have hmem := List.mem_of_find?_eq_some h
  have hspends := List.find?_some h
  simp only [decide_eq_true_eq] at hspends
  constructor
  · exact (List.mem_zipIdx' hmem).2 ▸ List.getElem_mem _
  · rw [← hspends.1, ← hspends.2]

/-- The input found spends the output, in a transaction of the history. -/
theorem findOutputSpendIn_spec
    (h : findOutputSpendIn txHash vout txHashAlgo history = .ok (some info)) :
    info.input ∈ info.spendingTx.inputs ∧
      info.input.previousOutput = ⟨txHash, UInt32.ofNat vout⟩ ∧
      ∃ item ∈ history, ∃ tx, item.transaction = .ok tx ∧
        info.spendingTx = { tx with txHashAlgo := txHashAlgo } := by
  induction history with
  | nil => cases h
  | cons item history ih =>
    unfold findOutputSpendIn at h
    cases htx : item.transaction with
    | error e =>
      rw [htx] at h
      cases h
    | ok tx =>
      simp only [htx] at h
      cases hinput : spendingInput txHash vout { tx with txHashAlgo := txHashAlgo } with
      | none =>
        simp only [hinput] at h
        obtain ⟨hmem, hprevious, item', hitem', htx'⟩ := ih h
        exact ⟨hmem, hprevious, item', List.mem_cons_of_mem _ hitem', htx'⟩
      | some entry =>
        simp only [hinput, Except.ok.injEq, Option.some.injEq] at h
        obtain ⟨hmem, hprevious⟩ := spendingInput_eq_some hinput
        subst h
        exact ⟨hmem, hprevious, item, List.mem_cons_self, tx, htx, rfl⟩

/-- A spend that the server knows is found. -/
theorem exists_findOutputSpendIn (hok : ∀ item ∈ history, ∃ tx, item.transaction = .ok tx)
    (hspent : ∃ item ∈ history, ∃ tx, item.transaction = .ok tx ∧ ∃ input ∈ tx.inputs,
      input.previousOutput = ⟨txHash, UInt32.ofNat vout⟩) :
    ∃ info, findOutputSpendIn txHash vout txHashAlgo history = .ok (some info) := by
  induction history with
  | nil =>
    obtain ⟨item, hitem, _⟩ := hspent
    cases hitem
  | cons item history ih =>
    obtain ⟨tx, htx⟩ := hok item List.mem_cons_self
    unfold findOutputSpendIn
    simp only [htx]
    cases hinput : spendingInput txHash vout { tx with txHashAlgo := txHashAlgo } with
    | some entry => exact ⟨_, rfl⟩
    | none =>
      apply ih (fun item' hitem' => hok item' (List.mem_cons_of_mem _ hitem'))
      obtain ⟨item', hitem', tx', htx', input, hmem, hprevious⟩ := hspent
      rcases List.mem_cons.mp hitem' with rfl | hrest
      · rw [htx] at htx'
        cases htx'
        obtain ⟨index, hindex⟩ := List.mem_iff_getElem?.mp hmem
        have hnone := List.find?_eq_none.mp hinput (input, index)
          (List.mem_zipIdx_iff_getElem?.mpr hindex)
        simp [hprevious] at hnone
      · exact ⟨item', hrest, tx', htx', input, hmem, hprevious⟩

/-! ## What it is taken for -/

/-- The iterator reads the opcodes of a script that only pushes. -/
theorem opcodeAt_of_pushes (hdecode : decode script = some instrs)
    (hpush : ∀ instr ∈ instrs, instr.isPush = true) (n : ℕ) :
    script.opcodeAt n = instrs[n]?.map Instr.opcode := by
  have hknown : ∀ instr ∈ instrs, Opcode.fromU8 instr.opcode = some instr.opcode := by
    intro instr hmem
    have hle : instr.opcode ≤ 0x60 := by simpa [Instr.isPush] using hpush instr hmem
    have hle' : instr.opcode ≤ 0xb9 := UInt8.le_trans hle (by decide)
    rw [Opcode.fromU8, if_pos (Or.inl hle')]
  rw [Script.opcodeAt, Script.iter_of_decode hdecode hknown, List.getElem?_map]
  cases instrs[n]? <;> rfl

/-- The class of a spend by the branch that the script takes. -/
def SpentOutputInfo.taken (info : SpentOutputInfo) (selector : Bytes) : FoundSwapTxSpend :=
  if castToBool selector then .refunded info.spendingTx else .spent info.spendingTx

theorem classify_eq_iff (selector : Bytes) :
    classify info = .ok (some (info.taken selector)) ↔
      if castToBool selector then
        Script.opcodeAt info.input.scriptSig 2 ≠ some Opcode.op0 ∧
          Script.opcodeAt info.input.scriptSig 1 = some Opcode.op1
      else Script.opcodeAt info.input.scriptSig 2 = some Opcode.op0 := by
  have hne : FoundSwapTxSpend.spent info.spendingTx ≠ .refunded info.spendingTx :=
    FoundSwapTxSpend.noConfusion
  unfold classify SpentOutputInfo.taken
  dsimp only
  cases castToBool selector with
  | true =>
    split
    · rename_i hthird
      simp [hthird]
    · rename_i hthird
      split
      · rename_i hsecond
        simp [hthird, hsecond]
      · rename_i hsecond
        simp [hsecond]
  | false =>
    split
    · rename_i hthird
      simp [hthird]
    · rename_i hthird
      split
      · simp [hthird]
      · simp [hthird]

/-- With the output there, the answer is the class of the spend found. -/
theorem searchForSwapOutputSpend_of_found {paymentTx : Transaction} {outputIndex : ℕ}
    {output : TransactionOutput} (houtput : paymentTx.outputs[outputIndex]? = some output)
    (hscript : output.scriptPubkey =
      Builder.buildP2sh (crypto.dhash160 (paymentScript crypto timeLock secretHash pub0 pub1)))
    (hfound : findOutputSpend getHistory
      (Transaction.hash crypto { paymentTx with txHashAlgo := txHashAlgo }) outputIndex txHashAlgo =
        .ok (some info)) :
    searchForSwapOutputSpend crypto txHashAlgo getHistory timeLock pub0 pub1 secretHash paymentTx
      outputIndex = classify info := by
  have hne : paymentTx.outputs ≠ [] := by
    intro hnil
    rw [hnil] at houtput
    cases houtput
  unfold searchForSwapOutputSpend
  simp only [hne, if_false, houtput, hscript, ne_eq, not_true_eq_false, hfound]

/-- What a spend that the network accepts is taken for. It takes the branch of the time lock or
that of the secret, and is told for what it is exactly if the third instruction of its input is
`OP_0` for the secret, and for the time lock the third is not and the second is `OP_1`. -/
theorem search_for_swap_output_spend_iff (crypto : Bitcrypto) (check : InputCheck)
    (txHashAlgo : TxHashAlgo) (getHistory : Except String (List HistoryItem)) (timeLock : UInt32)
    (pub0 pub1 : Public) (secretHash : Bytes) (paymentTx : Transaction) (outputIndex : ℕ)
    (output : TransactionOutput) (info : SpentOutputInfo) (instrs : List Instr) (stack : Stack)
    (hsized : secretHash.length = 20 ∨ secretHash.length = 32)
    (houtput : paymentTx.outputs[outputIndex]? = some output)
    (hscript : output.scriptPubkey =
      Builder.buildP2sh (crypto.dhash160 (paymentScript crypto timeLock secretHash pub0 pub1)))
    (hfound : findOutputSpend getHistory
      (Transaction.hash crypto { paymentTx with txHashAlgo := txHashAlgo }) outputIndex txHashAlgo =
        .ok (some info))
    (hspends : Spends crypto check info.input.scriptSig
      (paymentScript crypto timeLock secretHash pub0 pub1))
    (hdecode : decode info.input.scriptSig = some instrs)
    (hstack : evalScript (check.context crypto) info.input.scriptSig [] =
      some (paymentScript crypto timeLock secretHash pub0 pub1 :: stack)) :
    ∃ selector below, stack = selector :: below ∧
      (if castToBool selector then
        RefundPath check ((check.context crypto).reached (toLeBytes timeLock) = true) pub0 below
      else SecretPath crypto check secretHash pub1 below) ∧
      (searchForSwapOutputSpend crypto txHashAlgo getHistory timeLock pub0 pub1 secretHash
          paymentTx outputIndex = .ok (some (info.taken selector)) ↔
        if castToBool selector then
          instrs[2]?.map Instr.opcode ≠ some Opcode.op0 ∧
            instrs[1]?.map Instr.opcode = some Opcode.op1
        else instrs[2]?.map Instr.opcode = some Opcode.op0) := by
  obtain ⟨_, haccepts⟩ := @accepts_of_spends crypto check timeLock pub0 pub1
    (.takerOrMakerPayment secretHash) _ _ _ hspends hstack
  obtain ⟨selector, below, heq, hpath⟩ := (accepts_paymentScript hsized).mp haccepts
  obtain ⟨instrs', redeem, rest, hpushes, _, _⟩ :=
    (spends_iff (crypto.dhash160 _).property).mp hspends
  have hsame : instrs' = instrs := Option.some.inj (hpushes.decode.symm.trans hdecode)
  refine ⟨selector, below, heq, hpath, ?_⟩
  rw [searchForSwapOutputSpend_of_found houtput hscript hfound, classify_eq_iff]
  rw [← hsame, ← opcodeAt_of_pushes hpushes.decode hpushes.isPush,
    ← opcodeAt_of_pushes hpushes.decode hpushes.isPush]

/-! ### A payment and its spend -/

/-- The payment of the sample. -/
def samplePaymentTx : Transaction :=
  { sampleTx [] with outputs := [⟨100000, Builder.buildP2sh (sampleCrypto.dhash160 sampleRedeem)⟩] }

/-- The digests of the sample and those of its payment. -/
def sampleTxCrypto : Bitcrypto where
  sha256 := fun input =>
    if input = samplePaymentTx.serialize then
      ⟨[154, 40, 46, 42, 28, 85, 34, 75, 97, 203, 56, 251, 198, 199, 46, 249, 145, 239, 68, 228,
        217, 167, 103, 154, 189, 232, 55, 216, 119, 97, 113, 242], rfl⟩
    else if input.head? = some 154 then
      ⟨[238, 75, 133, 33, 232, 116, 147, 19, 34, 43, 78, 102, 234, 18, 175, 20, 9, 243, 129, 137,
        66, 129, 60, 237, 168, 123, 251, 159, 148, 227, 132, 159], rfl⟩
    else sampleCrypto.sha256 input
  ripemd160 := sampleCrypto.ripemd160

/-- What the server answers after the payment is spent by an input with some script. -/
def sampleHistory (scriptSig : Bytes) : List HistoryItem :=
  [{ height := 100, transaction := .ok samplePaymentTx },
    { height := 101
      transaction := .ok { sampleTx scriptSig with
        inputs := [{ sampleInput scriptSig with
          previousOutput := { hash := samplePaymentTx.hash sampleTxCrypto, index := 0 } }] } }]

/-- What the search finds there. -/
def sampleInfo (scriptSig : Bytes) : SpentOutputInfo where
  input := { sampleInput scriptSig with
    previousOutput := { hash := samplePaymentTx.hash sampleTxCrypto, index := 0 } }
  inputIndex := 0
  spendingTx := { sampleTx scriptSig with
    inputs := [{ sampleInput scriptSig with
      previousOutput := { hash := samplePaymentTx.hash sampleTxCrypto, index := 0 } }] }
  spentInBlock := 101

/-- A refund with items that nobody asks for below the signature. -/
def sampleRefund : Builder :=
  (Builder.default
    |>.pushOpcode Opcode.op0
    |>.pushOpcode Opcode.op0
    |>.pushOpcode Opcode.op0
    |>.pushData sampleSig
    |>.pushOpcode Opcode.op1
    |>.pushData sampleRedeem)

/-- The owner's signature, after the time lock. -/
def sampleRefundCheck : InputCheck where
  checkSig := fun sig pub => sig = sampleSig ∧ pub = sampleOwner.val
  lockTime := 1
  notFinal := true

theorem sampleRefund_items : sampleRefund.PushesItems [[], [], [], sampleSig, [1], sampleRedeem] :=
  (Builder.PushesItems.default.pushOp0.pushOp0.pushOp0.pushData sampleSig (by decide)).pushOp1
    |>.pushData _ (length_redeemScript_lt samplePayment_sized)

/-- The hash of the secret is not hashed again. -/
theorem paymentScript_sample :
    paymentScript sampleTxCrypto 1 (sampleCrypto.dhash160 sampleSecret).val sampleOwner
      sampleReceiver = sampleRedeem := by
  decide +kernel

theorem spends_sampleRefund : Spends sampleTxCrypto sampleRefundCheck sampleRefund.data
    (paymentScript sampleTxCrypto 1 (sampleCrypto.dhash160 sampleSecret).val sampleOwner
      sampleReceiver) := by
  have hbuilt := sampleRefund_items
  rw [← paymentScript_sample] at hbuilt
  have hone : castToBool [1] = true := rfl
  refine (@spends_of_pushes sampleTxCrypto sampleRefundCheck 1 sampleOwner sampleReceiver
    samplePayment sampleRefund [[], [], [], sampleSig, [1]] hbuilt).mpr ?_
  rw [accepts_redeemScript samplePayment_sized]
  refine selects_cons.mpr ((if_pos hone).to_iff.mpr ⟨?_, sampleSig, _, rfl, by decide⟩)
  have hlt : (1 : UInt32).toNat < 2 ^ 31 := by decide
  exact (reached_iff_of_lt hlt).mpr ⟨by decide, le_rfl, rfl⟩

theorem evalScript_sampleRefund :
    evalScript (sampleRefundCheck.context sampleTxCrypto) sampleRefund.data [] =
      some (paymentScript sampleTxCrypto 1 (sampleCrypto.dhash160 sampleSecret).val sampleOwner
        sampleReceiver :: [[1], sampleSig, [], [], []]) := by
  rw [paymentScript_sample]
  obtain ⟨instrs, hpushes⟩ := sampleRefund_items.pushes
  exact hpushes.evalScript

theorem findOutputSpend_sampleRefund :
    findOutputSpend (.ok (sampleHistory sampleRefund.data))
        (Transaction.hash sampleTxCrypto { samplePaymentTx with txHashAlgo := .dsha256 }) 0
        .dsha256 = .ok (some (sampleInfo sampleRefund.data)) := by
  decide +kernel

/-- The search at the refund of the sample. -/
theorem search_for_swap_output_spend_sample :
    ∃ selector below, [[1], sampleSig, [], [], []] = selector :: below ∧
      (if castToBool selector then
        RefundPath sampleRefundCheck
          ((sampleRefundCheck.context sampleTxCrypto).reached (toLeBytes 1) = true) sampleOwner
          below
      else SecretPath sampleTxCrypto sampleRefundCheck (sampleCrypto.dhash160 sampleSecret).val
        sampleReceiver below) ∧
      (searchForSwapOutputSpend sampleTxCrypto .dsha256 (.ok (sampleHistory sampleRefund.data)) 1
          sampleOwner sampleReceiver (sampleCrypto.dhash160 sampleSecret).val samplePaymentTx 0 =
            .ok (some ((sampleInfo sampleRefund.data).taken selector)) ↔
        if castToBool selector then
          ([⟨0x00, []⟩, ⟨0x00, []⟩, ⟨0x00, []⟩, pushInstr sampleSig, ⟨0x51, []⟩,
              pushInstr sampleRedeem] : List Instr)[2]?.map Instr.opcode ≠ some Opcode.op0 ∧
            ([⟨0x00, []⟩, ⟨0x00, []⟩, ⟨0x00, []⟩, pushInstr sampleSig, ⟨0x51, []⟩,
              pushInstr sampleRedeem] : List Instr)[1]?.map Instr.opcode = some Opcode.op1
        else ([⟨0x00, []⟩, ⟨0x00, []⟩, ⟨0x00, []⟩, pushInstr sampleSig, ⟨0x51, []⟩,
              pushInstr sampleRedeem] : List Instr)[2]?.map Instr.opcode = some Opcode.op0) :=
  search_for_swap_output_spend_iff sampleTxCrypto sampleRefundCheck .dsha256
    (.ok (sampleHistory sampleRefund.data)) 1 sampleOwner sampleReceiver _ samplePaymentTx 0
    ⟨100000, Builder.buildP2sh (sampleCrypto.dhash160 sampleRedeem)⟩ (sampleInfo sampleRefund.data)
    _ _ samplePayment_sized rfl (by decide +kernel) findOutputSpend_sampleRefund
    spends_sampleRefund (by decide +kernel) evalScript_sampleRefund

/-- A refund after the time lock is taken for a spend with the secret. -/
theorem search_for_swap_output_spend_fails : ¬ ∀ (crypto : Bitcrypto) (check : InputCheck)
    (txHashAlgo : TxHashAlgo) (getHistory : Except String (List HistoryItem)) (timeLock : UInt32)
    (pub0 pub1 : Public) (secretHash : Bytes) (paymentTx : Transaction) (outputIndex : ℕ)
    (output : TransactionOutput) (info : SpentOutputInfo) (selector : Bytes) (below : Stack),
    secretHash.length = 20 ∨ secretHash.length = 32 →
    paymentTx.outputs[outputIndex]? = some output →
    output.scriptPubkey =
      Builder.buildP2sh (crypto.dhash160 (paymentScript crypto timeLock secretHash pub0 pub1)) →
    findOutputSpend getHistory
      (Transaction.hash crypto { paymentTx with txHashAlgo := txHashAlgo }) outputIndex txHashAlgo =
        .ok (some info) →
    Spends crypto check info.input.scriptSig
      (paymentScript crypto timeLock secretHash pub0 pub1) →
    evalScript (check.context crypto) info.input.scriptSig [] =
      some (paymentScript crypto timeLock secretHash pub0 pub1 :: selector :: below) →
    searchForSwapOutputSpend crypto txHashAlgo getHistory timeLock pub0 pub1 secretHash
      paymentTx outputIndex = .ok (some (info.taken selector)) := by
  intro h
  have hanswer := h sampleTxCrypto sampleRefundCheck .dsha256
    (.ok (sampleHistory sampleRefund.data)) 1 sampleOwner sampleReceiver _ samplePaymentTx 0
    ⟨100000, Builder.buildP2sh (sampleCrypto.dhash160 sampleRedeem)⟩ (sampleInfo sampleRefund.data)
    _ _ samplePayment_sized rfl (by decide +kernel) findOutputSpend_sampleRefund
    spends_sampleRefund evalScript_sampleRefund
  have hspent : Script.opcodeAt (sampleInfo sampleRefund.data).input.scriptSig 2 =
      some Opcode.op0 := by
    decide +kernel
  rw [searchForSwapOutputSpend_of_found rfl (by decide +kernel) findOutputSpend_sampleRefund,
    classify_eq_iff] at hanswer
  exact hanswer.1 hspent

end DeXFG.Utxo
