import DeXFG.Utxo.HtlcSemantics

/-!
# Reading the secret from a spend

The party that is owed a secret reads it from the transaction that spends its
payment. It looks at the items that are pushed by the opcode for 32 bytes, while
the party that spends may push them in other ways.
-/
namespace DeXFG.Utxo
open Library.BitcoinScript

/-- The hash of a secret, as the redeem scripts are locked to it. -/
def expectedSecretHash (crypto : Bitcrypto) (secretHash : Bytes) : Except String H160 :=
  if secretHash.length = 32 then .ok (crypto.ripemd160 secretHash)
  else if h : secretHash.length = 20 then .ok ⟨secretHash, h⟩
  else .error "could not convert slice to array"

/-- What one instruction returns from the loop, if it does. -/
def secretOf (crypto : Bitcrypto) (expected : H160) (instruction : Instruction) :
    Option (Except String H256) :=
  if instruction.opcode = Opcode.opPushbytes32 then
    match instruction.data with
    | none => none
    | some secret =>
      if crypto.dhash160 secret = expected then
        if h : secret.length = 32 then some (.ok ⟨secret, h⟩)
        else some (.error "could not convert slice to array")
      else none
  else none

/-- The instructions of a script that the iterator reads without an error. -/
def instructionsOf (script : Script) : List Instruction :=
  (Script.iter script).filterMap Except.toOption

def extractSecretV2 (crypto : Bitcrypto) (secretHash : Bytes) (spendTx : Transaction) :
    Except String H256 := do
  let expected ← expectedSecretHash crypto secretHash
  match spendTx.inputs.findSome? fun input =>
      (instructionsOf input.scriptSig).findSome? (secretOf crypto expected) with
  | some result => result
  | none => .error "Couldn't extract secret"

/-! ## What is found -/

/-- Some input of the transaction pushes the bytes with the opcode for 32 bytes. -/
def PushedDirectly (tx : Transaction) (secret : Bytes) : Prop :=
  ∃ input ∈ tx.inputs, ∃ instruction ∈ instructionsOf input.scriptSig,
    instruction.opcode = Opcode.opPushbytes32 ∧ instruction.data = some secret

variable {crypto : Bitcrypto} {check : InputCheck} {timeLock : UInt32} {pub0 pub1 : Public}
  {txType : SwapTxTypeWithSecretHash} {script : Script} {hash secret : Bytes} {tx : Transaction}
  {instruction : Instruction} {expected : H160}

/-- The opcode for 32 bytes comes with 32 bytes. -/
theorem length_of_mem_instructions (hmem : instruction ∈ instructionsOf script)
    (hop : instruction.opcode = Opcode.opPushbytes32) (hdata : instruction.data = some secret) :
    secret.length = 32 := by
  obtain ⟨result, hresult, hok⟩ := List.mem_filterMap.mp hmem
  cases result with
  | error e => cases hok
  | ok x =>
    cases hok
    obtain ⟨position, hget⟩ := Script.exists_position hresult
    have hlength := Script.length_of_short hget (by rw [hop]; decide) hdata
    rw [hlength, hop]
    rfl

theorem secretOf_eq_some_iff (hmem : instruction ∈ instructionsOf script)
    {result : Except String H256} :
    secretOf crypto expected instruction = some result ↔
      ∃ found : H256, result = .ok found ∧ instruction.opcode = Opcode.opPushbytes32 ∧
        instruction.data = some found.val ∧ crypto.dhash160 found.val = expected := by
  constructor
  · intro h
    unfold secretOf at h
    split at h
    · rename_i hop
      cases hdata : instruction.data with
      | none => simp [hdata] at h
      | some secret =>
        have hlength := length_of_mem_instructions hmem hop hdata
        simp only [hdata, hlength, dite_true] at h
        split at h
        · rename_i hhash
          exact ⟨⟨secret, hlength⟩, (Option.some.inj h).symm, hop, rfl, hhash⟩
        · cases h
    · cases h
  · intro h
    obtain ⟨found, rfl, hop, hdata, hhash⟩ := h
    simp [secretOf, hop, hdata, hhash, found.property]

theorem expectedSecretHash_of_sized (h : hash.length = 20 ∨ hash.length = 32) :
    ∃ expected, expectedSecretHash crypto hash = .ok expected ∧
      expected.val = lockedHash crypto hash := by
  unfold expectedSecretHash lockedHash
  rcases h with h | h
  · have hne : hash.length ≠ 32 := by omega
    exact ⟨⟨hash, h⟩, by rw [if_neg hne, dif_pos h], (if_neg hne).symm⟩
  · exact ⟨_, if_pos h, (if_pos h).symm⟩

/-- The loop ends with the first preimage that is pushed directly. -/
theorem extractSecretV2_eq_ok_iff (h : hash.length = 20 ∨ hash.length = 32) :
    (∃ found, extractSecretV2 crypto hash tx = .ok found ∧
        (crypto.dhash160 found.val).val = lockedHash crypto hash) ↔
      ∃ secret, PushedDirectly tx secret ∧
        (crypto.dhash160 secret).val = lockedHash crypto hash := by
  obtain ⟨expected, hexpected, hlocked⟩ := @expectedSecretHash_of_sized crypto hash h
  have hextract : extractSecretV2 crypto hash tx =
      match tx.inputs.findSome? fun input =>
          (instructionsOf input.scriptSig).findSome? (secretOf crypto expected) with
      | some result => result
      | none => .error "Couldn't extract secret" := by
    rw [extractSecretV2, hexpected]
    rfl
  rw [hextract]
  constructor
  · intro hfound
    obtain ⟨found, hfound, hhash⟩ := hfound
    cases hsome : tx.inputs.findSome? fun input =>
        (instructionsOf input.scriptSig).findSome? (secretOf crypto expected) with
    | none => simp [hsome] at hfound
    | some result =>
      obtain ⟨input, hinput, hinstr⟩ := List.exists_of_findSome?_eq_some hsome
      obtain ⟨instruction, hmem, hsecret⟩ := List.exists_of_findSome?_eq_some hinstr
      obtain ⟨found', rfl, hop, hdata, _⟩ := (secretOf_eq_some_iff hmem).mp hsecret
      simp only [hsome, Except.ok.injEq] at hfound
      subst hfound
      exact ⟨found'.val, ⟨input, hinput, instruction, hmem, hop, hdata⟩, hhash⟩
  · intro hpushed
    obtain ⟨secret, ⟨input, hinput, instruction, hmem, hop, hdata⟩, hhash⟩ := hpushed
    cases hsome : tx.inputs.findSome? fun input =>
        (instructionsOf input.scriptSig).findSome? (secretOf crypto expected) with
    | none =>
      have hnone := List.findSome?_eq_none_iff.mp
        (List.findSome?_eq_none_iff.mp hsome input hinput) instruction hmem
      have hlength := length_of_mem_instructions hmem hop hdata
      have hsecret := (@secretOf_eq_some_iff crypto _ _ expected hmem _).mpr
        ⟨⟨secret, hlength⟩, rfl, hop, hdata, Subtype.ext (hhash.trans hlocked.symm)⟩
      rw [hnone] at hsecret
      cases hsecret
    | some result =>
      obtain ⟨input, _, hinstr⟩ := List.exists_of_findSome?_eq_some hsome
      obtain ⟨instruction, hmem, hsecret⟩ := List.exists_of_findSome?_eq_some hinstr
      obtain ⟨found, rfl, _, _, hhash'⟩ := (secretOf_eq_some_iff hmem).mp hsecret
      exact ⟨found, rfl, by rw [hhash', hlocked]⟩

/-! ## The branches that show a secret -/

/-- The stack goes through a branch of the script that takes a secret, shown for a hash. -/
inductive Reveals : SwapTxTypeWithSecretHash → Stack → Bytes → Bytes → Prop where
  | payment {selector hash secret : Bytes} {below : Stack} (h : castToBool selector = false) :
    Reveals (.takerOrMakerPayment hash) (selector :: secret :: below) hash secret
  | takerPayment {selector hash hash' secret : Bytes} {below : Stack}
      (h : castToBool selector = false) :
    Reveals (.takerPaymentV2 hash hash') (selector :: secret :: below) hash secret
  | takerFunding {selector selector' hash secret : Bytes} {below : Stack}
      (h : castToBool selector = false) (h' : castToBool selector' = false) :
    Reveals (.takerFunding hash) (selector :: selector' :: secret :: below) hash secret
  | makerPayment {selector selector' hash hash' secret : Bytes} {below : Stack}
      (h : castToBool selector = false) (h' : castToBool selector' = true) :
    Reveals (.makerPaymentV2 hash hash') (selector :: selector' :: secret :: below) hash secret
  | makerPaymentBack {selector selector' hash hash' secret : Bytes} {below : Stack}
      (h : castToBool selector = false) (h' : castToBool selector' = false) :
    Reveals (.makerPaymentV2 hash hash') (selector :: selector' :: secret :: below) hash' secret

variable {stack : Stack} {top : Bytes}

theorem secretPath_cons {pub : Public} {rest : Stack}
    (h : SecretPath crypto check hash pub (secret :: rest)) :
    secret.length = 32 ∧ (crypto.dhash160 secret).val = lockedHash crypto hash := by
  obtain ⟨secret', _, _, heq, hlength, hhash, _⟩ := h
  cases heq
  exact ⟨hlength, hhash⟩

theorem jointSecretPath_cons {rest : Stack}
    (h : JointSecretPath crypto check hash pub0 pub1 (secret :: rest)) :
    secret.length = 32 ∧ (crypto.dhash160 secret).val = lockedHash crypto hash := by
  obtain ⟨secret', _, heq, hlength, hhash, _⟩ := h
  cases heq
  exact ⟨hlength, hhash⟩

/-- A secret that a script accepts is a preimage of 32 bytes of the hash it is shown for. -/
theorem preimage_of_reveals (hsized : txType.Sized)
    (haccepts : accepts (check.context crypto) (txType.redeemScript crypto timeLock pub0 pub1)
      stack = true) (hreveals : Reveals txType stack hash secret) :
    (hash.length = 20 ∨ hash.length = 32) ∧ secret ∈ stack ∧ secret.length = 32 ∧
      (crypto.dhash160 secret).val = lockedHash crypto hash := by
  have hpath := (accepts_redeemScript hsized).mp haccepts
  cases hreveals with
  | payment h =>
    rw [selects_cons, h] at hpath
    exact ⟨hsized, by simp, secretPath_cons hpath⟩
  | takerPayment h =>
    rw [selects_cons, h] at hpath
    exact ⟨hsized.1, by simp, jointSecretPath_cons hpath⟩
  | takerFunding h h' =>
    rw [selects_cons, h] at hpath
    have hinner := selects_cons.mp hpath
    rw [h'] at hinner
    exact ⟨hsized, by simp, secretPath_cons hinner⟩
  | makerPayment h h' =>
    rw [selects_cons, h] at hpath
    have hinner := selects_cons.mp hpath
    rw [h'] at hinner
    exact ⟨hsized.1, by simp, secretPath_cons hinner⟩
  | makerPaymentBack h h' =>
    rw [selects_cons, h] at hpath
    have hinner := selects_cons.mp hpath
    rw [h'] at hinner
    exact ⟨hsized.2, by simp, secretPath_cons hinner⟩

/-- The stack that an accepted input leaves to the script. -/
theorem accepts_of_spends (hspends : Spends crypto check script
      (txType.redeemScript crypto timeLock pub0 pub1))
    (hstack : evalScript (check.context crypto) script [] = some (top :: stack)) :
    crypto.dhash160 top = crypto.dhash160 (txType.redeemScript crypto timeLock pub0 pub1) ∧
      accepts (check.context crypto) top stack = true := by
  obtain ⟨instrs, redeem, rest, hpushes, hhash, haccepts⟩ :=
    (spends_iff (crypto.dhash160 _).property).mp hspends
  rw [hpushes.evalScript, List.append_nil, List.reverse_reverse] at hstack
  cases hstack
  exact ⟨Subtype.ext hhash, haccepts⟩

/-- All data that the inputs of a transaction push. -/
def pushedData (tx : Transaction) : List Bytes :=
  tx.inputs.flatMap fun input => (instructionsOf input.scriptSig).filterMap Instruction.data

theorem PushedDirectly.mem_pushedData (h : PushedDirectly tx secret) : secret ∈ pushedData tx := by
  obtain ⟨input, hinput, instruction, hmem, _, hdata⟩ := h
  exact List.mem_flatMap.mpr ⟨input, hinput, List.mem_filterMap.mpr ⟨instruction, hmem, hdata⟩⟩

/-- From an input that spends a payment through a branch with a secret, the secret is extracted
exactly if some input pushes it with the opcode for 32 bytes. -/
theorem extract_secret_iff (crypto : Bitcrypto) (check : InputCheck) (timeLock : UInt32)
    (pub0 pub1 : Public) (txType : SwapTxTypeWithSecretHash) (tx : Transaction)
    (input : TransactionInput) (top hash secret : Bytes) (stack : Stack)
    (hsized : txType.Sized)
    (hspends : Spends crypto check input.scriptSig
      (txType.redeemScript crypto timeLock pub0 pub1))
    (hstack : evalScript (check.context crypto) input.scriptSig [] = some (top :: stack))
    (hreveals : Reveals txType stack hash secret)
    (hfree : Set.InjOn crypto.dhash160 {item | item ∈
      txType.redeemScript crypto timeLock pub0 pub1 :: top :: (stack ++ pushedData tx)}) :
    (∃ found, extractSecretV2 crypto hash tx = .ok found ∧
        (crypto.dhash160 found.val).val = lockedHash crypto hash) ↔
      PushedDirectly tx secret := by
  obtain ⟨htop, haccepts⟩ := accepts_of_spends hspends hstack
  have heq : top = txType.redeemScript crypto timeLock pub0 pub1 :=
    hfree (by simp) (by simp) htop
  rw [heq] at haccepts
  obtain ⟨hlength, hmem, _, hhash⟩ := preimage_of_reveals hsized haccepts hreveals
  rw [extractSecretV2_eq_ok_iff hlength]
  constructor
  · intro h
    obtain ⟨secret', hpushed, hhash'⟩ := h
    have hsame : crypto.dhash160 secret' = crypto.dhash160 secret :=
      Subtype.ext (hhash'.trans hhash.symm)
    have hsecret : secret' = secret :=
      hfree (by simp [hpushed.mem_pushedData]) (by simp [hmem]) hsame
    rwa [← hsecret]
  · intro h
    exact ⟨secret, h, hhash⟩

/-! ### A payment that two inputs spend -/

/-- Digests of SHA-256 and RIPEMD-160 for the items of the sample. -/
def sampleCrypto : Bitcrypto where
  sha256 := fun input =>
    if input = List.replicate 32 1 then
      ⟨[114, 205, 110, 132, 34, 196, 7, 251, 109, 9, 134, 144, 241, 19, 11, 125, 237, 126, 194,
        247, 245, 225, 211, 11, 217, 213, 33, 240, 21, 54, 55, 147], rfl⟩
    else if input = List.replicate 71 0x30 then
      ⟨[8, 225, 99, 93, 105, 204, 143, 112, 168, 102, 23, 145, 247, 212, 47, 94, 83, 102, 35, 224,
        115, 81, 80, 194, 117, 142, 7, 126, 60, 9, 156, 86], rfl⟩
    else if input = [] then
      ⟨[227, 176, 196, 66, 152, 252, 28, 20, 154, 251, 244, 200, 153, 111, 185, 36, 39, 174, 65,
        228, 100, 155, 147, 76, 164, 149, 153, 27, 120, 82, 184, 85], rfl⟩
    else
      ⟨[127, 116, 235, 247, 251, 60, 228, 213, 202, 215, 53, 53, 191, 129, 245, 167, 108, 111,
        168, 153, 63, 244, 60, 92, 159, 213, 250, 109, 84, 162, 74, 195], rfl⟩
  ripemd160 := fun input =>
    if input.head? = some 114 then
      ⟨[75, 107, 46, 84, 68, 194, 99, 156, 192, 251, 123, 206, 165, 175, 186, 63, 60, 220, 226,
        57], rfl⟩
    else if input.head? = some 8 then
      ⟨[72, 33, 152, 183, 255, 175, 54, 168, 137, 201, 91, 254, 169, 254, 200, 215, 115, 191, 91,
        168], rfl⟩
    else if input.head? = some 227 then
      ⟨[180, 114, 162, 102, 208, 189, 137, 193, 55, 6, 164, 19, 44, 207, 177, 111, 124, 59, 159,
        203], rfl⟩
    else
      ⟨[41, 180, 128, 103, 176, 25, 145, 157, 54, 133, 115, 211, 154, 32, 175, 120, 110, 173, 1,
        236], rfl⟩

def sampleSecret : Bytes := List.replicate 32 1

def sampleSig : Bytes := List.replicate 71 0x30

def sampleOwner : Public := ⟨List.replicate 33 2, Or.inl List.length_replicate⟩

def sampleReceiver : Public := ⟨List.replicate 33 3, Or.inl List.length_replicate⟩

def samplePayment : SwapTxTypeWithSecretHash :=
  .takerOrMakerPayment (sampleCrypto.dhash160 sampleSecret).val

theorem samplePayment_sized : samplePayment.Sized := Or.inl (sampleCrypto.dhash160 _).property

def sampleCheck : InputCheck where
  checkSig := fun sig pub => sig = sampleSig ∧ pub = sampleReceiver.val
  lockTime := 0
  notFinal := true

def sampleRedeem : Script := samplePayment.redeemScript sampleCrypto 1 sampleOwner sampleReceiver

def sampleInput (scriptSig : Bytes) : TransactionInput where
  previousOutput := { hash := H256.default, index := 0 }
  scriptSig := scriptSig
  sequence := 0xffffffff
  scriptWitness := []

/-- A transaction with one input. -/
def sampleTx (scriptSig : Bytes) : Transaction where
  version := 1
  nTime := none
  overwintered := false
  versionGroupId := 0
  inputs := [sampleInput scriptSig]
  outputs := []
  lockTime := 0
  expiryHeight := 0
  shieldedSpends := []
  shieldedOutputs := []
  joinSplits := []
  valueBalance := 0
  joinSplitPubkey := H256.default
  joinSplitSig := H512.default
  bindingSig := H512.default
  zcash := false
  posv := false
  strDZeel := none
  txHashAlgo := .dsha256
  vExtraPayload := none

/-- The input that the code builds. -/
def sampleSpend : Builder :=
  (Builder.default
    |>.pushData sampleSig
    |>.pushData sampleSecret
    |>.pushOpcode Opcode.op0
    |>.pushData sampleRedeem)

/-- The secret is pushed by an opcode that a length follows. -/
def sampleOtherSpend : Builder :=
  (Builder.default
    |>.pushData sampleSig
    |>.extendFromSlice (Opcode.opPushdata1 :: 32 :: sampleSecret)
    |>.pushOpcode Opcode.op0
    |>.pushData sampleRedeem)

/-- Both push the same items. -/
theorem sampleSpend_items : sampleSpend.PushesItems
    [sampleSig, sampleSecret, [], samplePayment.redeemScript sampleCrypto 1 sampleOwner
      sampleReceiver] :=
  (Builder.PushesItems.default.pushData sampleSig (by decide)
    |>.pushData sampleSecret (by decide)).pushOp0
    |>.pushData _ (length_redeemScript_lt samplePayment_sized)

theorem sampleOtherSpend_items : sampleOtherSpend.PushesItems
    [sampleSig, sampleSecret, [], samplePayment.redeemScript sampleCrypto 1 sampleOwner
      sampleReceiver] :=
  ((Builder.PushesItems.default.pushData sampleSig (by decide)).extendFromSlice
    (Builder.PushesItems.pushdata1 sampleSecret (by decide))).pushOp0
    |>.pushData _ (length_redeemScript_lt samplePayment_sized)

/-- The network accepts an input that pushes these items. -/
theorem spends_sample {built : Builder} (hbuilt : built.PushesItems
      [sampleSig, sampleSecret, [], samplePayment.redeemScript sampleCrypto 1 sampleOwner
        sampleReceiver]) :
    Spends sampleCrypto sampleCheck built.data
      (samplePayment.redeemScript sampleCrypto 1 sampleOwner sampleReceiver) := by
  have hzero : ¬ castToBool [] = true := by decide
  have hpushes : built.PushesItems ([sampleSig, sampleSecret, []] ++
      [samplePayment.redeemScript sampleCrypto 1 sampleOwner sampleReceiver]) := hbuilt
  rw [spends_of_pushes hpushes]
  rw [accepts_redeemScript samplePayment_sized]
  refine selects_cons.mpr ((if_neg hzero).to_iff.mpr ?_)
  exact ⟨sampleSecret, sampleSig, [], rfl, rfl, rfl, by decide⟩

theorem evalScript_sample {built : Builder} (hbuilt : built.PushesItems
      [sampleSig, sampleSecret, [], samplePayment.redeemScript sampleCrypto 1 sampleOwner
        sampleReceiver]) :
    evalScript (sampleCheck.context sampleCrypto) built.data [] =
      some [samplePayment.redeemScript sampleCrypto 1 sampleOwner sampleReceiver, [], sampleSecret,
        sampleSig] := by
  obtain ⟨instrs, hpushes⟩ := hbuilt.pushes
  exact hpushes.evalScript

/-- No two items of the samples have the same hash. -/
theorem sampleCrypto_injOn {items : List Bytes}
    (hitems : ∀ item ∈ items, item ∈ [sampleSig, sampleSecret, [], sampleRedeem]) :
    Set.InjOn sampleCrypto.dhash160 {item | item ∈ items} := by
  have hall : ∀ x ∈ [sampleSig, sampleSecret, [], sampleRedeem],
      ∀ y ∈ [sampleSig, sampleSecret, [], sampleRedeem],
        sampleCrypto.dhash160 x = sampleCrypto.dhash160 y → x = y := by
    decide +kernel
  intro x hx y hy
  exact hall x (hitems x hx) y (hitems y hy)

/-- The secret is extracted from the input that the code builds. -/
theorem extract_secret_sample :
    (∃ found, extractSecretV2 sampleCrypto (sampleCrypto.dhash160 sampleSecret).val
        (sampleTx sampleSpend.data) = .ok found ∧
      (sampleCrypto.dhash160 found.val).val =
        lockedHash sampleCrypto (sampleCrypto.dhash160 sampleSecret).val) ↔
      PushedDirectly (sampleTx sampleSpend.data) sampleSecret :=
  extract_secret_iff sampleCrypto sampleCheck 1 sampleOwner sampleReceiver samplePayment
    (sampleTx sampleSpend.data) (sampleInput sampleSpend.data) _ _ _ _ samplePayment_sized
    (spends_sample sampleSpend_items) (evalScript_sample sampleSpend_items)
    (Reveals.payment (by decide)) (sampleCrypto_injOn (by decide +kernel))

/-- A spend that the network accepts and that the code does not find the secret in. -/
theorem extract_secret_incomplete : ¬ ∀ (crypto : Bitcrypto) (check : InputCheck)
    (timeLock : UInt32) (pub0 pub1 : Public) (txType : SwapTxTypeWithSecretHash) (tx : Transaction)
    (input : TransactionInput) (top hash secret : Bytes) (stack : Stack),
    txType.Sized → input ∈ tx.inputs →
    Spends crypto check input.scriptSig (txType.redeemScript crypto timeLock pub0 pub1) →
    evalScript (check.context crypto) input.scriptSig [] = some (top :: stack) →
    Reveals txType stack hash secret →
    Set.InjOn crypto.dhash160 {item | item ∈
      txType.redeemScript crypto timeLock pub0 pub1 :: top :: (stack ++ pushedData tx)} →
    ∃ found, extractSecretV2 crypto hash tx = .ok found ∧
      (crypto.dhash160 found.val).val = lockedHash crypto hash := by
  intro h
  have hlength : (sampleCrypto.dhash160 sampleSecret).val.length = 20 ∨
      (sampleCrypto.dhash160 sampleSecret).val.length = 32 := samplePayment_sized
  have hnone : ∀ input ∈ (sampleTx sampleOtherSpend.data).inputs,
      ∀ instruction ∈ instructionsOf input.scriptSig,
        instruction.opcode ≠ Opcode.opPushbytes32 := by
    decide +kernel
  have hfound := h sampleCrypto sampleCheck 1 sampleOwner sampleReceiver samplePayment
    (sampleTx sampleOtherSpend.data) (sampleInput sampleOtherSpend.data) _ _ _ _
    samplePayment_sized (by simp [sampleTx]) (spends_sample sampleOtherSpend_items)
    (evalScript_sample sampleOtherSpend_items) (Reveals.payment (by decide))
    (sampleCrypto_injOn (by decide +kernel))
  obtain ⟨secret, ⟨input, hinput, instruction, hmem, hop, _⟩, _⟩ :=
    (extractSecretV2_eq_ok_iff hlength).mp hfound
  exact hnone input hinput instruction hmem hop

end DeXFG.Utxo
