import DeXFG.Utxo.ScriptSigs

/-!
# What the payments allow

The payments are meant to be spent in documented ways only, and each way with
the input that the code builds for it. This is so as long as the time lock is
below 2^31; from there on its bytes are read as a negative number.
-/
namespace DeXFG.Utxo
open Library.BitcoinScript

/-- The documented ways to spend a payment: the refund once the lock time of the transaction
has reached the time lock, or the other ways of its kind. -/
def SwapTxTypeWithSecretHash.Documented (crypto : Bitcrypto) (check : InputCheck)
    (timeLock : UInt32) (myPublic otherPublic : Public) (txType : SwapTxTypeWithSecretHash) :
    Stack → Prop :=
  Selects (RefundPath check ((check.context crypto).TimeReached timeLock.toNat) myPublic)
    (txType.OtherPath crypto check myPublic otherPublic)

/-- A transaction input spends an output paid to the hash of a script. -/
def Spends (crypto : Bitcrypto) (check : InputCheck) (scriptSig : Bytes) (redeemScript : Script) :
    Prop :=
  Library.BitcoinScript.spends (check.context crypto) scriptSig
    (crypto.dhash160 redeemScript).val = true

/-- The documented behaviour of the payments with a time lock, and of the inputs that the
functions build to spend them. -/
structure HtlcSemantics (crypto : Bitcrypto) (timeLock : UInt32) : Prop where
  exact : ∀ (txType : SwapTxTypeWithSecretHash) (pub0 pub1 : Public), txType.Sized →
    ∀ (check : InputCheck) (stack : Stack),
      accepts (check.context crypto) (txType.redeemScript crypto timeLock pub0 pub1) stack = true ↔
        txType.Documented crypto check timeLock pub0 pub1 stack
  /-- The owner's signature suffices in a transaction with some lock time. -/
  refundable : ∀ (txType : SwapTxTypeWithSecretHash) (pub0 pub1 : Public), txType.Sized →
    ∀ (checkSig : Bytes → Bytes → Bool) (sig : Bytes), checkSig sig pub0.val = true →
      ∃ lockTime : UInt32,
        accepts (InputCheck.context crypto
            { checkSig := checkSig, lockTime := lockTime.toNat, notFinal := true })
          (txType.redeemScript crypto timeLock pub0 pub1) [[1], sig] = true
  /-- Nobody else can spend. -/
  parties : ∀ (txType : SwapTxTypeWithSecretHash) (pub0 pub1 : Public), txType.Sized →
    ∀ (check : InputCheck) (stack : Stack),
      accepts (check.context crypto) (txType.redeemScript crypto timeLock pub0 pub1) stack = true →
        ∃ sig ∈ stack, check.checkSig sig pub0.val = true ∨ check.checkSig sig pub1.val = true
  refund : ∀ (txType : SwapTxTypeWithSecretHash) (pub0 pub1 : Public), txType.Sized →
    ∀ (check : InputCheck) (input : UnsignedTransactionInput) (forkId : UInt32)
      (signature : Signature),
      Spends crypto check (p2shSpendWithSignature input
          (txType.redeemScript crypto timeLock pub0 pub1) refundHtlcPaymentData forkId
          signature).scriptSig (txType.redeemScript crypto timeLock pub0 pub1) ↔
        (check.context crypto).TimeReached timeLock.toNat ∧
          check.checkSig (scriptSig signature forkId) pub0.val = true
  spendsPayment : ∀ (hash : Bytes) (pub0 pub1 : Public),
    (SwapTxTypeWithSecretHash.takerOrMakerPayment hash).Sized →
    ∀ (check : InputCheck) (input : UnsignedTransactionInput) (forkId : UInt32)
      (signature : Signature) (secret : H256),
      Spends crypto check (p2shSpendWithSignature input
          (paymentScript crypto timeLock hash pub0 pub1) (spendsPaymentData secret) forkId
          signature).scriptSig (paymentScript crypto timeLock hash pub0 pub1) ↔
        (crypto.dhash160 secret.val).val = lockedHash crypto hash ∧
          check.checkSig (scriptSig signature forkId) pub1.val = true
  refundFundingSecret : ∀ (hash : Bytes) (takerPub makerPub : Public),
    (SwapTxTypeWithSecretHash.takerFunding hash).Sized →
    ∀ (check : InputCheck) (input : UnsignedTransactionInput) (forkId : UInt32)
      (signature : Signature) (secret : H256),
      Spends crypto check (p2shSpendWithSignature input
          (takerFundingScript crypto timeLock hash takerPub makerPub) (refundSecretData secret)
          forkId signature).scriptSig (takerFundingScript crypto timeLock hash takerPub makerPub) ↔
        (crypto.dhash160 secret.val).val = lockedHash crypto hash ∧
          check.checkSig (scriptSig signature forkId) takerPub.val = true
  spendFunding : ∀ (hash : Bytes) (takerPub makerPub : Public),
    (SwapTxTypeWithSecretHash.takerFunding hash).Sized →
    ∀ (check : InputCheck) (makerSig takerSig : Signature) (sighash : UInt8),
      Spends crypto check (takerFundingSpendScriptSig (withSighash makerSig sighash)
          (withSighash takerSig sighash)
          (takerFundingScript crypto timeLock hash takerPub makerPub))
          (takerFundingScript crypto timeLock hash takerPub makerPub) ↔
        check.checkSig (withSighash takerSig sighash) takerPub.val = true ∧
          check.checkSig (withSighash makerSig sighash) makerPub.val = true
  spendTakerPayment : ∀ (hash : Bytes) (takerPub makerPub : Public),
    (SwapTxTypeWithSecretHash.takerPaymentV2 hash hash).Sized →
    ∀ (check : InputCheck) (makerSig takerSig : Signature) (makerSighash takerSighash : UInt8)
      (secret : H256),
      Spends crypto check (takerPaymentSpendScriptSig (withSighash makerSig makerSighash)
          (withSighash takerSig takerSighash) secret
          (takerPaymentScript crypto timeLock hash takerPub makerPub))
          (takerPaymentScript crypto timeLock hash takerPub makerPub) ↔
        (crypto.dhash160 secret.val).val = lockedHash crypto hash ∧
          check.checkSig (withSighash takerSig takerSighash) takerPub.val = true ∧
          check.checkSig (withSighash makerSig makerSighash) makerPub.val = true
  spendMakerPayment : ∀ (makerHash takerHash : Bytes) (makerPub takerPub : Public),
    (SwapTxTypeWithSecretHash.makerPaymentV2 makerHash takerHash).Sized →
    ∀ (check : InputCheck) (input : UnsignedTransactionInput) (forkId : UInt32)
      (signature : Signature) (secret : H256),
      Spends crypto check (p2shSpendWithSignature input
          (makerPaymentScript crypto timeLock makerHash takerHash makerPub takerPub)
          (spendMakerPaymentV2Data secret) forkId signature).scriptSig
          (makerPaymentScript crypto timeLock makerHash takerHash makerPub takerPub) ↔
        (crypto.dhash160 secret.val).val = lockedHash crypto makerHash ∧
          check.checkSig (scriptSig signature forkId) takerPub.val = true
  refundMakerPaymentSecret : ∀ (makerHash takerHash : Bytes) (makerPub takerPub : Public),
    (SwapTxTypeWithSecretHash.makerPaymentV2 makerHash takerHash).Sized →
    ∀ (check : InputCheck) (input : UnsignedTransactionInput) (forkId : UInt32)
      (signature : Signature) (secret : H256),
      Spends crypto check (p2shSpendWithSignature input
          (makerPaymentScript crypto timeLock makerHash takerHash makerPub takerPub)
          (refundSecretData secret) forkId signature).scriptSig
          (makerPaymentScript crypto timeLock makerHash takerHash makerPub takerPub) ↔
        (crypto.dhash160 secret.val).val = lockedHash crypto takerHash ∧
          check.checkSig (scriptSig signature forkId) makerPub.val = true

variable {crypto : Bitcrypto} {check : InputCheck} {timeLock : UInt32} {pub0 pub1 : Public}
  {txType : SwapTxTypeWithSecretHash} {stack : Stack} {P Q : Stack → Prop} {x : Bytes}

theorem selects_cons :
    Selects P Q (x :: stack) ↔ if castToBool x then P stack else Q stack := by
  simp [Selects]

/-- An input that pushes some items and then the redeem script. -/
theorem spends_of_pushes {built : Builder} {items : List Bytes}
    (hbuilt : built.PushesItems (items ++ [txType.redeemScript crypto timeLock pub0 pub1])) :
    Spends crypto check built.data (txType.redeemScript crypto timeLock pub0 pub1) ↔
      accepts (check.context crypto) (txType.redeemScript crypto timeLock pub0 pub1)
        items.reverse = true := by
  obtain ⟨instrs, hpushes⟩ := hbuilt.pushes
  have hitems : items ++ [txType.redeemScript crypto timeLock pub0 pub1] =
      (txType.redeemScript crypto timeLock pub0 pub1 :: items.reverse).reverse := by
    simp
  rw [hitems] at hpushes
  have hspends := @Pushes.spends (check.context crypto) _ _
    (crypto.dhash160 (txType.redeemScript crypto timeLock pub0 pub1)).val _ _ hpushes
    (crypto.dhash160 _).property
  have hself : decide ((check.context crypto).hash160
      (txType.redeemScript crypto timeLock pub0 pub1) =
        (crypto.dhash160 (txType.redeemScript crypto timeLock pub0 pub1)).val) = true :=
    decide_eq_true rfl
  rw [hself, Bool.true_and] at hspends
  exact Bool.coe_iff_coe.mpr hspends

theorem length_withSighash_lt (signature : Signature) (sighash : UInt8) :
    (withSighash signature sighash).length < 2 ^ 32 := by
  have hle := signature.property
  simp only [withSighash, List.length_append, List.length_singleton]
  omega

theorem length_secret_lt (secret : H256) : secret.val.length < 2 ^ 32 := by
  rw [secret.property]
  norm_num

/-- An input that pushes a signature, some data and the redeem script. -/
theorem spends_p2shSpend {data : Builder} {items : List Bytes} (hdata : data.PushesItems items)
    (h : txType.Sized) (input : UnsignedTransactionInput) (forkId : UInt32)
    (signature : Signature) :
    Spends crypto check (p2shSpendWithSignature input
        (txType.redeemScript crypto timeLock pub0 pub1) data.data forkId signature).scriptSig
        (txType.redeemScript crypto timeLock pub0 pub1) ↔
      accepts (check.context crypto) (txType.redeemScript crypto timeLock pub0 pub1)
        (items.reverse ++ [scriptSig signature forkId]) = true := by
  have hbuilt := (Builder.PushesItems.default.pushData _
      (length_withSighash_lt signature (1 ||| forkId.toUInt8))).extendFromSlice hdata
    |>.extendFromSlice (Builder.PushesItems.default.pushData _
      (@length_redeemScript_lt crypto timeLock pub0 pub1 txType h))
  have hspends := @spends_of_pushes crypto check timeLock pub0 pub1 txType _
    ([scriptSig signature forkId] ++ items) hbuilt
  rw [List.reverse_append] at hspends
  exact hspends

theorem accepts_refund (hreached : (check.context crypto).reached (toLeBytes timeLock) = true ↔
      (check.context crypto).TimeReached timeLock.toNat) (h : txType.Sized) (sig : Bytes) :
    accepts (check.context crypto) (txType.redeemScript crypto timeLock pub0 pub1) [[1], sig] =
        true ↔
      (check.context crypto).TimeReached timeLock.toNat ∧ check.checkSig sig pub0.val = true := by
  have hone : castToBool [1] = true := rfl
  rw [accepts_redeemScript h, selects_cons, if_pos hone, hreached]
  simp [RefundPath]

theorem secretPath_iff {hash : Bytes} (secret : H256) (sig : Bytes) :
    SecretPath crypto check hash pub0 [secret.val, sig] ↔
      (crypto.dhash160 secret.val).val = lockedHash crypto hash ∧
        check.checkSig sig pub0.val = true := by
  constructor
  · intro h
    obtain ⟨secret', sig', below, heq, _, hhash, hsig⟩ := h
    cases heq
    exact ⟨hhash, hsig⟩
  · intro h
    exact ⟨secret.val, sig, [], rfl, secret.property, h.1, h.2⟩

theorem jointPath_iff (sig0 sig1 : Bytes) :
    JointPath check pub0 pub1 [sig0, sig1] ↔
      check.checkSig sig0 pub0.val = true ∧ check.checkSig sig1 pub1.val = true := by
  simp [JointPath]

theorem jointSecretPath_iff {hash : Bytes} (secret : H256) (sig0 sig1 : Bytes) :
    JointSecretPath crypto check hash pub0 pub1 [secret.val, sig0, sig1] ↔
      (crypto.dhash160 secret.val).val = lockedHash crypto hash ∧
        check.checkSig sig0 pub0.val = true ∧ check.checkSig sig1 pub1.val = true := by
  rw [← jointPath_iff]
  constructor
  · intro h
    obtain ⟨secret', below, heq, _, hhash, hjoint⟩ := h
    cases heq
    exact ⟨hhash, hjoint⟩
  · intro h
    exact ⟨secret.val, _, rfl, secret.property, h.1, h.2⟩

/-- Whatever way a payment is spent, one of its parties has signed. -/
theorem exists_signed (h : txType.Sized)
    (haccepts : accepts (check.context crypto) (txType.redeemScript crypto timeLock pub0 pub1)
      stack = true) :
    ∃ sig ∈ stack, check.checkSig sig pub0.val = true ∨ check.checkSig sig pub1.val = true := by
  have hsecret : ∀ {hash : Bytes} {pub : Public} {rest : Stack},
      SecretPath crypto check hash pub rest → ∃ sig ∈ rest, check.checkSig sig pub.val = true := by
    intro hash pub rest hpath
    obtain ⟨secret, sig, below, rfl, _, _, hsig⟩ := hpath
    exact ⟨sig, by simp, hsig⟩
  have hjoint : ∀ {rest : Stack}, JointPath check pub0 pub1 rest →
      ∃ sig ∈ rest, check.checkSig sig pub0.val = true := by
    intro rest hpath
    obtain ⟨sig, _, below, rfl, hsig, _⟩ := hpath
    exact ⟨sig, by simp, hsig⟩
  obtain ⟨selector, rest, rfl, hpath⟩ := (accepts_redeemScript h).mp haccepts
  suffices hrest : ∃ sig ∈ rest,
      check.checkSig sig pub0.val = true ∨ check.checkSig sig pub1.val = true by
    obtain ⟨sig, hmem, hsig⟩ := hrest
    exact ⟨sig, List.mem_cons_of_mem _ hmem, hsig⟩
  split at hpath
  · obtain ⟨_, sig, below, rfl, hsig⟩ := hpath
    exact ⟨sig, by simp, Or.inl hsig⟩
  · cases txType with
    | takerOrMakerPayment hash =>
      obtain ⟨sig, hmem, hsig⟩ := hsecret hpath
      exact ⟨sig, hmem, Or.inr hsig⟩
    | takerFunding hash =>
      obtain ⟨_, below, rfl, hinner⟩ := hpath
      split at hinner
      · obtain ⟨sig, hmem, hsig⟩ := hjoint hinner
        exact ⟨sig, List.mem_cons_of_mem _ hmem, Or.inl hsig⟩
      · obtain ⟨sig, hmem, hsig⟩ := hsecret hinner
        exact ⟨sig, List.mem_cons_of_mem _ hmem, Or.inl hsig⟩
    | makerPaymentV2 hash hash' =>
      obtain ⟨_, below, rfl, hinner⟩ := hpath
      split at hinner
      · obtain ⟨sig, hmem, hsig⟩ := hsecret hinner
        exact ⟨sig, List.mem_cons_of_mem _ hmem, Or.inr hsig⟩
      · obtain ⟨sig, hmem, hsig⟩ := hsecret hinner
        exact ⟨sig, List.mem_cons_of_mem _ hmem, Or.inl hsig⟩
    | takerPaymentV2 hash hash' =>
      obtain ⟨_, below, rfl, _, _, hinner⟩ := hpath
      obtain ⟨sig, hmem, hsig⟩ := hjoint hinner
      exact ⟨sig, List.mem_cons_of_mem _ hmem, Or.inl hsig⟩

/-- With a time lock below 2^31 everything is as documented. -/
theorem htlcSemantics_of_lt (hlt : timeLock.toNat < 2 ^ 31) : HtlcSemantics crypto timeLock := by
  have hreached : ∀ check : InputCheck,
      (check.context crypto).reached (toLeBytes timeLock) = true ↔
        (check.context crypto).TimeReached timeLock.toNat := fun _ => reached_iff_of_lt hlt
  have hone : castToBool [1] = true := rfl
  have hzero : ¬ castToBool [] = true := by decide
  constructor
  case exact =>
    intro txType pub0 pub1 h check stack
    rw [accepts_redeemScript h, hreached check]
    rfl
  case refundable =>
    intro txType pub0 pub1 h checkSig sig hsig
    refine ⟨timeLock, (accepts_refund (hreached _) h sig).mpr ⟨⟨Iff.rfl, le_rfl, rfl⟩, hsig⟩⟩
  case parties =>
    intro txType pub0 pub1 h check stack haccepts
    exact exists_signed h haccepts
  case refund =>
    intro txType pub0 pub1 h check input forkId signature
    have hdata := Builder.PushesItems.default.pushOp1
    exact (spends_p2shSpend hdata h input forkId signature).trans
      (accepts_refund (hreached check) h _)
  case spendsPayment =>
    intro hash pub0 pub1 h check input forkId signature secret
    have hdata := (Builder.PushesItems.default.pushData _ (length_secret_lt secret)).pushOp0
    refine (spends_p2shSpend hdata h input forkId signature).trans ?_
    rw [accepts_redeemScript h]
    exact selects_cons.trans ((if_neg hzero).to_iff.trans (secretPath_iff secret _))
  case refundFundingSecret =>
    intro hash takerPub makerPub h check input forkId signature secret
    have hdata :=
      (Builder.PushesItems.default.pushData _ (length_secret_lt secret)).pushOp0.pushOp0
    refine (spends_p2shSpend hdata h input forkId signature).trans ?_
    rw [accepts_redeemScript h]
    exact selects_cons.trans ((if_neg hzero).to_iff.trans
      (selects_cons.trans ((if_neg hzero).to_iff.trans (secretPath_iff secret _))))
  case spendFunding =>
    intro hash takerPub makerPub h check makerSig takerSig sighash
    have hbuilt := (Builder.PushesItems.default.pushData _ (length_withSighash_lt makerSig sighash)
      |>.pushData _ (length_withSighash_lt takerSig sighash)).pushOp1.pushOp0
      |>.pushData _ (@length_redeemScript_lt crypto timeLock takerPub makerPub _ h)
    refine (spends_of_pushes hbuilt).trans ?_
    rw [accepts_redeemScript h]
    exact selects_cons.trans ((if_neg hzero).to_iff.trans
      (selects_cons.trans ((if_pos hone).to_iff.trans (jointPath_iff _ _))))
  case spendTakerPayment =>
    intro hash takerPub makerPub h check makerSig takerSig makerSighash takerSighash secret
    have hbuilt :=
      (Builder.PushesItems.default.pushData _ (length_withSighash_lt makerSig makerSighash)
        |>.pushData _ (length_withSighash_lt takerSig takerSighash)
        |>.pushData _ (length_secret_lt secret)).pushOp0
        |>.pushData _ (@length_redeemScript_lt crypto timeLock takerPub makerPub _ h)
    refine (spends_of_pushes hbuilt).trans ?_
    rw [accepts_redeemScript h]
    exact selects_cons.trans ((if_neg hzero).to_iff.trans (jointSecretPath_iff secret _ _))
  case spendMakerPayment =>
    intro makerHash takerHash makerPub takerPub h check input forkId signature secret
    have hdata :=
      (Builder.PushesItems.default.pushData _ (length_secret_lt secret)).pushOp1.pushOp0
    refine (spends_p2shSpend hdata h input forkId signature).trans ?_
    rw [accepts_redeemScript h]
    exact selects_cons.trans ((if_neg hzero).to_iff.trans
      (selects_cons.trans ((if_pos hone).to_iff.trans (secretPath_iff secret _))))
  case refundMakerPaymentSecret =>
    intro makerHash takerHash makerPub takerPub h check input forkId signature secret
    have hdata :=
      (Builder.PushesItems.default.pushData _ (length_secret_lt secret)).pushOp0.pushOp0
    refine (spends_p2shSpend hdata h input forkId signature).trans ?_
    rw [accepts_redeemScript h]
    exact selects_cons.trans ((if_neg hzero).to_iff.trans
      (selects_cons.trans ((if_neg hzero).to_iff.trans (secretPath_iff secret _))))

/-- From 2^31 on a refund is refused at its very time. -/
theorem not_htlcSemantics_of_le (hle : 2 ^ 31 ≤ timeLock.toNat) :
    ¬ HtlcSemantics crypto timeLock := by
  intro h
  let pub : Public := ⟨List.replicate 33 2, Or.inl List.length_replicate⟩
  let txType := SwapTxTypeWithSecretHash.takerOrMakerPayment (List.replicate 20 0)
  have hsized : txType.Sized := Or.inl List.length_replicate
  let check : InputCheck :=
    { checkSig := fun _ _ => true, lockTime := timeLock.toNat, notFinal := true }
  have hone : castToBool [1] = true := rfl
  have hdocumented : txType.Documented crypto check timeLock pub pub [[1], []] :=
    selects_cons.mpr ((if_pos hone).to_iff.mpr ⟨⟨Iff.rfl, le_rfl, rfl⟩, [], [], rfl, rfl⟩)
  have haccepts := (h.exact txType pub pub hsized check [[1], []]).mpr hdocumented
  rw [accepts_redeemScript hsized, selects_cons, if_pos hone] at haccepts
  have hreached : (check.context crypto).reached (toLeBytes timeLock) = true := haccepts.1
  rw [not_reached_of_le hle (le_refl timeLock.toNat)] at hreached
  cases hreached

/-- The payments behave as documented exactly with a time lock below 2^31. -/
theorem htlc_semantics_iff (crypto : Bitcrypto) (timeLock : UInt32) :
    HtlcSemantics crypto timeLock ↔ timeLock.toNat < 2 ^ 31 := by
  constructor
  · intro h
    by_contra hlt
    exact not_htlcSemantics_of_le (not_lt.mp hlt) h
  · exact htlcSemantics_of_lt

/-- A time lock of 2^31 + 1 seconds, in January 2038. -/
theorem htlc_semantics_fails : ¬ ∃ crypto, HtlcSemantics crypto 0x80000001 := by
  intro h
  obtain ⟨crypto, h⟩ := h
  exact not_htlcSemantics_of_le (by decide) h

end DeXFG.Utxo
