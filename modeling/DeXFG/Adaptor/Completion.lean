import DeXFG.Adaptor.AdaptorSignature

/-!
# Completed signatures

A presignature is accepted for the point of its secret and for no other, and its completion gives
the secret away. The scalars are exact, and where a function gives up without saying so is where a
challenge is no scalar or a sum is zero.
-/
namespace DeXFG.Adaptor
open Library

variable {Point : Type} [AddCommGroup Point] {curve : Secp256k1 Point}

/-! ## Scalars and their bytes -/

theorem bytesOf_value (bytes : FixedBytes 32) :
    Scalar.bytesOf (Radix.value 256 (bytes.val.map UInt8.toNat)) = bytes := by
  have hdigits : ∀ d ∈ bytes.val.map UInt8.toNat, d < 256 := by
    intro d hd
    obtain ⟨byte, _, rfl⟩ := List.mem_map.mp hd
    exact byte.toNat_lt
  have hlength : (bytes.val.map UInt8.toNat).length = 32 := by
    rw [List.length_map, bytes.property]
  have hlt := Radix.value_lt (by decide) hdigits
  rw [hlength] at hlt
  have hsame : Radix.fixed 256 32 (Radix.value 256 (bytes.val.map UInt8.toNat)) =
      bytes.val.map UInt8.toNat := by
    apply Radix.value_inj (by decide) (Radix.fixed_lt (by decide) _ _) hdigits
    · rw [Radix.length_fixed, hlength]
    · rw [Radix.value_fixed, Nat.mod_eq_of_lt hlt]
  apply Subtype.ext
  change (Radix.fixed 256 32 (Radix.value 256 (bytes.val.map UInt8.toNat))).map UInt8.ofNat = _
  rw [hsame, List.map_map]
  apply (List.map_congr_left _).trans (List.map_id _)
  intro byte _
  exact UInt8.ofNat_toNat

/-- The number that bytes stand for. -/
def beValue (bytes : FixedBytes 32) : ℕ := Radix.value 256 (bytes.val.map UInt8.toNat)

theorem fromBeBytes_eq_some {bytes : FixedBytes 32} {s : Scalar} :
    Scalar.fromBeBytes bytes = some s ↔ beValue bytes = s.val := by
  change (if h : beValue bytes < curveOrder then some (⟨beValue bytes, h⟩ : Scalar) else none) =
    some s ↔ _
  split
  next h => rw [Option.some.injEq, Fin.ext_iff]
  next h =>
    constructor
    · intro hnone
      cases hnone
    · intro hvalue
      exact absurd (hvalue ▸ s.isLt) h

/-- Bytes that are a scalar are its bytes. -/
theorem toBeBytes_of_fromBeBytes {bytes : FixedBytes 32} {s : Scalar}
    (h : Scalar.fromBeBytes bytes = some s) : s.toBeBytes = bytes := by
  rw [Scalar.toBeBytes, ← fromBeBytes_eq_some.mp h]
  exact bytesOf_value bytes

/-! ## A presignature and its completion -/

variable [DecidableEq Point]

omit [DecidableEq Point] in
theorem computeChallenge_of_adaptorSign {sk k : SecretKey} {t : AdaptorSecret}
    {msg : FixedBytes 32} {presig : AdaptorPresig Point}
    (h : adaptorSign curve sk k t msg = some (some presig)) :
    ∃ e, computeChallenge curve (curve.publicKey k) (curve.publicKey sk) msg = some e := by
  rw [adaptorSign] at h
  obtain ⟨e, he, _⟩ := Option.map_eq_some_iff.mp h
  exact ⟨e, he⟩

/-- Only one point satisfies the equation. -/
theorem adaptorVerify_unique {P : PublicKey Point} {T T' : AdaptorPubkey Point}
    {presig : AdaptorPresig Point} {msg : FixedBytes 32} {e : Scalar}
    (he : computeChallenge curve presig.R P msg = some e)
    (h : adaptorVerify curve P T presig msg = some true) :
    adaptorVerify curve P T' presig msg = some (decide (T' = T)) := by
  obtain ⟨sk, hsk, heP, hREP, hequation⟩ := (adaptorVerify_eq_true_iff he).mp h
  by_cases hsame : T' = T
  · rw [decide_eq_true hsame, hsame, h]
  · rw [decide_eq_false hsame]
    cases hresult : adaptorVerify curve P T' presig msg with
    | none =>
      rw [adaptorVerify, he] at hresult
      cases hresult
    | some accepted =>
      cases accepted with
      | false => rfl
      | true =>
        exfalso
        obtain ⟨sk', hsk', _, _, hequation'⟩ := (adaptorVerify_eq_true_iff he).mp hresult
        rw [hsk, Option.some.injEq] at hsk'
        subst hsk'
        rw [hequation] at hequation'
        exact hsame (Subtype.ext (add_left_cancel hequation').symm)

omit [DecidableEq Point] in
theorem completeSchnorrSig_eq_some {xOnly : PublicKey Point → FixedBytes 32} {sk k : SecretKey}
    {msg : FixedBytes 32} {sig : FixedBytes 64} :
    completeSchnorrSig curve xOnly sk k msg = some sig ↔
      ∃ e s, computeChallenge curve (curve.publicKey k) (curve.publicKey sk) msg = some e ∧
        sk.val * e ≠ 0 ∧ s ≠ 0 ∧ s = k.val + sk.val * e ∧
        sig.val = (xOnly (curve.publicKey k)).val ++ s.toBeBytes.val := by
  rw [completeSchnorrSig]
  simp only [Option.bind_eq_bind, Option.bind_eq_some_iff, Option.pure_def, Option.some.injEq]
  constructor
  · intro h
    obtain ⟨e, he, eSk, heSk, tmp, htmp, s, hs, hsig⟩ := h
    have heSk := ofScalar_eq_some.mp heSk
    rw [SecretKey.secretBytes, Scalar.fromBeBytes_toBeBytes, Option.some.injEq] at htmp
    have hs := ofScalar_eq_some.mp hs
    refine ⟨e, s.val, he, heSk ▸ eSk.property, s.property, ?_, ?_⟩
    · rw [hs, ← htmp, heSk]
    · rw [← hsig]
      rfl
  · intro h
    obtain ⟨e, s, he, hne, hs, rfl, hsig⟩ := h
    refine ⟨e, he, ⟨sk.val * e, hne⟩, ofScalar_eq_some.mpr rfl, sk.val * e,
      Scalar.fromBeBytes_toBeBytes _, ⟨k.val + sk.val * e, hs⟩, ofScalar_eq_some.mpr rfl, ?_⟩
    exact Subtype.ext hsig.symm

/-- A presignature is accepted for the point of its secret alone, and the completed signature
gives just this secret away. -/
theorem adaptor_signature_complete (curve : Secp256k1 Point)
    (xOnly : PublicKey Point → FixedBytes 32) (sk k : SecretKey) (t : AdaptorSecret)
    (msg : FixedBytes 32) (presig : AdaptorPresig Point) (e : Scalar)
    (hsecret : t.toScalar ≠ some 0)
    (hsign : adaptorSign curve sk k t msg = some (some presig))
    (hchallenge :
      computeChallenge curve (curve.publicKey k) (curve.publicKey sk) msg = some e)
    (hcompleted : k.val + sk.val * e ≠ 0) :
    (∃ T, t.toPubkey curve = some T ∧ ∀ T',
        adaptorVerify curve (curve.publicKey sk) T' presig msg = some (decide (T' = T))) ∧
      ∃ sig, completeSchnorrSig curve xOnly sk k msg = some sig ∧
        extractSecret presig sig = some (some t) := by
  obtain ⟨tScalar, sPrime, ht, hne, hR, hslice, hsPrime⟩ := adaptorSign_eq_some hchallenge hsign
  constructor
  · have htne : tScalar ≠ 0 := by
      intro hzero
      rw [hzero] at ht
      exact hsecret ht
    have hT : t.toPubkey curve = some (curve.publicKey ⟨tScalar, htne⟩) := by
      have hkey : SecretKey.fromSlice t = some ⟨tScalar, htne⟩ := fromSlice_eq_some.mpr ht
      rw [AdaptorSecret.toPubkey, hkey, Option.map_some]
    refine ⟨curve.publicKey ⟨tScalar, htne⟩, hT, ?_⟩
    intro T'
    have haccepted := (adaptor_sign_accepted hchallenge hsign hT).mpr hcompleted
    have hchallenge' : computeChallenge curve presig.R (curve.publicKey sk) msg = some e := by
      rw [hR]
      exact hchallenge
    exact adaptorVerify_unique hchallenge' haccepted
  · have hlength : ((xOnly (curve.publicKey k)).val ++
        (k.val + sk.val * e).toBeBytes.val).length = 64 := by
      rw [List.length_append, (xOnly (curve.publicKey k)).property,
        (k.val + sk.val * e).toBeBytes.property]
    have hsig : completeSchnorrSig curve xOnly sk k msg = some ⟨_, hlength⟩ :=
      completeSchnorrSig_eq_some.mpr ⟨e, _, hchallenge, hne, hcompleted, rfl, rfl⟩
    refine ⟨_, hsig, ?_⟩
    obtain ⟨secret, hsecret', hscalar⟩ :=
      complete_schnorr_sig_reveals hchallenge hsign hsig
    have hsame : secret = t := by
      rw [← toBeBytes_of_fromBeBytes ht]
      exact (toBeBytes_of_fromBeBytes (hscalar.trans ht)).symm
    rw [hsecret', hsame]

/-! ### A signed sample -/

def sampleSigner : SecretKey := ⟨1, by decide⟩

def sampleNonce : SecretKey := ⟨2, by decide⟩

theorem sample_signer_challenge :
    computeChallenge sampleCurve (sampleCurve.publicKey sampleNonce)
      (sampleCurve.publicKey sampleSigner) sampleMessage = some (sampleScalar 0) := by
  decide +kernel

theorem sample_signed :
    adaptorSign sampleCurve sampleSigner sampleNonce (Scalar.bytesOf 3) sampleMessage =
      some (some ⟨sampleCurve.publicKey sampleNonce, (sampleScalar 5).toBeBytes⟩) := by
  have hsecret : AdaptorSecret.toScalar (Scalar.bytesOf 3) = some 3 := by decide +kernel
  have hproduct : sampleSigner.mulTweak (sampleScalar 0) =
      some ⟨sampleScalar 0, by decide +kernel⟩ := by decide +kernel
  have hsum : SecretKey.addTweak ⟨sampleScalar 0, by decide +kernel⟩ 3 =
      some ⟨sampleScalar 3, by decide +kernel⟩ := by decide +kernel
  have hall : sampleNonce.addTweak (sampleScalar 3) =
      some ⟨sampleScalar 5, by decide +kernel⟩ := by decide +kernel
  rw [adaptorSign, sample_signer_challenge, Option.map_some, hsecret]
  simp only [Option.bind_eq_bind, Option.bind_some, hproduct, hsum, SecretKey.secretBytes,
    Scalar.fromBeBytes_toBeBytes, hall, Option.pure_def]

theorem adaptor_complete_sample :
    (∃ T, AdaptorSecret.toPubkey sampleCurve (Scalar.bytesOf 3) = some T ∧ ∀ T',
        adaptorVerify sampleCurve (sampleCurve.publicKey sampleSigner) T'
          ⟨sampleCurve.publicKey sampleNonce, (sampleScalar 5).toBeBytes⟩ sampleMessage =
            some (decide (T' = T))) ∧
      ∃ sig, completeSchnorrSig sampleCurve (fun _ => Scalar.bytesOf 0) sampleSigner
          sampleNonce sampleMessage = some sig ∧
        extractSecret ⟨sampleCurve.publicKey sampleNonce, (sampleScalar 5).toBeBytes⟩ sig =
          some (some (Scalar.bytesOf 3)) := by
  exact adaptor_signature_complete sampleCurve (fun _ => Scalar.bytesOf 0) sampleSigner
    sampleNonce (Scalar.bytesOf 3) sampleMessage _ (sampleScalar 0) (by decide +kernel)
    sample_signed sample_signer_challenge (by decide +kernel)

/-! ## Where the arithmetic gives up -/

/-- What the challenge is a digest of. -/
def challengeInput (curve : Secp256k1 Point) (R P : PublicKey Point) (msg : FixedBytes 32) :
    Bytes :=
  let tag := (curve.sha256 challengeTag).val
  tag ++ tag ++ curve.serialize R.val ++ curve.serialize P.val ++ msg.val

omit [DecidableEq Point] in
theorem computeChallenge_eq_some {R P : PublicKey Point} {msg : FixedBytes 32} {e : Scalar} :
    computeChallenge curve R P msg = some e ↔
      beValue (curve.sha256 (challengeInput curve R P msg)) = e.val :=
  fromBeBytes_eq_some

omit [DecidableEq Point] in
theorem exists_challenge_iff {R P : PublicKey Point} {msg : FixedBytes 32} :
    (∃ e, computeChallenge curve R P msg = some e) ↔
      beValue (curve.sha256 (challengeInput curve R P msg)) < curveOrder := by
  constructor
  · intro h
    obtain ⟨e, he⟩ := h
    rw [computeChallenge_eq_some.mp he]
    exact e.isLt
  · intro h
    exact ⟨⟨_, h⟩, computeChallenge_eq_some.mpr rfl⟩

theorem biguintToScalar_eq_some {n : ℕ} {s : Scalar} :
    Scalar.biguintToScalar n = some s ↔ s.val = n := by
  constructor
  · intro h
    rw [Scalar.biguintToScalar] at h
    split at h
    next hlt =>
      rw [fromBeBytes_eq_some, beValue, Scalar.value_bytesOf, Nat.mod_eq_of_lt hlt] at h
      exact h.symm
    next => cases h
  · intro h
    subst h
    exact Scalar.biguintToScalar_of_lt s.isLt

omit [DecidableEq Point] in
/-- The helpers compute in the scalars, and a panic is where a number is not below the order, or
a product or a sum that is to be a key is zero. -/
theorem scalar_helpers_iff (curve : Secp256k1 Point) (xOnly : PublicKey Point → FixedBytes 32)
    (bytes : FixedBytes 32) (n : ℕ) (a b : Scalar) (R P : PublicKey Point) (sk k : SecretKey)
    (t : AdaptorSecret) (msg : FixedBytes 32) :
    (∀ s, Scalar.fromBeBytes bytes = some s ↔ beValue bytes = s.val) ∧
      Scalar.scalarNegate a = some (-a) ∧ Scalar.scalarAdd a b = some (a + b) ∧
      ((∃ s, Scalar.biguintToScalar n = some s ∧ s.val = n % curveOrder) ↔ n < curveOrder) ∧
      ((∃ e, computeChallenge curve R P msg = some e) ↔
        beValue (curve.sha256 (challengeInput curve R P msg)) < curveOrder) ∧
      ((∃ presig, adaptorSign curve sk k t msg = some presig) ↔
        beValue (curve.sha256
          (challengeInput curve (curve.publicKey k) (curve.publicKey sk) msg)) < curveOrder) ∧
      ((∃ sig, completeSchnorrSig curve xOnly sk k msg = some sig) ↔
        ∃ e : Scalar, beValue (curve.sha256
            (challengeInput curve (curve.publicKey k) (curve.publicKey sk) msg)) = e.val ∧
          sk.val * e ≠ 0 ∧ k.val + sk.val * e ≠ 0) := by
  refine ⟨fun s => fromBeBytes_eq_some, Scalar.scalarNegate_eq a, Scalar.scalarAdd_eq a b, ?_,
    exists_challenge_iff, ?_, ?_⟩
  · constructor
    · intro h
      obtain ⟨s, hs, _⟩ := h
      rw [← biguintToScalar_eq_some.mp hs]
      exact s.isLt
    · intro h
      exact ⟨⟨n, h⟩, biguintToScalar_eq_some.mpr rfl, (Nat.mod_eq_of_lt h).symm⟩
  · rw [← exists_challenge_iff]
    constructor
    · intro h
      obtain ⟨presig, hpresig⟩ := h
      rw [adaptorSign] at hpresig
      obtain ⟨e, he, _⟩ := Option.map_eq_some_iff.mp hpresig
      exact ⟨e, he⟩
    · intro h
      obtain ⟨e, he⟩ := h
      rw [adaptorSign]
      simp only [he, Option.map_some]
      exact ⟨_, rfl⟩
  · constructor
    · intro h
      obtain ⟨sig, hsig⟩ := h
      obtain ⟨e, s, he, hne, hs, rfl, _⟩ := completeSchnorrSig_eq_some.mp hsig
      exact ⟨e, computeChallenge_eq_some.mp he, hne, hs⟩
    · intro h
      obtain ⟨e, he, hne, hs⟩ := h
      have hlength : ((xOnly (curve.publicKey k)).val ++
          (k.val + sk.val * e).toBeBytes.val).length = 64 := by
        rw [List.length_append, (xOnly (curve.publicKey k)).property,
          (k.val + sk.val * e).toBeBytes.property]
      exact ⟨⟨_, hlength⟩, completeSchnorrSig_eq_some.mpr
        ⟨e, _, computeChallenge_eq_some.mpr he, hne, hs, rfl, rfl⟩⟩

/-- A curve by discrete logarithms with one digest for everything. -/
def constantCurve (digest : FixedBytes 32) : Secp256k1 (ZMod curveOrder) where
  G := 1
  order := ZMod.addOrderOf_one curveOrder
  serialize p := 2 :: (Scalar.bytesOf p.val).val
  sha256 _ := digest

theorem constant_challenge (digest : FixedBytes 32) (R P : PublicKey (ZMod curveOrder))
    (msg : FixedBytes 32) :
    computeChallenge (constantCurve digest) R P msg = Scalar.fromBeBytes digest := rfl

/-- The order itself is no scalar, a digest may be none, and a nonce may cancel its challenge. -/
theorem order_panics :
    Scalar.biguintToScalar curveOrder = none ∧
      (∀ R P msg, computeChallenge (constantCurve (Scalar.bytesOf (2 ^ 256 - 1))) R P msg =
        none) ∧
      ∀ xOnly msg, completeSchnorrSig (constantCurve (Scalar.bytesOf 1)) xOnly ⟨1, by decide⟩
        ⟨-1, by decide⟩ msg = none := by
  refine ⟨by decide +kernel, ?_, ?_⟩
  · intro R P msg
    rw [constant_challenge]
    decide +kernel
  · intro xOnly msg
    rw [Option.eq_none_iff_forall_ne_some]
    intro sig hsig
    obtain ⟨e, s, he, _, hs, rfl, _⟩ := completeSchnorrSig_eq_some.mp hsig
    rw [constant_challenge] at he
    have hone : Scalar.fromBeBytes (Scalar.bytesOf 1) = some 1 := by decide +kernel
    rw [hone, Option.some.injEq] at he
    rw [← he] at hs
    exact hs (by decide +kernel)

end DeXFG.Adaptor
