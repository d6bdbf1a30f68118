import DeXFG.Adaptor.Secp256k1

/-!
# Adaptor signatures

Schnorr adaptor signatures on secp256k1. `none` stands for a panic where a function returns a
value, and around its own result where it returns an `Option`.
-/
namespace DeXFG.Adaptor

variable {Point : Type} [AddCommGroup Point]

/-! ## The scheme -/

abbrev AdaptorSecret := FixedBytes 32

abbrev AdaptorPubkey (Point : Type) [AddCommGroup Point] := PublicKey Point

namespace AdaptorSecret

def toScalar (secret : AdaptorSecret) : Option Scalar := Scalar.fromBeBytes secret

def toPubkey (curve : Secp256k1 Point) (secret : AdaptorSecret) : Option (AdaptorPubkey Point) :=
  (SecretKey.fromSlice secret).map curve.publicKey

end AdaptorSecret

structure AdaptorPresig (Point : Type) [AddCommGroup Point] where
  R : PublicKey Point
  sPrime : FixedBytes 32

variable (curve : Secp256k1 Point)

/-- The domain separation. -/
def challengeTag : Bytes := "Fuego/adaptor_challenge".toUTF8.toList

def computeChallenge (R P : PublicKey Point) (msg : FixedBytes 32) : Option Scalar :=
  let tag := (curve.sha256 challengeTag).val
  Scalar.fromBeBytes (curve.sha256
    (tag ++ tag ++ curve.serialize R.val ++ curve.serialize P.val ++ msg.val))

/-- `s' = k + e * sk + t`. -/
def adaptorSign (sk k : SecretKey) (t : AdaptorSecret) (msg : FixedBytes 32) :
    Option (Option (AdaptorPresig Point)) :=
  let P := curve.publicKey sk
  let R := curve.publicKey k
  (computeChallenge curve R P msg).map fun e => do
    let tScalar ← t.toScalar
    let eSk ← sk.mulTweak e
    let eSkT ← eSk.addTweak tScalar
    let tmp ← Scalar.fromBeBytes eSkT.secretBytes
    let sPrime ← k.addTweak tmp
    return { R, sPrime := sPrime.secretBytes }

section Verify

variable [DecidableEq Point]

/-- `s' * G = R + e * P + T`. -/
def adaptorVerify (P : PublicKey Point) (T : AdaptorPubkey Point) (presig : AdaptorPresig Point)
    (msg : FixedBytes 32) : Option Bool :=
  (computeChallenge curve presig.R P msg).map fun e =>
    match SecretKey.fromSlice presig.sPrime with
    | none => false
    | some sk =>
      match P.mulTweak e with
      | none => false
      | some eP =>
        match presig.R.combine eP with
        | none => false
        | some REP =>
          match REP.combine T with
          | none => false
          | some rhs => curve.publicKey sk = rhs

end Verify

/-- The scalar of a signature, behind the abscissa of its nonce. -/
def scalarBytes (sig : FixedBytes 64) : FixedBytes 32 :=
  ⟨(sig.val.drop 32).take 32, by rw [List.length_take, List.length_drop, sig.property]; rfl⟩

/-- `t = s' - s`. -/
def extractSecret (presig : AdaptorPresig Point) (completeSig : FixedBytes 64) :
    Option (Option AdaptorSecret) :=
  match Scalar.fromBeBytes (scalarBytes completeSig) with
  | none => some none
  | some s =>
    match Scalar.fromBeBytes presig.sPrime with
    | none => some none
    | some sPrime => do
      let negS ← Scalar.scalarNegate s
      let t ← Scalar.scalarAdd sPrime negS
      return some t.toBeBytes

def verifySecret [DecidableEq Point] (secret : AdaptorSecret) (T : AdaptorPubkey Point) : Bool :=
  match SecretKey.fromSlice secret with
  | none => false
  | some sk => curve.publicKey sk = T

/-- The scalar with the nonce of the presignature, `s = k + e * sk`, behind that nonce's
abscissa. -/
def completeSchnorrSig (xOnly : PublicKey Point → FixedBytes 32) (sk k : SecretKey)
    (msg : FixedBytes 32) : Option (FixedBytes 64) := do
  let R := curve.publicKey k
  let e ← computeChallenge curve R (curve.publicKey sk) msg
  let eSk ← sk.mulTweak e
  let eSkScalar ← Scalar.fromBeBytes eSk.secretBytes
  let s ← k.addTweak eSkScalar
  return ⟨(xOnly R).val ++ s.secretBytes.val, by
    rw [List.length_append, (xOnly R).property, s.secretBytes.property]⟩

/-! ## What is accepted -/

variable {curve}

theorem fromSlice_eq_some {bytes : FixedBytes 32} {sk : SecretKey} :
    SecretKey.fromSlice bytes = some sk ↔ Scalar.fromBeBytes bytes = some sk.val := by
  rw [SecretKey.fromSlice, Option.bind_eq_some_iff]
  constructor
  · rintro ⟨s, hs, hsk⟩
    unfold SecretKey.ofScalar at hsk
    split at hsk
    · cases hsk
      exact hs
    · cases hsk
  · intro hs
    exact ⟨sk.val, hs, dif_pos sk.property⟩

theorem extractSecret_eq {presig : AdaptorPresig Point} {completeSig : FixedBytes 64}
    {s sPrime : Scalar} (hs : Scalar.fromBeBytes (scalarBytes completeSig) = some s)
    (hsPrime : Scalar.fromBeBytes presig.sPrime = some sPrime) :
    extractSecret presig completeSig = some (some (sPrime + -s).toBeBytes) := by
  rw [extractSecret, hs, hsPrime]
  simp only [Scalar.scalarNegate_eq, Scalar.scalarAdd_eq]
  rfl

variable [DecidableEq Point]

theorem ofPoint_of_ne {p : Point} (h : p ≠ 0) : PublicKey.ofPoint p = some ⟨p, h⟩ := dif_pos h

/-- What is accepted: the verification equation, where no partial sum is the point at infinity. -/
theorem adaptorVerify_eq_true_iff {P : PublicKey Point} {T : AdaptorPubkey Point}
    {presig : AdaptorPresig Point} {msg : FixedBytes 32} {e : Scalar}
    (he : computeChallenge curve presig.R P msg = some e) :
    adaptorVerify curve P T presig msg = some true ↔
      ∃ sk, SecretKey.fromSlice presig.sPrime = some sk ∧ e.val • P.val ≠ 0 ∧
        presig.R.val + e.val • P.val ≠ 0 ∧
        sk.val.val • curve.G = presig.R.val + e.val • P.val + T.val := by
  rw [adaptorVerify, he, Option.map_some, Option.some.injEq]
  constructor
  · intro h
    split at h
    · cases h
    next sk hsk =>
      split at h
      · cases h
      next eP heP =>
        split at h
        · cases h
        next REP hREP =>
          split at h
          · cases h
          next rhs hrhs =>
            have heP := PublicKey.ofPoint_eq_some.mp heP
            have hREP := PublicKey.ofPoint_eq_some.mp hREP
            have hrhs := PublicKey.ofPoint_eq_some.mp hrhs
            rw [heP] at hREP
            rw [hREP] at hrhs
            have hkey := congrArg Subtype.val (of_decide_eq_true h)
            exact ⟨sk, hsk, heP ▸ eP.property, hREP ▸ REP.property, hkey.trans hrhs⟩
  · rintro ⟨sk, hsk, heP, hREP, hequation⟩
    have hrhs : presig.R.val + e.val • P.val + T.val ≠ 0 :=
      hequation ▸ (curve.publicKey sk).property
    rw [hsk]
    simp only [PublicKey.mulTweak, ofPoint_of_ne heP, PublicKey.combine, ofPoint_of_ne hREP,
      ofPoint_of_ne hrhs]
    exact decide_eq_true (Subtype.ext hequation)

/-! ## The honest signer -/

theorem ofScalar_eq_some {s : Scalar} {sk : SecretKey} :
    SecretKey.ofScalar s = some sk ↔ sk.val = s := by
  unfold SecretKey.ofScalar
  split
  next h =>
    rw [Option.some.injEq, Subtype.ext_iff]
    exact eq_comm
  next h =>
    constructor
    · intro hnone
      cases hnone
    · intro hsk
      exact absurd (hsk ▸ sk.property) h

omit [DecidableEq Point] in
theorem adaptorSign_eq_some {sk k : SecretKey} {t : AdaptorSecret} {msg : FixedBytes 32}
    {presig : AdaptorPresig Point} {e : Scalar}
    (he : computeChallenge curve (curve.publicKey k) (curve.publicKey sk) msg = some e)
    (h : adaptorSign curve sk k t msg = some (some presig)) :
    ∃ tScalar sPrime, t.toScalar = some tScalar ∧ sk.val * e ≠ 0 ∧
      presig.R = curve.publicKey k ∧ SecretKey.fromSlice presig.sPrime = some sPrime ∧
      sPrime.val = k.val + (sk.val * e + tScalar) := by
  rw [adaptorSign] at h
  simp only [he, Option.map_some, Option.some.injEq, Option.bind_eq_bind, Option.bind_eq_some_iff,
    Option.pure_def] at h
  obtain ⟨tScalar, ht, eSk, heSk, eSkT, heSkT, tmp, htmp, sPrime, hsPrime, rfl⟩ := h
  have heSk := ofScalar_eq_some.mp heSk
  have heSkT := ofScalar_eq_some.mp heSkT
  rw [SecretKey.secretBytes, Scalar.fromBeBytes_toBeBytes, Option.some.injEq] at htmp
  refine ⟨tScalar, sPrime, ht, heSk ▸ eSk.property, rfl,
    fromSlice_eq_some.mpr (Scalar.fromBeBytes_toBeBytes _), ?_⟩
  rw [ofScalar_eq_some.mp hsPrime, ← htmp, heSkT, heSk]

/-- A signer's presignature is accepted, unless the completed scalar is zero. -/
theorem adaptor_sign_accepted {sk k : SecretKey} {t : AdaptorSecret} {T : AdaptorPubkey Point}
    {msg : FixedBytes 32} {presig : AdaptorPresig Point} {e : Scalar}
    (he : computeChallenge curve (curve.publicKey k) (curve.publicKey sk) msg = some e)
    (hsign : adaptorSign curve sk k t msg = some (some presig))
    (hT : t.toPubkey curve = some T) :
    adaptorVerify curve (curve.publicKey sk) T presig msg = some true ↔ k.val + sk.val * e ≠ 0 := by
  obtain ⟨tScalar, sPrime, ht, hne, hR, hslice, hsPrime⟩ := adaptorSign_eq_some he hsign
  obtain ⟨tKey, htKey, rfl⟩ := Option.map_eq_some_iff.mp hT
  have hkey : e.val • (curve.publicKey sk).val = (sk.val * e).val • curve.G := by
    rw [curve.publicKey_val, curve.mul_smul_G]
  have hnonce : presig.R.val + (sk.val * e).val • curve.G =
      (k.val + sk.val * e).val • curve.G := by
    rw [hR, curve.publicKey_val, curve.add_smul_G]
  rw [← hR] at he
  rw [adaptorVerify_eq_true_iff he, hkey, hnonce]
  constructor
  · rintro ⟨-, -, -, hREP, -⟩ hzero
    apply hREP
    rw [hzero, Fin.val_zero, zero_smul]
  · intro hzero
    refine ⟨sPrime, hslice, curve.smul_G_ne_zero hne, curve.smul_G_ne_zero hzero, ?_⟩
    rw [hsPrime, ← add_assoc, curve.add_smul_G, curve.publicKey_val,
      Option.some.inj ((fromSlice_eq_some.mp htKey).symm.trans ht)]

theorem scalarBytes_append (x s : FixedBytes 32) (h : (x.val ++ s.val).length = 64) :
    scalarBytes ⟨x.val ++ s.val, h⟩ = s := by
  apply Subtype.ext
  simp only [scalarBytes]
  rw [List.drop_left' x.property, List.take_of_length_le s.property.le]

omit [DecidableEq Point] in
/-- A signer who completes a presignature gives the secret away. -/
theorem complete_schnorr_sig_reveals {xOnly : PublicKey Point → FixedBytes 32} {sk k : SecretKey}
    {t : AdaptorSecret} {msg : FixedBytes 32} {presig : AdaptorPresig Point}
    {sig : FixedBytes 64} {e : Scalar}
    (he : computeChallenge curve (curve.publicKey k) (curve.publicKey sk) msg = some e)
    (hsign : adaptorSign curve sk k t msg = some (some presig))
    (hsig : completeSchnorrSig curve xOnly sk k msg = some sig) :
    ∃ secret, extractSecret presig sig = some (some secret) ∧ secret.toScalar = t.toScalar := by
  obtain ⟨tScalar, sPrime, ht, -, -, hslice, hsPrime⟩ := adaptorSign_eq_some he hsign
  rw [completeSchnorrSig] at hsig
  simp only [he, Option.bind_eq_bind, Option.bind_eq_some_iff, Option.some.injEq,
    Option.pure_def] at hsig
  obtain ⟨_, rfl, eSk, heSk, tmp, htmp, s, hs, rfl⟩ := hsig
  rw [SecretKey.secretBytes, Scalar.fromBeBytes_toBeBytes, Option.some.injEq] at htmp
  have hscalar := Scalar.fromBeBytes_toBeBytes s.val
  refine ⟨_, extractSecret_eq (by rw [scalarBytes_append]; exact hscalar)
    (fromSlice_eq_some.mp hslice), ?_⟩
  rw [AdaptorSecret.toScalar, Scalar.fromBeBytes_toBeBytes, ht, hsPrime,
    ofScalar_eq_some.mp hs, ← htmp, ofScalar_eq_some.mp heSk, ← add_assoc, add_neg_cancel_comm]

/-! ## Soundness -/

/-- Whoever completes an accepted presignature gives the secret of its adaptor point away. -/
theorem extract_secret_sound (curve : Secp256k1 Point) (P : PublicKey Point)
    (T : AdaptorPubkey Point) (presig : AdaptorPresig Point) (msg : FixedBytes 32)
    (completeSig : FixedBytes 64) (e s : Scalar)
    (hverify : adaptorVerify curve P T presig msg = some true)
    (hchallenge : computeChallenge curve presig.R P msg = some e)
    (hscalar : Scalar.fromBeBytes (scalarBytes completeSig) = some s)
    (hvalid : s.val • curve.G = presig.R.val + e.val • P.val) :
    ∃ secret t, extractSecret presig completeSig = some (some secret) ∧
      secret.toScalar = some t ∧ t.val • curve.G = T.val ∧ verifySecret curve secret T = true := by
  obtain ⟨sk, hsk, -, -, hequation⟩ := (adaptorVerify_eq_true_iff hchallenge).mp hverify
  have hpoint : (sk.val + -s).val • curve.G = T.val := by
    rw [curve.sub_smul_G, hequation, hvalid, add_sub_cancel_left]
  have hne : sk.val + -s ≠ 0 := by
    intro hzero
    rw [hzero] at hpoint
    exact T.property (hpoint.symm.trans (zero_smul ℕ curve.G))
  refine ⟨_, sk.val + -s, extractSecret_eq hscalar (fromSlice_eq_some.mp hsk),
    Scalar.fromBeBytes_toBeBytes _, hpoint, ?_⟩
  have ht : SecretKey.fromSlice (sk.val + -s).toBeBytes = some ⟨sk.val + -s, hne⟩ :=
    fromSlice_eq_some.mpr (Scalar.fromBeBytes_toBeBytes _)
  rw [verifySecret, ht]
  exact decide_eq_true (Subtype.ext hpoint)

/-- The curve by discrete logarithms, with the serialisations and digests of the sample. -/
def sampleCurve : Secp256k1 (ZMod curveOrder) where
  G := 1
  order := ZMod.addOrderOf_one curveOrder
  serialize p :=
    if p = 1 then
      2 :: (Scalar.bytesOf 0x79be667ef9dcbbac55a06295ce870b07029bfcdb2dce28d959f2815b16f81798).val
    else
      2 :: (Scalar.bytesOf 0xc6047f9441ed7d6d3045406e95c07cd85c778e4b8cef3ca7abac09b95c709ee5).val
  sha256 bytes :=
    if bytes.length = 23 then
      Scalar.bytesOf 0xcb42decff6be554a5c14c7e3c0c95f2e6ee993179fd38017d8841523e75f7509
    else Scalar.bytesOf 0x623d943d80a09b11b1f0bfb019b8d481042eada8ffb5baad02cea580ffd757f2

def sampleScalar (n : ℕ) : Scalar :=
  Fin.ofNat curveOrder (0x623d943d80a09b11b1f0bfb019b8d481042eada8ffb5baad02cea580ffd757f2 + n)

def sampleKey : PublicKey (ZMod curveOrder) := ⟨1, by decide +kernel⟩

theorem sampleAdaptor_ne : (3 : ZMod curveOrder) ≠ 0 := by decide +kernel

def sampleAdaptor : AdaptorPubkey (ZMod curveOrder) := ⟨3, sampleAdaptor_ne⟩

/-- The presignature of the key 1 with the nonce 2 and the secret 3. -/
def samplePresig : AdaptorPresig (ZMod curveOrder) where
  R := ⟨2, by decide +kernel⟩
  sPrime := (sampleScalar 5).toBeBytes

def sampleMessage : FixedBytes 32 := Scalar.bytesOf 0

def sampleSignature : FixedBytes 64 :=
  ⟨(Scalar.bytesOf 0xc6047f9441ed7d6d3045406e95c07cd85c778e4b8cef3ca7abac09b95c709ee5).val ++
    (sampleScalar 2).toBeBytes.val, rfl⟩

theorem sample_challenge :
    computeChallenge sampleCurve samplePresig.R sampleKey sampleMessage =
      some (sampleScalar 0) := by
  decide +kernel

theorem sampleCurve_smul (s : Scalar) (p : ZMod curveOrder) :
    s.val • p = (s.val : ZMod curveOrder) * p :=
  nsmul_eq_mul s.val p

theorem sample_verify :
    adaptorVerify sampleCurve sampleKey sampleAdaptor samplePresig sampleMessage = some true := by
  rw [adaptorVerify_eq_true_iff sample_challenge]
  simp only [sampleCurve_smul]
  exact ⟨⟨sampleScalar 5, by decide +kernel⟩, by decide +kernel, by decide +kernel,
    by decide +kernel, by decide +kernel⟩

theorem adaptor_secret_sample :
    ∃ secret t, extractSecret samplePresig sampleSignature = some (some secret) ∧
      secret.toScalar = some t ∧ t.val • sampleCurve.G = sampleAdaptor.val ∧
      verifySecret sampleCurve secret sampleAdaptor = true := by
  refine extract_secret_sound sampleCurve sampleKey sampleAdaptor samplePresig sampleMessage
    sampleSignature (sampleScalar 0) (sampleScalar 2) sample_verify sample_challenge ?_ ?_
  · decide +kernel
  · simp only [sampleCurve_smul]
    decide +kernel

end DeXFG.Adaptor
