import DeXFG.Adaptor.Completion

/-!
# Signatures with the abscissa of a nonce

A completed signature carries the abscissa of its nonce, which a verifier lifts to the point with
an even ordinate. The challenge is computed for the nonce as it was.
-/
namespace DeXFG.Adaptor
open Library

variable {Point : Type} [AddCommGroup Point]

namespace PublicKey

/-- The other point of an abscissa. -/
def opposite (key : PublicKey Point) : PublicKey Point := ⟨-key.val, neg_ne_zero.mpr key.property⟩

end PublicKey

/-- The abscissas of the points, of which one of each two has an even ordinate. -/
structure Abscissas (Point : Type) [AddCommGroup Point] where
  hasEvenY : PublicKey Point → Bool
  xOnly : PublicKey Point → FixedBytes 32
  lift : FixedBytes 32 → Option (PublicKey Point)
  hasEvenY_opposite : ∀ key, hasEvenY key.opposite = !hasEvenY key
  lift_xOnly : ∀ key, lift (xOnly key) = some (if hasEvenY key then key else key.opposite)

/-- The abscissa of the nonce of a signature. -/
def abscissaBytes (sig : FixedBytes 64) : FixedBytes 32 :=
  ⟨sig.val.take 32, by rw [List.length_take, sig.property]; rfl⟩

/-- What a verifier does that has no more of the nonce than its abscissa: it lifts it, and
compares `s * G` with `R + e * P` for the same challenge; `none` stands for the panic of that. -/
def verifyXOnly [DecidableEq Point] (curve : Secp256k1 Point) (abscissas : Abscissas Point)
    (P : PublicKey Point) (msg : FixedBytes 32) (sig : FixedBytes 64) : Option Bool :=
  match abscissas.lift (abscissaBytes sig) with
  | none => some false
  | some R =>
    (computeChallenge curve R P msg).map fun e =>
      match Scalar.fromBeBytes (scalarBytes sig) with
      | none => false
      | some s => s.val • curve.G = R.val + e.val • P.val

variable {curve : Secp256k1 Point} {abscissas : Abscissas Point}

theorem smul_G_inj (curve : Secp256k1 Point) {a b : Scalar} :
    a.val • curve.G = b.val • curve.G ↔ a = b := by
  constructor
  · intro h
    by_contra hne
    have hdiff : a + -b ≠ 0 := by
      intro hzero
      exact hne (eq_of_sub_eq_zero (by rw [sub_eq_add_neg]; exact hzero))
    apply curve.smul_G_ne_zero hdiff
    rw [curve.sub_smul_G, h, sub_self]
  · intro h
    rw [h]

theorem abscissaBytes_append (x s : FixedBytes 32) {sig : FixedBytes 64}
    (h : sig.val = x.val ++ s.val) : abscissaBytes sig = x := by
  apply Subtype.ext
  change sig.val.take 32 = x.val
  rw [h, List.take_left' x.property]

theorem scalarBytes_of_append (x s : FixedBytes 32) {sig : FixedBytes 64}
    (h : sig.val = x.val ++ s.val) : scalarBytes sig = s := by
  apply Subtype.ext
  change (sig.val.drop 32).take 32 = s.val
  rw [h, List.drop_left' x.property, List.take_of_length_le s.property.le]

variable [DecidableEq Point]

/-- A signature is accepted where the equation holds for the lifted nonce. -/
theorem verifyXOnly_iff {P R : PublicKey Point} {msg : FixedBytes 32} {sig : FixedBytes 64}
    {s : Scalar} (hlift : abscissas.lift (abscissaBytes sig) = some R)
    (hs : Scalar.fromBeBytes (scalarBytes sig) = some s) :
    verifyXOnly curve abscissas P msg sig = some true ↔
      ∃ e, computeChallenge curve R P msg = some e ∧
        s.val • curve.G = R.val + e.val • P.val := by
  rw [verifyXOnly, hlift]
  dsimp only
  rw [hs, Option.map_eq_some_iff]
  simp only [decide_eq_true_eq]

/-- The equation that a verifier checks for a completed signature. -/
theorem verifyXOnly_completed_iff {sk k : SecretKey} {msg : FixedBytes 32} {sig : FixedBytes 64}
    {e : Scalar} (he : computeChallenge curve (curve.publicKey k) (curve.publicKey sk) msg = some e)
    (hsig : completeSchnorrSig curve abscissas.xOnly sk k msg = some sig) :
    verifyXOnly curve abscissas (curve.publicKey sk) msg sig = some true ↔
      ∃ e', computeChallenge curve (if abscissas.hasEvenY (curve.publicKey k) then
            curve.publicKey k else (curve.publicKey k).opposite) (curve.publicKey sk) msg =
          some e' ∧
        (k.val + sk.val * e).val • curve.G =
          (if abscissas.hasEvenY (curve.publicKey k) then
            curve.publicKey k else (curve.publicKey k).opposite).val +
              e'.val • (curve.publicKey sk).val := by
  obtain ⟨e₁, s, he₁, _, _, rfl, hbytes⟩ := completeSchnorrSig_eq_some.mp hsig
  rw [he, Option.some.injEq] at he₁
  subst he₁
  have hscalar : Scalar.fromBeBytes (scalarBytes sig) = some (k.val + sk.val * e) := by
    rw [scalarBytes_of_append _ _ hbytes]
    exact Scalar.fromBeBytes_toBeBytes _
  have hlift := abscissas.lift_xOnly (curve.publicKey k)
  rw [← abscissaBytes_append _ _ hbytes] at hlift
  exact verifyXOnly_iff hlift hscalar

theorem val_opposite (key : PublicKey (ZMod curveOrder)) :
    key.opposite.val.val = curveOrder - key.val.val := by
  change (-key.val).val = _
  rw [ZMod.neg_val, if_neg key.property]

/-- The abscissas of the curve by discrete logarithms, where those of even points are even. -/
def sampleAbscissas : Abscissas (ZMod curveOrder) where
  hasEvenY key := decide (key.val.val % 2 = 0)
  xOnly key :=
    Scalar.bytesOf (if key.val.val % 2 = 0 then key.val.val else curveOrder - key.val.val)
  lift bytes := PublicKey.ofPoint (beValue bytes : ZMod curveOrder)
  hasEvenY_opposite key := by
    have hodd : curveOrder % 2 = 1 := by decide
    have hlt := ZMod.val_lt key.val
    rw [val_opposite]
    by_cases heven : key.val.val % 2 = 0
    · have hneg : ¬ (curveOrder - key.val.val) % 2 = 0 := by omega
      rw [decide_eq_true heven, decide_eq_false hneg]
      rfl
    · have hneg : (curveOrder - key.val.val) % 2 = 0 := by omega
      rw [decide_eq_false heven, decide_eq_true hneg]
      rfl
  lift_xOnly key := by
    have hpos : 0 < key.val.val := by
      rw [Nat.pos_iff_ne_zero, ne_eq, ZMod.val_eq_zero]
      exact key.property
    have hvalue : ∀ n < curveOrder, beValue (Scalar.bytesOf n) = n := fun n hn =>
      fromBeBytes_eq_some.mp (Scalar.fromBeBytes_bytesOf hn)
    by_cases heven : key.val.val % 2 = 0
    · rw [if_pos heven, hvalue _ (ZMod.val_lt _), if_pos (decide_eq_true heven),
        PublicKey.ofPoint_eq_some, ZMod.natCast_zmod_val]
    · rw [if_neg heven, hvalue _ (Nat.sub_lt (NeZero.pos curveOrder) hpos),
        if_neg (by simp [heven]), PublicKey.ofPoint_eq_some, ← val_opposite, ZMod.natCast_zmod_val]

/-- The signature of the key 1 with a nonce, where every challenge is 1. -/
def unitSignature (k : SecretKey) : FixedBytes 64 :=
  ⟨(sampleAbscissas.xOnly ((constantCurve (Scalar.bytesOf 1)).publicKey k)).val ++
    (k.val + 1 * 1).toBeBytes.val, by
    rw [List.length_append, (sampleAbscissas.xOnly _).property, (Scalar.toBeBytes _).property]⟩

theorem unit_challenge (R P : PublicKey (ZMod curveOrder)) (msg : FixedBytes 32) :
    computeChallenge (constantCurve (Scalar.bytesOf 1)) R P msg = some 1 := by
  rw [constant_challenge]
  decide +kernel

theorem unitSignature_completed (k : SecretKey) (h : k.val + 1 * 1 ≠ 0) :
    completeSchnorrSig (constantCurve (Scalar.bytesOf 1)) sampleAbscissas.xOnly sampleSigner k
      sampleMessage = some (unitSignature k) :=
  completeSchnorrSig_eq_some.mpr
    ⟨1, _, unit_challenge _ _ _, by decide +kernel, h, rfl, rfl⟩

end DeXFG.Adaptor
