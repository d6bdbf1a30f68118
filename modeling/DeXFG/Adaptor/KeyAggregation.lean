import DeXFG.Adaptor.Completion
import Mathlib.Data.List.Sort

/-!
# Aggregated keys

The sum of some public keys, each times a coefficient that is a digest of all of them. The keys
are sorted by their compressed form first.
-/
namespace DeXFG.Adaptor

/-- The compressed form of keys, and how it is read. -/
structure Compressed {Point : Type} [AddCommGroup Point] (curve : Secp256k1 Point) where
  fromSlice : Bytes → Option (PublicKey Point)
  fromSlice_serialize : ∀ key : PublicKey Point, fromSlice (curve.serialize key.val) = some key

section Aggregation

variable {Point : Type} [AddCommGroup Point] (curve : Secp256k1 Point)

def coeffTag : Bytes := "MuSig/keyagg".toUTF8.toList

def listTag : Bytes := "MuSig/KeyAgg list".toUTF8.toList

/-- `musig2_coeff` -/
def musig2Coeff (L : FixedBytes 32) (pk : PublicKey Point) : Option Scalar :=
  let tag := (curve.sha256 coeffTag).val
  Scalar.fromBeBytes (curve.sha256 (tag ++ tag ++ L.val ++ curve.serialize pk.val))

/-- The compressed keys in their order. -/
def sortedKeys (pubkeys : List (PublicKey Point)) : List Bytes :=
  (pubkeys.map fun p => curve.serialize p.val).mergeSort (· ≤ ·)

def listHash (sorted : List Bytes) : FixedBytes 32 :=
  let tag := (curve.sha256 listTag).val
  curve.sha256 (tag ++ tag ++ sorted.flatten)

variable {curve} [DecidableEq Point] (compressed : Compressed curve)

/-- The loop over the compressed keys, with the sum of the terms before. -/
def sumTerms (L : FixedBytes 32) :
    List Bytes → Option (PublicKey Point) → Option (Option (PublicKey Point))
  | [], agg => some agg
  | pkBytes :: rest, agg => do
    let pk ← compressed.fromSlice pkBytes
    let c ← musig2Coeff curve L pk
    let term ← pk.mulTweak c
    match agg with
    | none => sumTerms L rest (some term)
    | some a =>
      let sum ← a.combine term
      sumTerms L rest (some sum)

def musig2KeyAgg (pubkeys : List (PublicKey Point)) : Option (PublicKey Point) :=
  match pubkeys with
  | [] => none
  | [pk] => some pk
  | _ =>
    let sorted := sortedKeys curve pubkeys
    (sumTerms compressed (listHash curve sorted) sorted none).join

/-! ## The order of the keys -/

omit [DecidableEq Point] in
theorem sortedKeys_of_perm (curve : Secp256k1 Point) {pubkeys pubkeys' : List (PublicKey Point)}
    (h : pubkeys.Perm pubkeys') : sortedKeys curve pubkeys = sortedKeys curve pubkeys' := by
  have hmap := h.map fun p => curve.serialize p.val
  apply List.Perm.eq_of_pairwise' (List.pairwise_mergeSort' (· ≤ ·) _)
    (List.pairwise_mergeSort' (· ≤ ·) _)
  exact (List.mergeSort_perm _ _).trans (hmap.trans (List.mergeSort_perm _ _).symm)

theorem musig2KeyAgg_of_perm {pubkeys pubkeys' : List (PublicKey Point)}
    (h : pubkeys.Perm pubkeys') :
    musig2KeyAgg compressed pubkeys = musig2KeyAgg compressed pubkeys' := by
  have hsorted := sortedKeys_of_perm curve h
  match pubkeys, pubkeys', h.length_eq with
  | [], [], _ => rfl
  | [pk], [pk'], _ =>
    have hsame : pk = pk' := by simpa using h
    rw [hsame]
  | pk :: pk₁ :: rest, pk' :: pk₁' :: rest', _ =>
    simp only [musig2KeyAgg, hsorted]

/-! ## The sum -/

/-- The point of a sum that may have no term yet. -/
def pointOf (agg : Option (PublicKey Point)) : Point := agg.elim 0 Subtype.val

/-- The term of a compressed key. -/
def termOf (L : FixedBytes 32) (pkBytes : Bytes) : Point :=
  ((compressed.fromSlice pkBytes).bind fun pk =>
    (musig2Coeff curve L pk).map fun c => c.val • pk.val).getD 0

/-- All keys have a coefficient where the loop ends, and the terms have been added up. -/
theorem sumTerms_eq_some {L : FixedBytes 32} {sorted : List Bytes}
    {agg result : Option (PublicKey Point)} (h : sumTerms compressed L sorted agg = some result) :
    (∀ pkBytes ∈ sorted, ∃ pk c, compressed.fromSlice pkBytes = some pk ∧
        musig2Coeff curve L pk = some c) ∧
      pointOf result = pointOf agg + (sorted.map (termOf compressed L)).sum := by
  induction sorted generalizing agg with
  | nil =>
    rw [sumTerms] at h
    cases h
    simp
  | cons pkBytes rest ih =>
    rw [sumTerms] at h
    simp only [Option.bind_eq_bind, Option.bind_eq_some_iff] at h
    obtain ⟨pk, hpk, c, hc, term, hterm, hrest⟩ := h
    have hvalue : termOf compressed L pkBytes = term.val := by
      rw [termOf, hpk, Option.bind_some, hc, Option.map_some, Option.getD_some,
        PublicKey.ofPoint_eq_some.mp hterm]
    cases agg with
    | none =>
      obtain ⟨hall, hsum⟩ := ih hrest
      constructor
      · rw [List.forall_mem_cons]
        exact ⟨⟨pk, c, hpk, hc⟩, hall⟩
      · rw [hsum, List.map_cons, List.sum_cons, hvalue]
        simp [pointOf]
    | some a =>
      obtain ⟨sum, hcombine, hrest⟩ := Option.bind_eq_some_iff.mp hrest
      obtain ⟨hall, hsum⟩ := ih hrest
      constructor
      · rw [List.forall_mem_cons]
        exact ⟨⟨pk, c, hpk, hc⟩, hall⟩
      · rw [hsum, List.map_cons, List.sum_cons, hvalue]
        simp only [pointOf, Option.elim_some]
        rw [PublicKey.ofPoint_eq_some.mp hcombine, add_assoc]

/-- The coefficient of a key; a key alone is its own aggregate. -/
def coefficient (curve : Secp256k1 Point) (pubkeys : List (PublicKey Point))
    (pk : PublicKey Point) : Option Scalar :=
  if pubkeys.length = 1 then some 1
  else musig2Coeff curve (listHash curve (sortedKeys curve pubkeys)) pk

omit [DecidableEq Point] in
theorem sum_smul_G (curve : Secp256k1 Point) (scalars : List Scalar) :
    scalars.sum.val • curve.G = (scalars.map fun s => s.val • curve.G).sum := by
  induction scalars with
  | nil => exact zero_smul ℕ curve.G
  | cons s scalars ih => rw [List.sum_cons, curve.add_smul_G, ih, List.map_cons, List.sum_cons]

/-- The aggregate of several keys is the sum of their terms. -/
theorem musig2KeyAgg_eq_some {pubkeys : List (PublicKey Point)} {agg : PublicKey Point}
    (hlong : 2 ≤ pubkeys.length) (h : musig2KeyAgg compressed pubkeys = some agg) :
    (∀ pk ∈ pubkeys, ∃ c, coefficient curve pubkeys pk = some c) ∧
      agg.val = (pubkeys.map fun pk =>
        ((coefficient curve pubkeys pk).getD 0).val • pk.val).sum := by
  have hsum : sumTerms compressed (listHash curve (sortedKeys curve pubkeys))
      (sortedKeys curve pubkeys) none = some (some agg) := by
    match pubkeys, hlong with
    | pk :: pk' :: rest, _ =>
      rw [musig2KeyAgg] at h
      exact Option.join_eq_some_iff.mp h
      all_goals simp
  have hcoefficient : ∀ pk, coefficient curve pubkeys pk =
      musig2Coeff curve (listHash curve (sortedKeys curve pubkeys)) pk := by
    intro pk
    rw [coefficient, if_neg (by omega)]
  obtain ⟨hall, hpoint⟩ := sumTerms_eq_some compressed hsum
  have hperm := List.mergeSort_perm (pubkeys.map fun p => curve.serialize p.val) (· ≤ ·)
  constructor
  · intro pk hmem
    have hbytes : curve.serialize pk.val ∈ sortedKeys curve pubkeys :=
      hperm.mem_iff.mpr (List.mem_map_of_mem hmem)
    obtain ⟨pk', c, hpk', hc⟩ := hall _ hbytes
    rw [compressed.fromSlice_serialize, Option.some.injEq] at hpk'
    subst hpk'
    exact ⟨c, (hcoefficient pk).trans hc⟩
  · have hterms := (hperm.map (termOf compressed
      (listHash curve (sortedKeys curve pubkeys)))).sum_eq
    have hvalue : agg.val = pointOf (some agg) := rfl
    rw [hvalue, hpoint]
    change 0 + _ = _
    rw [zero_add]
    refine hterms.trans ?_
    rw [List.map_map]
    congr 1
    apply List.map_congr_left
    intro pk hmem
    rw [Function.comp_apply, termOf, compressed.fromSlice_serialize, Option.bind_some,
      hcoefficient]
    cases musig2Coeff curve (listHash curve (sortedKeys curve pubkeys)) pk with
    | none => simp
    | some c => simp

/-- The aggregate does not depend on the order of the keys, and is the key of the sum of the
secrets, each times its coefficient. -/
theorem musig2_key_agg_sum (curve : Secp256k1 Point) (compressed : Compressed curve)
    (pubkeys pubkeys' : List (PublicKey Point)) (secrets : List SecretKey) :
    (pubkeys.Perm pubkeys' →
        musig2KeyAgg compressed pubkeys = musig2KeyAgg compressed pubkeys') ∧
      ∀ agg, musig2KeyAgg compressed (secrets.map curve.publicKey) = some agg →
        ∃ cs : List Scalar, List.Forall₂ (fun sk c =>
            coefficient curve (secrets.map curve.publicKey) (curve.publicKey sk) = some c)
              secrets cs ∧
          agg.val = ((List.zipWith (fun (c : Scalar) (sk : SecretKey) => c * sk.val) cs
            secrets).sum).val • curve.G := by
  refine ⟨musig2KeyAgg_of_perm compressed, ?_⟩
  intro agg h
  match secrets, h with
  | [sk], h =>
    have hkey : curve.publicKey sk = agg := Option.some.inj h
    refine ⟨[1], .cons rfl .nil, ?_⟩
    rw [← hkey, curve.publicKey_val]
    simp
  | sk :: sk' :: rest, h =>
    generalize hsecrets : sk :: sk' :: rest = secrets at h
    have hlong : 2 ≤ (secrets.map curve.publicKey).length := by
      rw [← hsecrets]
      simp
    obtain ⟨hall, hsum⟩ := musig2KeyAgg_eq_some compressed hlong h
    refine ⟨secrets.map fun sk =>
      (coefficient curve (secrets.map curve.publicKey) (curve.publicKey sk)).getD 0, ?_, ?_⟩
    · rw [List.forall₂_map_right_iff, List.forall₂_same]
      intro sk hmem
      obtain ⟨c, hc⟩ := hall _ (List.mem_map_of_mem hmem)
      rw [hc, Option.getD_some]
    · rw [hsum, sum_smul_G, List.map_map, List.zipWith_map_left, List.zipWith_self,
        List.map_map]
      congr 1
      apply List.map_congr_left
      intro sk _
      rw [Function.comp_apply, Function.comp_apply, curve.publicKey_val, mul_comm,
        curve.mul_smul_G]

end Aggregation

/-! ### A sample -/

/-- Compressed keys of the curve with one digest, read back from behind their first byte. -/
def sampleCompressed : Compressed (constantCurve (Scalar.bytesOf 1)) where
  fromSlice bytes :=
    PublicKey.ofPoint (Library.Radix.value 256 ((bytes.drop 1).map UInt8.toNat) : ZMod curveOrder)
  fromSlice_serialize key := by
    have hvalue : beValue (Scalar.bytesOf key.val.val) = key.val.val :=
      fromBeBytes_eq_some.mp (Scalar.fromBeBytes_bytesOf (ZMod.val_lt key.val))
    change PublicKey.ofPoint (beValue (Scalar.bytesOf key.val.val) : ZMod curveOrder) = _
    rw [hvalue, PublicKey.ofPoint_eq_some, ZMod.natCast_zmod_val]

def sampleSecrets : List SecretKey := [sampleSigner, sampleNonce]

theorem sample_sorted :
    sortedKeys (constantCurve (Scalar.bytesOf 1))
        (sampleSecrets.map (constantCurve (Scalar.bytesOf 1)).publicKey) =
      [2 :: (Scalar.bytesOf 1).val, 2 :: (Scalar.bytesOf 2).val] := by
  apply List.mergeSort_of_pairwise
  decide +kernel

theorem sample_aggregate :
    musig2KeyAgg sampleCompressed
        (sampleSecrets.map (constantCurve (Scalar.bytesOf 1)).publicKey) =
      some ⟨3, sampleAdaptor_ne⟩ := by
  change (sumTerms sampleCompressed _ (sortedKeys _ _) none).join = _
  rw [sample_sorted]
  decide +kernel

theorem musig2_sample :
    musig2KeyAgg sampleCompressed
          (sampleSecrets.map (constantCurve (Scalar.bytesOf 1)).publicKey) =
        musig2KeyAgg sampleCompressed
          (sampleSecrets.map (constantCurve (Scalar.bytesOf 1)).publicKey).reverse ∧
      ∃ cs : List Scalar, cs.length = 2 ∧
        (3 : ZMod curveOrder) = ((List.zipWith (fun (c : Scalar) (sk : SecretKey) => c * sk.val)
          cs sampleSecrets).sum).val • (constantCurve (Scalar.bytesOf 1)).G := by
  have hall := musig2_key_agg_sum (constantCurve (Scalar.bytesOf 1)) sampleCompressed
    (sampleSecrets.map (constantCurve (Scalar.bytesOf 1)).publicKey)
    (sampleSecrets.map (constantCurve (Scalar.bytesOf 1)).publicKey).reverse sampleSecrets
  refine ⟨hall.1 (List.reverse_perm _).symm, ?_⟩
  obtain ⟨cs, hcs, hsum⟩ := hall.2 _ sample_aggregate
  exact ⟨cs, hcs.length_eq.symm, hsum⟩

end DeXFG.Adaptor
