import DeXFG.Library.Radix
import Mathlib.GroupTheory.OrderOfElement
import Mathlib.Data.ZMod.Basic

/-!
# Keys of secp256k1

The scalars, the keys and their tweaks. The group of the curve and the digest are parameters.
-/
namespace DeXFG.Adaptor
open Library

abbrev Bytes := List UInt8

/-- `[u8; n]`. -/
abbrev FixedBytes (n : ℕ) := { bytes : Bytes // bytes.length = n }

/-! ## Scalars -/

def curveOrder : ℕ := 0xFFFFFFFFFFFFFFFFFFFFFFFFFFFFFFFEBAAEDCE6AF48A03BBFD25E8CD0364141

/-- A scalar is below the order of the curve. -/
abbrev Scalar := Fin curveOrder

instance : NeZero curveOrder := ⟨by decide⟩

namespace Scalar

def fromBeBytes (bytes : FixedBytes 32) : Option Scalar :=
  let n := Radix.value 256 (bytes.val.map UInt8.toNat)
  if h : n < curveOrder then some ⟨n, h⟩ else none

/-- The last bytes of a number. -/
def bytesOf (n : ℕ) : FixedBytes 32 :=
  ⟨(Radix.fixed 256 32 n).map UInt8.ofNat, by rw [List.length_map, Radix.length_fixed]⟩

def toBeBytes (s : Scalar) : FixedBytes 32 := bytesOf s.val

theorem value_bytesOf (n : ℕ) :
    Radix.value 256 ((bytesOf n).val.map UInt8.toNat) = n % 256 ^ 32 := by
  rw [bytesOf, Radix.map_toNat_ofNat (Radix.fixed_lt (by decide) _ _), Radix.value_fixed]

theorem curveOrder_lt : curveOrder < 256 ^ 32 := by
  decide

theorem fromBeBytes_bytesOf {n : ℕ} (h : n < curveOrder) :
    fromBeBytes (bytesOf n) = some ⟨n, h⟩ := by
  have hvalue : Radix.value 256 ((bytesOf n).val.map UInt8.toNat) = n := by
    rw [value_bytesOf, Nat.mod_eq_of_lt (h.trans curveOrder_lt)]
  simp only [fromBeBytes, hvalue, h, dite_true]

@[simp] theorem fromBeBytes_toBeBytes (s : Scalar) : fromBeBytes s.toBeBytes = some s :=
  fromBeBytes_bytesOf s.isLt

/-- Panics on a number that is no scalar. -/
def biguintToScalar (n : ℕ) : Option Scalar :=
  if n < 256 ^ 32 then fromBeBytes (bytesOf n) else none

theorem biguintToScalar_of_lt {n : ℕ} (h : n < curveOrder) :
    biguintToScalar n = some ⟨n, h⟩ := by
  rw [biguintToScalar, if_pos (h.trans curveOrder_lt), fromBeBytes_bytesOf h]

def scalarNegate (s : Scalar) : Option Scalar :=
  if s.val = 0 then some s else biguintToScalar (curveOrder - s.val)

def scalarAdd (a b : Scalar) : Option Scalar :=
  biguintToScalar ((a.val + b.val) % curveOrder)

theorem scalarNegate_eq (s : Scalar) : scalarNegate s = some (-s) := by
  rw [scalarNegate]
  split
  next h =>
    have hs : s = 0 := Fin.ext h
    rw [hs, neg_zero]
  next h =>
    have hlt : curveOrder - s.val < curveOrder := by omega
    rw [biguintToScalar_of_lt hlt]
    congr 1
    ext
    rw [Fin.val_neg', Nat.mod_eq_of_lt hlt]

theorem scalarAdd_eq (a b : Scalar) : scalarAdd a b = some (a + b) := by
  rw [scalarAdd, biguintToScalar_of_lt (Nat.mod_lt _ (NeZero.pos curveOrder))]
  rfl

end Scalar

/-! ## Keys -/

/-- What is used of the curve: a generator of its points, the compressed form of a point, and the
digest of bytes. -/
structure Secp256k1 (Point : Type) [AddCommGroup Point] where
  G : Point
  order : addOrderOf G = curveOrder
  serialize : Point → Bytes
  sha256 : Bytes → FixedBytes 32

/-- A point other than infinity. -/
abbrev PublicKey (Point : Type) [AddCommGroup Point] := { p : Point // p ≠ 0 }

/-- A scalar other than zero. -/
abbrev SecretKey := { s : Scalar // s ≠ 0 }

namespace SecretKey

def ofScalar (s : Scalar) : Option SecretKey := if h : s ≠ 0 then some ⟨s, h⟩ else none

def fromSlice (bytes : FixedBytes 32) : Option SecretKey :=
  (Scalar.fromBeBytes bytes).bind ofScalar

def secretBytes (sk : SecretKey) : FixedBytes 32 := sk.val.toBeBytes

def mulTweak (sk : SecretKey) (tweak : Scalar) : Option SecretKey := ofScalar (sk.val * tweak)

def addTweak (sk : SecretKey) (tweak : Scalar) : Option SecretKey := ofScalar (sk.val + tweak)

end SecretKey

variable {Point : Type} [AddCommGroup Point]

namespace Secp256k1

variable (curve : Secp256k1 Point)

theorem order_smul : curveOrder • curve.G = 0 := curve.order ▸ addOrderOf_nsmul_eq_zero curve.G

theorem smul_G_ne_zero {s : Scalar} (h : s ≠ 0) : s.val • curve.G ≠ 0 := by
  intro hzero
  have hdvd := addOrderOf_dvd_of_nsmul_eq_zero hzero
  rw [curve.order] at hdvd
  exact h (Fin.ext (Nat.eq_zero_of_dvd_of_lt hdvd s.isLt))

theorem smul_ne_zero (sk : SecretKey) : sk.val.val • curve.G ≠ 0 :=
  curve.smul_G_ne_zero sk.property

theorem mod_smul (n : ℕ) : (n % curveOrder) • curve.G = n • curve.G := by
  have hsplit := congrArg (· • curve.G) (Nat.mod_add_div n curveOrder)
  simpa only [add_smul, mul_comm curveOrder, mul_smul, order_smul, smul_zero, add_zero] using hsplit

theorem add_smul_G (a b : Scalar) :
    (a + b).val • curve.G = a.val • curve.G + b.val • curve.G := by
  rw [Fin.val_add, mod_smul, add_smul]

theorem mul_smul_G (a b : Scalar) : (a * b).val • curve.G = b.val • a.val • curve.G := by
  rw [Fin.val_mul, mod_smul, mul_comm, mul_smul]

theorem sub_smul_G (a b : Scalar) :
    (a + -b).val • curve.G = a.val • curve.G - b.val • curve.G := by
  rw [eq_sub_iff_add_eq, ← add_smul_G, neg_add_cancel_right]

/-- The public key of a key pair. -/
def publicKey (sk : SecretKey) : PublicKey Point := ⟨sk.val.val • curve.G, curve.smul_ne_zero sk⟩

theorem publicKey_val (sk : SecretKey) : (curve.publicKey sk).val = sk.val.val • curve.G := rfl

end Secp256k1

namespace PublicKey

variable [DecidableEq Point]

def ofPoint (p : Point) : Option (PublicKey Point) := if h : p ≠ 0 then some ⟨p, h⟩ else none

def combine (a b : PublicKey Point) : Option (PublicKey Point) := ofPoint (a.val + b.val)

def mulTweak (p : PublicKey Point) (tweak : Scalar) : Option (PublicKey Point) :=
  ofPoint (tweak.val • p.val)

theorem ofPoint_eq_some {p : Point} {key : PublicKey Point} :
    ofPoint p = some key ↔ key.val = p := by
  unfold ofPoint
  split
  next h =>
    rw [Option.some.injEq, Subtype.ext_iff]
    exact eq_comm
  next h =>
    constructor
    · intro hnone
      cases hnone
    · intro hkey
      exact absurd (hkey ▸ key.property) h

end PublicKey

end DeXFG.Adaptor
