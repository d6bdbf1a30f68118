import DeXFG.Library.FiniteMap

/-!
# Positional serialization

The data model of MessagePack as a tree of values, and codecs between a type
and its values. A struct is an array of its fields in declaration order: the
writer leaves skipped fields out, the reader takes the items one by one and
falls back to a default where the array has ended. Items after the last field
are not looked at.
-/
namespace DeXFG.Library.Serde
open DeXFG.Library.FiniteMap

inductive Value where
  | nil
  | bool (b : Bool)
  | int (i : ℤ)
  | str (s : String)
  | bin (bytes : List UInt8)
  | array (items : List Value)
  | map (entries : List (Value × Value))

namespace Value

mutual

def decEq : (v w : Value) → Decidable (v = w)
  | .nil, .nil => isTrue rfl
  | .bool b, .bool b' => decidable_of_iff (b = b') (by simp)
  | .int i, .int i' => decidable_of_iff (i = i') (by simp)
  | .str s, .str s' => decidable_of_iff (s = s') (by simp)
  | .bin b, .bin b' => decidable_of_iff (b = b') (by simp)
  | .array l, .array l' => @decidable_of_iff _ (l = l') (by simp) (decEqList l l')
  | .map l, .map l' => @decidable_of_iff _ (l = l') (by simp) (decEqEntries l l')
  | .nil, .bool _ | .nil, .int _ | .nil, .str _ | .nil, .bin _ | .nil, .array _
  | .nil, .map _ => isFalse nofun
  | .bool _, .nil | .bool _, .int _ | .bool _, .str _ | .bool _, .bin _ | .bool _, .array _
  | .bool _, .map _ => isFalse nofun
  | .int _, .nil | .int _, .bool _ | .int _, .str _ | .int _, .bin _ | .int _, .array _
  | .int _, .map _ => isFalse nofun
  | .str _, .nil | .str _, .bool _ | .str _, .int _ | .str _, .bin _ | .str _, .array _
  | .str _, .map _ => isFalse nofun
  | .bin _, .nil | .bin _, .bool _ | .bin _, .int _ | .bin _, .str _ | .bin _, .array _
  | .bin _, .map _ => isFalse nofun
  | .array _, .nil | .array _, .bool _ | .array _, .int _ | .array _, .str _ | .array _, .bin _
  | .array _, .map _ => isFalse nofun
  | .map _, .nil | .map _, .bool _ | .map _, .int _ | .map _, .str _ | .map _, .bin _
  | .map _, .array _ => isFalse nofun

def decEqList : (l l' : List Value) → Decidable (l = l')
  | [], [] => isTrue rfl
  | [], _ :: _ => isFalse nofun
  | _ :: _, [] => isFalse nofun
  | v :: l, w :: l' =>
    @decidable_of_iff _ (v = w ∧ l = l') (by simp)
      (@instDecidableAnd _ _ (decEq v w) (decEqList l l'))

def decEqEntries : (l l' : List (Value × Value)) → Decidable (l = l')
  | [], [] => isTrue rfl
  | [], _ :: _ => isFalse nofun
  | _ :: _, [] => isFalse nofun
  | (k, v) :: l, (k', v') :: l' =>
    @decidable_of_iff _ ((k = k' ∧ v = v') ∧ l = l') (by simp)
      (@instDecidableAnd _ _ (@instDecidableAnd _ _ (decEq k k') (decEq v v'))
        (decEqEntries l l'))

end

instance : DecidableEq Value := decEq

end Value

/-- A writer and a reader such that what is written is read back. -/
structure Codec (α : Type) where
  ser : α → Value
  de : Value → Option α
  de_ser : ∀ a, de (ser a) = some a

variable {α β K V : Type}

attribute [simp] Codec.de_ser

namespace Codec

theorem ser_injective (c : Codec α) : Function.Injective c.ser := by
  intro a b h
  have hde := c.de_ser a
  rw [h, c.de_ser, Option.some.injEq] at hde
  exact hde.symm

/-- Transport along a map with a left inverse. -/
def iso (c : Codec α) (f : β → α) (g : α → Option β) (h : ∀ b, g (f b) = some b) : Codec β where
  ser b := c.ser (f b)
  de v := (c.de v).bind g
  de_ser b := by simp [h]

def bool : Codec Bool where
  ser := .bool
  de
    | .bool b => some b
    | _ => none
  de_ser _ := rfl

def string : Codec String where
  ser := .str
  de
    | .str s => some s
    | _ => none
  de_ser _ := rfl

/-- Natural numbers below a bound, the unsigned machine integers. -/
def uint (bound : ℕ) : Codec {n : ℕ // n < bound} where
  ser n := .int n.1
  de
    | .int i => if h : 0 ≤ i ∧ i.toNat < bound then some ⟨i.toNat, h.2⟩ else none
    | _ => none
  de_ser n := by simp [n.2]

def u8 : Codec UInt8 :=
  (uint 256).iso (fun b => ⟨b.toNat, b.toNat_lt⟩) (fun n => some (.ofNat n.1)) (by simp)

def u64 : Codec UInt64 :=
  (uint (2 ^ 64)).iso (fun b => ⟨b.toNat, b.toNat_lt⟩) (fun n => some (.ofNat n.1)) (by simp)

theorem mapM_map_ser (c : Codec α) (l : List α) : (l.map c.ser).mapM c.de = some l := by
  induction l with
  | nil => rfl
  | cons a l ih => simp [List.mapM_cons, ih]

/-- A sequence of any length. -/
def list (c : Codec α) : Codec (List α) where
  ser l := .array (l.map c.ser)
  de
    | .array items => items.mapM c.de
    | _ => none
  de_ser l := c.mapM_map_ser l

def pair (c : Codec α) (d : Codec β) : Codec (α × β) where
  ser p := .array [c.ser p.1, d.ser p.2]
  de
    | .array (v :: w :: _) => (c.de v).bind fun a => (d.de w).map fun b => (a, b)
    | _ => none
  de_ser p := by simp

/-- Read an optional value: `nil` is the absent one. -/
def deOption (de : Value → Option α) : Value → Option (Option α)
  | .nil => some none
  | v => (de v).map some

theorem deOption_of_ne_nil (de : Value → Option α) {v : Value} (h : v ≠ .nil) :
    deOption de v = (de v).map some := by
  cases v with
  | nil => exact absurd rfl h
  | _ => rfl

/-- The values of the codec itself must not be `nil`. -/
def option (c : Codec α) (h : ∀ a, c.ser a ≠ .nil) : Codec (Option α) where
  ser a := a.elim .nil c.ser
  de := deOption c.de
  de_ser
    | none => rfl
    | some a => by
      rw [Option.elim_some, deOption_of_ne_nil _ (h a), c.de_ser, Option.map_some]

/-- A set or map is written in some order of its elements. -/
def collection (c : Codec α) (elements : β → List α) (collect : List α → β)
    (h : ∀ b, collect (elements b) = b) : Codec β :=
  (list c).iso elements (fun l => some (collect l)) (by simp [h])

theorem mapM_entries (c : Codec K) (d : Codec V) (l : List (K × V)) :
    (l.map fun e => (c.ser e.1, d.ser e.2)).mapM
      (fun e => (c.de e.1).bind fun k => (d.de e.2).map fun v => (k, v)) = some l := by
  induction l with
  | nil => rfl
  | cons a l ih => simp [List.mapM_cons, ih]

/-- A map, with its entries in some order. -/
def hashMap (c : Codec K) (d : Codec V) (elements : β → List (K × V))
    (collect : List (K × V) → β) (h : ∀ b, collect (elements b) = b) : Codec β where
  ser b := .map ((elements b).map fun e => (c.ser e.1, d.ser e.2))
  de
    | .map entries =>
      (entries.mapM fun e => (c.de e.1).bind fun k => (d.de e.2).map fun v => (k, v)).map collect
    | _ => none
  de_ser b := by
    simp only
    rw [mapM_entries, Option.map_some, h]

end Codec

/-! ## Bytes and big numbers -/

/-- The `k` low bytes of a number, most significant first. -/
def toBytes : ℕ → ℕ → List UInt8
  | 0, _ => []
  | k + 1, n => toBytes k (n / 256) ++ [.ofNat (n % 256)]

def ofBytes (bytes : List UInt8) : ℕ := bytes.foldl (fun n b => n * 256 + b.toNat) 0

theorem length_toBytes (k n : ℕ) : (toBytes k n).length = k := by
  induction k generalizing n with
  | zero => rfl
  | succ k ih => rw [toBytes, List.length_append, ih, List.length_singleton]

theorem ofBytes_toBytes (k n : ℕ) (h : n < 256 ^ k) : ofBytes (toBytes k n) = n := by
  induction k generalizing n with
  | zero =>
    rw [pow_zero] at h
    simp only [toBytes, ofBytes, List.foldl_nil]
    omega
  | succ k ih =>
    have hdiv : n / 256 < 256 ^ k := by
      rw [pow_succ] at h
      exact Nat.div_lt_of_lt_mul (by rwa [mul_comm] at h)
    have hrec := ih (n / 256) hdiv
    rw [ofBytes] at hrec ⊢
    rw [toBytes, List.foldl_append, hrec]
    have hmod : n % 256 < 256 := Nat.mod_lt _ (by norm_num)
    simp only [List.foldl_cons, List.foldl_nil, UInt8.toNat_ofNat']
    omega

namespace Codec

/-- A number of `k` bytes as a binary string. -/
def binary (k : ℕ) : Codec (Fin (256 ^ k)) where
  ser n := .bin (toBytes k n)
  de
    | .bin bytes =>
      if h : bytes.length = k ∧ ofBytes bytes < 256 ^ k then some ⟨ofBytes bytes, h.2⟩ else none
    | _ => none
  de_ser n := by simp [length_toBytes, ofBytes_toBytes k n n.2]

/-- A number of `k` bytes as an array of its bytes. -/
def byteArray (k : ℕ) : Codec (Fin (256 ^ k)) :=
  (list u8).iso (fun n => toBytes k n)
    (fun bytes =>
      if h : bytes.length = k ∧ ofBytes bytes < 256 ^ k then some ⟨ofBytes bytes, h.2⟩ else none)
    (fun n => by simp [length_toBytes, ofBytes_toBytes k n n.2])

/-- A natural number as its digits to the base `2 ^ 32`, least significant first. -/
def bigUint : Codec ℕ :=
  (list (uint (2 ^ 32))).iso
    (fun n => (Nat.digits (2 ^ 32) n).pmap Subtype.mk fun _ hd => Nat.digits_lt_base (by norm_num) hd)
    (fun digits => some (Nat.ofDigits (2 ^ 32) (digits.map Subtype.val)))
    (fun n => by simp [List.map_pmap, Nat.ofDigits_digits])

/-- The sign of a number, as `-1`, `0` or `1`. -/
def sign : Codec SignType where
  ser s := .int s
  de
    | .int i => if i = -1 then some .neg else if i = 0 then some .zero else if i = 1 then some .pos
        else none
    | _ => none
  de_ser s := by cases s <;> decide

def signOf (i : ℤ) : SignType := if i = 0 then .zero else if 0 < i then .pos else .neg

theorem signOf_mul_natAbs (i : ℤ) : (signOf i : ℤ) * (i.natAbs : ℤ) = i := by
  unfold signOf
  split
  · simp_all
  split
  · simp only [SignType.pos_eq_one, SignType.coe_one]
    omega
  · simp only [SignType.neg_eq_neg_one, SignType.coe_neg_one]
    omega

/-- An integer as its sign and the digits of its absolute value. -/
def bigInt : Codec ℤ :=
  (pair sign bigUint).iso (fun i => (signOf i, i.natAbs)) (fun p => some (p.1 * (p.2 : ℤ)))
    (fun i => by rw [signOf_mul_natAbs])

/-- A rational number as numerator and denominator; a zero denominator is refused. -/
def bigRational : Codec ℚ :=
  (pair bigInt bigInt).iso (fun q => (q.num, (q.den : ℤ)))
    (fun p => if p.2 = 0 then none else some (p.1 / p.2))
    (fun q => by simp [Rat.num_div_den])

end Codec

/-! ## Structs and enums -/

/-- A reader that takes items from the front of an array. -/
abbrev SeqReader := StateT (List Value) Option

/-- Take the next item; the array must not have ended. -/
def next (de : Value → Option α) : SeqReader α
  | [] => none
  | v :: vs => (de v).map fun a => (a, vs)

/-- Take the next item, or the default when the array has ended. -/
def nextOr (default : α) (de : Value → Option α) : SeqReader α
  | [] => some (default, [])
  | v :: vs => (de v).map fun a => (a, vs)

/-- Read a struct; further items are ignored. -/
def readStruct (r : SeqReader α) : Value → Option α
  | .array items => (r.run items).map Prod.fst
  | _ => none

/-- Read a struct from a buffered value, where no item may be left. -/
def readStructExact (r : SeqReader α) : Value → Option α
  | .array items => (r.run items).bind fun p => if p.2.isEmpty then some p.1 else none
  | _ => none

/-- A field left out when it is absent. -/
def skipNone (c : Codec α) (a : Option α) : List Value := (a.map c.ser).toList

/-- An enum value is a map from the index of the variant to its content. -/
def variant (index : ℕ) (content : Value) : Value := .map [(.int index, content)]

section Readers

variable (c : Codec α) (a default : α) (vs : List Value)

variable {β : Type} (f : α → SeqReader β)

/-- A written field is read back, and the rest is read after it. -/
theorem run_next_bind : (next c.de >>= f).run (c.ser a :: vs) = (f a).run vs := by
  change ((c.de (c.ser a)).map fun a => (a, vs)).bind _ = _
  rw [c.de_ser]
  rfl

theorem run_nextOr_bind :
    (nextOr default c.de >>= f).run (c.ser a :: vs) = (f a).run vs := by
  change ((c.de (c.ser a)).map fun a => (a, vs)).bind _ = _
  rw [c.de_ser]
  rfl

/-- A field past the end of the array has its default. -/
theorem run_nextOr_bind_nil (de : Value → Option α) :
    (nextOr default de >>= f).run [] = (f default).run [] := rfl

theorem run_return : (return a : SeqReader α).run vs = some (a, vs) := rfl

/-- A value that is not one of the field's makes the whole struct fail. -/
theorem run_nextOr_bind_none {de : Value → Option α} {v : Value} (h : de v = none) :
    (nextOr default de >>= f).run (v :: vs) = none := by
  change ((de v).map fun a => (a, vs)).bind _ = _
  rw [h]
  rfl

end Readers

end DeXFG.Library.Serde
