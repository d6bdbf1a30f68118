import Mathlib.Data.List.Forall2
import Mathlib.Tactic

/-!
# The static types of a contract ABI

A value of a static type takes one word of 32 bytes: numbers are big-endian,
an address is right-aligned, fixed bytes are left-aligned. The decoder reads
word by word and accepts what is the encoding of the values it has read.
-/
namespace DeXFG.Library.StaticAbi

/-- Fixed-width bytes, and unsigned numbers of 256 bits with the checked operations. -/
abbrev FixedBytes (n : ℕ) := {bytes : List UInt8 // bytes.length = n}

abbrev U256 := {n : ℕ // n < 2 ^ 256}

namespace U256

theorem zero_fits : 0 < 2 ^ 256 := by norm_num

def zero : U256 := ⟨0, zero_fits⟩

def ofNat? (n : ℕ) : Option U256 := if h : n < 2 ^ 256 then some ⟨n, h⟩ else none

def ofUInt64 (n : UInt64) : U256 :=
  ⟨n.toNat, lt_trans n.toNat_lt (by norm_num)⟩

def checkedAdd (a b : U256) : Option U256 := ofNat? (a.val + b.val)

def checkedSub (a b : U256) : Option U256 :=
  if b.val ≤ a.val then some ⟨a.val - b.val, by omega⟩ else none

theorem ofNat?_eq_some {n : ℕ} {a : U256} : ofNat? n = some a ↔ a.val = n := by
  unfold ofNat?
  split
  · rename_i h
    constructor
    · intro e
      simp only [Option.some.injEq] at e
      rw [← e]
    · intro e
      simp [Subtype.ext_iff, e]
  · rename_i h
    constructor
    · intro e
      cases e
    · intro e
      exact absurd a.property (by omega)

theorem checkedAdd_eq_some {a b c : U256} : a.checkedAdd b = some c ↔ c.val = a.val + b.val :=
  ofNat?_eq_some

theorem checkedSub_of_checkedAdd {a b c : U256} (h : a.checkedAdd b = some c) :
    c.checkedSub b = some a := by
  have hc : c.val = a.val + b.val := checkedAdd_eq_some.mp h
  have hle : b.val ≤ c.val := by omega
  unfold checkedSub
  rw [if_pos hle]
  simp [hc]

end U256

/-- `n` in `k` bytes, the low byte first; what does not fit is cut off. -/
def leBytes : ℕ → ℕ → List UInt8
  | 0, _ => []
  | k + 1, n => UInt8.ofNat n :: leBytes k (n / 256)

def ofLeBytes : List UInt8 → ℕ
  | [] => 0
  | b :: bs => b.toNat + 256 * ofLeBytes bs

@[simp] theorem leBytes_length (k n : ℕ) : (leBytes k n).length = k := by
  induction k generalizing n with
  | zero => rfl
  | succ k ih => simp [leBytes, ih]

/-- `n` in `k` bytes, the high byte first. -/
def beBytes (k n : ℕ) : FixedBytes k := ⟨(leBytes k n).reverse, by simp⟩

theorem ofLeBytes_leBytes {k n : ℕ} (h : n < 256 ^ k) : ofLeBytes (leBytes k n) = n := by
  induction k generalizing n with
  | zero =>
    have hn : n = 0 := by simpa using h
    simp [leBytes, ofLeBytes, hn]
  | succ k ih =>
    have hd : n / 256 < 256 ^ k := by
      apply Nat.div_lt_of_lt_mul
      rw [pow_succ] at h
      omega
    simp only [leBytes, ofLeBytes, ih hd, UInt8.toNat_ofNat']
    omega

inductive ParamType where
  | fixedBytes (size : ℕ)
  | uint (bits : ℕ)
  | address
  | bool
  deriving DecidableEq, Repr

inductive Token where
  | fixedBytes (bytes : List UInt8)
  | uint (n : U256)
  | address (a : FixedBytes 20)
  | bool (b : Bool)
  deriving DecidableEq

/-- The values of a type; the bound of a shorter number type is left to the contract. -/
def ParamType.Fits : ParamType → Token → Prop
  | .fixedBytes size, .fixedBytes bytes => bytes.length = size ∧ size ≤ 32
  | .uint _, .uint _ => True
  | .address, .address _ => True
  | .bool, .bool _ => True
  | _, _ => False

instance : (t : ParamType) → (v : Token) → Decidable (t.Fits v)
  | .fixedBytes size, .fixedBytes bytes =>
    inferInstanceAs (Decidable (bytes.length = size ∧ size ≤ 32))
  | .uint _, .uint _ | .address, .address _ | .bool, .bool _ => isTrue trivial
  | .fixedBytes _, .uint _ | .fixedBytes _, .address _ | .fixedBytes _, .bool _ => isFalse id
  | .uint _, .fixedBytes _ | .uint _, .address _ | .uint _, .bool _ => isFalse id
  | .address, .fixedBytes _ | .address, .uint _ | .address, .bool _ => isFalse id
  | .bool, .fixedBytes _ | .bool, .uint _ | .bool, .address _ => isFalse id

def encodeToken : Token → List UInt8
  | .fixedBytes bytes => bytes ++ List.replicate (32 - bytes.length) 0
  | .uint n => (beBytes 32 n.val).val
  | .address a => List.replicate 12 0 ++ a.val
  | .bool b => (beBytes 32 b.toNat).val

def encode (tokens : List Token) : List UInt8 := tokens.flatMap encodeToken

/-- What a word holds when it is read at a type, well encoded or not. -/
def readWord (t : ParamType) (word : List UInt8) : Option Token :=
  match t with
  | .fixedBytes size => some (.fixedBytes (word.take size))
  | .uint _ => (U256.ofNat? (ofLeBytes word.reverse)).map .uint
  | .address =>
    let bytes := word.drop 12
    if h : bytes.length = 20 then some (.address ⟨bytes, h⟩) else none
  | .bool => some (.bool (ofLeBytes word.reverse == 1))

def readWords : List ParamType → List UInt8 → Option (List Token)
  | [], _ => some []
  | t :: types, bytes => do
    let v ← readWord t (bytes.take 32)
    let tokens ← readWords types (bytes.drop 32)
    pure (v :: tokens)

def decode (types : List ParamType) (bytes : List UInt8) : Option (List Token) :=
  (readWords types bytes).filter fun tokens =>
    List.Forall₂ ParamType.Fits types tokens ∧ encode tokens = bytes

theorem encodeToken_length {t : ParamType} {v : Token} (h : t.Fits v) :
    (encodeToken v).length = 32 := by
  cases v with
  | fixedBytes bytes =>
    cases t <;> simp only [ParamType.Fits] at h
    simp [encodeToken]
    omega
  | uint n => simp [encodeToken, beBytes]
  | address a => simp [encodeToken, a.property]
  | bool b => simp [encodeToken, beBytes]

theorem readWord_encodeToken {t : ParamType} {v : Token} (h : t.Fits v) :
    readWord t (encodeToken v) = some v := by
  cases t with
  | fixedBytes size =>
    cases v <;> simp only [ParamType.Fits] at h
    simp [readWord, encodeToken, h.1]
  | uint bits =>
    cases v with
    | uint n =>
      have hn : n.val < 256 ^ 32 := lt_of_lt_of_eq n.property (by norm_num)
      have hr : U256.ofNat? n.val = some n := U256.ofNat?_eq_some.mpr rfl
      simp [readWord, encodeToken, beBytes, ofLeBytes_leBytes hn, hr]
    | _ => simp [ParamType.Fits] at h
  | address =>
    cases v with
    | address a => simp [readWord, encodeToken, a.property]
    | _ => simp [ParamType.Fits] at h
  | bool =>
    cases v with
    | bool b =>
      have hb : b.toNat < 256 ^ 32 := by cases b <;> norm_num
      have hr : ofLeBytes (leBytes 32 b.toNat) = b.toNat := ofLeBytes_leBytes hb
      simp only [readWord, encodeToken, beBytes, List.reverse_reverse, hr]
      cases b <;> rfl
    | _ => simp [ParamType.Fits] at h

theorem readWords_encode {types : List ParamType} {tokens : List Token}
    (h : List.Forall₂ ParamType.Fits types tokens) :
    readWords types (encode tokens) = some tokens := by
  induction h with
  | nil => rfl
  | @cons t v types tokens hv _ ih =>
    have hlen : (encodeToken v).length = 32 := encodeToken_length hv
    have htake : (encode (v :: tokens)).take 32 = encodeToken v := by
      simp [encode, hlen]
    have hdrop : (encode (v :: tokens)).drop 32 = encode tokens := by
      simp [encode, hlen]
    simp [readWords, htake, hdrop, readWord_encodeToken hv, ih]

/-- Encoding and decoding are inverse. -/
theorem decode_eq_some_iff {types : List ParamType} {bytes : List UInt8} {tokens : List Token} :
    decode types bytes = some tokens ↔
      List.Forall₂ ParamType.Fits types tokens ∧ bytes = encode tokens := by
  unfold decode
  rw [Option.filter_eq_some_iff]
  constructor
  · intro h
    have hp := of_decide_eq_true h.2
    exact ⟨hp.1, hp.2.symm⟩
  · intro h
    apply And.intro
    · rw [h.2]
      exact readWords_encode h.1
    · simp [h.1, h.2]

end DeXFG.Library.StaticAbi
