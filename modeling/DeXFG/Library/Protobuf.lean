import DeXFG.Library.Utf8
import Mathlib.Algebra.Order.Group.Unbundled.Int
import Mathlib.Tactic.NormNum
import Mathlib.Tactic.Ring

/-!
# Protocol buffers

How long the bytes of a message are. A number stands in groups of seven bits, and a field
has its tag before it.
-/
namespace DeXFG.Library.Protobuf

abbrev Bytes := List UInt8

/-- Groups of seven bits, the lowest first. The high bit says that more follow. -/
def groups : ℕ → ℕ → Bytes
  | 0, _ => []
  | fuel + 1, n =>
    if n < 128 then [.ofNat n] else .ofNat (n % 128 + 128) :: groups fuel (n / 128)

/-- The groups of a number of 64 bits. -/
def varint (n : ℕ) : Bytes := groups 10 n

def key (tag wireType : ℕ) : Bytes := varint (8 * tag + wireType)

/-- A signed number as 64 bits. Zero is not written. -/
def int64 (tag : ℕ) (n : ℤ) : Bytes :=
  if n = 0 then [] else key tag 0 ++ varint (n % 2 ^ 64).toNat

/-- Bytes with their length, as messages and repeated fields have it. -/
def delimited (tag : ℕ) (bytes : Bytes) : Bytes := key tag 2 ++ varint bytes.length ++ bytes

/-- A single field of bytes. An empty one is not written. -/
def bytes (tag : ℕ) (data : Bytes) : Bytes := if data = [] then [] else delimited tag data

def string (tag : ℕ) (text : String) : Bytes := bytes tag (Utf8.encode text)

variable {fuel m n k tag : ℕ} {data data' : Bytes}

theorem length_groups_mono (h : m ≤ n) : (groups fuel m).length ≤ (groups fuel n).length := by
  induction fuel generalizing m n with
  | zero => rfl
  | succ fuel ih =>
    rw [groups, groups]
    by_cases hn : n < 128
    · rw [if_pos hn, if_pos (h.trans_lt hn)]
      simp
    · rw [if_neg hn]
      by_cases hm : m < 128
      · rw [if_pos hm]
        simp
      · rw [if_neg hm]
        simpa using ih (Nat.div_le_div_right h)

theorem length_groups_le_iff (hk : k + 1 < fuel) :
    (groups fuel n).length ≤ k + 1 ↔ n < 128 ^ (k + 1) := by
  induction k generalizing fuel n with
  | zero =>
    obtain ⟨fuel, rfl⟩ : ∃ f, fuel = f + 2 := ⟨fuel - 2, by omega⟩
    rw [groups]
    by_cases hn : n < 128
    · simp [hn]
    · have hpos : 0 < (groups (fuel + 1) (n / 128)).length := by
        rw [groups]
        split <;> simp
      simp only [if_neg hn, List.length_cons]
      omega
  | succ k ih =>
    obtain ⟨fuel, rfl⟩ : ∃ f, fuel = f + 1 := ⟨fuel - 1, by omega⟩
    rw [groups]
    by_cases hn : n < 128
    · have hlt : n < 128 ^ (k + 1 + 1) := by
        calc n < 128 := hn
          _ = 128 ^ 1 := (pow_one 128).symm
          _ ≤ 128 ^ (k + 1 + 1) := Nat.pow_le_pow_right (by omega) (by omega)
      simp [hn, hlt]
    · have hrest : (groups fuel (n / 128)).length ≤ k + 1 ↔ n / 128 < 128 ^ (k + 1) :=
        ih (by omega)
      rw [if_neg hn, List.length_cons, Nat.add_le_add_iff_right, hrest,
        Nat.div_lt_iff_lt_mul (by omega), ← pow_succ]

theorem length_varint_mono (h : m ≤ n) : (varint m).length ≤ (varint n).length :=
  length_groups_mono h

theorem length_varint_pos (n : ℕ) : 0 < (varint n).length := by
  rw [varint, groups]
  split <;> simp

/-- Up to the next power of 128 a number is as long as its like. -/
theorem exists_length_varint (h : n < 128 ^ 9) :
    ∃ k ≤ 8, n ≤ 128 ^ (k + 1) - 1 ∧ (varint n).length = (varint (128 ^ (k + 1) - 1)).length := by
  have hpos := length_varint_pos n
  have hle : (varint n).length ≤ 8 + 1 := (length_groups_le_iff (by omega)).mpr h
  obtain ⟨k, hk⟩ : ∃ k, (varint n).length = k + 1 := ⟨(varint n).length - 1, by omega⟩
  have hlt : n < 128 ^ (k + 1) := (length_groups_le_iff (by omega)).mp hk.le
  refine ⟨k, by omega, by omega, le_antisymm (length_varint_mono (by omega)) ?_⟩
  rw [hk]
  apply (length_groups_le_iff (by omega)).mpr
  have := Nat.pow_pos (n := k + 1) (by omega : 0 < 128)
  omega

theorem length_int64 (hn : 0 < n) (hlt : n < 2 ^ 64) :
    (int64 tag n).length = (key tag 0).length + (varint n).length := by
  have hmod : ((n : ℤ) % 2 ^ 64).toNat = n := by
    rw [Int.emod_eq_of_lt (by omega) (by exact_mod_cast hlt), Int.toNat_natCast]
  rw [int64, if_neg (by omega), hmod, List.length_append]

theorem length_int64_mono (h : m ≤ n) (hlt : n < 2 ^ 64) :
    (int64 tag m).length ≤ (int64 tag n).length := by
  by_cases hm : m = 0
  · simp [hm, int64]
  · rw [length_int64 (by omega) (by omega), length_int64 (by omega) hlt]
    exact Nat.add_le_add_left (length_varint_mono h) _

/-- The last number as long as a given one is below a power of 128. -/
theorem exists_length_int64 (tag : ℕ) (h : n < 128 ^ 9) :
    ∃ k ≤ 9, n ≤ 128 ^ k - 1 ∧
      (int64 tag n).length = (int64 tag ((128 ^ k - 1 : ℕ) : ℤ)).length := by
  by_cases hn : n = 0
  · exact ⟨0, by omega, by simp [hn], by simp [hn]⟩
  · obtain ⟨k, hk, hle, hlength⟩ := exists_length_varint h
    have hlast : 128 ^ (k + 1) - 1 < 2 ^ 64 := by
      have : 128 ^ (k + 1) ≤ 128 ^ 9 := Nat.pow_le_pow_right (by omega) (by omega)
      omega
    refine ⟨k + 1, by omega, hle, ?_⟩
    rw [length_int64 (by omega) (by omega), length_int64 (by omega) hlast, hlength]

theorem length_delimited_mono (tag : ℕ) (h : data.length ≤ data'.length) :
    (delimited tag data).length ≤ (delimited tag data').length := by
  have hvarint := length_varint_mono h
  simp only [delimited, List.length_append]
  omega

theorem length_bytes_mono (tag : ℕ) (h : data.length ≤ data'.length) :
    (bytes tag data).length ≤ (bytes tag data').length := by
  by_cases hnil : data = []
  · simp [hnil, bytes]
  · have hnil' : data' ≠ [] := by
      intro heq
      rw [heq] at h
      exact hnil (List.eq_nil_of_length_eq_zero (Nat.le_zero.mp h))
    rw [bytes, bytes, if_neg hnil, if_neg hnil']
    exact length_delimited_mono tag h

end DeXFG.Library.Protobuf
