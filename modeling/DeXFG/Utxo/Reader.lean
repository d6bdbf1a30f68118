import DeXFG.Utxo.Serialize

/-!
# Reading serialized data

The reader of the source goes over bytes and knows the variant of the chain. Each
kind of data is read back from the bytes that are written for it.
-/
namespace DeXFG.Utxo
open Library Library.Reading

inductive ChainVariant where
  | btc
  | qtum
  | lbc
  | standard
  | ppc
  | rick
  | morty
  | rvn
  | pivx
  deriving DecidableEq, Repr

namespace ChainVariant

def isKmdAssetchain : ChainVariant → Bool
  | rick | morty => true
  | _ => false

end ChainVariant

/-- The errors of the reader. -/
inductive SerError where
  | malformedData
  | unexpectedEnd
  | unreadData
  | custom (reason : String)
  deriving DecidableEq, Repr

abbrev Reader (α : Type) := Reading.Reader ChainVariant SerError α

namespace Reader

def u8 : Reader UInt8 := do
  let n ← readLe .unexpectedEnd 1
  pure (UInt8.ofNat n)

def u32 : Reader UInt32 := do
  let n ← readLe .unexpectedEnd 4
  pure (UInt32.ofNat n)

def i32 : Reader Int32 := do
  let n ← readLe .unexpectedEnd 4
  pure (UInt32.ofNat n).toInt32

def i64 : Reader Int64 := do
  let n ← readLe .unexpectedEnd 8
  pure (UInt64.ofNat n).toInt64

/-- An amount. -/
def u64 : Reader ℕ := readLe .unexpectedEnd 8

def uint64 : Reader UInt64 := do
  let n ← readLe .unexpectedEnd 8
  pure (UInt64.ofNat n)

def fixed (n : ℕ) : Reader (FixedBytes n) := readFixed .unexpectedEnd n

def compactInteger : Reader ℕ := do
  let flag ← readLe .unexpectedEnd 1
  if flag ≤ 0xfc then pure flag
  else do
    let size := if flag = 0xfd then 2 else if flag = 0xfe then 4 else 8
    let n ← readLe .unexpectedEnd size
    note (decide ((Stream.compactInteger n).length = size + 1))
    pure n

def bytes : Reader Bytes := do
  let len ← compactInteger
  -- the limit keeps invalid input from asking for a huge allocation
  if 65536 < len then throw .malformedData else takeBytes .unexpectedEnd len

def list {α : Type} (r : Reader α) : Reader (List α) := do
  let len ← compactInteger
  readMany r len

def listMax {α : Type} (max : ℕ) (r : Reader α) : Reader (List α) := do
  let len ← compactInteger
  if max < len then throw .malformedData else readMany r len

/-- `is_finished`. -/
def isFinished : Reader Bool := fun s => .ok (decide (s.buffer = []), s)

end Reader

/-! ## What they read back -/

variable {α : Type} {r : Reader α} {write : α → Bytes} {V : α → Prop}

theorem codec_u8 : Codec Reader.u8 (fun b => [b]) fun _ => True := by
  apply (codec_readLe _ 1).map UInt8.ofNat UInt8.toNat
  · intro n hn
    have hto : (UInt8.ofNat n).toNat = n := UInt8.toNat_ofNat_of_lt' hn
    exact ⟨hto, trivial, by rw [leBytes, leBytes]⟩
  · intro b _
    exact ⟨b.toNat_lt, UInt8.ofNat_toNat⟩

theorem codec_u32 : Codec Reader.u32 Stream.u32 fun _ => True := by
  apply (codec_readLe _ 4).map UInt32.ofNat UInt32.toNat
  · intro n hn
    have hto : (UInt32.ofNat n).toNat = n := UInt32.toNat_ofNat_of_lt' hn
    exact ⟨hto, trivial, by rw [Stream.u32, hto]⟩
  · intro n _
    exact ⟨n.toNat_lt, UInt32.ofNat_toNat⟩

theorem codec_i32 : Codec Reader.i32 Stream.i32 fun _ => True := by
  apply (codec_readLe _ 4).map (fun n => (UInt32.ofNat n).toInt32) fun n => n.toUInt32.toNat
  · intro n hn
    have hto : (UInt32.ofNat n).toNat = n := UInt32.toNat_ofNat_of_lt' hn
    have hback : (UInt32.ofNat n).toInt32.toUInt32.toNat = n := by
      rw [UInt32.toUInt32_toInt32, hto]
    exact ⟨hback, trivial, by rw [Stream.i32, hback]⟩
  · intro n _
    exact ⟨n.toUInt32.toNat_lt, by rw [UInt32.ofNat_toNat, Int32.toInt32_toUInt32]⟩

theorem codec_i64 : Codec Reader.i64 Stream.i64 fun _ => True := by
  apply (codec_readLe _ 8).map (fun n => (UInt64.ofNat n).toInt64) fun n => n.toUInt64.toNat
  · intro n hn
    have hto : (UInt64.ofNat n).toNat = n := UInt64.toNat_ofNat_of_lt' hn
    have hback : (UInt64.ofNat n).toInt64.toUInt64.toNat = n := by
      rw [UInt64.toUInt64_toInt64, hto]
    exact ⟨hback, trivial, by rw [Stream.i64, hback]⟩
  · intro n _
    exact ⟨n.toUInt64.toNat_lt, by rw [UInt64.ofNat_toNat, Int64.toInt64_toUInt64]⟩

theorem codec_u64 : Codec Reader.u64 Stream.u64 fun n => n < 256 ^ 8 :=
  codec_readLe _ 8

theorem codec_uint64 : Codec Reader.uint64 (fun n => leBytes 8 n.toNat) fun _ => True := by
  apply (codec_readLe _ 8).map UInt64.ofNat UInt64.toNat
  · intro n hn
    have hto : (UInt64.ofNat n).toNat = n := UInt64.toNat_ofNat_of_lt' hn
    exact ⟨hto, trivial, by rw [hto]⟩
  · intro n _
    exact ⟨n.toNat_lt, UInt64.ofNat_toNat⟩

theorem codec_fixed (n : ℕ) : Codec (Reader.fixed n) Subtype.val fun _ => True :=
  codec_readFixed _ n

theorem length_compactInteger (n : ℕ) :
    (Stream.compactInteger n).length =
      if n ≤ 0xfc then 1 else if n ≤ 0xffff then 3 else if n ≤ 0xffffffff then 5 else 9 := by
  unfold Stream.compactInteger
  split
  · simp
  · split
    · simp
    · split <;> simp

/-- A number of some size is written as such unless a shorter form would do. -/
theorem compactInteger_of_size {flag size n : ℕ}
    (hflag : (flag = 0xfd ∧ size = 2) ∨ (flag = 0xfe ∧ size = 4) ∨ (flag = 0xff ∧ size = 8))
    (hn : n < 256 ^ size) :
    (Stream.compactInteger n).length ≤ size + 1 ∧
      ((Stream.compactInteger n).length = size + 1 →
        leBytes 1 flag ++ leBytes size n = Stream.compactInteger n) := by
  rw [length_compactInteger]
  unfold Stream.compactInteger
  rcases hflag with ⟨rfl, rfl⟩ | ⟨rfl, rfl⟩ | ⟨rfl, rfl⟩
  · norm_num at hn
    constructor
    · split
      · omega
      · rw [if_pos (by omega)]
    · intro hlength
      split at hlength
      · omega
      · rename_i hlong
        rw [if_neg hlong, if_pos (by omega)]
        rfl
  · norm_num at hn
    constructor
    · split
      · omega
      · split
        · omega
        · rw [if_pos (by omega)]
    · intro hlength
      split at hlength
      · omega
      · split at hlength
        · omega
        · rename_i hlong hlonger
          rw [if_neg hlong, if_neg hlonger, if_pos (by omega)]
          rfl
  · constructor
    · split
      · omega
      · split
        · omega
        · split <;> omega
    · intro hlength
      split at hlength
      · omega
      · split at hlength
        · omega
        · split at hlength
          · omega
          · rename_i hlong hlonger hlongest
            rw [if_neg hlong, if_neg hlonger, if_neg hlongest]
            rfl

/-- What follows a flag that says how long a number is. -/
theorem run_compactInteger_of_flag {flag size n : ℕ} (hflag : ¬ flag ≤ 0xfc)
    (hsize : (if flag = 0xfd then 2 else if flag = 0xfe then 4 else 8) = size)
    {s s₁ s₂ : Input ChainVariant}
    (hrun : (readLe .unexpectedEnd 1 : Reader ℕ).run s = .ok (flag, s₁))
    (hrun' : (readLe .unexpectedEnd size : Reader ℕ).run s₁ = .ok (n, s₂)) :
    Reader.compactInteger.run s = .ok (n, { s₂ with
      canonical := s₂.canonical && decide ((Stream.compactInteger n).length = size + 1) }) := by
  rw [Reader.compactInteger, run_bind_of_ok hrun, if_neg hflag, hsize]
  dsimp only
  rw [run_bind_of_ok hrun']
  rfl

theorem codec_compactInteger : Codec Reader.compactInteger Stream.compactInteger
    fun n => n < 2 ^ 64 where
  reads := by
    intro n hn rest context canonical
    have hlength := length_compactInteger n
    have hlong : ∀ {flag size : ℕ}, ¬ flag ≤ 0xfc → flag < 256 ^ 1 → n < 256 ^ size →
        (if flag = 0xfd then 2 else if flag = 0xfe then 4 else 8) = size →
        leBytes 1 flag ++ leBytes size n = Stream.compactInteger n →
        Reader.compactInteger.run ⟨Stream.compactInteger n ++ rest, context, canonical⟩ =
          .ok (n, ⟨rest, context, canonical⟩) := by
      intro flag size hflag hlt hn hsize hbytes
      have hshortest : (Stream.compactInteger n).length = size + 1 := by
        rw [← hbytes, List.length_append, length_leBytes, length_leBytes, Nat.add_comm]
      have hread := (codec_readLe (γ := ChainVariant) SerError.unexpectedEnd 1).reads flag hlt
        (leBytes size n ++ rest) context canonical
      have hread' := (codec_readLe (γ := ChainVariant) SerError.unexpectedEnd size).reads n hn
        rest context canonical
      rw [← List.append_assoc, hbytes] at hread
      rw [run_compactInteger_of_flag hflag hsize hread hread', hshortest]
      simp
    unfold Stream.compactInteger at hlong ⊢
    split
    · rename_i hle
      have hread := (codec_readLe (γ := ChainVariant) SerError.unexpectedEnd 1).reads n
        (by omega) rest context canonical
      rw [Reader.compactInteger, run_bind_of_ok hread, if_pos hle, run_pure]
    · split
      · rename_i hnot hle
        rw [if_neg hnot, if_pos hle] at hlong
        exact @hlong 0xfd 2 (by omega) (by norm_num) (by omega) rfl rfl
      · split
        · rename_i hnot hnot' hle
          rw [if_neg hnot, if_neg hnot', if_pos hle] at hlong
          exact @hlong 0xfe 4 (by omega) (by norm_num) (by omega) rfl rfl
        · rename_i hnot hnot' hnot''
          rw [if_neg hnot, if_neg hnot', if_neg hnot''] at hlong
          exact @hlong 0xff 8 (by omega) (by norm_num) (by omega) rfl rfl
  sound := by
    intro s n s' hrun
    rw [Reader.compactInteger] at hrun
    obtain ⟨flag, s₁, hflag, hrest⟩ := run_bind_eq_ok.mp hrun
    obtain ⟨hlt, htakes⟩ := (codec_readLe _ 1).sound hflag
    by_cases hle : flag ≤ 0xfc
    · rw [if_pos hle, run_pure] at hrest
      cases hrest
      rw [Stream.compactInteger, if_pos hle]
      exact ⟨by omega, htakes⟩
    · rw [if_neg hle] at hrest
      obtain ⟨size, hsize⟩ : ∃ size,
          (if flag = 0xfd then 2 else if flag = 0xfe then 4 else 8) = size := ⟨_, rfl⟩
      rw [hsize] at hrest
      obtain ⟨m, s₂, hm, hnote⟩ := run_bind_eq_ok.mp hrest
      obtain ⟨hmlt, htakes'⟩ := (codec_readLe _ size).sound hm
      have hsizes : (flag = 0xfd ∧ size = 2) ∨ (flag = 0xfe ∧ size = 4) ∨
          (flag = 0xff ∧ size = 8) := by
        split at hsize
        · omega
        · split at hsize <;> omega
      obtain ⟨hshorter, hsame⟩ := compactInteger_of_size hsizes hmlt
      have hall : m < 2 ^ 64 := by
        have hpow : 256 ^ size ≤ 2 ^ 64 := by
          rcases hsizes with ⟨_, rfl⟩ | ⟨_, rfl⟩ | ⟨_, rfl⟩ <;> norm_num
        omega
      cases hnote
      obtain ⟨taken, hbuffer, hlength, hcanonical⟩ := (htakes.trans htakes').bytes
      rw [List.length_append, length_leBytes, length_leBytes] at hlength
      refine ⟨hall, (htakes.trans htakes').context, taken, hbuffer, by omega, ?_⟩
      intro hc
      simp only [Bool.and_eq_true, decide_eq_true_eq] at hc
      obtain ⟨hs, heq⟩ := hcanonical hc.1
      exact ⟨hs, by rw [heq, hsame hc.2]⟩

/-- What is read after its length. -/
theorem codec_counted {length : α → ℕ} {write : α → Bytes} {V : α → Prop} {read : ℕ → Reader α}
    (hread : ∀ n, n < 2 ^ 64 → Codec (read n) write fun x => V x ∧ length x = n)
    (hlength : ∀ x, V x → length x < 2 ^ 64) :
    Codec (Reader.compactInteger >>= read)
      (fun x => Stream.compactInteger (length x) ++ write x) V :=
  codec_compactInteger.bind length hlength hread

theorem codec_list (hr : Codec r write V) :
    Codec (Reader.list r) (Stream.list write) fun xs =>
      xs.length < 2 ^ 64 ∧ ∀ x ∈ xs, V x := by
  apply codec_counted
  · intro n hn
    apply (codec_readMany hr n).congr _ fun _ _ => rfl
    intro xs
    constructor
    · intro h
      exact ⟨h.2, h.1.2⟩
    · intro h
      exact ⟨⟨h.1 ▸ hn, h.2⟩, h.1⟩
  · intro xs hxs
    exact hxs.1

theorem codec_listMax (hr : Codec r write V) {max : ℕ} (hmax : max < 2 ^ 64) :
    Codec (Reader.listMax max r) (Stream.list write) fun xs =>
      xs.length ≤ max ∧ ∀ x ∈ xs, V x := by
  apply codec_counted
  · intro n _
    apply Codec.guard
    · intro hn xs hxs
      omega
    · intro hn
      apply (codec_readMany hr n).congr _ fun _ _ => rfl
      intro xs
      constructor
      · intro h
        exact ⟨h.2, h.1.2⟩
      · intro h
        exact ⟨⟨by omega, h.2⟩, h.1⟩
  · intro xs hxs
    omega

theorem codec_bytes : Codec Reader.bytes Stream.bytes fun data => data.length ≤ 65536 := by
  apply codec_counted
  · intro n _
    apply Codec.guard
    · intro hn data hdata
      omega
    · intro hn
      apply (codec_takeBytes _ n).congr _ fun _ _ => rfl
      intro data
      constructor
      · intro h
        exact h.2
      · intro h
        exact ⟨by omega, h⟩
  · intro data hdata
    omega

/-- Bytes without a limit. -/
theorem codec_payload : Codec (Reader.compactInteger >>= takeBytes SerError.unexpectedEnd)
    Stream.bytes fun data => data.length < 2 ^ 64 := by
  apply codec_counted
  · intro n hn
    apply (codec_takeBytes _ n).congr _ fun _ _ => rfl
    intro data
    constructor
    · intro h
      exact h.2
    · intro h
      exact ⟨h ▸ hn, h⟩
  · intro data hdata
    exact hdata

end DeXFG.Utxo
