import DeXFG.Library.ShiftRegister
import DeXFG.Utxo.BitGroups

/-!
# The checksum of an address

The eight symbols that the writer appends are the only ones that the reader takes for
the same network and data.
-/
namespace DeXFG.Utxo
open Library Library.Radix Library.ShiftRegister
open CashAddress (checksumSymbols)

/-- What one of the upper bits adds to the register. -/
def bitShare (mask generator c : BitVec 64) : BitVec 64 :=
  if (c >>> 35) &&& mask ≠ 0#64 then generator else 0#64

/-- A step of the register without its symbol. -/
def polyStep (c : BitVec 64) : BitVec 64 :=
  ((c &&& 0x07ffffffff#64) <<< 5) ^^^ bitShare 0x01#64 0x98f2bc8e61#64 c ^^^
    bitShare 0x02#64 0x79b76d99e2#64 c ^^^ bitShare 0x04#64 0xf33e5fb3c4#64 c ^^^
    bitShare 0x08#64 0xae2eabe2a8#64 c ^^^ bitShare 0x10#64 0x1e4f43e470#64 c

theorem ite_xor_eq (p : Prop) [Decidable p] (c g : BitVec 64) :
    (if p then c ^^^ g else c) = c ^^^ if p then g else 0#64 := by
  split
  · rfl
  · rw [BitVec.xor_zero]

theorem polyModStep_eq (c : BitVec 64) (d : UInt8) :
    polyModStep c d = polyStep c ^^^ BitVec.ofNat 64 d.toNat := by
  simp only [polyModStep, ite_xor_eq, polyStep, bitShare]
  ac_rfl

def symbolBits (symbols : Bytes) : List (BitVec 64) := symbols.map fun d => BitVec.ofNat 64 d.toNat

theorem polyMod_eq (rawData : Bytes) :
    polyMod rawData = run polyStep 1#64 (symbolBits rawData) ^^^ 1#64 := by
  have hstep : polyModStep = fun c d => polyStep c ^^^ BitVec.ofNat 64 d.toNat := by
    funext c d
    exact polyModStep_eq c d
  rw [polyMod, hstep, symbolBits, run, List.foldl_map]

/-! ### The step is linear -/

theorem and_twoPow_ne_zero (x : BitVec 64) {i : ℕ} (hi : i < 64) :
    x &&& BitVec.twoPow 64 i ≠ 0#64 ↔ x.getLsbD i = true := by
  rw [BitVec.and_twoPow]
  cases hbit : x.getLsbD i with
  | false => simp
  | true =>
    have hne : BitVec.twoPow 64 i ≠ 0#64 := by
      intro hzero
      have hset := congrArg (fun y => y.getLsbD i) hzero
      simp [hi] at hset
    simp [hne]

theorem linear_bitShare {i : ℕ} (hi : i < 64) (generator : BitVec 64) :
    Linear (bitShare (BitVec.twoPow 64 i) generator) := by
  intro a b
  simp only [bitShare, BitVec.ushiftRight_xor_distrib, and_twoPow_ne_zero _ hi,
    BitVec.getLsbD_xor]
  cases (a >>> 35).getLsbD i <;> cases (b >>> 35).getLsbD i <;> simp

theorem linear_polyStep : Linear polyStep := by
  have h0 := linear_bitShare (show 0 < 64 by omega) 0x98f2bc8e61#64
  have h1 := linear_bitShare (show 1 < 64 by omega) 0x79b76d99e2#64
  have h2 := linear_bitShare (show 2 < 64 by omega) 0xf33e5fb3c4#64
  have h3 := linear_bitShare (show 3 < 64 by omega) 0xae2eabe2a8#64
  have h4 := linear_bitShare (show 4 < 64 by omega) 0x1e4f43e470#64
  intro a b
  have hlow : ((a ^^^ b) &&& 0x07ffffffff#64) <<< 5 =
      ((a &&& 0x07ffffffff#64) <<< 5) ^^^ ((b &&& 0x07ffffffff#64) <<< 5) := by
    rw [← BitVec.shiftLeft_xor_distrib]
    congr 1
    apply BitVec.eq_of_getLsbD_eq
    intro i _
    simp only [BitVec.getLsbD_and, BitVec.getLsbD_xor, Bool.and_xor_distrib_right]
  have hshare0 := h0 a b
  have hshare1 := h1 a b
  have hshare2 := h2 a b
  have hshare3 := h3 a b
  have hshare4 := h4 a b
  have hpow0 : BitVec.twoPow 64 0 = 0x01#64 := by decide
  have hpow1 : BitVec.twoPow 64 1 = 0x02#64 := by decide
  have hpow2 : BitVec.twoPow 64 2 = 0x04#64 := by decide
  have hpow3 : BitVec.twoPow 64 3 = 0x08#64 := by decide
  have hpow4 : BitVec.twoPow 64 4 = 0x10#64 := by decide
  rw [hpow0] at hshare0
  rw [hpow1] at hshare1
  rw [hpow2] at hshare2
  rw [hpow3] at hshare3
  rw [hpow4] at hshare4
  rw [polyStep, polyStep, polyStep, hlow, hshare0, hshare1, hshare2, hshare3, hshare4]
  ac_rfl

/-- A register that is not full moves up. -/
theorem polyStep_of_lt {c : BitVec 64} (hc : c.toNat < 2 ^ 35) :
    (polyStep c).toNat = c.toNat * 32 := by
  have hshift : c >>> 35 = 0#64 := by
    apply BitVec.eq_of_toNat_eq
    rw [BitVec.toNat_ushiftRight, Nat.shiftRight_eq_div_pow, Nat.div_eq_of_lt hc]
    rfl
  have hshare : ∀ mask generator, bitShare mask generator c = 0#64 := by
    intro mask generator
    rw [bitShare, hshift, BitVec.zero_and, if_neg (fun hne => hne rfl)]
  have hmask : c &&& 0x07ffffffff#64 = c := by
    apply BitVec.eq_of_toNat_eq
    rw [BitVec.toNat_and]
    exact (Nat.and_two_pow_sub_one_eq_mod _ 35).trans (Nat.mod_eq_of_lt hc)
  rw [polyStep, hmask]
  simp only [hshare, BitVec.xor_zero]
  rw [BitVec.toNat_shiftLeft, Nat.shiftLeft_eq, Nat.mod_eq_of_lt]
  omega

/-! ### The number of the last symbols -/

/-- A symbol added to a register that moved up. -/
theorem xor_eq_add (a : ℕ) {symbol : ℕ} (hsymbol : symbol < 32) :
    (a * 32) ^^^ symbol = a * 32 + symbol := by
  have hhigh : ((a * 32) ^^^ symbol) / 2 ^ 5 = a := by
    rw [Nat.xor_div_two_pow, Nat.mul_div_cancel _ (by decide), Nat.div_eq_of_lt hsymbol,
      Nat.xor_zero]
  have hlow : ((a * 32) ^^^ symbol) % 2 ^ 5 = symbol := by
    rw [Nat.xor_mod_two_pow, Nat.mul_mod_left, Nat.mod_eq_of_lt hsymbol, Nat.zero_xor]
  have hsplit := Nat.div_add_mod ((a * 32) ^^^ symbol) (2 ^ 5)
  rw [hhigh, hlow] at hsplit
  omega

theorem toNat_symbol (d : UInt8) : (BitVec.ofNat 64 d.toNat).toNat = d.toNat := by
  have hd := d.toNat_lt
  rw [BitVec.toNat_ofNat]
  exact Nat.mod_eq_of_lt (by omega)

/-- From an empty register up to eight symbols stand in it as they are. -/
theorem toNat_run_symbols {symbols : Bytes} (h : IsGroups 5 symbols) (hlength : symbols.length ≤ 8) :
    (run polyStep 0#64 (symbolBits symbols)).toNat = groupValue 5 symbols := by
  induction symbols using List.reverseRecOn with
  | nil => rfl
  | append_singleton symbols d ih =>
    rw [List.length_append, List.length_singleton] at hlength
    have hsymbols : IsGroups 5 symbols := fun x hx => h x (List.mem_append_left _ hx)
    have hd : d.toNat < 32 := h d (by simp)
    have hvalue := ih hsymbols (by omega)
    have hlt : groupValue 5 symbols < 2 ^ 35 := by
      have hpow : (2 : ℕ) ^ (5 * symbols.length) ≤ 2 ^ 35 :=
        Nat.pow_le_pow_right (by omega) (by omega)
      exact (groupValue_lt (by omega) hsymbols).trans_le hpow
    have hlast : run polyStep 0#64 (symbolBits (symbols ++ [d])) =
        polyStep (run polyStep 0#64 (symbolBits symbols)) ^^^ BitVec.ofNat 64 d.toNat := by
      rw [symbolBits, List.map_append, run_append]
      rfl
    rw [hlast, BitVec.toNat_xor, polyStep_of_lt (hvalue ▸ hlt), hvalue, toNat_symbol,
      xor_eq_add _ hd, groupValue_concat]
    rfl

/-! ### Registers of forty bits -/

theorem toNat_xor_lt {a b : BitVec 64} {n : ℕ} (ha : a.toNat < 2 ^ n) (hb : b.toNat < 2 ^ n) :
    (a ^^^ b).toNat < 2 ^ n := by
  rw [BitVec.toNat_xor]
  exact Nat.xor_lt_two_pow ha hb

theorem bitShare_lt {generator : BitVec 64} {n : ℕ} (hgenerator : generator.toNat < 2 ^ n)
    (mask c : BitVec 64) : (bitShare mask generator c).toNat < 2 ^ n := by
  rw [bitShare]
  split
  · exact hgenerator
  · exact Nat.two_pow_pos n

theorem polyStep_lt (c : BitVec 64) : (polyStep c).toNat < 2 ^ 40 := by
  have hlow : ((c &&& 0x07ffffffff#64) <<< 5).toNat < 2 ^ 40 := by
    have hmask : (c &&& 0x07ffffffff#64).toNat < 2 ^ 35 := by
      rw [BitVec.toNat_and]
      exact Nat.and_lt_two_pow _ (by decide)
    rw [BitVec.toNat_shiftLeft, Nat.shiftLeft_eq]
    omega
  rw [polyStep]
  exact toNat_xor_lt (toNat_xor_lt (toNat_xor_lt (toNat_xor_lt (toNat_xor_lt hlow
    (bitShare_lt (by decide) _ _)) (bitShare_lt (by decide) _ _)) (bitShare_lt (by decide) _ _))
    (bitShare_lt (by decide) _ _)) (bitShare_lt (by decide) _ _)

theorem polyMod_lt {rawData : Bytes} (h : IsGroups 5 rawData) : (polyMod rawData).toNat < 2 ^ 40 := by
  rw [polyMod_eq]
  apply toNat_xor_lt _ (by decide)
  induction rawData using List.reverseRecOn with
  | nil => decide
  | append_singleton rawData d ih =>
    have hd : d.toNat < 2 ^ 5 := h d (by simp)
    have hlast : run polyStep 1#64 (symbolBits (rawData ++ [d])) =
        polyStep (run polyStep 1#64 (symbolBits rawData)) ^^^ BitVec.ofNat 64 d.toNat := by
      rw [symbolBits, List.map_append, run_append]
      rfl
    rw [hlast]
    apply toNat_xor_lt (polyStep_lt _)
    rw [toNat_symbol]
    omega

/-! ### The checksum of some data -/

theorem groups_checksumSymbols (checksum : BitVec 64) : IsGroups 5 (checksumSymbols checksum) := by
  intro d hd
  obtain ⟨i, -, rfl⟩ := List.mem_map.mp hd
  have hlt : ((checksum >>> (5 * (7 - i))) &&& 0x1F#64).toNat < 2 ^ 5 := by
    rw [BitVec.toNat_and]
    exact Nat.and_lt_two_pow _ (by decide)
  rw [toNat_ofNat_group (by omega) hlt]
  exact hlt

@[simp] theorem length_checksumSymbols (checksum : BitVec 64) :
    (checksumSymbols checksum).length = 8 := by
  simp [checksumSymbols]

/-- The symbols of a checksum are its digits. -/
theorem groupValue_checksumSymbols {checksum : BitVec 64} (h : checksum.toNat < 2 ^ 40) :
    groupValue 5 (checksumSymbols checksum) = checksum.toNat := by
  have hdigit : ∀ i, (UInt8.ofNat ((checksum >>> (5 * (7 - i))) &&& 0x1F#64).toNat).toNat =
      checksum.toNat / 2 ^ (5 * (7 - i)) % 32 := by
    intro i
    have hand : ((checksum >>> (5 * (7 - i))) &&& 0x1F#64).toNat =
        checksum.toNat / 2 ^ (5 * (7 - i)) % 32 := by
      rw [BitVec.toNat_and, BitVec.toNat_ushiftRight, Nat.shiftRight_eq_div_pow]
      exact Nat.and_two_pow_sub_one_eq_mod _ 5
    rw [hand]
    exact toNat_ofNat_group (show 5 ≤ 8 by decide) (Nat.mod_lt _ (by decide))
  have hfixed : (checksumSymbols checksum).map UInt8.toNat = fixed 32 8 checksum.toNat := by
    rw [checksumSymbols, List.map_map]
    simp only [Function.comp_def, hdigit]
    rfl
  rw [groupValue, hfixed]
  exact (value_fixed 8 checksum.toNat).trans (Nat.mod_eq_of_lt (by omega))

theorem groups_encodeToChecksum (network : NetworkPrefix) :
    IsGroups 5 network.encodeToChecksum := by
  intro d hd
  cases List.mem_append.mp hd with
  | inl hmem =>
    obtain ⟨b, -, rfl⟩ := List.mem_map.mp hmem
    rw [UInt8.toNat_and]
    exact Nat.and_lt_two_pow _ (by decide)
  | inr hmem =>
    rw [List.mem_singleton.mp hmem]
    decide

theorem isGroups_zeros (bits length : ℕ) : IsGroups bits (List.replicate length 0) := by
  intro d hd
  rw [List.eq_of_mem_replicate hd]
  exact Nat.two_pow_pos bits

theorem calculateChecksum_lt (network : NetworkPrefix) {payload : Bytes} (h : IsGroups 5 payload) :
    (calculateChecksum network payload).toNat < 2 ^ 40 :=
  polyMod_lt ((groups_encodeToChecksum network).append h)

/-- Eight symbols stand behind some data with a valid checksum if they are those that the
writer appends. -/
theorem calculateChecksum_eq_zero (network : NetworkPrefix) {payload check : Bytes}
    (hpayload : IsGroups 5 payload) (hcheck : IsGroups 5 check) (hlength : check.length = 8) :
    calculateChecksum network (payload ++ check) = 0#64 ↔
      check = checksumSymbols (calculateChecksum network (payload ++ List.replicate 8 0)) := by
  have hlt := calculateChecksum_lt network (hpayload.append (isGroups_zeros 5 8))
  have hzeros : symbolBits (List.replicate 8 0) =
      List.replicate (symbolBits check).length 0#64 := by
    rw [symbolBits, symbolBits, List.length_map, hlength]
    rfl
  have hsplit : ∀ last, calculateChecksum network (payload ++ last) =
      run polyStep (run polyStep 1#64 (symbolBits (network.encodeToChecksum ++ payload)))
        (symbolBits last) ^^^ 1#64 := by
    intro last
    rw [calculateChecksum, polyMod_eq, ← run_append, symbolBits, symbolBits, symbolBits,
      ← List.map_append, List.append_assoc]
  have hnumber : calculateChecksum network (payload ++ check) = 0#64 ↔
      run polyStep 0#64 (symbolBits check) =
        calculateChecksum network (payload ++ List.replicate 8 0) := by
    rw [hsplit, hsplit, hzeros, ← run_eq_iff linear_polyStep]
    exact BitVec.xor_eq_zero_iff
  rw [hnumber]
  constructor
  · intro heq
    apply groupValue_inj (by omega) hcheck (groups_checksumSymbols _)
    · rw [hlength, length_checksumSymbols]
    · rw [groupValue_checksumSymbols hlt, ← heq, toNat_run_symbols hcheck hlength.le]
  · intro heq
    apply BitVec.eq_of_toNat_eq
    rw [toNat_run_symbols hcheck hlength.le, heq, groupValue_checksumSymbols hlt]

end DeXFG.Utxo
