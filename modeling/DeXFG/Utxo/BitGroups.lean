import DeXFG.Library.Radix
import DeXFG.Utxo.CashAddress

/-!
# The number behind groups of bits

A conversion of groups keeps the number that they stand for: without padding the
bits that fill no group fall off, with padding zeros come in behind.
-/
namespace DeXFG.Utxo
open Library Library.Radix

variable {frombits tobits : ℕ}

/-- The number of some groups of bits. -/
def groupValue (bits : ℕ) (groups : Bytes) : ℕ := value (2 ^ bits) (groups.map UInt8.toNat)

/-- Groups of so many bits. -/
def IsGroups (bits : ℕ) (groups : Bytes) : Prop := ∀ d ∈ groups, d.toNat < 2 ^ bits

@[simp] theorem groupValue_nil (bits : ℕ) : groupValue bits [] = 0 := rfl

theorem groupValue_concat (bits : ℕ) (groups : Bytes) (d : UInt8) :
    groupValue bits (groups ++ [d]) = groupValue bits groups * 2 ^ bits + d.toNat := by
  rw [groupValue, List.map_append, List.map_singleton, value_concat, groupValue]

theorem groupValue_append (bits : ℕ) (groups groups' : Bytes) :
    groupValue bits (groups ++ groups') =
      groupValue bits groups * 2 ^ (bits * groups'.length) + groupValue bits groups' := by
  rw [groupValue, List.map_append, value_append, List.length_map, ← pow_mul, groupValue, groupValue]

theorem groupValue_cons (bits : ℕ) (d : UInt8) (groups : Bytes) :
    groupValue bits (d :: groups) =
      d.toNat * 2 ^ (bits * groups.length) + groupValue bits groups := by
  rw [groupValue, List.map_cons, value_cons, List.length_map, ← pow_mul, groupValue]

theorem IsGroups.append {bits : ℕ} {groups groups' : Bytes} (h : IsGroups bits groups)
    (h' : IsGroups bits groups') : IsGroups bits (groups ++ groups') := by
  intro d hd
  cases List.mem_append.mp hd with
  | inl hmem => exact h d hmem
  | inr hmem => exact h' d hmem

theorem isGroups_bytes (bytes : Bytes) : IsGroups 8 bytes := by
  intro d _
  exact d.toNat_lt

/-- Groups of one length are known by their number. -/
theorem groupValue_inj {bits : ℕ} {groups groups' : Bytes} (hbits : 0 < bits)
    (h : IsGroups bits groups) (h' : IsGroups bits groups')
    (hlength : groups.length = groups'.length)
    (hvalue : groupValue bits groups = groupValue bits groups') : groups = groups' := by
  apply List.map_injective_iff.mpr (fun a b hab => UInt8.toNat_inj.mp hab)
  apply value_inj (Nat.one_lt_two_pow hbits.ne') _ _ _ hvalue
  · simpa [IsGroups] using h
  · simpa [IsGroups] using h'
  · simpa using hlength

theorem groupValue_lt {bits : ℕ} {groups : Bytes} (hbits : 0 < bits) (h : IsGroups bits groups) :
    groupValue bits groups < 2 ^ (bits * groups.length) := by
  have hdigits : ∀ d ∈ groups.map UInt8.toNat, d < 2 ^ bits := by
    simpa [IsGroups] using h
  have hlt := value_lt (Nat.one_lt_two_pow hbits.ne') hdigits
  rw [List.length_map, ← pow_mul] at hlt
  exact hlt

/-! ### One step -/

/-- A group cut out of the accumulator. -/
theorem group_eq (acc place tobits : ℕ) :
    (acc >>> place) &&& ((1 <<< tobits) - 1) = acc / 2 ^ place % 2 ^ tobits := by
  rw [Nat.shiftRight_eq_div_pow, Nat.shiftLeft_eq, one_mul, Nat.and_two_pow_sub_one_eq_mod]

theorem toNat_ofNat_group {bits n : ℕ} (hbits : bits ≤ 8) (hn : n < 2 ^ bits) :
    (UInt8.ofNat n).toNat = n := by
  have hle : 2 ^ bits ≤ 2 ^ 8 := Nat.pow_le_pow_right (by omega) hbits
  rw [UInt8.toNat_ofNat']
  exact Nat.mod_eq_of_lt (by omega)

/-- What a drained accumulator holds, with the groups that came out of it. -/
structure Drained (tobits acc bits : ℕ) (result : ℕ × Bytes) : Prop where
  held : result.1 < tobits
  total : bits = tobits * result.2.length + result.1
  groups : IsGroups tobits result.2
  number : acc % 2 ^ bits = groupValue tobits result.2 * 2 ^ result.1 + acc % 2 ^ result.1

theorem drain_full {acc fuel bits : ℕ} (hfull : tobits ≤ bits) :
    drain tobits acc (fuel + 1) bits = ((drain tobits acc fuel (bits - tobits)).1,
      UInt8.ofNat ((acc >>> (bits - tobits)) &&& ((1 <<< tobits) - 1)) ::
        (drain tobits acc fuel (bits - tobits)).2) := by
  rw [drain, if_pos hfull]

theorem drain_spec (hpos : 0 < tobits) (hle : tobits ≤ 8) (acc : ℕ) :
    ∀ fuel bits, bits ≤ fuel → Drained tobits acc bits (drain tobits acc fuel bits) := by
  intro fuel
  induction fuel with
  | zero =>
    intro bits hbits
    have hzero : bits = 0 := by omega
    subst hzero
    exact ⟨hpos, by simp [drain], by simp [drain, IsGroups], by simp [drain]⟩
  | succ fuel ih =>
    intro bits hbits
    by_cases hfull : tobits ≤ bits
    · rw [drain_full hfull]
      have hrest := ih (bits - tobits) (by omega)
      generalize drain tobits acc fuel (bits - tobits) = rest at hrest ⊢
      have hlt : acc / 2 ^ (bits - tobits) % 2 ^ tobits < 2 ^ tobits :=
        Nat.mod_lt _ (Nat.two_pow_pos _)
      have hgroup := toNat_ofNat_group hle hlt
      rw [← group_eq] at hgroup
      have htotal := hrest.total
      constructor
      · exact hrest.held
      · rw [List.length_cons, Nat.mul_succ]
        omega
      · intro d hd
        cases List.mem_cons.mp hd with
        | inl heq =>
          rw [heq, hgroup, group_eq]
          exact hlt
        | inr hmem => exact hrest.groups d hmem
      · have hpow : (2 : ℕ) ^ bits = 2 ^ (bits - tobits) * 2 ^ tobits := by
          rw [← pow_add, Nat.sub_add_cancel hfull]
        have hplace : (2 : ℕ) ^ (bits - tobits) = 2 ^ (tobits * rest.2.length) * 2 ^ rest.1 := by
          rw [← pow_add, ← htotal]
        rw [hpow, Nat.mod_mul, hrest.number, groupValue_cons, hgroup, group_eq, hplace]
        ring
    · rw [drain, if_neg hfull]
      exact ⟨by omega, by simp, by simp [IsGroups], by simp⟩

/-- What a conversion holds after some of its input. -/
structure Regroup.Holds (frombits tobits : ℕ) (state : Regroup) (input : Bytes) : Prop where
  held : state.bits < tobits
  total : frombits * input.length = tobits * state.output.length + state.bits
  groups : IsGroups tobits state.output
  number : groupValue frombits input =
    groupValue tobits state.output * 2 ^ state.bits + state.acc % 2 ^ state.bits

/-- The mask leaves the bits that a step may still put out. -/
theorem accumulate_mod (acc : ℕ) {bits : ℕ} {d : UInt8} (hd : d.toNat < 2 ^ frombits)
    (hbits : bits < tobits) :
    (((acc <<< frombits) ||| d.toNat) &&& ((1 <<< (frombits + tobits - 1)) - 1)) %
      2 ^ (bits + frombits) = acc % 2 ^ bits * 2 ^ frombits + d.toNat := by
  have hdvd : 2 ^ (bits + frombits) ∣ 2 ^ (frombits + tobits - 1) :=
    Nat.pow_dvd_pow 2 (by omega)
  have hswap : bits + frombits = frombits + bits := Nat.add_comm _ _
  rw [Nat.shiftLeft_eq 1, one_mul, Nat.and_two_pow_sub_one_eq_mod, Nat.mod_mod_of_dvd _ hdvd,
    ← Nat.shiftLeft_add_eq_or_of_lt hd, Nat.shiftLeft_eq, hswap, pow_add, Nat.mod_mul]
  have hlow : (acc * 2 ^ frombits + d.toNat) % 2 ^ frombits = d.toNat := by
    rw [Nat.mul_add_mod_self_right, Nat.mod_eq_of_lt hd]
  have hhigh : (acc * 2 ^ frombits + d.toNat) / 2 ^ frombits = acc := by
    rw [Nat.add_comm, Nat.add_mul_div_right _ _ (Nat.two_pow_pos _), Nat.div_eq_of_lt hd, zero_add]
  rw [hlow, hhigh]
  ring

theorem regroupStep_holds (hpos : 0 < tobits) (hle : tobits ≤ 8) {state : Regroup} {input : Bytes}
    {d : UInt8} (hstate : state.Holds frombits tobits input) (hd : d.toNat < 2 ^ frombits) :
    (regroupStep frombits tobits state d).Holds frombits tobits (input ++ [d]) := by
  have hacc := accumulate_mod state.acc hd hstate.held
  have hdrained := drain_spec hpos hle
    (((state.acc <<< frombits) ||| d.toNat) &&& ((1 <<< (frombits + tobits - 1)) - 1))
    (state.bits + frombits) (state.bits + frombits) (le_refl _)
  have hstep : regroupStep frombits tobits state d =
      { acc := ((state.acc <<< frombits) ||| d.toNat) &&& ((1 <<< (frombits + tobits - 1)) - 1)
        bits := (drain tobits
          (((state.acc <<< frombits) ||| d.toNat) &&& ((1 <<< (frombits + tobits - 1)) - 1))
          (state.bits + frombits) (state.bits + frombits)).1
        output := state.output ++ (drain tobits
          (((state.acc <<< frombits) ||| d.toNat) &&& ((1 <<< (frombits + tobits - 1)) - 1))
          (state.bits + frombits) (state.bits + frombits)).2 } := rfl
  rw [hstep]
  generalize ((state.acc <<< frombits) ||| d.toNat) &&& ((1 <<< (frombits + tobits - 1)) - 1) =
    acc at hacc hdrained ⊢
  generalize drain tobits acc (state.bits + frombits) (state.bits + frombits) =
    drained at hdrained ⊢
  have htotal := hdrained.total
  have hbefore := hstate.total
  constructor
  · exact hdrained.held
  · simp only [List.length_append, List.length_singleton, Nat.mul_add]
    omega
  · exact hstate.groups.append hdrained.groups
  · have hnumber := hdrained.number
    rw [hacc] at hnumber
    have hplace : (2 : ℕ) ^ state.bits * 2 ^ frombits =
        2 ^ (tobits * drained.2.length) * 2 ^ drained.1 := by
      rw [← pow_add, ← pow_add, ← htotal]
    rw [groupValue_concat, hstate.number, groupValue_append]
    calc (groupValue tobits state.output * 2 ^ state.bits + state.acc % 2 ^ state.bits) *
          2 ^ frombits + d.toNat
        = groupValue tobits state.output * (2 ^ state.bits * 2 ^ frombits) +
            (state.acc % 2 ^ state.bits * 2 ^ frombits + d.toNat) := by ring
      _ = _ := by
        rw [hnumber, hplace]
        ring

/-! ### The whole input -/

/-- The state after some input. -/
def regroup (frombits tobits : ℕ) (input : Bytes) : Regroup :=
  input.foldl (regroupStep frombits tobits) { acc := 0, bits := 0, output := [] }

theorem regroup_concat (input : Bytes) (d : UInt8) :
    regroup frombits tobits (input ++ [d]) =
      regroupStep frombits tobits (regroup frombits tobits input) d := by
  rw [regroup, List.foldl_append, regroup]
  rfl

theorem regroup_holds (hpos : 0 < tobits) (hle : tobits ≤ 8) {input : Bytes}
    (hinput : IsGroups frombits input) :
    (regroup frombits tobits input).Holds frombits tobits input := by
  induction input using List.reverseRecOn with
  | nil => exact ⟨hpos, rfl, by simp [regroup, IsGroups], rfl⟩
  | append_singleton input d ih =>
    rw [regroup_concat]
    apply regroupStep_holds hpos hle
    · apply ih
      intro x hx
      exact hinput x (List.mem_append_left _ hx)
    · exact hinput d (by simp)

theorem convertBits_nopad (input : Bytes) :
    (convertBits frombits tobits input false).1 = (regroup frombits tobits input).output := by
  rw [convertBits, regroup]
  by_cases hbits : 0 < (input.foldl (regroupStep frombits tobits)
      { acc := 0, bits := 0, output := [] }).bits
  · simp [hbits]
  · simp [hbits]

/-- Without padding the bits that fill no group fall off. -/
theorem convertBits_truncates (tobits : ℕ) (hpos : 0 < tobits) (hle : tobits ≤ 8) {input : Bytes}
    (hinput : IsGroups frombits input) :
    (convertBits frombits tobits input false).1.length = frombits * input.length / tobits ∧
      groupValue tobits (convertBits frombits tobits input false).1 =
        groupValue frombits input / 2 ^ (frombits * input.length % tobits) := by
  have h := regroup_holds hpos hle hinput
  have htotal := h.total
  have hnumber := h.number
  have hheld := h.held
  rw [convertBits_nopad]
  have hrest : frombits * input.length % tobits = (regroup frombits tobits input).bits := by
    rw [htotal, Nat.mul_add_mod, Nat.mod_eq_of_lt hheld]
  constructor
  · rw [htotal, Nat.mul_add_div hpos, Nat.div_eq_of_lt hheld, Nat.add_zero]
  · rw [hrest, hnumber, Nat.add_comm, Nat.add_mul_div_right _ _ (Nat.two_pow_pos _),
      Nat.div_eq_of_lt (Nat.mod_lt _ (Nat.two_pow_pos _)), zero_add]

theorem isGroups_convertBits_nopad (hpos : 0 < tobits) (hle : tobits ≤ 8) {input : Bytes}
    (hinput : IsGroups frombits input) :
    IsGroups tobits (convertBits frombits tobits input false).1 := by
  rw [convertBits_nopad]
  exact (regroup_holds hpos hle hinput).groups

/-- How a conversion pads its last group. -/
structure Padded (frombits tobits : ℕ) (input output : Bytes) (zeros : ℕ) : Prop where
  fewer : zeros < tobits
  total : tobits * output.length = frombits * input.length + zeros
  groups : IsGroups tobits output
  number : groupValue tobits output = groupValue frombits input * 2 ^ zeros

/-- With padding zeros come in behind the last bits. -/
theorem convertBits_pads (tobits : ℕ) (hpos : 0 < tobits) (hle : tobits ≤ 8) {input : Bytes}
    (hinput : IsGroups frombits input) :
    ∃ zeros, Padded frombits tobits input (convertBits frombits tobits input true).1 zeros := by
  have h := regroup_holds hpos hle hinput
  have hheld := h.held
  have htotal := h.total
  have hnumber := h.number
  rw [convertBits, ← regroup]
  by_cases hbits : 0 < (regroup frombits tobits input).bits
  · rw [if_neg (by simp), if_pos ⟨rfl, hbits⟩]
    have hlast : (((regroup frombits tobits input).acc <<<
        (tobits - (regroup frombits tobits input).bits)) &&& ((1 <<< tobits) - 1)) =
        (regroup frombits tobits input).acc % 2 ^ (regroup frombits tobits input).bits *
          2 ^ (tobits - (regroup frombits tobits input).bits) := by
      have hpow : (2 : ℕ) ^ tobits = 2 ^ (tobits - (regroup frombits tobits input).bits) *
          2 ^ (regroup frombits tobits input).bits := by
        rw [← pow_add, Nat.sub_add_cancel hheld.le]
      rw [Nat.shiftLeft_eq, Nat.shiftLeft_eq, one_mul, Nat.and_two_pow_sub_one_eq_mod, hpow,
        Nat.mul_comm _ (2 ^ (tobits - _)), Nat.mul_mod_mul_left, Nat.mul_comm]
    have hlt : (((regroup frombits tobits input).acc <<<
        (tobits - (regroup frombits tobits input).bits)) &&& ((1 <<< tobits) - 1)) < 2 ^ tobits := by
      rw [Nat.shiftLeft_eq 1, one_mul, Nat.and_two_pow_sub_one_eq_mod]
      exact Nat.mod_lt _ (Nat.two_pow_pos _)
    have hgroup := toNat_ofNat_group hle hlt
    refine ⟨tobits - (regroup frombits tobits input).bits, by omega, ?_, ?_, ?_⟩
    · rw [List.length_append, List.length_singleton, Nat.mul_succ]
      omega
    · apply h.groups.append
      intro d hd
      rw [List.mem_singleton.mp hd, hgroup]
      exact hlt
    · have hpow : (2 : ℕ) ^ tobits = 2 ^ (regroup frombits tobits input).bits *
          2 ^ (tobits - (regroup frombits tobits input).bits) := by
        rw [← pow_add, Nat.add_sub_cancel' hheld.le]
      rw [groupValue_concat, hgroup, hlast, hnumber, hpow]
      ring
  · have hzero : (regroup frombits tobits input).bits = 0 := by omega
    rw [if_neg (by simp), if_neg (by simp [hbits])]
    refine ⟨0, hpos, ?_, h.groups, ?_⟩
    · rw [hzero, Nat.add_zero] at htotal
      exact htotal.symm
    · rw [hnumber, hzero]
      simp [Nat.mod_one]

end DeXFG.Utxo
