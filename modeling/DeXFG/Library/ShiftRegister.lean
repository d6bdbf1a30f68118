import Mathlib.Data.List.Basic

/-!
# Checksums of a linear register

A register takes a step for each symbol and adds the symbol to itself. Where the
step is linear, the symbols that bring it to a target are those that a run over
zeros in their place asks for.
-/
namespace DeXFG.Library.ShiftRegister

variable {w : ℕ} {step : BitVec w → BitVec w}

def Linear (step : BitVec w → BitVec w) : Prop := ∀ a b, step (a ^^^ b) = step a ^^^ step b

def run (step : BitVec w → BitVec w) (register : BitVec w) (symbols : List (BitVec w)) :
    BitVec w :=
  symbols.foldl (fun register symbol => step register ^^^ symbol) register

@[simp] theorem run_nil (register : BitVec w) : run step register [] = register := rfl

theorem run_cons (register symbol : BitVec w) (symbols : List (BitVec w)) :
    run step register (symbol :: symbols) = run step (step register ^^^ symbol) symbols := rfl

theorem run_append (register : BitVec w) (symbols symbols' : List (BitVec w)) :
    run step register (symbols ++ symbols') = run step (run step register symbols) symbols' :=
  List.foldl_append

theorem Linear.zero (h : Linear step) : step 0#w = 0#w := by
  have hself := h 0#w 0#w
  rw [BitVec.xor_self, BitVec.xor_self] at hself
  exact hself

/-- What was in the register and the symbols have their own shares in the result. -/
theorem run_xor (h : Linear step) (a b : BitVec w) (symbols : List (BitVec w)) :
    run step (a ^^^ b) symbols =
      run step a (List.replicate symbols.length 0#w) ^^^ run step b symbols := by
  induction symbols generalizing a b with
  | nil => rfl
  | cons symbol symbols ih =>
    rw [List.length_cons, List.replicate_succ, run_cons, run_cons, run_cons, h,
      BitVec.xor_assoc, ih, BitVec.xor_zero]

theorem xor_eq_iff (a b c : BitVec w) : a ^^^ b = c ↔ b = a ^^^ c := by
  constructor
  · intro heq
    rw [← heq, ← BitVec.xor_assoc, BitVec.xor_self, BitVec.zero_xor]
  · intro heq
    rw [heq, ← BitVec.xor_assoc, BitVec.xor_self, BitVec.zero_xor]

/-- The symbols that bring the register to a target. -/
theorem run_eq_iff (h : Linear step) (register target : BitVec w) (symbols : List (BitVec w)) :
    run step register symbols = target ↔
      run step 0#w symbols = run step register (List.replicate symbols.length 0#w) ^^^ target := by
  have hsplit := run_xor h register 0#w symbols
  rw [BitVec.xor_zero] at hsplit
  rw [hsplit, xor_eq_iff]

end DeXFG.Library.ShiftRegister
