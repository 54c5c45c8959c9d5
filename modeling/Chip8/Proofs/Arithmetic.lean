import Chip8.Proofs.Adjustment
import Chip8.Proofs.Digit

/-! The arithmetic of two registers. The result of an operation and its flag together account for the exact
value: a sum with its carry, a difference with what was borrowed, a shifted byte with the bit that left it. The
operands are those from before the instruction, also where the two registers are one or where one of them takes
the flag, and where result and flag go to the same register the flag stays. -/

namespace Chip8
namespace Operation

/-- What the result `r` and the flag `f` of an operation on `a` and `b` amount to. A copy has no flag. -/
def Law (o : Operation) (a b r f : Nat) : Prop :=
  match o with
  | copy => r = b
  | or => r = a ||| b ∧ f = 0
  | and => r = a &&& b ∧ f = 0
  | xor => r = a ^^^ b ∧ f = 0
  | add => r + 256 * f = a + b
  | subtract => (a : Int) - b = r - 256 * (1 - f)
  | shiftRight => a = 2 * r + f
  | subtractFrom => (b : Int) - a = r - 256 * (1 - f)
  | shiftLeft => 2 * a = r + 256 * f

theorem toNat_flagOf (p : Prop) [Decidable p] : (flagOf p).toNat = if p then 1 else 0 := by
  unfold flagOf
  by_cases h : p <;> simp [h]

theorem add_law (a b : Byte) :
    (a + b).toNat + 256 * (flagOf (256 ≤ a.toNat + b.toNat)).toNat = a.toNat + b.toNat := by
  have ha := a.isLt
  have hb := b.isLt
  have hadd : (a + b).toNat = (a.toNat + b.toNat) % 256 := BitVec.toNat_add a b
  rw [toNat_flagOf, hadd]
  split <;> omega

theorem sub_law (a b : Byte) :
    (a.toNat : Int) - b.toNat = (a - b).toNat - 256 * (1 - (flagOf (b ≤ a)).toNat) := by
  have ha := a.isLt
  have hb := b.isLt
  have hle : b ≤ a ↔ b.toNat ≤ a.toNat := BitVec.le_def
  have hsub : (a - b).toNat = (256 - b.toNat + a.toNat) % 256 := BitVec.toNat_sub a b
  simp only [toNat_flagOf, hsub, hle]
  split <;> omega

theorem shiftRight_law (a : Byte) : a.toNat = 2 * (a >>> 1).toNat + (a &&& 1).toNat := by
  have hlow : (a &&& 1).toNat = a.toNat % 2 := by
    rw [BitVec.toNat_and]
    exact Nat.and_one_is_mod a.toNat
  rw [hlow, BitVec.toNat_ushiftRight, Nat.shiftRight_eq_div_pow]
  omega

theorem shiftLeft_law (a : Byte) : 2 * a.toNat = (a <<< 1).toNat + 256 * (a >>> 7).toNat := by
  have ha := a.isLt
  rw [BitVec.toNat_shiftLeft, BitVec.toNat_ushiftRight, Nat.shiftLeft_eq, Nat.shiftRight_eq_div_pow]
  omega

theorem flagOf_le_one (b : Bool) : (flagOf b).toNat ≤ 1 := by cases b <;> decide

theorem apply_law {o : Operation} (ho : o ≠ copy) (a b : Byte) :
    ∃ r f : Byte, o.apply a b = (r, some f) ∧ f.toNat ≤ 1 ∧ o.Law a.toNat b.toNat r.toNat f.toNat := by
  cases o with
  | copy => exact absurd rfl ho
  | or => exact ⟨_, _, rfl, by decide, BitVec.toNat_or a b, rfl⟩
  | and => exact ⟨_, _, rfl, by decide, BitVec.toNat_and a b, rfl⟩
  | xor => exact ⟨_, _, rfl, by decide, BitVec.toNat_xor a b, rfl⟩
  | add => exact ⟨_, _, rfl, flagOf_le_one _, add_law a b⟩
  | subtract => exact ⟨_, _, rfl, flagOf_le_one _, sub_law a b⟩
  | subtractFrom => exact ⟨_, _, rfl, flagOf_le_one _, sub_law b a⟩
  | shiftRight =>
    have hbit : (a &&& 1).toNat ≤ 1 := by
      rw [BitVec.toNat_and]
      exact Nat.and_le_right
    exact ⟨_, _, rfl, hbit, shiftRight_law a⟩
  | shiftLeft =>
    have ha := a.isLt
    have hlaw := shiftLeft_law a
    have hbit : (a >>> 7).toNat ≤ 1 := by omega
    exact ⟨_, _, rfl, hbit, hlaw⟩

end Operation

namespace Machine

/-- From `m` to `n` an operation on two registers gave the result `r` and the flag `f`. -/
structure Concludes (m n : Machine) (x : Nibble) (r f : Nat) : Prop where
  flag : (n.register flagRegister).toNat = f
  result : x ≠ flagRegister → (n.register x).toNat = r
  registers : ∀ z, z ≠ x → z ≠ flagRegister → n.register z = m.register z
  others : n = { m with registers := n.registers }

theorem concludes (m : Machine) (x : Nibble) (r f : Byte) :
    m.Concludes (m.conclude x (r, some f)) x r.toNat f.toNat where
  flag := congrArg BitVec.toNat (register_setRegister _ _ _)
  result hx := by
    change (((m.setRegister x r).setFlag f).register x).toNat = r.toNat
    rw [setFlag, register_setRegister_of_ne hx, register_setRegister]
  registers z hz hflag := by
    change ((m.setRegister x r).setFlag f).register z = m.register z
    rw [setFlag, register_setRegister_of_ne hflag, register_setRegister_of_ne hz]
  others := rfl

theorem operand_eq (m : Machine) (o : Operation) (x y : Nibble) :
    m.operand o x y =
      if (o = .shiftRight ∨ o = .shiftLeft) ∧ m.dialect.shiftsSecond = true then m.register y
      else m.register x := by
  simp only [operand, Operation.isShift, Bool.and_eq_true, Bool.or_eq_true, decide_eq_true_eq]

theorem execute_arithmetic (m : Machine) (o : Operation) (x y : Nibble) :
    m.execute (wordOf 0x8 x y o.digit) = .ok (m.combine o x y) := by
  rw [execute_of_ofWord? (ofWord?_arithmetic o x y), perform, Instruction.x_wordOf,
    Instruction.y_wordOf]

/-- For every operation but the copy, result and flag account for the exact value on the operands from before,
where a shift in the one dialect takes the second operand for the first. A copy leaves the flag alone. -/
theorem arithmetic_law (m : Machine) (x y : Nibble) :
    (∀ o : Operation, o ≠ .copy → ∃ (n : Machine) (r f : Nat),
      m.execute (wordOf 0x8 x y o.digit) = .ok n ∧ m.Concludes n x r f ∧ r ≤ 255 ∧ f ≤ 1 ∧
        let b := m.register y
        let a := if (o = .shiftRight ∨ o = .shiftLeft) ∧ m.dialect.shiftsSecond = true then b
          else m.register x
        o.Law a.toNat b.toNat r f) ∧
    ∃ n, m.execute (wordOf 0x8 x y Operation.copy.digit) = .ok n ∧ n.register x = m.register y ∧
      (∀ z, z ≠ x → n.register z = m.register z) ∧ n = { m with registers := n.registers } := by
  constructor
  · intro o ho
    obtain ⟨r, f, hrf, hf, hlaw⟩ := Operation.apply_law ho (m.operand o x y) (m.register y)
    have hexecute : m.execute (wordOf 0x8 x y o.digit) = .ok (m.conclude x (r, some f)) := by
      rw [execute_arithmetic, combine_eq, hrf]
    rw [operand_eq] at hlaw
    exact ⟨_, _, _, hexecute, concludes m x r f, Nat.le_of_lt_succ r.isLt, hf, hlaw⟩
  · exact ⟨_, execute_arithmetic m .copy x y, register_setRegister m x _,
      fun z hz => register_setRegister_of_ne hz, rfl⟩

end Machine
end Chip8
