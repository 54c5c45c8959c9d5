import Chip8.Proofs.Adjustment
import Chip8.Proofs.Digit

/-! Where dialects differ. Two machines that are equal but for their dialects answer alike and stay equal for as
long as nothing is performed on which their dialects differ. That can only be a shift across two registers, which
in one of the dialects is a copy and then the shift of the other, or a block of registers that is stored or
loaded, after which one of the dialects moves the index on. -/

namespace Chip8
namespace Machine

def inDialect (m : Machine) (d : Dialect) : Machine := { m with dialect := d }

variable {m n : Machine} {w : Int} {i : Instruction} {as : List Action}

theorem trace_inDialect {d : Dialect} (h : ∀ c ∈ m.commits as, c.instruction.SameIn m.dialect d) :
    (m.inDialect d).trace as = (m.trace as).map fun r => (r.1, r.2.inDialect d) := by
  let g : Adjustment := { dialect := fun _ => d }
  have hsteady : g.Steady := ⟨rfl, fun _ => rfl, fun _ => rfl⟩
  have hignores : ∀ c ∈ m.commits as, c.instruction.Ignores g m.dialect :=
    fun c hc => ⟨fun _ => rfl, fun _ => ⟨rfl, rfl⟩, h c hc⟩
  exact (run_adjust hsteady hignores).1

theorem setRegister_setRegister (m : Machine) (x : Nibble) (a b : Byte) :
    (m.setRegister x a).setRegister x b = m.setRegister x b := by
  simp only [setRegister, Table.set_set]

theorem conclude_setRegister (m : Machine) (x : Nibble) (a : Byte) (r : Byte × Option Byte) :
    (m.setRegister x a).conclude x r = m.conclude x r := by
  obtain ⟨b, f⟩ := r
  cases f <;> simp only [conclude, setRegister_setRegister]

theorem combine_copied (m : Machine) (o : Operation) (x y : Nibble) :
    (m.setRegister x (m.register y)).combine o x y =
      m.conclude x (o.apply (m.register y) (m.register y)) := by
  have hx := register_setRegister m x (m.register y)
  have hy : (m.setRegister x (m.register y)).register y = m.register y := by
    by_cases hxy : y = x
    · subst hxy
      exact hx
    · exact register_setRegister_of_ne hxy
  rw [combine_eq, operand, hx, hy, ite_self, conclude_setRegister]

/-- A shift in the one dialect is a copy followed by the same shift in the other. -/
theorem execute_shift (hi : Instruction.ofWord? w = some i)
    (hform : i.form = .arithmetic .shiftRight ∨ i.form = .arithmetic .shiftLeft) (m : Machine)
    (advances : Bool) :
    (m.inDialect ⟨true, advances⟩).execute w =
      (((m.inDialect ⟨false, advances⟩).execute (wordOf 0x8 i.x i.y 0x0)).bind (·.execute w)).map
        (·.inDialect ⟨true, advances⟩) := by
  obtain ⟨o, ho, hshift⟩ : ∃ o, i.form = .arithmetic o ∧ o.isShift = true := by
    rcases hform with h | h
    · exact ⟨_, h, rfl⟩
    · exact ⟨_, h, rfl⟩
  have hperform (n : Machine) : n.perform i = .ok (n.combine o i.x i.y) := by rw [perform, ho]
  have hoperand : (m.inDialect ⟨true, advances⟩).operand o i.x i.y = m.register i.y := by
    rw [operand, hshift]
    rfl
  let n := m.inDialect ⟨false, advances⟩
  have hcopy : n.execute (wordOf 0x8 i.x i.y 0x0) =
      .ok (n.setRegister i.x (n.register i.y)) := by
    change n.execute (wordOf 0x8 i.x i.y Operation.copy.digit) = _
    rw [execute_of_ofWord? (ofWord?_arithmetic .copy i.x i.y), perform, Instruction.x_wordOf,
      Instruction.y_wordOf]
    rfl
  have hdialect (r : Byte × Option Byte) : (n.conclude i.x r).inDialect ⟨true, advances⟩ =
      (m.inDialect ⟨true, advances⟩).conclude i.x r := by
    obtain ⟨b, f⟩ := r
    cases f <;> rfl
  rw [hcopy, Except.bind, execute_of_ofWord? hi, execute_of_ofWord? hi, hperform, hperform,
    combine_copied, combine_eq, hoperand, Except.map, hdialect]
  rfl

theorem execute_block (hi : Instruction.ofWord? w = some i)
    (hform : i.form = .store ∨ i.form = .load) (m : Machine) (shifts : Bool) :
    (m.inDialect ⟨shifts, true⟩).execute w =
      ((m.inDialect ⟨shifts, false⟩).execute w).map fun n =>
        { n.inDialect ⟨shifts, true⟩ with
          index := BitVec.ofNat 16 (n.index.toNat + i.x.toNat + 1) } := by
  have hindex (v : Word) : v + i.x.setWidth 16 + 1 =
      BitVec.ofNat 16 (v.toNat + i.x.toNat + 1) := by
    apply BitVec.eq_of_toNat_eq
    simp
  rw [execute_of_ofWord? hi, execute_of_ofWord? hi]
  rcases hform with h | h
  · simp only [perform, h, Except.map, ← hindex]
    rfl
  · simp only [perform, h, Except.map, ← hindex]
    rfl

/-- Machines that are equal but for their dialects answer alike and stay equal but for them, unless something is
performed on which the dialects differ. That is a shift, which differs by a copy, or a block, which differs by
the move of the index. -/
theorem dialects_differ_only (hmn : m.inDialect n.dialect = n)
    (hsame : ∀ c ∈ m.commits as, c.instruction.SameIn m.dialect n.dialect) :
    List.Forall₂ (fun r s => r.1 = s.1 ∧ r.2.inDialect n.dialect = s.2) (m.trace as) (n.trace as) ∧
    (∀ (k : Machine) (w : Int) (i : Instruction), Instruction.ofWord? w = some i →
      (i.form = .arithmetic .shiftRight ∨ i.form = .arithmetic .shiftLeft → ∀ advances,
        (k.inDialect ⟨true, advances⟩).execute w =
          (((k.inDialect ⟨false, advances⟩).execute (wordOf 0x8 i.x i.y 0x0)).bind
            (·.execute w)).map (·.inDialect ⟨true, advances⟩)) ∧
      (i.form = .store ∨ i.form = .load → ∀ shifts,
        (k.inDialect ⟨shifts, true⟩).execute w =
          ((k.inDialect ⟨shifts, false⟩).execute w).map fun l =>
            { l.inDialect ⟨shifts, true⟩ with
              index := BitVec.ofNat 16 (l.index.toNat + i.x.toNat + 1) })) := by
  refine ⟨?_, fun k w i hi => ⟨fun h => execute_shift hi h k, fun h => execute_block hi h k⟩⟩
  have htrace := trace_inDialect hsame
  rw [hmn] at htrace
  rw [htrace, List.forall₂_map_right_iff, List.forall₂_same]
  exact fun r _ => ⟨rfl, rfl⟩

/-- Two machines that shift differently shift one register, store and load across registers, and await a key.
A shift of register `E` into the flag register and a store of four registers come apart as said. -/
theorem dialects_differ_only_shifting :
    let m := powerOn 0 ⟨false, true⟩
    let n := powerOn 0 ⟨true, true⟩
    let as : List Action :=
      [.execute 0x8116, .load [0xF3, 0x55, 0xF2, 0x65, 0x83, 0x3E, 0xF4, 0x0A], .step, .step, .step,
        .tick, .step, .deliver (.int 3), .hold (.int 16) true, .step]
    m.inDialect n.dialect = n ∧ (∀ c ∈ m.commits as, c.instruction.SameIn m.dialect n.dialect) ∧
      List.Forall₂ (fun r s => r.1 = s.1 ∧ r.2.inDialect n.dialect = s.2) (m.trace as) (n.trace as) ∧
      (m.inDialect ⟨true, true⟩).execute 0x8FE6 =
        (((m.inDialect ⟨false, true⟩).execute 0x8FE0).bind (·.execute 0x8FE6)).map
          (·.inDialect ⟨true, true⟩) ∧
      (m.inDialect ⟨true, true⟩).execute 0xF355 =
        ((m.inDialect ⟨true, false⟩).execute 0xF355).map fun l =>
          { l.inDialect ⟨true, true⟩ with index := BitVec.ofNat 16 (l.index.toNat + 3 + 1) } := by
  intro m n as
  have hmn : m.inDialect n.dialect = n := rfl
  have hsame : ∀ c ∈ m.commits as, c.instruction.SameIn m.dialect n.dialect := by decide +kernel
  obtain ⟨htrace, hforms⟩ := dialects_differ_only hmn hsame
  have hshift := (hforms m 0x8FE6 ⟨0x8FE6, .arithmetic .shiftRight⟩ rfl).1 (.inl rfl) true
  have hstore := (hforms m 0xF355 ⟨0xF355, .store⟩ rfl).2 (.inl rfl) true
  exact ⟨hmn, hsame, htrace, hshift, hstore⟩

end Machine
end Chip8
