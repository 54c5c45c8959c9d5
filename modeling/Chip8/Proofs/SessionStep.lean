import Chip8.Proofs.Execution
import Chip8.Session

/-! One step of a session beside one step of its machine. The session fetches, decodes and performs by
itself and writes its journal in between; it still commits exactly what the machine's own step yields, or
nothing at all and a fault tagged with the program counter. -/

namespace Chip8
namespace Session

theorem commit_eq (s : Session) (m : Machine) (i : Instruction) :
    s.commit m i = { s with
      machine := m
      steps := s.steps + 1
      journal := (s.commit m i).journal
      clears := (s.commit m i).clears } := by
  unfold commit
  cases i.form with
  | clear =>
    dsimp only
    split <;> rfl
  | _ => rfl

theorem commit_spec (s : Session) (m : Machine) (i : Instruction) :
    (s.commit m i).machine = m ∧ (s.commit m i).steps = s.steps + 1 := by
  rw [commit_eq]
  exact ⟨rfl, rfl⟩

def Keeps (s t : Session) : Prop := t.machine = s.machine ∧ t.steps = s.steps

/-- Nothing but the journal is different. -/
def Quiet (s t : Session) : Prop := t = { s with journal := t.journal }

theorem Quiet.keeps {s t : Session} (h : s.Quiet t) : s.Keeps t := by
  rw [h]
  exact ⟨rfl, rfl⟩

theorem Quiet.refl (s : Session) : s.Quiet s := rfl

theorem Quiet.symm {s t : Session} (h : s.Quiet t) : t.Quiet s := by
  unfold Quiet at h ⊢
  rw [h]

theorem Quiet.trans {s t u : Session} (h : s.Quiet t) (h' : t.Quiet u) : s.Quiet u := by
  unfold Quiet at h h' ⊢
  rw [h', h]

theorem quiet_log (s : Session) (level : Level) (message : Message) : s.Quiet (s.log level message) :=
  rfl

theorem quiet_fail (s : Session) (f : Fault) : s.Quiet (s.fail f).1 := rfl

theorem isAwaiting_of_some {s : Session} {x : Nibble} (h : s.machine.awaiting = some x) :
    s.isAwaiting = true := by
  rw [isAwaiting, Machine.isAwaiting, h]
  rfl

theorem step_awaiting {s : Session} (h : s.isAwaiting = true) : s.step = (s, none) := by
  rw [step, if_pos h]

-- A step goes wrong at one of two places, in finding the form or in performing it, and both proofs below
-- split there.

theorem step_ok {s : Session} {m : Machine} (ha : s.isAwaiting = false)
    (h : s.machine.step = .ok m) :
    s.step.2 = none ∧ s.step.1.machine = m ∧ s.step.1.steps = s.steps + 1 := by
  rw [Machine.step_running ha, Machine.execute] at h
  rw [step, ha]
  cases hi : Instruction.ofWord? s.machine.current.toNat with
  | none => simp [Machine.decode, hi] at h
  | some i =>
    rw [Machine.decode_eq_ok_iff.mpr hi] at h
    simp only [Machine.fetch, hi, h, Bool.false_eq_true, if_false]
    exact ⟨trivial, commit_spec _ _ _⟩

theorem step_fault_quiet {s : Session} {f : Fault} (h : s.machine.step = .error f) :
    s.step.2 = some (f.tag s.machine.pc.toNat) ∧ s.Quiet s.step.1 := by
  have ha : s.isAwaiting = false := (Machine.step_eq_error h).1
  rw [Machine.step_running ha, Machine.execute] at h
  rw [step, ha]
  cases hi : Instruction.ofWord? s.machine.current.toNat with
  | none =>
    rw [Machine.decode_eq_error_iff.mpr ⟨hi, rfl⟩] at h
    cases h
    simp only [Machine.fetch, hi, Bool.false_eq_true, if_false]
    exact ⟨rfl, quiet_fail _ _⟩
  | some i =>
    rw [Machine.decode_eq_ok_iff.mpr hi] at h
    simp only [Machine.fetch, hi, h, Bool.false_eq_true, if_false]
    exact ⟨rfl, (quiet_log _ _ _).trans (quiet_fail _ _)⟩

theorem step_fault {s : Session} {f : Fault} (h : s.machine.step = .error f) :
    s.step.2 = some (f.tag s.machine.pc.toNat) ∧ s.Keeps s.step.1 :=
  ⟨(step_fault_quiet h).1, (step_fault_quiet h).2.keeps⟩

theorem step_snd_eq_some_iff {s : Session} {f : Fault} :
    s.step.2 = some f ↔ ∃ g, s.machine.step = .error g ∧ f = g.tag s.machine.pc.toNat := by
  cases hm : s.machine.step with
  | error g =>
    rw [(step_fault hm).1]
    simp [eq_comm]
  | ok m =>
    have hnone : s.step.2 = none := by
      cases ha : s.isAwaiting with
      | true => rw [step_awaiting ha]
      | false => exact (step_ok ha hm).1
    simp [hnone]

theorem quiet_step {s : Session} {f : Fault} (h : s.step.2 = some f) : s.Quiet s.step.1 := by
  obtain ⟨g, hg, -⟩ := step_snd_eq_some_iff.mp h
  exact (step_fault_quiet hg).2

theorem step_fault_keeps {s : Session} {f : Fault} (h : s.step.2 = some f) : s.Keeps s.step.1 :=
  (quiet_step h).keeps

/-- Awaiting a key, going on, or at fault: the three cases exclude each other by what the machine's own
step does. -/
theorem step_refines (s : Session) :
    (s.isAwaiting = true ∧ s.machine.step = .ok s.machine ∧
      s.step.2 = none ∧ s.step.1.machine = s.machine ∧ s.step.1.steps = s.steps) ∨
    (s.isAwaiting = false ∧ ∃ m, s.machine.step = .ok m ∧
      s.step.2 = none ∧ s.step.1.machine = m ∧ s.step.1.steps = s.steps + 1) ∨
    (s.isAwaiting = false ∧ ∃ f, s.machine.step = .error f ∧
      (f = .unknownOpcode (256 * (s.machine.memory.get (addressOf s.machine.pc)).toNat +
          (s.machine.memory.get (addressOf (s.machine.pc + 1))).toNat : Nat) none ∨
        f = .stackUnderflow none) ∧
      s.step.2 = some (f.tag s.machine.pc.toNat) ∧
      s.step.1.machine = s.machine ∧ s.step.1.steps = s.steps) := by
  cases ha : s.isAwaiting with
  | true =>
    left
    rw [step_awaiting ha]
    exact ⟨rfl, Machine.step_awaiting ha, rfl, rfl, rfl⟩
  | false =>
    right
    cases hm : s.machine.step with
    | ok m => exact .inl ⟨rfl, m, rfl, step_ok ha hm⟩
    | error f =>
      have hf := (Machine.step_eq_error hm).2
      rw [Machine.current_toNat] at hf
      exact .inr ⟨rfl, f, rfl, hf, step_fault hm⟩

end Session
end Chip8
