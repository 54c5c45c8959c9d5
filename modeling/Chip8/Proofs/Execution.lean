import Chip8.Machine.Execute

/-! Fetching, decoding and performing. The fetched word has its high byte first, and there are two faults:
a word without a form when it is decoded, and a return when no call is open. -/

namespace Chip8

section

variable {ε ε' α β : Type} {e : ε} {a : α}

theorem ok_bind (a : α) (f : α → Except ε β) : (Except.ok a >>= f) = f a := rfl

theorem bind_eq_ok_iff {x : Except ε α} {f : α → Except ε β} {b : β} :
    (x >>= f) = .ok b ↔ ∃ a, x = .ok a ∧ f a = .ok b := by
  cases x with
  | error e => exact iff_of_false nofun nofun
  | ok a => simp [ok_bind]

theorem map_eq_ok_iff {x : Except ε α} {f : α → β} {b : β} :
    x.map f = .ok b ↔ ∃ a, x = .ok a ∧ b = f a := by
  cases x <;> simp [Except.map, eq_comm]

theorem map_eq_error_iff {x : Except ε α} {f : α → β} : x.map f = .error e ↔ x = .error e := by
  cases x <;> simp [Except.map]

theorem mapError_eq_ok_iff {x : Except ε α} {f : ε → ε'} : x.mapError f = .ok a ↔ x = .ok a := by
  cases x with
  | error e => exact iff_of_false nofun nofun
  | ok b =>
    have hok : (Except.ok b : Except ε' α) = .ok a ↔ (Except.ok b : Except ε α) = .ok a := by simp
    exact hok

theorem mapM_eq_ok_map {γ : Type} {f : γ → Except ε α} {g : γ → α} {xs : List γ}
    (h : ∀ c ∈ xs, f c = .ok (g c)) : xs.mapM f = .ok (xs.map g) := by
  induction xs with
  | nil => rfl
  | cons c xs ih =>
    rw [List.mapM_cons, h c List.mem_cons_self, ih fun d hd => h d (List.mem_cons_of_mem c hd)]
    rfl

end

namespace Machine

theorem pop_eq_error_iff {m : Machine} {f : Fault} :
    m.pop = .error f ↔ m.stack = [] ∧ f = .stackUnderflow none := by
  unfold pop
  cases m.stack with
  | nil => simp [eq_comm]
  | cons a rest => simp

theorem perform_eq_error_iff {m : Machine} {i : Instruction} {f : Fault} :
    m.perform i = .error f ↔ i.form = .ret ∧ m.stack = [] ∧ f = .stackUnderflow none := by
  unfold perform
  cases i.form <;> simp [map_eq_error_iff, pop_eq_error_iff]

theorem pop_eq_ok {m n : Machine} {a : Word} (h : m.pop = .ok (a, n)) :
    ∃ rest, m.stack = a :: rest ∧ n = { m with stack := rest } := by
  unfold pop at h
  cases hs : m.stack with
  | nil => simp [hs] at h
  | cons b rest =>
    rw [hs] at h
    obtain ⟨rfl, rfl⟩ := Prod.mk.inj (Except.ok.inj h)
    exact ⟨rest, rfl, rfl⟩

theorem perform_ret_eq_ok {m n : Machine} {i : Instruction} (hi : i.form = .ret)
    (h : m.perform i = .ok n) :
    ∃ a rest, m.stack = a :: rest ∧ n = { m with stack := rest, pc := a } := by
  rw [perform, hi] at h
  obtain ⟨⟨a, k⟩, hp, rfl⟩ := map_eq_ok_iff.mp h
  obtain ⟨rest, hs, rfl⟩ := pop_eq_ok hp
  exact ⟨a, rest, hs, rfl⟩

theorem perform_call {m : Machine} {i : Instruction} (hi : i.form = .call) :
    m.perform i = .ok { m.push m.pc with pc := i.nnn.setWidth 16 } := by
  rw [perform, hi]

theorem decode_eq_error_iff {w : Int} {f : Fault} :
    decode w = .error f ↔ Instruction.ofWord? w = none ∧ f = .unknownOpcode w none := by
  unfold decode
  cases Instruction.ofWord? w with
  | none => simp [eq_comm]
  | some i => simp

theorem decode_eq_ok_iff {w : Int} {i : Instruction} :
    decode w = .ok i ↔ Instruction.ofWord? w = some i := by
  unfold decode
  cases Instruction.ofWord? w <;> simp

theorem execute_of_ofWord? {w : Int} {i : Instruction} (hi : Instruction.ofWord? w = some i) (m : Machine) :
    m.execute w = m.perform i := by
  rw [execute, decode_eq_ok_iff.mpr hi]

theorem execute_eq_ok_iff {m n : Machine} {w : Int} :
    m.execute w = .ok n ↔ ∃ i, Instruction.ofWord? w = some i ∧ m.perform i = .ok n := by
  unfold execute decode
  cases Instruction.ofWord? w <;> simp

theorem execute_eq_error_iff {m : Machine} {w : Int} {f : Fault} :
    m.execute w = .error f ↔ Instruction.ofWord? w = none ∧ f = .unknownOpcode w none ∨
      ∃ i, Instruction.ofWord? w = some i ∧ i.form = .ret ∧ m.stack = [] ∧
        f = .stackUnderflow none := by
  unfold execute decode
  cases Instruction.ofWord? w with
  | none => simp [eq_comm]
  | some i => simp [perform_eq_error_iff]

theorem current_toNat (m : Machine) :
    m.current.toNat =
      256 * (m.memory.get (addressOf m.pc)).toNat + (m.memory.get (addressOf (m.pc + 1))).toNat := by
  have hnext : addressOf (m.pc + 1) = addressOf m.pc + 1 := addressOf_add m.pc 1
  rw [hnext, current, wordAt, BitVec.toNat_append, ← Nat.shiftLeft_add_eq_or_of_lt (BitVec.isLt _),
    Nat.shiftLeft_eq, Nat.mul_comm]

theorem isAwaiting_eq_false_iff {m : Machine} : m.isAwaiting = false ↔ m.awaiting = none := by
  unfold isAwaiting
  cases m.awaiting <;> simp

theorem step_awaiting {m : Machine} (h : m.isAwaiting = true) : m.step = .ok m := by
  rw [step, if_pos h]

theorem step_running {m : Machine} (h : m.isAwaiting = false) :
    m.step = m.advancePc.execute m.current.toNat := by
  rw [step, h]
  rfl

/-- What a step can find wrong it finds in the word at the program counter and in the stack. -/
theorem step_eq_error_iff {m : Machine} {f : Fault} :
    m.step = .error f ↔ m.isAwaiting = false ∧
      (Instruction.ofWord? m.current.toNat = none ∧ f = .unknownOpcode m.current.toNat none ∨
        ∃ i, Instruction.ofWord? m.current.toNat = some i ∧ i.form = .ret ∧ m.stack = [] ∧
          f = .stackUnderflow none) := by
  cases ha : m.isAwaiting with
  | true => simp [step_awaiting ha]
  | false =>
    rw [step_running ha, execute_eq_error_iff]
    simp [advancePc]

theorem step_eq_error {m : Machine} {f : Fault} (h : m.step = .error f) :
    m.isAwaiting = false ∧
      (f = .unknownOpcode m.current.toNat none ∨ f = .stackUnderflow none) := by
  obtain ⟨ha, ⟨-, hf⟩ | ⟨i, -, -, -, hf⟩⟩ := step_eq_error_iff.mp h
  · exact ⟨ha, .inl hf⟩
  · exact ⟨ha, .inr hf⟩

end Machine
end Chip8
