import Chip8.Proofs.Commit

/-! Changes that go unnoticed. An adjustment replaces the program counter, the timers and the dialect of a
machine, each by a function of itself. An instruction that neither reads nor writes what is replaced does the
same before the adjustment as after it. If all that is committed in the course of some actions is of this kind,
the adjusted machine gives the same answers and stays the adjusted one. -/

namespace Chip8

structure Adjustment where
  pc : Word → Word := id
  delay : Byte → Byte := id
  sound : Byte → Byte := id
  dialect : Dialect → Dialect := id

def Form.UsesTimers (f : Form) : Prop := f = .readDelay ∨ f = .setDelay ∨ f = .setSound

instance (f : Form) : Decidable f.UsesTimers := inferInstanceAs (Decidable (_ ∨ _))

namespace Instruction

/-- Unless it is a shift across two registers or moves a block of them, an instruction does not tell dialects
apart. -/
def SameIn (i : Instruction) (d e : Dialect) : Prop :=
  (i.form = .arithmetic .shiftRight ∨ i.form = .arithmetic .shiftLeft → i.x ≠ i.y →
      d.shiftsSecond = e.shiftsSecond) ∧
    (i.form = .store ∨ i.form = .load → d.advancesIndex = e.advancesIndex)

instance (i : Instruction) (d e : Dialect) : Decidable (i.SameIn d e) :=
  inferInstanceAs (Decidable (_ ∧ _))

theorem SameIn.refl (i : Instruction) (d : Dialect) : i.SameIn d d :=
  ⟨fun _ _ => rfl, fun _ => rfl⟩

/-- What the instruction reads or writes is not adjusted. -/
structure Ignores (i : Instruction) (g : Adjustment) (d : Dialect) : Prop where
  pc : i.form.Branches → g.pc = id
  timers : i.form.UsesTimers → g.delay = id ∧ g.sound = id
  dialect : i.SameIn d (g.dialect d)

end Instruction

namespace Machine

def adjust (m : Machine) (g : Adjustment) : Machine :=
  { m with
    pc := g.pc m.pc
    delay := g.delay m.delay
    sound := g.sound m.sound
    dialect := g.dialect m.dialect }

variable {m : Machine} {g : Adjustment} {i : Instruction}

theorem adjust_setPc (hg : g.pc = id) (m : Machine) (a : Word) :
    { m.adjust g with pc := a } = { m with pc := a }.adjust g := by
  simp only [adjust, hg, id]

theorem meets_adjust (m : Machine) (g : Adjustment) (c : Condition) (i : Instruction) :
    (m.adjust g).meets c i = m.meets c i := by
  cases c <;> rfl

def operand (m : Machine) (o : Operation) (x y : Nibble) : Byte :=
  if o.isShift && m.dialect.shiftsSecond then m.register y else m.register x

def conclude (m : Machine) (x : Nibble) (r : Byte × Option Byte) : Machine :=
  match r.2 with
  | none => m.setRegister x r.1
  | some f => (m.setRegister x r.1).setFlag f

theorem combine_eq (m : Machine) (o : Operation) (x y : Nibble) :
    m.combine o x y = m.conclude x (o.apply (m.operand o x y) (m.register y)) := rfl

theorem conclude_adjust (m : Machine) (g : Adjustment) (x : Nibble) (r : Byte × Option Byte) :
    (m.adjust g).conclude x r = (m.conclude x r).adjust g := by
  obtain ⟨b, f⟩ := r
  cases f <;> rfl

theorem operand_adjust {o : Operation} {x y : Nibble} (h : o.isShift = true → x ≠ y →
    m.dialect.shiftsSecond = (g.dialect m.dialect).shiftsSecond) :
    (m.adjust g).operand o x y = m.operand o x y := by
  change (if o.isShift && (g.dialect m.dialect).shiftsSecond then m.register y else m.register x) =
    m.operand o x y
  unfold operand
  by_cases hxy : x = y
  · rw [hxy, ite_self, ite_self]
  · cases ho : o.isShift with
    | false => rfl
    | true => rw [h ho hxy]

theorem combine_adjust {o : Operation} {x y : Nibble} (h : o.isShift = true → x ≠ y →
    m.dialect.shiftsSecond = (g.dialect m.dialect).shiftsSecond) :
    (m.adjust g).combine o x y = (m.combine o x y).adjust g := by
  rw [combine_eq, combine_eq, operand_adjust h, ← conclude_adjust]
  rfl

theorem advance_adjust (h : m.dialect.advancesIndex = (g.dialect m.dialect).advancesIndex)
    (x : Nibble) : (m.adjust g).advance x = (m.advance x).adjust g := by
  have hd : (m.adjust g).dialect.advancesIndex = m.dialect.advancesIndex := h.symm
  rw [advance, advance, hd]
  split <;> rfl

theorem storeRegisters_adjust
    (h : m.dialect.advancesIndex = (g.dialect m.dialect).advancesIndex) (x : Nibble) :
    (m.adjust g).storeRegisters x = (m.storeRegisters x).adjust g := by
  let n := m.storeBytes (m.registers.window 0 (x.toNat + 1))
  change (n.adjust g).advance x = (n.advance x).adjust g
  exact advance_adjust (m := n) h x

theorem loadRegisters_adjust
    (h : m.dialect.advancesIndex = (g.dialect m.dialect).advancesIndex) (x : Nibble) :
    (m.adjust g).loadRegisters x = (m.loadRegisters x).adjust g := by
  let n := { m with
    registers := m.registers.patch 0 (m.memory.window (addressOf m.index) (x.toNat + 1)) }
  change (n.adjust g).advance x = (n.advance x).adjust g
  exact advance_adjust (m := n) h x

theorem perform_adjust (h : i.Ignores g m.dialect) :
    (m.adjust g).perform i = (m.perform i).map (·.adjust g) := by
  obtain ⟨w, f⟩ := i
  cases f with
  | ret =>
    have hpop : (m.adjust g).pop = m.pop.map fun r => (r.1, r.2.adjust g) := by
      unfold pop
      cases hs : m.stack <;> simp [adjust, hs, Except.map]
    simp only [perform, hpop]
    cases m.pop with
    | error f => rfl
    | ok r => exact congrArg Except.ok (adjust_setPc (h.pc trivial) r.2 r.1)
  | jump => exact congrArg Except.ok (adjust_setPc (h.pc trivial) m _)
  | call =>
    have hpush : (m.adjust g).push (m.adjust g).pc = (m.push m.pc).adjust g := by
      simp only [adjust, h.pc trivial, id]
      rfl
    simp only [perform, hpush]
    exact congrArg Except.ok (adjust_setPc (h.pc trivial) _ _)
  | skip c =>
    simp only [perform, meets_adjust]
    split
    · have hpc : (m.adjust g).pc = m.pc := by simp only [adjust, h.pc trivial, id]
      rw [hpc]
      exact congrArg Except.ok (adjust_setPc (h.pc trivial) m _)
    · rfl
  | jumpOffset => exact congrArg Except.ok (adjust_setPc (h.pc trivial) m _)
  | arithmetic o =>
    refine congrArg Except.ok (combine_adjust fun ho => h.dialect.1 ?_)
    simpa [Operation.isShift] using ho
  | readDelay =>
    obtain ⟨hdelay, -⟩ := h.timers (.inl rfl)
    simp only [perform, adjust, hdelay, id]
    rfl
  | setDelay =>
    obtain ⟨hdelay, -⟩ := h.timers (.inr (.inl rfl))
    simp only [perform, adjust, hdelay, id]
    rfl
  | setSound =>
    obtain ⟨-, hsound⟩ := h.timers (.inr (.inr rfl))
    simp only [perform, adjust, hsound, id]
    rfl
  | store => exact congrArg Except.ok (storeRegisters_adjust (h.dialect.2 (.inl rfl)) _)
  | load => exact congrArg Except.ok (loadRegisters_adjust (h.dialect.2 (.inr rfl)) _)
  | _ => rfl

theorem execute_adjust {w : Int}
    (h : ∀ i, Instruction.ofWord? w = some i → i.Ignores g m.dialect) :
    (m.adjust g).execute w = (m.execute w).map (·.adjust g) := by
  unfold execute decode
  cases hi : Instruction.ofWord? w with
  | none => rfl
  | some i => exact perform_adjust (h i hi)

end Machine

def countdown (b : Byte) : Byte := if b = 0 then 0 else b - 1

/-- The adjustment leaves the place in the program alone, and it does not matter whether it is made before or
after a tick. -/
structure Adjustment.Steady (g : Adjustment) : Prop where
  pc : g.pc = id
  delay : ∀ b, g.delay (countdown b) = countdown (g.delay b)
  sound : ∀ b, g.sound (countdown b) = countdown (g.sound b)

def Adjustment.ticking : Adjustment where
  delay := countdown
  sound := countdown

def Commit.adjust (c : Commit) (g : Adjustment) : Commit :=
  ⟨c.before.adjust g, c.instruction, c.after.adjust g⟩

namespace Machine

variable {m n : Machine} {g : Adjustment} {a : Action} {as : List Action} {i : Instruction}

theorem tick_eq_adjust (m : Machine) : m.tick = m.adjust .ticking := rfl

theorem tick_adjust (hg : g.Steady) (m : Machine) : (m.adjust g).tick = m.tick.adjust g := by
  simp only [tick_eq_adjust, adjust, Adjustment.ticking, hg.delay, hg.sound, id]

theorem performer_adjust (hg : g.pc = id) (m : Machine) (a : Action) :
    (m.adjust g).performer a = (m.performer a).adjust g := by
  cases a with
  | step =>
    simp only [performer, advancePc, adjust, hg, id]
  | _ => rfl

theorem current_adjust (hg : g.pc = id) (m : Machine) : (m.adjust g).current = m.current := by
  simp only [current, adjust, hg, id]
  rfl

theorem instruction?_adjust (hg : g.pc = id) (m : Machine) (a : Action) :
    (m.adjust g).instruction? a = m.instruction? a := by
  cases a with
  | step =>
    simp only [instruction?, current_adjust hg]
    rfl
  | _ => rfl

theorem dialect_respond (m : Machine) (a : Action) : (m.respond a).2.dialect = m.dialect := by
  cases hc : m.commit? a with
  | none => exact (undisturbed_respond hc).dialect
  | some c =>
    obtain ⟨-, -, hn⟩ := commit?_eq_some_iff.mp hc
    rw [respond_of_commit? hc, (perform_footprint hn).dialect, performer_eq]

theorem commit?_adjust (hg : g.pc = id)
    (h : ∀ i, m.instruction? a = some i → i.Ignores g m.dialect) :
    (m.adjust g).commit? a = (m.commit? a).map (·.adjust g) := by
  unfold commit?
  rw [instruction?_adjust hg, performer_adjust hg]
  cases hi : m.instruction? a with
  | none => rfl
  | some i =>
    have hperform : ((m.performer a).adjust g).perform i =
        ((m.performer a).perform i).map (·.adjust g) :=
      perform_adjust (by rw [performer_eq]; exact h i hi)
    simp only [Option.bind_eq_bind, Option.bind_some, hperform]
    cases (m.performer a).perform i <;> rfl

theorem step_adjust (hg : g.pc = id)
    (h : ∀ i, m.instruction? .step = some i → i.Ignores g m.dialect) :
    (m.adjust g).step = m.step.map (·.adjust g) := by
  cases ha : m.isAwaiting with
  | true =>
    rw [step_awaiting ha, step_awaiting (m := m.adjust g) ha]
    rfl
  | false =>
    rw [step_running ha, step_running (m := m.adjust g) ha, current_adjust hg]
    have hadvance : (m.adjust g).advancePc = m.advancePc.adjust g := performer_adjust hg m .step
    rw [hadvance]
    apply execute_adjust
    intro i hi
    refine h i ?_
    rw [instruction?, ha]
    exact hi

theorem deliver_adjust (m : Machine) (g : Adjustment) (k : Nibble) :
    (m.adjust g).deliver k = (m.deliver k).adjust g := by
  cases hx : m.awaiting with
  | none => simp only [deliver, adjust, hx]
  | some x =>
    simp only [deliver, adjust, hx]
    rfl

theorem load_adjust (m : Machine) (g : Adjustment) (program : List Byte) :
    (m.adjust g).load program = (m.load program).map (·.adjust g) := by
  unfold load
  split <;> rfl

theorem apply_adjust (hg : g.Steady)
    (h : ∀ i, m.instruction? a = some i → i.Ignores g m.dialect) :
    (m.adjust g).apply a = (m.apply a).map (·.adjust g) := by
  have hfault (x : Except Fault Machine) : (x.map (·.adjust g)).mapError Error.ofFault =
      (x.mapError Error.ofFault).map (·.adjust g) := by
    cases x <;> rfl
  cases a with
  | step =>
    rw [apply, step_adjust hg.pc h]
    exact hfault _
  | execute w =>
    rw [apply, execute_adjust h]
    exact hfault _
  | tick => exact congrArg Except.ok (tick_adjust hg m)
  | deliver key =>
    simp only [apply, deliverKey]
    cases Nibble.ofKey key with
    | error e => rfl
    | ok k => exact congrArg Except.ok (deliver_adjust m g k)
  | hold key pressed =>
    simp only [apply, setKey]
    cases Nibble.ofKey key <;> rfl
  | load program => exact load_adjust m g program
  | loadData program =>
    simp only [apply, loadData]
    cases Byte.ofData program with
    | error e => rfl
    | ok bytes => exact load_adjust m g bytes
  | loadFile contents =>
    cases contents with
    | error e => rfl
    | ok bytes => exact load_adjust m g bytes

theorem respond_adjust (hg : g.Steady)
    (h : ∀ i, m.instruction? a = some i → i.Ignores g m.dialect) :
    (m.adjust g).respond a = ((m.respond a).1, (m.respond a).2.adjust g) := by
  unfold respond
  rw [apply_adjust hg h]
  cases m.apply a <;> rfl

theorem ignores_of_commit? (hg : g.pc = id)
    (h : ∀ c, m.commit? a = some c → c.instruction.Ignores g m.dialect) :
    ∀ i, m.instruction? a = some i → i.Ignores g m.dialect := by
  intro i hi
  cases hp : (m.performer a).perform i with
  | ok n => exact h ⟨m, i, n⟩ (commit?_eq_some_iff.mpr ⟨rfl, hi, hp⟩)
  | error f =>
    obtain ⟨hret, -, -⟩ := perform_eq_error_iff.mp hp
    refine ⟨fun _ => hg, fun ht => ?_, ?_⟩
    · rw [hret] at ht
      exact absurd ht (by decide)
    · rw [Instruction.SameIn, hret]
      exact ⟨nofun, nofun⟩

/-- A run in which nothing that is adjusted is read or written is the same run for the adjusted machine. -/
theorem run_adjust (hg : g.Steady)
    (h : ∀ c ∈ m.commits as, c.instruction.Ignores g m.dialect) :
    (m.adjust g).trace as = (m.trace as).map (fun r => (r.1, r.2.adjust g)) ∧
      (m.adjust g).after as = (m.after as).adjust g ∧
      (m.adjust g).commits as = (m.commits as).map (·.adjust g) := by
  induction as generalizing m with
  | nil => exact ⟨rfl, rfl, rfl⟩
  | cons a as ih =>
    obtain ⟨hfirst, hlater⟩ := forall_commits_cons.mp h
    have hi := ignores_of_commit? hg.pc hfirst
    have hrespond := respond_adjust hg hi
    have hrest : ∀ c ∈ (m.respond a).2.commits as,
        c.instruction.Ignores g (m.respond a).2.dialect := by
      intro c hc
      rw [dialect_respond]
      exact hlater c hc
    obtain ⟨htrace, hafter, hcommits⟩ := ih hrest
    refine ⟨?_, ?_, ?_⟩
    · simp only [trace, hrespond, htrace, List.map_cons]
    · simp only [after, List.foldl_cons, hrespond]
      exact hafter
    · simp only [commits, hrespond, hcommits, commit?_adjust hg.pc hi, List.map_append]
      cases m.commit? a <;> rfl

end Machine
end Chip8
