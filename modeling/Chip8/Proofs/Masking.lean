import Chip8.Proofs.Action

/-! The upper four bits of the program counter and of the index register are never seen. Machines that
agree in everything but those bits are aligned: every action refuses both alike or keeps them aligned, so
all that memory, registers, screen, stack, timers and control flow go through is the same in both. -/

namespace Chip8

theorem addressOf_eq_iff {v w : Word} :
    addressOf v = addressOf w ↔ v.toNat % memorySize = w.toNat % memorySize := by
  simp only [addressOf, ← BitVec.toNat_inj, BitVec.toNat_setWidth, memorySize]

theorem addressOf_add_congr {v w : Word} (h : addressOf v = addressOf w) (d : Word) :
    addressOf (v + d) = addressOf (w + d) := by
  rw [addressOf_add, addressOf_add, h]

namespace Machine

def repoint (m : Machine) (pc index : Word) : Machine := { m with pc, index }

/-- Equal but for the pointers, and these agree modulo the size of memory. -/
structure Aligned (m n : Machine) : Prop where
  pc : m.pc.toNat % memorySize = n.pc.toNat % memorySize
  index : m.index.toNat % memorySize = n.index.toNat % memorySize
  rest : m.repoint n.pc n.index = n

theorem aligned_repoint {m : Machine} {p q p' q' : Word} (hp : addressOf p = addressOf p')
    (hq : addressOf q = addressOf q') : Aligned (m.repoint p q) (m.repoint p' q') :=
  ⟨addressOf_eq_iff.mp hp, addressOf_eq_iff.mp hq, rfl⟩

namespace Aligned

variable {m n : Machine}

theorem addressOf_pc (h : Aligned m n) : addressOf m.pc = addressOf n.pc := addressOf_eq_iff.mpr h.pc

theorem addressOf_index (h : Aligned m n) : addressOf m.index = addressOf n.index :=
  addressOf_eq_iff.mpr h.index

theorem congr (h : Aligned m n) {α : Type} (f : Machine → α)
    (hf : ∀ m p q, f (repoint m p q) = f m) : f m = f n := by
  rw [← h.rest, hf]

theorem map (h : Aligned m n) (f : Machine → Machine)
    (hf : ∀ m p q, f (repoint m p q) = (f m).repoint p q) : Aligned (f m) (f n) := by
  have hm : f m = (f m).repoint m.pc m.index := hf m m.pc m.index
  rw [← h.rest, hf, hm]
  exact aligned_repoint h.addressOf_pc h.addressOf_index

/-- Each pointer may be set to values that reach the same cell. -/
theorem repoint_map (h : Aligned m n) (f g : Word → Word)
    (hf : addressOf (f m.pc) = addressOf (f n.pc))
    (hg : addressOf (g m.index) = addressOf (g n.index)) :
    Aligned (m.repoint (f m.pc) (g m.index)) (n.repoint (f n.pc) (g n.index)) := by
  have hn : n.repoint (f n.pc) (g n.index) = m.repoint (f n.pc) (g n.index) := by
    conv_lhs => rw [← h.rest]
    rfl
  rw [hn]
  exact aligned_repoint hf hg

-- Only these four write a pointer, and each of them writes it alike in both machines.

theorem jump (h : Aligned m n) (a : Word) : Aligned { m with pc := a } { n with pc := a } :=
  h.repoint_map (fun _ => a) id rfl h.addressOf_index

theorem advancePc (h : Aligned m n) : Aligned m.advancePc n.advancePc :=
  h.repoint_map (· + 2) id (addressOf_add_congr h.addressOf_pc 2) h.addressOf_index

theorem setIndex (h : Aligned m n) (a : Word) :
    Aligned { m with index := a } { n with index := a } :=
  h.repoint_map id (fun _ => a) h.addressOf_pc rfl

theorem addIndex (h : Aligned m n) (d : Word) :
    Aligned { m with index := m.index + d } { n with index := n.index + d } :=
  h.repoint_map id (· + d) h.addressOf_pc (addressOf_add_congr h.addressOf_index d)

theorem push (h : Aligned m n) : Aligned (m.push m.pc) (n.push n.pc) := by
  rw [Machine.push, Machine.push, ← h.addressOf_pc]
  exact h.map (fun k => { k with stack := (addressOf m.pc).setWidth 16 :: k.stack })
    fun _ _ _ => rfl

theorem pop (h : Aligned m n) :
    SameOutcome (fun r s => r.1 = s.1 ∧ Aligned r.2 s.2) m.pop n.pop := by
  have hstack : m.stack = n.stack := h.congr Machine.stack fun _ _ _ => rfl
  unfold Machine.pop
  rw [← hstack]
  cases m.stack with
  | nil => exact .error _
  | cons a rest => exact .ok ⟨rfl, h.map (fun k => { k with stack := rest }) fun _ _ _ => rfl⟩

theorem register (h : Aligned m n) (x : Nibble) : m.register x = n.register x :=
  h.congr (·.register x) fun _ _ _ => rfl

theorem setRegister (h : Aligned m n) (x : Nibble) (b : Byte) :
    Aligned (m.setRegister x b) (n.setRegister x b) :=
  h.map (·.setRegister x b) fun _ _ _ => rfl

theorem meets (h : Aligned m n) (c : Condition) (i : Instruction) : m.meets c i = n.meets c i :=
  h.congr (·.meets c i) fun _ _ _ => by cases c <;> rfl

theorem combine (h : Aligned m n) (o : Operation) (x y : Nibble) :
    Aligned (m.combine o x y) (n.combine o x y) :=
  h.map (·.combine o x y) fun _ _ _ => by cases o <;> rfl

theorem drawRandom (h : Aligned m n) (x : Nibble) (b : Byte) :
    Aligned (m.drawRandom x b) (n.drawRandom x b) :=
  h.map (·.drawRandom x b) fun _ _ _ => rfl

theorem drawSprite (h : Aligned m n) (x y k : Nibble) :
    Aligned (m.drawSprite x y k) (n.drawSprite x y k) := by
  unfold Machine.drawSprite
  -- Once the address is the same, nothing that is left reads a pointer. The function for `map` has to be
  -- written out, with the address as a constant.
  rw [← h.addressOf_index]
  exact h.map (fun j =>
    let s := Screen.sprite j.memory (addressOf m.index) ((j.register x).toNat % screenWidth)
      ((j.register y).toNat % screenHeight) k.toNat
    { j with screen := j.screen.xor s }.setFlag (Operation.flagOf (j.screen.meets s)))
    fun _ _ _ => rfl

theorem storeBytes (h : Aligned m n) (bs : List Byte) :
    Aligned (m.storeBytes bs) (n.storeBytes bs) := by
  rw [Machine.storeBytes, Machine.storeBytes, ← h.addressOf_index]
  exact h.map (fun k => { k with memory := k.memory.patch (addressOf m.index) bs })
    fun _ _ _ => rfl

theorem advance (h : Aligned m n) (x : Nibble) : Aligned (m.advance x) (n.advance x) := by
  have hd : m.dialect.advancesIndex = n.dialect.advancesIndex :=
    h.congr (·.dialect.advancesIndex) fun _ _ _ => rfl
  rw [Machine.advance, Machine.advance, hd]
  split
  · have hi := h.addIndex (x.setWidth 16 + 1)
    rwa [← BitVec.add_assoc, ← BitVec.add_assoc] at hi
  · exact h

theorem storeRegisters (h : Aligned m n) (x : Nibble) :
    Aligned (m.storeRegisters x) (n.storeRegisters x) := by
  have hr : m.registers = n.registers := h.congr Machine.registers fun _ _ _ => rfl
  rw [Machine.storeRegisters, Machine.storeRegisters, ← hr]
  exact (h.storeBytes _).advance x

theorem loadRegisters (h : Aligned m n) (x : Nibble) :
    Aligned (m.loadRegisters x) (n.loadRegisters x) := by
  rw [Machine.loadRegisters, Machine.loadRegisters, ← h.addressOf_index]
  apply advance
  exact h.map (fun k =>
    { k with registers := k.registers.patch 0 (k.memory.window (addressOf m.index) (x.toNat + 1)) })
    fun _ _ _ => rfl

theorem perform (h : Aligned m n) (i : Instruction) :
    SameOutcome Aligned (m.perform i) (n.perform i) := by
  have hx : m.register i.x = n.register i.x := h.register i.x
  unfold Machine.perform
  cases i.form with
  | clear => exact .ok (h.map (fun k => { k with screen := Screen.blank }) fun _ _ _ => rfl)
  | ret =>
    -- Both pop the same address, so the program counters become equal.
    refine h.pop.map fun r s hrs => ?_
    obtain ⟨a, r⟩ := r
    obtain ⟨b, s⟩ := s
    obtain ⟨rfl, hrs⟩ := hrs
    exact hrs.jump a
  | jump => exact .ok (h.jump _)
  | call => exact .ok (h.push.jump _)
  | skip c =>
    change SameOutcome Aligned (.ok (if m.meets c i then m.advancePc else m))
      (.ok (if n.meets c i then n.advancePc else n))
    rw [h.meets c i]
    split
    · exact .ok h.advancePc
    · exact .ok h
  | loadByte => exact .ok (h.setRegister _ _)
  | addByte =>
    rw [hx]
    exact .ok (h.setRegister _ _)
  | arithmetic o => exact .ok (h.combine o _ _)
  | loadIndex => exact .ok (h.setIndex _)
  | jumpOffset =>
    rw [h.register 0]
    exact .ok (h.jump _)
  | random => exact .ok (h.drawRandom _ _)
  | draw => exact .ok (h.drawSprite _ _ _)
  | readDelay => exact .ok (h.map (fun k => k.setRegister i.x k.delay) fun _ _ _ => rfl)
  | awaitKey => exact .ok (h.map (fun k => { k with awaiting := some i.x }) fun _ _ _ => rfl)
  | setDelay => exact .ok (h.map (fun k => { k with delay := k.register i.x }) fun _ _ _ => rfl)
  | setSound => exact .ok (h.map (fun k => { k with sound := k.register i.x }) fun _ _ _ => rfl)
  | addIndex =>
    rw [hx]
    exact .ok (h.addIndex _)
  | glyph =>
    rw [hx]
    exact .ok (h.setIndex _)
  | decimal =>
    rw [hx]
    exact .ok (h.storeBytes _)
  | store => exact .ok (h.storeRegisters _)
  | load => exact .ok (h.loadRegisters _)

theorem execute (h : Aligned m n) (w : Int) : SameOutcome Aligned (m.execute w) (n.execute w) := by
  unfold Machine.execute
  cases decode w with
  | error f => exact .error f
  | ok i => exact h.perform i

theorem current (h : Aligned m n) : m.current = n.current := by
  have hm : m.memory = n.memory := h.congr Machine.memory fun _ _ _ => rfl
  rw [Machine.current, Machine.current, wordAt, wordAt, hm, h.addressOf_pc]

theorem step (h : Aligned m n) : SameOutcome Aligned m.step n.step := by
  have ha : m.isAwaiting = n.isAwaiting := h.congr Machine.isAwaiting fun _ _ _ => rfl
  rw [Machine.step, Machine.step, ha, h.current]
  split
  · exact .ok h
  · exact h.advancePc.execute _

theorem load (h : Aligned m n) (program : List Byte) :
    SameOutcome Aligned (m.load program) (n.load program) := by
  unfold Machine.load
  split
  · exact .error _
  · exact .ok (h.map (fun k =>
      { k with memory := k.memory.patch (BitVec.ofNat 12 programStart) program }) fun _ _ _ => rfl)

theorem deliver (h : Aligned m n) (k : Nibble) : Aligned (m.deliver k) (n.deliver k) := by
  have ha : m.awaiting = n.awaiting := h.congr Machine.awaiting fun _ _ _ => rfl
  rw [Machine.deliver, Machine.deliver, ← ha]
  cases m.awaiting with
  | none => exact h
  | some x =>
    exact (h.setRegister x _).map (fun j => { j with awaiting := none }) fun _ _ _ => rfl

theorem hold (h : Aligned m n) (k : Nibble) (pressed : Bool) :
    Aligned (m.hold k pressed) (n.hold k pressed) :=
  h.map (·.hold k pressed) fun _ _ _ => rfl

theorem map_ofKey {f g : Nibble → Machine} (hf : ∀ k, Aligned (f k) (g k)) (key : Datum) :
    SameOutcome Aligned ((Nibble.ofKey key).map f) ((Nibble.ofKey key).map g) := by
  cases Nibble.ofKey key with
  | error e => exact .error e
  | ok k => exact .ok (hf k)

theorem apply (h : Aligned m n) (a : Action) : SameOutcome Aligned (m.apply a) (n.apply a) := by
  cases a with
  | step => exact h.step.mapError _
  | execute w => exact (h.execute w).mapError _
  | tick => exact .ok (h.map Machine.tick fun _ _ _ => rfl)
  | deliver key => exact map_ofKey h.deliver key
  | hold key pressed => exact map_ofKey (fun k => h.hold k pressed) key
  | load program => exact h.load program
  | loadData program =>
    simp only [Machine.apply, Machine.loadData]
    cases Byte.ofData program with
    | error e => exact .error e
    | ok bytes => exact h.load bytes
  | loadFile contents =>
    cases contents with
    | error e => exact .error _
    | ok bytes => exact h.load bytes

end Aligned

theorem trace_aligned {m n : Machine} (h : Aligned m n) (as : List Action) :
    List.Forall₂ (fun r s => r.1 = s.1 ∧ Aligned r.2 s.2) (m.trace as) (n.trace as) :=
  trace_related (fun _ _ a h => h.apply a) h as

/-- A call from beyond the end of memory, a store across it and a word without a form. -/
theorem trace_aligned_wrapped :
    Aligned ((powerOn 0 {}).repoint 0x0FFF 0x0FFE) ((powerOn 0 {}).repoint 0x3FFF 0xFFFE) ∧
      List.Forall₂ (fun r s => r.1 = s.1 ∧ Aligned r.2 s.2)
        (((powerOn 0 {}).repoint 0x0FFF 0x0FFE).trace [.execute 0x2300, .execute 0xF355, .step])
        (((powerOn 0 {}).repoint 0x3FFF 0xFFFE).trace [.execute 0x2300, .execute 0xF355, .step]) := by
  have h : Aligned ((powerOn 0 {}).repoint 0x0FFF 0x0FFE) ((powerOn 0 {}).repoint 0x3FFF 0xFFFE) :=
    ⟨rfl, rfl, rfl⟩
  exact ⟨h, trace_aligned h _⟩

end Machine
end Chip8
