import Chip8.Proofs.Grammar

/-! Indices as numbers. The tables of the machine are indexed by words of the right width, so beside the machine
stands a checked one: there every index is a number, computed from the instruction and from the pointers, and is
compared with the size of its table before anything is read or written. Both do the same, so no index is ever
outside, and what stops an instruction is one of the two faults. -/

namespace Chip8

inductive Halt where
  | fault (f : Fault)
  | outside (index : Int) (size : Nat)

namespace Table

variable {w : Nat} {α : Type}

def read (t : Table w α) (i : Int) : Except Halt α :=
  if 0 ≤ i ∧ i < Nat.pow 2 w then .ok (t.get (BitVec.ofInt w i)) else .error (.outside i (Nat.pow 2 w))

def write (t : Table w α) (i : Int) (a : α) : Except Halt (Table w α) :=
  if 0 ≤ i ∧ i < Nat.pow 2 w then .ok (t.set (BitVec.ofInt w i) a)
  else .error (.outside i (Nat.pow 2 w))

def readAll (t : Table w α) : List Int → Except Halt (List α)
  | [] => .ok []
  | i :: is => do return (← t.read i) :: (← t.readAll is)

def writeAll (t : Table w α) : List (Int × α) → Except Halt (Table w α)
  | [] => .ok t
  | (i, a) :: rest => do (← t.write i a).writeAll rest

def ofFnM (f : BitVec w → Except Halt α) : Except Halt (Table w α) :=
  (Vector.ofFnM fun i => f (BitVec.ofFin i)).map Table.mk

/-- The numbers from `start` on, `n` of them, each cut to the size of the table. -/
def cut (w : Nat) (start : Int) (n : Nat) : List Int :=
  (List.range n).map fun k : Nat => (start + k) % Nat.pow 2 w

end Table

/-! ## The checked machine -/

namespace Instruction

def xNumber (i : Instruction) : Int := i.word / 0x100 % 0x10

def yNumber (i : Instruction) : Int := i.word / 0x10 % 0x10

end Instruction

namespace Machine

def checkedFetch (m : Machine) : Except Halt (Word × Machine) := do
  let high ← m.memory.read (m.pc.toNat % memorySize)
  let low ← m.memory.read ((m.pc.toNat + 1) % memorySize)
  return (high ++ low, m.advancePc)

def putRegister (m : Machine) (x : Int) (b : Byte) : Except Halt Machine := do
  return { m with registers := ← m.registers.write x b }

def checkedHeld (m : Machine) (k : Int) : Except Halt Bool :=
  if 0 ≤ k ∧ k < keyCount then m.keypad.read k else .ok false

def checkedMeets (m : Machine) (c : Condition) (i : Instruction) : Except Halt Bool := do
  let a ← m.registers.read i.xNumber
  match c with
  | .equalsByte => return a = i.nn
  | .differsByte => return a ≠ i.nn
  | .equals => return a = (← m.registers.read i.yNumber)
  | .differs => return a ≠ (← m.registers.read i.yNumber)
  | .held => m.checkedHeld a.toNat
  | .released => return !(← m.checkedHeld a.toNat)

def checkedCombine (m : Machine) (o : Operation) (x y : Int) : Except Halt Machine := do
  let a ← m.registers.read x
  let b ← m.registers.read y
  let a := if o.isShift && m.dialect.shiftsSecond then b else a
  let n ← m.putRegister x (o.apply a b).1
  match (o.apply a b).2 with
  | none => return n
  | some f => n.putRegister 15 f

def checkedSprite (m : Machine) (column row : Int) (height : Nat) : Except Halt Screen := do
  let bytes ← Table.ofFnM fun j : BitVec 5 =>
    m.memory.read ((m.index.toNat + max (min (j.toNat - row) 15) 0) % memorySize)
  return Table.ofFn fun j =>
    if row ≤ j.toNat ∧ j.toNat < row + height then Screen.spriteRow (bytes.get j) column else 0

def checkedDraw (m : Machine) (x y : Int) (height : Nat) : Except Halt Machine := do
  let column := (← m.registers.read x).toNat % screenWidth
  let row := (← m.registers.read y).toNat % screenHeight
  let s ← m.checkedSprite column row height
  { m with screen := m.screen.xor s }.putRegister 15 (Operation.flagOf (m.screen.meets s))

def addresses (m : Machine) (n : Nat) : List Int := Table.cut 12 m.index.toNat n

def firstRegisters (n : Nat) : List Int := (List.range n).map fun k : Nat => (k : Int)

def checkedStore (m : Machine) (bs : List Byte) : Except Halt Machine := do
  return { m with memory := ← m.memory.writeAll ((m.addresses bs.length).zip bs) }

def checkedLoad (m : Machine) (n : Nat) : Except Halt Machine := do
  let bs ← m.memory.readAll (m.addresses n)
  return { m with registers := ← m.registers.writeAll ((firstRegisters n).zip bs) }

def checkedPerform (m : Machine) (i : Instruction) : Except Halt Machine :=
  match i.form with
  | .clear => .ok { m with screen := Screen.blank }
  | .ret => (m.pop.map fun (a, m) => { m with pc := a }).mapError .fault
  | .jump => .ok { m with pc := i.nnn.setWidth 16 }
  | .call => .ok { m.push m.pc with pc := i.nnn.setWidth 16 }
  | .skip c => do if ← m.checkedMeets c i then return { m with pc := m.pc + 2 } else return m
  | .loadByte => m.putRegister i.xNumber i.nn
  | .addByte => do m.putRegister i.xNumber ((← m.registers.read i.xNumber) + i.nn)
  | .arithmetic o => m.checkedCombine o i.xNumber i.yNumber
  | .loadIndex => .ok { m with index := i.nnn.setWidth 16 }
  | .jumpOffset => do
    return { m with pc := i.nnn.setWidth 16 + (← m.registers.read 0).setWidth 16 }
  | .random =>
    { m with random := Threefry.next m.random }.putRegister i.xNumber (Threefry.draw m.random &&& i.nn)
  | .draw => m.checkedDraw i.xNumber i.yNumber i.n.toNat
  | .readDelay => m.putRegister i.xNumber m.delay
  | .awaitKey => .ok { m with awaiting := some i.x }
  | .setDelay => do return { m with delay := ← m.registers.read i.xNumber }
  | .setSound => do return { m with sound := ← m.registers.read i.xNumber }
  | .addIndex => do return { m with index := m.index + (← m.registers.read i.xNumber).setWidth 16 }
  | .glyph => do
    let b ← m.registers.read i.xNumber
    return { m with index := BitVec.ofNat 16 (fontStart + b.toNat * glyphSize) }
  | .decimal => do m.checkedStore (digits (← m.registers.read i.xNumber))
  | .store => do
    let bs ← m.registers.readAll (firstRegisters (i.xNumber + 1).toNat)
    return (← m.checkedStore bs).advance i.x
  | .load => do return (← m.checkedLoad (i.xNumber + 1).toNat).advance i.x

def checkedExecute (m : Machine) (w : Int) : Except Halt Machine := do
  m.checkedPerform (← (decode w).mapError .fault)

end Machine

/-! ## No index is outside -/

namespace Table

variable {w : Nat} {α : Type}

theorem read_toNat (t : Table w α) (i : BitVec w) : t.read i.toNat = .ok (t.get i) := by
  have hlt : (i.toNat : Int) < Nat.pow 2 w := Int.ofNat_lt.mpr i.isLt
  rw [read, if_pos ⟨Int.natCast_nonneg _, hlt⟩, BitVec.ofInt_natCast, BitVec.ofNat_toNat,
    BitVec.setWidth_eq]

theorem write_toNat (t : Table w α) (i : BitVec w) (a : α) : t.write i.toNat a = .ok (t.set i a) := by
  have hlt : (i.toNat : Int) < Nat.pow 2 w := Int.ofNat_lt.mpr i.isLt
  rw [write, if_pos ⟨Int.natCast_nonneg _, hlt⟩, BitVec.ofInt_natCast, BitVec.ofNat_toNat,
    BitVec.setWidth_eq]

/-- There is no entry 16 in a table of sixteen. -/
example : (Table.replicate 4 false).read 16 = .error (.outside 16 16) := rfl

theorem emod_eq_toNat (w : Nat) (i : Int) : i % Nat.pow 2 w = (BitVec.ofInt w i).toNat := by
  have hpos : (0 : Int) < Nat.pow 2 w := Int.ofNat_lt.mpr (Nat.pow_pos (by decide))
  rw [BitVec.toNat_ofInt]
  exact (Int.toNat_of_nonneg (Int.emod_nonneg i (Int.ne_of_gt hpos))).symm

theorem cut_succ (w : Nat) (start : Int) (n : Nat) :
    cut w start (n + 1) = start % Nat.pow 2 w :: cut w (start + 1) n := by
  simp only [cut, List.range_succ_eq_map, List.map_cons, List.map_map]
  congr 1
  · rw [Int.natCast_zero, Int.add_zero]
  · refine List.map_congr_left fun k _ => ?_
    simp only [Function.comp, Nat.succ_eq_add_one, Int.natCast_add]
    congr 1
    omega

theorem readAll_cut (t : Table w α) (start : Int) (n : Nat) :
    t.readAll (cut w start n) = .ok (t.window (BitVec.ofInt w start) n) := by
  induction n generalizing start with
  | zero => rfl
  | succ n ih =>
    rw [cut_succ, readAll, emod_eq_toNat, read_toNat, ih, BitVec.ofInt_add]
    rfl

theorem writeAll_cut (t : Table w α) (start : Int) (as : List α) :
    t.writeAll ((cut w start as.length).zip as) = .ok (t.patch (BitVec.ofInt w start) as) := by
  induction as generalizing t start with
  | nil => rfl
  | cons a as ih =>
    rw [List.length_cons, cut_succ, List.zip_cons_cons, writeAll, emod_eq_toNat, write_toNat]
    exact (ih _ _).trans (by rw [BitVec.ofInt_add]; rfl)

theorem ofFnM_ok (f : BitVec w → α) : ofFnM (fun i => .ok (f i)) = .ok (ofFn f) := by
  have hall : (Vector.ofFnM fun i => (.ok (f (BitVec.ofFin i)) : Except Halt α)) =
      .ok (Vector.ofFn fun i => f (BitVec.ofFin i)) := Vector.ofFnM_pure
  rw [ofFnM, hall]
  rfl

end Table

namespace Instruction

variable (i : Instruction)

theorem xNumber_eq : i.xNumber = i.x.toNat := by
  simp only [xNumber, x, bits, BitVec.extractLsb'_toNat, BitVec.toNat_ofInt, Nat.shiftRight_eq_div_pow]
  omega

theorem yNumber_eq : i.yNumber = i.y.toNat := by
  simp only [yNumber, y, bits, BitVec.extractLsb'_toNat, BitVec.toNat_ofInt, Nat.shiftRight_eq_div_pow]
  omega

theorem count_eq : (i.xNumber + 1).toNat = i.x.toNat + 1 := by
  rw [xNumber_eq]
  rfl

end Instruction

namespace Machine

variable (m : Machine) (i : Instruction)

theorem read_x : m.registers.read i.xNumber = .ok (m.register i.x) := by
  rw [Instruction.xNumber_eq, Table.read_toNat, register]

theorem read_y : m.registers.read i.yNumber = .ok (m.register i.y) := by
  rw [Instruction.yNumber_eq, Table.read_toNat, register]

theorem putRegister_toNat (x : Nibble) (b : Byte) : m.putRegister x.toNat b = .ok (m.setRegister x b) := by
  rw [putRegister, Table.write_toNat]
  rfl

theorem putRegister_x (b : Byte) : m.putRegister i.xNumber b = .ok (m.setRegister i.x b) := by
  rw [Instruction.xNumber_eq, putRegister_toNat]

theorem putRegister_flag (b : Byte) : m.putRegister 15 b = .ok (m.setFlag b) :=
  putRegister_toNat m flagRegister b

theorem read_memory (a : Int) :
    m.memory.read (a % memorySize) = .ok (m.memory.get (BitVec.ofInt 12 a)) := by
  have hcut : a % memorySize = (BitVec.ofInt 12 a).toNat := Table.emod_eq_toNat 12 a
  rw [hcut, Table.read_toNat]

theorem ofInt_toNat_word (v : Word) : BitVec.ofInt 12 v.toNat = addressOf v := by
  rw [BitVec.ofInt_natCast, BitVec.ofNat_toNat, addressOf]

theorem checkedFetch_eq : m.checkedFetch = .ok m.fetch := by
  rw [checkedFetch, read_memory, read_memory, BitVec.ofInt_add, ofInt_toNat_word]
  rfl

theorem checkedHeld_eq (k : Int) : m.checkedHeld k = .ok (m.keyHeld k) := by
  unfold checkedHeld keyHeld
  by_cases hk : 0 ≤ k ∧ k < keyCount
  · have hlt : k < 16 := hk.2
    have hcut : k = (BitVec.ofInt 4 k).toNat := by
      rw [← Table.emod_eq_toNat 4 k]
      exact (Int.emod_eq_of_lt hk.1 hk.2).symm
    rw [if_pos hk, hcut, Table.read_toNat, ← hcut, decide_eq_true hk.1, decide_eq_true hlt]
    rfl
  · have hout : (decide (0 ≤ k) && decide (k < 16)) = false := by
      rw [← Bool.decide_and]
      exact decide_eq_false hk
    rw [if_neg hk, hout]
    rfl

theorem checkedMeets_eq (c : Condition) : m.checkedMeets c i = .ok (m.meets c i) := by
  rw [checkedMeets, read_x, ok_bind]
  cases c with
  | equalsByte => rfl
  | differsByte => rfl
  | equals | differs =>
    dsimp only
    rw [read_y]
    rfl
  | held => exact checkedHeld_eq m _
  | released =>
    dsimp only
    rw [checkedHeld_eq]
    rfl

theorem checkedCombine_eq (o : Operation) :
    m.checkedCombine o i.xNumber i.yNumber = .ok (m.combine o i.x i.y) := by
  rw [checkedCombine, read_x, read_y, ok_bind, ok_bind, combine]
  dsimp only
  rw [putRegister_x, ok_bind]
  -- Whether the flag is written depends on the operation alone.
  cases o with
  | copy => rfl
  | _ => exact putRegister_flag _ _

theorem checkedSprite_eq (column row : Int) (height : Nat) :
    m.checkedSprite column row height =
      .ok (Screen.sprite m.memory (addressOf m.index) column row height) := by
  have hread (j : BitVec 5) :
      m.memory.read ((m.index.toNat + max (min (j.toNat - row) 15) 0) % memorySize) =
        .ok (m.memory.get (addressOf m.index + BitVec.ofNat 12 (min (j.toNat - row) 15).toNat)) := by
    rw [read_memory, BitVec.ofInt_add, ofInt_toNat_word, ← Int.ofNat_toNat, BitVec.ofInt_natCast]
  rw [checkedSprite, funext hread, Table.ofFnM_ok, ok_bind]
  simp only [Table.get_ofFn, Screen.sprite]
  have hrow (j : BitVec 5) : (row ≤ j.toNat ∧ j.toNat < row + height) ↔
      (decide (0 ≤ (j.toNat : Int) - row) && decide ((j.toNat : Int) - row < height)) = true := by
    rw [Bool.and_eq_true, decide_eq_true_eq, decide_eq_true_eq]
    omega
  simp only [hrow]
  rfl

theorem checkedDraw_eq :
    m.checkedDraw i.xNumber i.yNumber i.n.toNat = .ok (m.drawSprite i.x i.y i.n) := by
  rw [checkedDraw, read_x, read_y, ok_bind, ok_bind, drawSprite]
  dsimp only
  rw [checkedSprite_eq, ok_bind, putRegister_flag]

theorem checkedStore_eq (bs : List Byte) : m.checkedStore bs = .ok (m.storeBytes bs) := by
  rw [checkedStore, addresses, Table.writeAll_cut, ofInt_toNat_word]
  rfl

theorem firstRegisters_eq : firstRegisters (i.xNumber + 1).toNat = Table.cut 4 0 (i.x.toNat + 1) := by
  have hx := i.x.isLt
  rw [firstRegisters, i.count_eq, Table.cut]
  refine List.map_congr_left fun k hk => ?_
  have hlt : k < 16 := Nat.lt_of_lt_of_le (List.mem_range.mp hk) hx
  rw [Int.zero_add]
  exact (Int.emod_eq_of_lt (Int.natCast_nonneg k) (Int.ofNat_lt.mpr hlt)).symm

theorem checkedLoad_eq :
    m.checkedLoad (i.xNumber + 1).toNat = .ok { m with
      registers := m.registers.patch 0 (m.memory.window (addressOf m.index) (i.x.toNat + 1)) } := by
  have hlength : (m.memory.window (addressOf m.index) (i.x.toNat + 1)).length = i.x.toNat + 1 :=
    Table.window_length _ _ _
  have hwrite := Table.writeAll_cut m.registers 0 (m.memory.window (addressOf m.index) (i.x.toNat + 1))
  rw [hlength] at hwrite
  rw [checkedLoad, firstRegisters_eq, i.count_eq, addresses, Table.readAll_cut, ofInt_toNat_word, ok_bind,
    hwrite]
  rfl

theorem checkedPerform_eq : m.checkedPerform i = (m.perform i).mapError .fault := by
  unfold checkedPerform perform
  -- One case for each form; those that compute no index are the same by definition.
  cases i.form with
  | clear | ret | jump | call | loadIndex | awaitKey => rfl
  | skip c =>
    dsimp only
    rw [checkedMeets_eq, ok_bind]
    cases m.meets c i <;> rfl
  | loadByte | readDelay => exact putRegister_x m i _
  | addByte =>
    dsimp only
    rw [read_x, ok_bind, putRegister_x]
    rfl
  | arithmetic o => exact checkedCombine_eq m i o
  | jumpOffset =>
    have hread : m.registers.read 0 = .ok (m.register 0) := Table.read_toNat m.registers 0
    dsimp only
    rw [hread]
    rfl
  | random => exact putRegister_x _ i _
  | draw => exact checkedDraw_eq m i
  | setDelay | setSound | addIndex | glyph =>
    dsimp only
    rw [read_x]
    rfl
  | decimal =>
    dsimp only
    rw [read_x, ok_bind, checkedStore_eq]
    rfl
  | store =>
    dsimp only
    rw [firstRegisters_eq, Table.readAll_cut, ok_bind, checkedStore_eq]
    rfl
  | load =>
    dsimp only
    rw [checkedLoad_eq]
    rfl

theorem checkedExecute_eq (w : Int) : m.checkedExecute w = (m.execute w).mapError .fault := by
  unfold checkedExecute execute
  cases decode w with
  | error f => rfl
  | ok i => exact checkedPerform_eq m i

theorem word_of_ret {w : Int} {i : Instruction} (hi : Instruction.ofWord? w = some i)
    (hret : i.form = .ret) : w = 0x00EE := by
  obtain ⟨-, -, hword⟩ := (Instruction.ofWord?_eq_some_iff.mp hi).2
  exact hword hret

/-- Fetching and executing read and write inside of the tables, whatever the machine and the word: the checked
machine goes through the same. Every word that is decoded is performed, and there are two faults. -/
theorem execute_in_range (w : Int) :
    m.checkedFetch = .ok m.fetch ∧ m.checkedExecute w = (m.execute w).mapError .fault ∧
    (∀ i, decode w = .ok i → (∃ n, m.perform i = .ok n) ∨ w = 0x00EE ∧ m.stack = []) ∧
    (m.execute w = .error (.unknownOpcode w none) ↔ ∃ f, decode w = .error f) ∧
    (m.execute w = .error (.stackUnderflow none) ↔ w = 0x00EE ∧ m.stack = []) ∧
    ∀ f, m.execute w = .error f → f = .unknownOpcode w none ∨ f = .stackUnderflow none := by
  have hdecode : (∃ f, decode w = .error f) ↔ Instruction.ofWord? w = none := by
    simp only [decode_eq_error_iff, exists_and_left, exists_eq, and_true]
  refine ⟨checkedFetch_eq m, checkedExecute_eq m w, fun i hi => ?_, ?_, ?_, ?_⟩
  · cases hp : m.perform i with
    | ok n => exact .inl ⟨n, rfl⟩
    | error f =>
      obtain ⟨hret, hstack, -⟩ := perform_eq_error_iff.mp hp
      exact .inr ⟨word_of_ret (decode_eq_ok_iff.mp hi) hret, hstack⟩
  · simp only [execute_eq_error_iff, hdecode, and_true, reduceCtorEq, and_false, exists_false, or_false]
  · rw [execute_eq_error_iff]
    constructor
    · rintro (⟨-, hf⟩ | ⟨i, hi, hret, hstack, -⟩)
      · cases hf
      · exact ⟨word_of_ret hi hret, hstack⟩
    · rintro ⟨rfl, hstack⟩
      exact .inr ⟨⟨0x00EE, .ret⟩, rfl, rfl, hstack, rfl⟩
  · intro f hf
    rcases execute_eq_error_iff.mp hf with ⟨-, hf⟩ | ⟨-, -, -, -, hf⟩
    · exact .inl hf
    · exact .inr hf

end Machine
end Chip8
