import Chip8.Fault
import Chip8.Instruction.Decode
import Chip8.Machine

/-! Executing instructions. `perform` gives one instruction its meaning, `execute` decodes a word and
performs it, and `step` does so with the word at the program counter, which moves past the word first.
A machine that waits for a key does not step. Only a return without a call and a word that matches no
form are faults. -/

namespace Chip8
namespace Machine

def pop (m : Machine) : Except Fault (Word × Machine) :=
  match m.stack with
  | [] => .error (.stackUnderflow none)
  | a :: rest => .ok (a, { m with stack := rest })

def meets (m : Machine) (c : Condition) (i : Instruction) : Bool :=
  match c with
  | .equalsByte => m.register i.x = i.nn
  | .differsByte => m.register i.x ≠ i.nn
  | .equals => m.register i.x = m.register i.y
  | .differs => m.register i.x ≠ m.register i.y
  | .held => m.keyHeld (m.register i.x).toNat
  | .released => !m.keyHeld (m.register i.x).toNat

/-- The flag is written after the result, so it wins where both go to the same register. -/
def combine (m : Machine) (o : Operation) (x y : Nibble) : Machine :=
  let b := m.register y
  let a := if o.isShift && m.dialect.shiftsSecond then b else m.register x
  let (result, flag) := o.apply a b
  let m := m.setRegister x result
  match flag with
  | none => m
  | some f => m.setFlag f

def drawRandom (m : Machine) (x : Nibble) (mask : Byte) : Machine :=
  { m with random := Threefry.next m.random }.setRegister x (Threefry.draw m.random &&& mask)

/-- The position wraps around the screen, the sprite does not. -/
def drawSprite (m : Machine) (x y n : Nibble) : Machine :=
  let column := (m.register x).toNat % screenWidth
  let row := (m.register y).toNat % screenHeight
  let s := Screen.sprite m.memory (addressOf m.index) column row n.toNat
  { m with screen := m.screen.xor s }.setFlag (Operation.flagOf (m.screen.meets s))

def digits (b : Byte) : List Byte := [b / 100, b / 10 % 10, b % 10]

def storeBytes (m : Machine) (bs : List Byte) : Machine :=
  { m with memory := m.memory.patch (addressOf m.index) bs }

def advance (m : Machine) (x : Nibble) : Machine :=
  if m.dialect.advancesIndex then { m with index := m.index + x.setWidth 16 + 1 } else m

def storeRegisters (m : Machine) (x : Nibble) : Machine :=
  (m.storeBytes (m.registers.window 0 (x.toNat + 1))).advance x

def loadRegisters (m : Machine) (x : Nibble) : Machine :=
  { m with
    registers := m.registers.patch 0 (m.memory.window (addressOf m.index) (x.toNat + 1)) }.advance x

def perform (m : Machine) (i : Instruction) : Except Fault Machine :=
  match i.form with
  | .clear => .ok { m with screen := Screen.blank }
  | .ret => m.pop.map fun (a, m) => { m with pc := a }
  | .jump => .ok { m with pc := i.nnn.setWidth 16 }
  | .call => .ok { m.push m.pc with pc := i.nnn.setWidth 16 }
  | .skip c => .ok (if m.meets c i then { m with pc := m.pc + 2 } else m)
  | .loadByte => .ok (m.setRegister i.x i.nn)
  | .addByte => .ok (m.setRegister i.x (m.register i.x + i.nn))
  | .arithmetic o => .ok (m.combine o i.x i.y)
  | .loadIndex => .ok { m with index := i.nnn.setWidth 16 }
  | .jumpOffset => .ok { m with pc := i.nnn.setWidth 16 + (m.register 0).setWidth 16 }
  | .random => .ok (m.drawRandom i.x i.nn)
  | .draw => .ok (m.drawSprite i.x i.y i.n)
  | .readDelay => .ok (m.setRegister i.x m.delay)
  | .awaitKey => .ok { m with awaiting := some i.x }
  | .setDelay => .ok { m with delay := m.register i.x }
  | .setSound => .ok { m with sound := m.register i.x }
  | .addIndex => .ok { m with index := m.index + (m.register i.x).setWidth 16 }
  | .glyph =>
    .ok { m with index := BitVec.ofNat 16 (fontStart + (m.register i.x).toNat * glyphSize) }
  | .decimal => .ok (m.storeBytes (digits (m.register i.x)))
  | .store => .ok (m.storeRegisters i.x)
  | .load => .ok (m.loadRegisters i.x)

def decode (w : Int) : Except Fault Instruction :=
  match Instruction.ofWord? w with
  | none => .error (.unknownOpcode w none)
  | some i => .ok i

def execute (m : Machine) (w : Int) : Except Fault Machine :=
  match decode w with
  | .error f => .error f
  | .ok i => m.perform i

def wordAt (m : Machine) (a : Address) : Word := m.memory.get a ++ m.memory.get (a + 1)

def current (m : Machine) : Word := m.wordAt (addressOf m.pc)

def advancePc (m : Machine) : Machine := { m with pc := m.pc + 2 }

def fetch (m : Machine) : Word × Machine := (m.current, m.advancePc)

def step (m : Machine) : Except Fault Machine :=
  if m.isAwaiting then .ok m else m.advancePc.execute m.current.toNat

end Machine
end Chip8
