import Chip8.Screen
import Chip8.Threefry

/-! The state of the machine. Registers, memory and keypad are tables, the call stack is a list with
the most recent return address in front, and a pending key wait names the register that takes the
key. -/

namespace Chip8

/-- The two points on which interpreters differ: whether a shift takes its operand from the second
register, and whether storing and loading registers advance the index. -/
structure Dialect where
  shiftsSecond : Bool := false
  advancesIndex : Bool := false
deriving DecidableEq, Repr

structure Machine where
  memory : Memory
  registers : Table 4 Byte
  index : Word
  pc : Word
  stack : List Word
  screen : Screen
  keypad : Table 4 Bool
  delay : Byte
  sound : Byte
  awaiting : Option Nibble
  random : Threefry.Key
  dialect : Dialect
deriving DecidableEq

def memorySize : Nat := 4096

def programStart : Nat := 0x200

def programCapacity : Nat := memorySize - programStart

def fontStart : Nat := 0

def glyphSize : Nat := 5

def screenWidth : Nat := 64

def screenHeight : Nat := 32

def keyCount : Nat := 16

def flagRegister : Nibble := 15

def font : List Byte := [
  0xF0, 0x90, 0x90, 0x90, 0xF0,
  0x20, 0x60, 0x20, 0x20, 0x70,
  0xF0, 0x10, 0xF0, 0x80, 0xF0,
  0xF0, 0x10, 0xF0, 0x10, 0xF0,
  0x90, 0x90, 0xF0, 0x10, 0x10,
  0xF0, 0x80, 0xF0, 0x10, 0xF0,
  0xF0, 0x80, 0xF0, 0x90, 0xF0,
  0xF0, 0x10, 0x20, 0x40, 0x40,
  0xF0, 0x90, 0xF0, 0x90, 0xF0,
  0xF0, 0x90, 0xF0, 0x10, 0xF0,
  0xF0, 0x90, 0xF0, 0x90, 0x90,
  0xE0, 0x90, 0xE0, 0x90, 0xE0,
  0xF0, 0x80, 0x80, 0x80, 0xF0,
  0xE0, 0x90, 0x90, 0x90, 0xE0,
  0xF0, 0x80, 0xF0, 0x80, 0xF0,
  0xF0, 0x80, 0xF0, 0x80, 0x80]

namespace Machine

/-- The machine at power-on: the font in place, all else clear, the program counter where programs
start. -/
def powerOn (seed : Int) (dialect : Dialect) : Machine where
  memory := (Table.replicate 12 0).patch (BitVec.ofNat 12 fontStart) font
  registers := Table.replicate 4 0
  index := 0
  pc := BitVec.ofNat 16 programStart
  stack := []
  screen := Screen.blank
  keypad := Table.replicate 4 false
  delay := 0
  sound := 0
  awaiting := none
  random := Threefry.ofSeed seed
  dialect := dialect

def register (m : Machine) (x : Nibble) : Byte := m.registers.get x

def setRegister (m : Machine) (x : Nibble) (b : Byte) : Machine :=
  { m with registers := m.registers.set x b }

def setFlag (m : Machine) (b : Byte) : Machine := m.setRegister flagRegister b

/-- A register named by any integer: -16 to -1 count from the end, and a name outside -16 to 15 writes
nothing. The value is taken modulo 256. -/
def writeRegister (m : Machine) (i value : Int) : Machine :=
  if -16 ≤ i && i < 16 then m.setRegister (BitVec.ofInt 4 i) (BitVec.ofInt 8 value) else m

def isAwaiting (m : Machine) : Bool := m.awaiting.isSome

def push (m : Machine) (a : Word) : Machine :=
  { m with stack := (addressOf a).setWidth 16 :: m.stack }

def keyHeld (m : Machine) (k : Int) : Bool :=
  0 ≤ k && k < 16 && m.keypad.get (BitVec.ofInt 4 k)

def tick (m : Machine) : Machine :=
  { m with
    delay := if m.delay = 0 then 0 else m.delay - 1
    sound := if m.sound = 0 then 0 else m.sound - 1 }

end Machine
end Chip8
