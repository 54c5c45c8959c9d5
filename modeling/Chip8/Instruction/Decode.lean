import Chip8.Instruction.Form

/-! Decoding. The leading digit of a word selects a family of forms, and most families are told apart
by their last one or two digits. A word may be any integer: its low 16 bits are decoded, while the two
forms of family 0 claim one whole word each. -/

namespace Chip8

/-- A word together with the form it matches; the operands are fields of its low 16 bits. -/
structure Instruction where
  word : Int
  form : Form
deriving DecidableEq, Repr

namespace Instruction

def bits (i : Instruction) : Word := BitVec.ofInt 16 i.word

def x (i : Instruction) : Nibble := i.bits.extractLsb' 8 4

def y (i : Instruction) : Nibble := i.bits.extractLsb' 4 4

def n (i : Instruction) : Nibble := i.bits.extractLsb' 0 4

def nn (i : Instruction) : Byte := i.bits.extractLsb' 0 8

def nnn (i : Instruction) : Address := i.bits.extractLsb' 0 12

end Instruction

def Operation.ofDigit? : Nibble → Option Operation
  | 0x0#4 => some .copy
  | 0x1#4 => some .or
  | 0x2#4 => some .and
  | 0x3#4 => some .xor
  | 0x4#4 => some .add
  | 0x5#4 => some .subtract
  | 0x6#4 => some .shiftRight
  | 0x7#4 => some .subtractFrom
  | 0xE#4 => some .shiftLeft
  | _ => none

namespace Form

def ofKeyByte? : Byte → Option Form
  | 0x9E#8 => some (skip .held)
  | 0xA1#8 => some (skip .released)
  | _ => none

def ofMiscByte? : Byte → Option Form
  | 0x07#8 => some readDelay
  | 0x0A#8 => some awaitKey
  | 0x15#8 => some setDelay
  | 0x18#8 => some setSound
  | 0x1E#8 => some addIndex
  | 0x29#8 => some glyph
  | 0x33#8 => some decimal
  | 0x55#8 => some store
  | 0x65#8 => some load
  | _ => none

def ifZero (f : Form) (n : Nibble) : Option Form := if n = 0 then some f else none

def ofWord? (w : Int) : Option Form :=
  let b : Word := BitVec.ofInt 16 w
  match b.extractLsb' 12 4 with
  | 0x0#4 => if w = 0x00E0 then some clear else if w = 0x00EE then some ret else none
  | 0x1#4 => some jump
  | 0x2#4 => some call
  | 0x3#4 => some (skip .equalsByte)
  | 0x4#4 => some (skip .differsByte)
  | 0x5#4 => ifZero (skip .equals) (b.extractLsb' 0 4)
  | 0x6#4 => some loadByte
  | 0x7#4 => some addByte
  | 0x8#4 => (Operation.ofDigit? (b.extractLsb' 0 4)).map arithmetic
  | 0x9#4 => ifZero (skip .differs) (b.extractLsb' 0 4)
  | 0xA#4 => some loadIndex
  | 0xB#4 => some jumpOffset
  | 0xC#4 => some random
  | 0xD#4 => some draw
  | 0xE#4 => ofKeyByte? (b.extractLsb' 0 8)
  | _ => ofMiscByte? (b.extractLsb' 0 8)

end Form

def Instruction.ofWord? (w : Int) : Option Instruction :=
  (Form.ofWord? w).map fun f => ⟨w, f⟩

end Chip8
