import Chip8.Arithmetic

/-! The 34 instruction forms. A form is known by its mnemonic and by its pattern of four characters,
in which `X`, `Y` and `N` stand for operand digits. -/

namespace Chip8

inductive Condition where
  | equalsByte
  | differsByte
  | equals
  | differs
  | held
  | released
deriving DecidableEq, Repr

inductive Form where
  | clear
  | ret
  | jump
  | call
  | skip (c : Condition)
  | loadByte
  | addByte
  | arithmetic (o : Operation)
  | loadIndex
  | jumpOffset
  | random
  | draw
  | readDelay
  | awaitKey
  | setDelay
  | setSound
  | addIndex
  | glyph
  | decimal
  | store
  | load
deriving DecidableEq, Repr

def Condition.mnemonic : Condition → String
  | equalsByte => "SE_BYTE"
  | differsByte => "SNE_BYTE"
  | equals => "SE_REG"
  | differs => "SNE_REG"
  | held => "SKP"
  | released => "SKNP"

def Condition.pattern : Condition → String
  | equalsByte => "3XNN"
  | differsByte => "4XNN"
  | equals => "5XY0"
  | differs => "9XY0"
  | held => "EX9E"
  | released => "EXA1"

def Operation.mnemonic : Operation → String
  | copy => "LD_REG"
  | or => "OR"
  | and => "AND"
  | xor => "XOR"
  | add => "ADD_REG"
  | subtract => "SUB"
  | shiftRight => "SHR"
  | subtractFrom => "SUBN"
  | shiftLeft => "SHL"

def Operation.pattern : Operation → String
  | copy => "8XY0"
  | or => "8XY1"
  | and => "8XY2"
  | xor => "8XY3"
  | add => "8XY4"
  | subtract => "8XY5"
  | shiftRight => "8XY6"
  | subtractFrom => "8XY7"
  | shiftLeft => "8XYE"

namespace Form

def mnemonic : Form → String
  | clear => "CLS"
  | ret => "RET"
  | jump => "JP"
  | call => "CALL"
  | skip c => c.mnemonic
  | loadByte => "LD_BYTE"
  | addByte => "ADD_BYTE"
  | arithmetic o => o.mnemonic
  | loadIndex => "LD_I"
  | jumpOffset => "JP_V0"
  | random => "RND"
  | draw => "DRW"
  | readDelay => "LD_VX_DT"
  | awaitKey => "LD_VX_K"
  | setDelay => "LD_DT_VX"
  | setSound => "LD_ST_VX"
  | addIndex => "ADD_I_VX"
  | glyph => "LD_F_VX"
  | decimal => "LD_B_VX"
  | store => "LD_I_VX"
  | load => "LD_VX_I"

def pattern : Form → String
  | clear => "00E0"
  | ret => "00EE"
  | jump => "1NNN"
  | call => "2NNN"
  | skip c => c.pattern
  | loadByte => "6XNN"
  | addByte => "7XNN"
  | arithmetic o => o.pattern
  | loadIndex => "ANNN"
  | jumpOffset => "BNNN"
  | random => "CXNN"
  | draw => "DXYN"
  | readDelay => "FX07"
  | awaitKey => "FX0A"
  | setDelay => "FX15"
  | setSound => "FX18"
  | addIndex => "FX1E"
  | glyph => "FX29"
  | decimal => "FX33"
  | store => "FX55"
  | load => "FX65"

end Form
end Chip8
