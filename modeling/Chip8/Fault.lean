import Chip8.Datum
import Chip8.Text.Numeral

/-! What the machine refuses. A fault stops a running program: a word that is no instruction, or a
return without a call. The other refusals turn down a request from outside. A fault can be tagged with
the address of the instruction; the remaining refusals have no place for it. -/

namespace Chip8

inductive Fault where
  | unknownOpcode (word : Int) (address : Option Int)
  | stackUnderflow (address : Option Int)
deriving DecidableEq, Repr

namespace Fault

def tag (a : Int) : Fault → Fault
  | unknownOpcode w _ => unknownOpcode w (some a)
  | stackUnderflow _ => stackUnderflow (some a)

def address : Fault → Option Int
  | unknownOpcode _ a => a
  | stackUnderflow a => a

def title : Fault → String
  | unknownOpcode _ _ => "UnknownOpcode"
  | stackUnderflow _ => "StackUnderflow"

def place : Option Int → String
  | none => ""
  | some a => " at 0x" ++ Text.hex 3 a

def message : Fault → String
  | unknownOpcode w a => "Unknown opcode 0x" ++ Text.hex 4 w ++ place a
  | stackUnderflow a => "Return with empty call stack" ++ place a

end Fault

inductive Refusal where
  | fault (f : Fault)
  | oversized (size capacity : Int)
  | unknownBehaviours (names : List String)
  | invalidKey (key : Datum)
  | general (details : List Datum)
deriving Repr

namespace Refusal

def ofNames (names : List String) : Refusal := unknownBehaviours (names.mergeSort (· ≤ ·))

def tag (a : Int) : Refusal → Refusal
  | fault f => fault (f.tag a)
  | r => r

def title : Refusal → String
  | fault f => f.title
  | oversized _ _ => "OutOfBoundsLoad"
  | unknownBehaviours _ => "InvalidQuirkKey"
  | invalidKey _ => "InvalidKey"
  | general _ => "EmulatorError"

def message : Refusal → String
  | fault f => f.message
  | oversized size capacity =>
    "Program of " ++ toString size ++ " bytes exceeds the " ++ toString capacity ++
      " bytes available"
  | unknownBehaviours names => "Unknown quirk(s): " ++ ", ".intercalate names
  | invalidKey key => "Key " ++ key.written ++ " is not a CHIP-8 key (0-15)"
  | general [] => ""
  | general [d] => d.plain
  | general ds => "(" ++ ", ".intercalate (Datum.writtenItems ds) ++ ")"

end Refusal
end Chip8
