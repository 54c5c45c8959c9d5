import Chip8.Word

/-! The nine operations on two registers. Each maps the two operands to a result and, except for the
copy, to a flag: a carry, the absence of a borrow, or the bit that a shift pushes out. -/

namespace Chip8

inductive Operation where
  | copy
  | or
  | and
  | xor
  | add
  | subtract
  | shiftRight
  | subtractFrom
  | shiftLeft
deriving DecidableEq, Repr

namespace Operation

def flagOf (b : Bool) : Byte := if b then 1 else 0

def apply (o : Operation) (a b : Byte) : Byte × Option Byte :=
  match o with
  | copy => (b, none)
  | or => (a ||| b, some 0)
  | and => (a &&& b, some 0)
  | xor => (a ^^^ b, some 0)
  | add => (a + b, some (flagOf (256 ≤ a.toNat + b.toNat)))
  | subtract => (a - b, some (flagOf (b ≤ a)))
  | shiftRight => (a >>> 1, some (a &&& 1))
  | subtractFrom => (b - a, some (flagOf (a ≤ b)))
  | shiftLeft => (a <<< 1, some (a >>> 7))

def isShift (o : Operation) : Bool := o = shiftRight || o = shiftLeft

end Operation
end Chip8
