/-! The word sizes of the machine. Registers and memory cells hold bytes, a nibble names a register
or a key, and an address reaches the 4096 memory cells. The program counter and the index register
are wider than an address: they keep 16 bits and give up the upper four only where they address
memory. -/

namespace Chip8

abbrev Nibble := BitVec 4

abbrev Byte := BitVec 8

abbrev Address := BitVec 12

abbrev Word := BitVec 16

def addressOf (w : Word) : Address := w.setWidth 12

/-- The numbers that fit with their sign into so many bits. -/
def fitsSigned (bits : Nat) (n : Int) : Bool :=
  -Int.pow 2 (bits - 1) ≤ n && n < Int.pow 2 (bits - 1)

theorem addressOf_add (v w : Word) : addressOf (v + w) = addressOf v + addressOf w :=
  BitVec.setWidth_add v w (by decide)

end Chip8
