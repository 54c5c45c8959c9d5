import Chip8.Error
import Chip8.Table
import Chip8.Word

/-! The screen of 64 by 32 pixels. Each row is one word of 64 bits, its most significant bit the pixel
of column 0. A sprite is a screen of its own: the bytes of memory from an address on, one byte a row,
placed at a position that may lie outside; what falls off an edge is dropped. The mask of a sprite is computed in grids
of 32 bits, and refused where its numbers do not fit into them. -/

namespace Chip8

abbrev Memory := Table 12 Byte

abbrev Screen := Table 5 (BitVec 64)

namespace Screen

def blank : Screen := Table.replicate 5 0

def pixel (s : Screen) (x : BitVec 6) (y : BitVec 5) : Bool := (s.get y).getMsbD x.toNat

def xor (s t : Screen) : Screen := Table.ofFn fun y => s.get y ^^^ t.get y

def meets (s t : Screen) : Bool := (s.entries.zip t.entries).any fun (a, b) => a &&& b ≠ 0

def spriteRow (b : Byte) (x : Int) : BitVec 64 :=
  let row := b.setWidth 64 <<< 56
  if 64 ≤ x || x ≤ -8 then 0 else if 0 ≤ x then row >>> x.toNat else row <<< (-x).toNat

/-- Rows past the sixteenth repeat it. -/
def sprite (m : Memory) (start : Address) (x y height : Int) : Screen :=
  Table.ofFn fun row =>
    let r := (row.toNat : Int) - y
    if 0 ≤ r && r < height then
      spriteRow (m.get (start + BitVec.ofNat 12 (min r 15).toNat)) x
    else 0

def clamp (last v : Int) : Int := max 0 (min v last)

def inGrid (n : Int) : Int := (BitVec.ofInt 32 n).toInt

/-- The sprite at any index, position and height. The columns and rows are compared with its edges first, then the
index is added to the distance from its top. -/
def mask (m : Memory) (index x y height : Int) : Except Error Screen :=
  if !([x, x + 8, y, y + height].all (fitsSigned 32)) then .error (.cellRange "y")
  else if !fitsSigned 32 index then .error (.cellRange "x")
  else .ok (Table.ofFn fun row =>
    if y ≤ row.toNat && row.toNat < y + height then
      spriteRow (m.get (BitVec.ofInt 12 (index + clamp 15 (inGrid (row.toNat - y))))) x
    else 0)

end Screen
end Chip8
