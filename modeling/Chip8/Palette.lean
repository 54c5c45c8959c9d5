import Chip8.Datum.Mapping
import Chip8.Word

/-! Colours and the named pairs of them in which a screen is shown: one for set pixels, one for clear
ones. -/

namespace Chip8

structure Colour where
  red : Byte
  green : Byte
  blue : Byte
deriving DecidableEq, Repr

structure Palette where
  on : Colour
  off : Colour
deriving DecidableEq, Repr

namespace Colour

/-- What is wrong with a component that is no byte. It is shown if a word of the host holds it. -/
def componentError (n : Int) : Error := if fitsSigned 64 n then .componentRange n else .wideNumber

def component (n : Int) : Except Error Byte :=
  if 0 ≤ n && n < 256 then .ok (BitVec.ofInt 8 n) else .error (componentError n)

def ofComponents (red green blue : Int) : Except Error Colour := do
  let red ← component red
  let green ← component green
  let blue ← component blue
  return { red, green, blue }

end Colour

namespace Palette

def named : List (String × Palette) := [
  ("fuchsia", ⟨⟨232, 121, 249⟩, ⟨0, 0, 0⟩⟩),
  ("classic", ⟨⟨0, 255, 0⟩, ⟨0, 0, 0⟩⟩),
  ("amber", ⟨⟨255, 176, 0⟩, ⟨0, 0, 0⟩⟩),
  ("white", ⟨⟨255, 255, 255⟩, ⟨0, 0, 0⟩⟩),
  ("blue", ⟨⟨0, 255, 255⟩, ⟨0, 0, 64⟩⟩)]

def names : List String := named.map Prod.fst

def defaultName : String := "fuchsia"

def ofName (name : String) : Except Error Palette :=
  match named.lookup name with
  | some p => .ok p
  | none => .error (.unknownScheme name names)

def ofDatum (d : Datum) : Except Error Palette := do ofName (← d.asName).plain

end Palette
end Chip8
