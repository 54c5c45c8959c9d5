import Chip8.Folder
import Chip8.Palette
import Chip8.Screen
import Chip8.Text.Lower

/-! Pictures. A display is given by its pixels, column first, and a picture by its rows, so the two indices change
places. The display becomes a picture in two colours in which every pixel is a square of `scale` by `scale` points. -/

namespace Chip8

/-- A display of any size. The pixel in column `x` and row `y` is `pixel x y`. -/
structure Display where
  width : Nat
  height : Nat
  pixel : Fin width → Fin height → Bool

def Screen.toDisplay (s : Screen) : Display where
  width := 64
  height := 32
  pixel x y := s.pixel (BitVec.ofFin x) (BitVec.ofFin y)

abbrev Bitmap := List (List Bool)

/-- The pixels row by row. -/
def Display.rows (d : Display) : Bitmap := List.ofFn fun y => List.ofFn fun x => d.pixel x y

abbrev Picture := List (List Colour)

namespace Picture

def defaultScale : Int := 15

def stretch {α : Type} (n : Nat) (xs : List α) : List α := xs.flatMap (List.replicate n)

def paint (p : Palette) (scale : Nat) (b : Bitmap) : Picture :=
  stretch scale (b.map fun row => stretch scale (row.map fun bit => if bit then p.on else p.off))

def checkScale (scale : Int) : Except Error Unit :=
  if scale < 1 then .error (.smallScale scale) else .ok ()

/-- How often each point is repeated, which the host counts in a word. -/
def repeats (scale : Int) : Except Error Nat :=
  if fitsSigned 64 scale then .ok scale.toNat else .error .wideNumber

structure Ink where
  red : Int
  green : Int
  blue : Int
deriving Repr

def Ink.toColour (i : Ink) : Except Error Colour := Colour.ofComponents i.red i.green i.blue

def Ink.ofColour (c : Colour) : Ink := ⟨c.red.toNat, c.green.toNat, c.blue.toNat⟩

/-- The scale is checked first, then the two colours, whether any pixel uses them or not. -/
def render (d : Display) (scale : Int) (on off : Ink) : Except Error Picture := do
  checkScale scale
  let on ← on.toColour
  let off ← off.toColour
  let scale ← repeats scale
  return paint ⟨on, off⟩ scale d.rows

inductive Format where
  | png
  | bmp
deriving DecidableEq, Repr

def Format.name : Format → String
  | png => "PNG"
  | bmp => "BMP"

def Format.ofExtension (extension : String) : Except Error Format :=
  if extension = ".png" || extension = ".apng" then .ok png
  else if extension = ".bmp" then .ok bmp
  else .error (.unknownExtension extension)

def extension (file : String) : String :=
  let name := (file.toList.reverse.takeWhile (· ≠ '/')).reverse
  let tail := (name.reverse.takeWhile (· ≠ '.')).reverse
  let stem := name.take (name.length - tail.length - 1)
  if name.contains '.' && stem.any (· ≠ '.') then
    Text.lower (String.ofList ('.' :: tail))
  else ""

structure File where
  format : Format
  picture : Picture
deriving Repr

/-- The picture as it is saved under a path: first the palette is looked up, then the picture is rendered,
then the format is taken from the extension, and last the file is opened. -/
def save (folder : Folder) (d : Display) (path : String) (scale : Int) (scheme : String) :
    Except Error File := do
  let p ← Palette.ofName scheme
  let picture ← render d scale (Ink.ofColour p.on) (Ink.ofColour p.off)
  let format ← Format.ofExtension (extension path)
  (folder.accepts path).mapError .file
  return { format, picture }

end Picture
end Chip8
