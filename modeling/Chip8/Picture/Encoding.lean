import Chip8.Picture

/-! The bytes of a picture file, in either format with three bytes a point and without compression. One of the two needs
checksums: the remainder of a division of polynomials over two elements, and a pair of running sums. -/

namespace Chip8.Picture

def divideBit (r : UInt32) : UInt32 :=
  if r &&& 1 = 1 then (r >>> 1) ^^^ 0xEDB88320 else r >>> 1

def divideByte (r : UInt32) (b : UInt8) : UInt32 :=
  (List.range 8).foldl (fun r _ => divideBit r) (r ^^^ b.toUInt32)

def remainder (bs : ByteArray) : UInt32 := bs.foldl divideByte 0xFFFFFFFF ^^^ 0xFFFFFFFF

def sumModulus : UInt32 := 65521

def sumByte (s : UInt32 × UInt32) (b : UInt8) : UInt32 × UInt32 :=
  let low := (s.1 + b.toUInt32) % sumModulus
  (low, (s.2 + low) % sumModulus)

def runningSums (bs : ByteArray) : UInt32 :=
  let (low, high) := bs.foldl sumByte (1, 0)
  high * 65536 + low

def lowFirst : Nat → Nat → List UInt8
  | 0, _ => []
  | k + 1, n => UInt8.ofNat (n % 256) :: lowFirst k (n / 256)

def highFirst (k n : Nat) : List UInt8 := (lowFirst k n).reverse

def append (bs : ByteArray) (xs : List UInt8) : ByteArray := xs.foldl ByteArray.push bs

def bytes (xs : List UInt8) : ByteArray := append ByteArray.empty xs

def component (b : Byte) : UInt8 := UInt8.ofNat b.toNat

def width (p : Picture) : Nat := (p.head?.map List.length).getD 0

def redFirst (c : Colour) : List UInt8 := [component c.red, component c.green, component c.blue]

def bottomUp (p : Picture) : ByteArray :=
  p.reverse.foldl (fun bs row =>
    let bs := row.foldl (fun bs c => append bs (redFirst c).reverse) bs
    append bs (List.replicate ((4 - row.length * 3 % 4) % 4) 0)) ByteArray.empty

def bmp (p : Picture) : ByteArray :=
  let body := bottomUp p
  let head := [0x42, 0x4D] ++ lowFirst 4 (54 + body.size) ++ lowFirst 4 0 ++ lowFirst 4 54
  let info := lowFirst 4 40 ++ lowFirst 4 (width p) ++ lowFirst 4 p.length ++ lowFirst 2 1 ++
    lowFirst 2 24 ++ lowFirst 4 0 ++ lowFirst 4 body.size ++ lowFirst 4 3780 ++ lowFirst 4 3780 ++
    lowFirst 4 0 ++ lowFirst 4 0
  bytes (head ++ info) ++ body

/-- Rows from the top down, red first, each behind a byte that says that it stands for itself. -/
def topDown (p : Picture) : ByteArray :=
  p.foldl (fun bs row => row.foldl (fun bs c => append bs (redFirst c)) (bs.push 0)) ByteArray.empty

def blockSize : Nat := 65535

def block (bs : ByteArray) : ByteArray :=
  bytes (0 :: lowFirst 2 bs.size ++ lowFirst 2 (blockSize - bs.size)) ++ bs

def lastBlock : List UInt8 := [1, 0, 0, 0xFF, 0xFF]

def deflated (bs : ByteArray) : ByteArray :=
  let starts := (List.range ((bs.size + blockSize - 1) / blockSize)).map (· * blockSize)
  starts.foldl (fun out i => out ++ block (bs.extract i (i + blockSize))) (bytes [0x78, 0x01]) ++
    bytes (lastBlock ++ highFirst 4 (runningSums bs).toNat)

def chunk (name : List UInt8) (body : ByteArray) : ByteArray :=
  let named := bytes name ++ body
  bytes (highFirst 4 body.size) ++ named ++ bytes (highFirst 4 (remainder named).toNat)

def png (p : Picture) : ByteArray :=
  let info := bytes (highFirst 4 (width p) ++ highFirst 4 p.length ++ [8, 2, 0, 0, 0])
  bytes [0x89, 0x50, 0x4E, 0x47, 0x0D, 0x0A, 0x1A, 0x0A] ++ chunk [0x49, 0x48, 0x44, 0x52] info ++
    chunk [0x49, 0x44, 0x41, 0x54] (deflated (topDown p)) ++
    chunk [0x49, 0x45, 0x4E, 0x44] ByteArray.empty

def File.encode (f : File) : ByteArray :=
  match f.format with
  | .png => png f.picture
  | .bmp => bmp f.picture

end Chip8.Picture
