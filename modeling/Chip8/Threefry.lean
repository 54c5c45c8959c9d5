/-! The keyed mixing function Threefry with two words of 32 bits and 20 rounds, and the stream of
random bytes drawn from it. Every draw replaces the key by one half of its split and takes its byte
from the other half, so the stream depends on the seed alone. -/

namespace Chip8.Threefry

structure Block where
  fst : BitVec 32
  snd : BitVec 32
deriving DecidableEq, Repr

abbrev Key := Block

def parity : BitVec 32 := 0x1BD11BDA#32

def subkey (k : Key) (i : Nat) : BitVec 32 :=
  match i % 3 with
  | 0 => k.fst
  | 1 => k.snd
  | _ => k.fst ^^^ k.snd ^^^ parity

def rotations (group : Nat) : List Nat :=
  if group % 2 = 0 then [13, 15, 26, 6] else [17, 29, 16, 24]

def round (s : Block) (r : Nat) : Block :=
  let a := s.fst + s.snd
  ⟨a, s.snd.rotateLeft r ^^^ a⟩

def group (k : Key) (s : Block) (i : Nat) : Block :=
  let t := (rotations i).foldl round s
  ⟨t.fst + subkey k (i + 1), t.snd + subkey k (i + 2) + BitVec.ofNat 32 (i + 1)⟩

def encrypt (k : Key) (x : Block) : Block :=
  (List.range 5).foldl (group k) ⟨x.fst + subkey k 0, x.snd + subkey k 1⟩

def ofSeed (seed : Int) : Key := ⟨0, BitVec.ofInt 32 seed⟩

/-- The key after one draw. -/
def next (k : Key) : Key := encrypt k ⟨0, 0⟩

def draw (k : Key) : BitVec 8 :=
  let sub := encrypt k ⟨0, 1⟩
  let s := encrypt (encrypt sub ⟨0, 1⟩) ⟨0, 0⟩
  (s.fst ^^^ s.snd).setWidth 8

end Chip8.Threefry
