import Chip8.Error
import Chip8.Machine

/-! Programs. A program is a list of bytes that is copied into memory as a whole or not at all. It may be offered as
something that has no length of its own: a number of zeros, or items that come one after the other. -/

namespace Chip8

def Byte.ofInt (n : Int) : Except Error Byte :=
  if 0 ≤ n && n < 256 then .ok (BitVec.ofInt 8 n) else .error .byteRange

def Byte.ofDatum : Datum → Except Error Byte
  | .int n => Byte.ofInt n
  | .bool b => .ok (if b then 1 else 0)
  | d => .error (.byteKind d.kind)

def Byte.ofData : List Datum → Except Error (List Byte)
  | [] => .ok []
  | d :: ds =>
    match Byte.ofDatum d with
    | .error e => .error e
    | .ok b => (Byte.ofData ds).map (b :: ·)

def Byte.copies (d : Datum) (count : Int) : Except Error (List Byte) :=
  (Byte.ofDatum d).map (List.replicate count.toNat)

def Byte.zeros (count : Int) : Except Error (List Byte) :=
  if !fitsSigned 64 count then .error .wideCount
  else if count < 0 then .error .negativeCount
  else .ok (List.replicate count.toNat 0)

inductive Unsized where
  | count (n : Int)
  | flag (b : Bool)
  | items (kind : String) (ds : List Datum)

namespace Unsized

def kind : Unsized → String
  | count _ => "int"
  | flag _ => "bool"
  | items kind _ => kind

def bytes : Unsized → Except Error (List Byte)
  | count n => Byte.zeros n
  | flag b => .ok (List.replicate b.toNat 0)
  | items _ ds => Byte.ofData ds

end Unsized

namespace Machine

def load (m : Machine) (program : List Byte) : Except Error Machine :=
  if programCapacity < program.length then
    .error (.refusal (.oversized program.length programCapacity))
  else .ok { m with memory := m.memory.patch (BitVec.ofNat 12 programStart) program }

def loadData (m : Machine) (program : List Datum) : Except Error Machine :=
  match Byte.ofData program with
  | .error e => .error e
  | .ok bytes => m.load bytes

def loadUnsized (m : Machine) (program : Unsized) : Except Error Machine :=
  match program.bytes with
  | .error e => .error e
  | .ok bytes => m.load bytes

def loadFile (m : Machine) (contents : Except FileError (List Byte)) : Except Error Machine :=
  match contents with
  | .error e => .error (.file e)
  | .ok bytes => m.load bytes

end Machine
end Chip8
