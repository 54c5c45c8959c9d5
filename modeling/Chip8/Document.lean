import Chip8.Document.Data
import Chip8.Document.Overlay
import Chip8.Settings

/-! Settings documents. A document holds a mapping, which may be empty, or a list. A document that is one
text is read once more from that text, and then may also be a name without a value. Other entries can be
laid over those of the document before its references are followed. -/

namespace Chip8

namespace Document

def unifyBreaks : List Char → List Char
  | '\r' :: '\n' :: cs => '\n' :: unifyBreaks cs
  | '\r' :: cs => '\n' :: unifyBreaks cs
  | c :: cs => c :: unifyBreaks cs
  | [] => []

def isAllowed (c : Char) : Bool :=
  let n := c.toNat
  c = '\t' || c = '\n' || c = '\x85' || (0x20 ≤ n && n ≤ 0x7E) ||
    (0xA0 ≤ n && n ≠ 0xFFFE && n ≠ 0xFFFF)

def dropOrderMark : List Char → List Char
  | '\uFEFF' :: cs => cs
  | cs => cs

def ofText (s : String) : Except Error Datum := do
  let cs := unifyBreaks s.toList
  if !cs.all isAllowed then throw (.document .unprintable)
  let ts := tokens (dropOrderMark cs)
  match Node.ofTokens ts with
  | .error e => .error (.document e)
  | .ok none => .ok .null
  | .ok (some n) => n.toDatum ts.length

def ofInnerText (s : String) : Except Error Datum := do
  match ← ofText s with
  | .null => return .map []
  | .text name => return .map [(.text name, .null)]
  | .list items => return .list items
  | .map entries => return .map entries
  | _ => throw (.document .wrappedScalar)

def read (s : String) : Except Error Datum := do
  match ← ofText s with
  | .null => return .map []
  | .text s => ofInnerText s
  | .list items => return .list items
  | .map entries => return .map entries
  | _ => throw (.document .loneScalar)

/-- A document as it is loaded: its references can be read, but are not followed yet. -/
def load (s : String) : Except Error Datum := do
  let d ← read s
  (checkData d).mapError .document
  return d

/-- The data of a document with some entries laid over them. Without entries it may also be a list. -/
def layered (base : Datum) (overrides : List (Datum × Datum)) : Except Error Datum := do
  if overrides.isEmpty then return base
  let overrides := Datum.map overrides
  (checkData overrides).mapError .document
  overlay base [] overrides

end Document

namespace Settings

def ofLayers (base : Datum) (overrides : List (Datum × Datum)) : Except Error Settings := do
  let d ← Document.layered base overrides
  ofDatum (← (Document.resolveReferences d).mapError .document)

def documentName : String := "path"

def ofDocument (text : Except FileError String) (overrides : List (Datum × Datum)) :
    Except Error Settings := do
  if (Datum.lookup documentName overrides).isSome then throw (.twicePlaced "load_config" documentName)
  ofLayers (← Document.load (← text.mapError .file)) overrides

end Settings
end Chip8
