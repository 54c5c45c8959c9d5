import Chip8.Datum.Mapping
import Chip8.Document.Node
import Chip8.Document.Scalar

/-! The data of a tree. An entry named by two angles takes the entries of another mapping, or of several,
into its own mapping. What is wrong is found container by container, those further out first. -/

namespace Chip8.Document.Node

def isPlainMark (mark : String) : Node → Bool
  | scalar s plain => plain && s = mark
  | _ => false

def isMerge (name : Node) : Bool := name.isPlainMark mergeMark

def asName (name : Node) : Node :=
  if name.isPlainMark valueMark then scalar valueMark false else name

mutual

def divide : List (Node × Node) →
    Except DocumentError (List (Node × Node) × List (Node × Node))
  | [] => .ok ([], [])
  | (name, value) :: es => do
    let taken ← if name.isMerge then entriesOf value else .ok []
    let (others, own) ← divide es
    if name.isMerge then return (taken ++ others, own)
    else return (others, (name.asName, value) :: own)

def entriesOf : Node → Except DocumentError (List (Node × Node))
  | map entries => do
    let (others, own) ← divide entries
    return others ++ own
  | list items => do return (← itemEntries items).flatten
  | scalar _ _ => .error .unsupportedValue

def itemEntries : List Node → Except DocumentError (List (List (Node × Node)))
  | [] => .ok []
  | map entries :: rest => do
    let (others, own) ← divide entries
    return (← itemEntries rest) ++ [others ++ own]
  | _ :: _ => .error .unsupportedValue

end

def scalarDatum (s : String) (plain : Bool) : Except Error Datum :=
  if plain then resolve s else .ok (.text s)

def textName? : Node → Option String
  | scalar s plain =>
    match scalarDatum s plain with
    | .ok (.text s) => some s
    | _ => none
  | _ => none

def checkNames (entries : List (Node × Node)) : Except Error Unit :=
  if (entries.filterMap fun e => textName? e.1).Nodup then .ok ()
  else .error (.document .duplicateName)

def checkPart : Node → Except Error (List Node)
  | scalar s plain => (scalarDatum s plain).map fun _ => []
  | d => .ok [d]

def checkName : Node → Except Error Unit
  | scalar s plain => (scalarDatum s plain).map fun _ => ()
  | _ => .error (.document .unsupportedName)

def checkEntries : List (Node × Node) → Except Error (List Node)
  | [] => .ok []
  | (name, value) :: es => do
    checkName name
    let inner ← checkPart value
    return inner ++ (← checkEntries es)

def check : Node → Except Error (List Node)
  | map entries => do
    checkNames entries
    checkEntries (← (entriesOf (map entries)).mapError .document)
  | list items => do return (← items.mapM checkPart).flatten
  | scalar s plain => checkPart (scalar s plain)

/-- Reads nodes and all containers in them, those inside of others last. Every step takes a container. -/
def checkAll : Nat → List Node → Except Error Unit
  | 0, _ => .ok ()
  | _, [] => .ok ()
  | fuel + 1, n :: rest => do checkAll fuel (rest ++ (← n.check))

/-- The data of a node that has been checked, to some depth. Of two entries with one name the later value
counts, at the place of the earlier one. -/
def datum : Nat → Node → Datum
  | _, scalar s plain => (scalarDatum s plain).toOption.getD .null
  | 0, _ => .null
  | depth + 1, list items => .list (items.map (datum depth))
  | depth + 1, map entries =>
    let es := (entriesOf (map entries)).toOption.getD []
    .map (es.foldl (fun ds (name, value) => Datum.put (datum depth name) (datum depth value) ds) [])

def toDatum (size : Nat) (n : Node) : Except Error Datum := do
  checkAll size [n]
  return n.datum size

end Chip8.Document.Node
