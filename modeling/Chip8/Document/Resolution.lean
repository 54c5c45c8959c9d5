import Chip8.Datum.Place
import Chip8.Document.Reference

/-! Following references. A text that is one reference stands for the part of the document it leads to, or
for the text this part stands for in its turn. Inside a longer text a part is shown as it is written, with
the references in it. -/

namespace Chip8.Document

def openText : String := "???"

inductive Target where
  | place (p : Place)
  | text (s : String)
deriving DecidableEq, Repr

namespace Target

def shown (root : Datum) : Target → String
  | place p => ((root.part? p).map Datum.plain).getD ""
  | text s => s

def name (root : Datum) : Target → Except DocumentError String
  | text s => .ok s
  | place p =>
    match root.part? p with
    | some (.text s) => .ok s
    | _ => .error .unsuitable

end Target

def child (root : Datum) (p : Place) (name : String) : Except DocumentError Place :=
  match root.part? p with
  | some (.map entries) =>
    match Datum.entryNumber? (.text name) entries with
    | some i => .ok (p ++ [i])
    | none => .error .unresolved
  | some (.list items) =>
    match Text.readNumeral name with
    | .error _ => .error .unsuitable
    | .ok i =>
      if 0 ≤ i && i < items.length then .ok (p ++ [i.toNat]) else .error .unresolved
  | _ => .error .unsuitable

def settledChild (root : Datum) (p : Place) (name : String) : Except DocumentError Place := do
  let q ← child root p name
  if ((root.part? q).map (Datum.isText openText)).getD false then throw .leftOpen
  return q

abbrev Resolver := Place → Except DocumentError Target

def follow (root : Datum) (resolve : Resolver) (p : Place) : List String → Except DocumentError Target
  | [] => .ok (.place p)
  | [name] => do resolve (← settledChild root p name)
  | name :: names => do
    match ← resolve (← settledChild root p name) with
    | .place q => follow root resolve q names
    | .text _ => .error .unsuitable

/-- The container at which a path begins: without points the whole document, with one point the container
of the reference, and with every further point the one around it. -/
def origin (container : Place) (points : Nat) : Except DocumentError Place :=
  if points = 0 then .ok []
  else if container.length + 1 < points then .error .unresolved
  else .ok (container.take (container.length + 1 - points))

def outside (container : Place) (t : Target) : Except DocumentError Target :=
  match t with
  | .place p => if p.isPrefixOf container then .error .circular else .ok t
  | .text _ => .ok t

def refer (root : Datum) (resolve : Resolver) (container : Place) (path : List Char) : Except DocumentError Target := do
  let points := (path.takeWhile (· = '.')).length
  let start ← origin container points
  let rest := path.drop points
  let names := if rest.isEmpty then [] else (names rest).map String.ofList
  outside container (← follow root resolve start names)

mutual

def pieceTarget (root : Datum) (resolve : Resolver) (container : Place) :
    Piece → Except DocumentError Target
  | .literal cs => .ok (.text (String.ofList cs))
  | .reference path => do
    refer root resolve container (← pathText root resolve container path)
  | .call => .error .unknownCall

def pathText (root : Datum) (resolve : Resolver) (container : Place) :
    List Piece → Except DocumentError (List Char)
  | [] => .ok []
  | p :: ps => do
    let s ← (← pieceTarget root resolve container p).name root
    return s.toList ++ (← pathText root resolve container ps)

end

def textTarget (root : Datum) (resolve : Resolver) (container : Place) (s : String) :
    Except DocumentError Target :=
  let one (p : Piece) : Except DocumentError Target := pieceTarget root resolve container p
  match pieces? s with
  | none => .error .badReference
  | some [p] => one p
  | some ps => do
    let targets ← ps.mapM one
    return .text (String.join (targets.map (Target.shown root)))

/-- What the part at a place stands for. No more references can follow each other than there are texts,
unless one of them is met again. -/
def dereference (root : Datum) : Nat → Place → Except DocumentError Target
  | 0, _ => .error .circular
  | depth + 1, p =>
    match root.part? p with
    | some (.text s) =>
      if refers s.toList then textTarget root (dereference root depth) p.dropLast s
      else .ok (.place p)
    | _ => .ok (.place p)

def target (root : Datum) (p : Place) : Except DocumentError Target :=
  dereference root (root.texts.length + 1) p

/-- The part at a place with all references in it followed. No more containers can lie in each other than
there are, unless one of them lies in itself. -/
def expand (root : Datum) : Nat → Place → Except DocumentError Datum
  | 0, _ => .error .circular
  | depth + 1, p =>
    let inner (i : Nat) : Except DocumentError Datum := do
      match ← target root (p ++ [i]) with
      | .text s => return .text s
      | .place q => expand root depth q
    match (root.part? p).getD .null with
    | .list items => do return .list (← (List.range items.length).mapM inner)
    | .map entries => do
      let values ← (List.range entries.length).mapM inner
      return .map ((entries.map Prod.fst).zip values)
    | d => .ok d

def resolveReferences (root : Datum) : Except DocumentError Datum := expand root (root.size + 1) []

def checkText (s : String) : Except DocumentError Unit :=
  if !refers s.toList || (pieces? s).isSome then .ok () else .error .badReference

def checkName : Datum → Except DocumentError Unit
  | .null => .error .nameless
  | _ => .ok ()

mutual

def checkData : Datum → Except DocumentError Unit
  | .text s => checkText s
  | .list items => checkItems items
  | .map entries => checkEntries entries
  | _ => .ok ()

def checkItems : List Datum → Except DocumentError Unit
  | [] => .ok ()
  | d :: ds => do
    checkData d
    checkItems ds

def checkEntries : List (Datum × Datum) → Except DocumentError Unit
  | [] => .ok ()
  | (name, value) :: es => do
    checkName name
    checkData value
    checkEntries es

end

end Chip8.Document
