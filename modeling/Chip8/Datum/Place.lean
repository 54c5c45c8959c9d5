import Chip8.Datum.Mapping

/-! Places inside of data. A place is the way to it from the whole: at every step the number of an item of
a list or of an entry of a mapping. -/

namespace Chip8

abbrev Place := List Nat

namespace Datum

def children : Datum → List Datum
  | list items => items
  | map entries => entries.map Prod.snd
  | _ => []

def isContainer : Datum → Bool
  | list _ => true
  | map _ => true
  | _ => false

def part? (d : Datum) : Place → Option Datum
  | [] => some d
  | i :: p => (d.children[i]?).bind fun c => c.part? p

def replace (d : Datum) (value : Datum) : Place → Datum
  | [] => value
  | i :: p =>
    match d with
    | list items => list (items.modify i fun c => c.replace value p)
    | map entries => map (entries.modify i fun (name, c) => (name, c.replace value p))
    | d => d

def entryNumber? (name : Datum) (entries : List (Datum × Datum)) : Option Nat :=
  entries.findIdx? fun e => e.1.sameName name

mutual

def texts : Datum → List String
  | text s => [s]
  | list items => itemTexts items
  | map entries => entryTexts entries
  | _ => []

def itemTexts : List Datum → List String
  | [] => []
  | d :: ds => d.texts ++ itemTexts ds

def entryTexts : List (Datum × Datum) → List String
  | [] => []
  | (_, d) :: es => d.texts ++ entryTexts es

end

mutual

def size : Datum → Nat
  | list items => itemsSize items + 1
  | map entries => entriesSize entries + 1
  | _ => 1

def itemsSize : List Datum → Nat
  | [] => 0
  | d :: ds => d.size + itemsSize ds

def entriesSize : List (Datum × Datum) → Nat
  | [] => 0
  | (_, d) :: es => d.size + entriesSize es

end

end Datum
end Chip8
