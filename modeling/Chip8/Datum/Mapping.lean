import Chip8.Error

/-! Data that stand for mappings. A mapping stands for itself, and a list stands for the mapping whose
entries are its items, each a pair. Of two entries with one name the later value counts, at the place
of the earlier one. -/

namespace Chip8.Datum

def quotient? : Datum → Option (Int × Nat)
  | bool b => some (if b then 1 else 0, 1)
  | int n => some (n, 1)
  | float f =>
    match Decimal.Reading.ofFloat f with
    | .finite b =>
      let (p, q) := b.ratio
      some (if b.negative then -(p : Int) else p, q)
    | .infinite negative => some (if negative then -1 else 1, 0)
    | .undefined => none
  | _ => none

def smaller : Int × Nat → Int × Nat → Bool
  | (p, 0), (r, 0) => p < r
  | (p, q), (r, s) => p * s < r * q

/-- Equality of names: texts by their characters and numbers of all kinds by their value. -/
def sameName : Datum → Datum → Bool
  | null, null => true
  | text s, text t => s = t
  | d, e =>
    match d.quotient?, e.quotient? with
    | some p, some q => !smaller p q && !smaller q p
    | _, _ => false

def put (name value : Datum) : List (Datum × Datum) → List (Datum × Datum)
  | [] => [(name, value)]
  | (k, v) :: es => if k.sameName name then (k, value) :: es else (k, v) :: put name value es

def asName : Datum → Except Error Datum
  | list items => .error (.unhashable (list items).kind)
  | map entries => .error (.unhashable (map entries).kind)
  | d => .ok d

def characters (s : String) : List Datum := s.toList.map fun c => text c.toString

def parts? : Datum → Option (List Datum)
  | text s => some (characters s)
  | list items => some items
  | map entries => some (entries.map Prod.fst)
  | _ => none

def parts (d : Datum) : Except Error (List Datum) :=
  match d.parts? with
  | some ds => .ok ds
  | none => .error (.notIterable d.kind)

def asEntry (position : Nat) (d : Datum) : Except Error (Datum × Datum) :=
  match d.parts? with
  | none => .error (.entryKind position)
  | some [name, value] => do
    let name ← name.asName
    return (name, value)
  | some ds => .error (.entryLength position ds.length)

def entriesFrom (position : Nat) (es : List (Datum × Datum)) :
    List Datum → Except Error (List (Datum × Datum))
  | [] => .ok es
  | d :: ds => do
    let (name, value) ← d.asEntry position
    entriesFrom (position + 1) (put name value es) ds

def entries : Datum → Except Error (List (Datum × Datum))
  | map es => .ok es
  | d => do entriesFrom 0 [] (← d.parts)

def texts? : List Datum → Option (List String)
  | [] => some []
  | text s :: ds => (texts? ds).map (s :: ·)
  | _ :: _ => none

def isNumeric : Datum → Bool
  | bool _ => true
  | int _ => true
  | float _ => true
  | _ => false

def notAbove (d e : Datum) : Bool :=
  match d.quotient?, e.quotient? with
  | some p, some q => !smaller q p
  | _, _ => true

def distinct (ds : List Datum) : List Datum :=
  ds.foldl (fun seen d => if seen.any (·.sameName d) then seen else seen ++ [d]) []

def sortNames (ds : List Datum) : Except Error (List Datum) :=
  match texts? ds with
  | some ss => .ok ((ss.mergeSort (· ≤ ·)).map text)
  | none =>
    match ds with
    | a :: b :: _ =>
      if ds.all isNumeric then .ok (ds.mergeSort notAbove) else .error (.incomparable b.kind a.kind)
    | _ => .ok ds

end Chip8.Datum
