import Chip8.Datum.Mapping
import Chip8.Machine

/-! Settings, read from plain data. Unknown names are reported first, all of them in order, then what
is wrong with the dialect, the speed and the seed, in that order. -/

namespace Chip8

namespace Dialect

def shiftName : String := "originalShiftBehavior"

def indexName : String := "incrementIndex"

def isKnown (name : Datum) : Bool := name.isText shiftName || name.isText indexName

def refuse (names : List Datum) : Error :=
  match Datum.texts? names with
  | some ss => .refusal (.ofNames ss)
  | none =>
    match Datum.sortNames names with
    | .error e => e
    | .ok [] => .refusal (.ofNames [])
    | .ok (d :: _) => .nameKind 0 d.kind

def setting (name : String) (entries : List (Datum × Datum)) : Bool :=
  match Datum.lookup name entries with
  | some d => d.truthy
  | none => false

def ofEntries (entries : List (Datum × Datum)) : Dialect :=
  ⟨setting shiftName entries, setting indexName entries⟩

/-- Any datum with parts is checked for unknown names, but only a mapping has values to go with
them. -/
def ofDatum (d : Datum) : Except Error Dialect := do
  let names ← (← d.parts).mapM Datum.asName
  let unknown := Datum.distinct (names.filter fun n => !isKnown n)
  if unknown.isEmpty then
    match d with
    | .map entries => .ok (ofEntries entries)
    | d => .error (.noAttribute d.kind "items")
  else .error (refuse unknown)

def toEntries (d : Dialect) : List (String × Bool) :=
  [(shiftName, d.shiftsSecond), (indexName, d.advancesIndex)]

end Dialect

/-- Instructions per frame, the seed of the random bytes, and the dialect. -/
structure Settings where
  speed : Nat := 8
  seed : Int := 0
  dialect : Dialect := {}
deriving DecidableEq, Repr

namespace Settings

def speedName : String := "speed"

def seedName : String := "seed"

def dialectName : String := "quirks"

def isKnown (name : Datum) : Bool :=
  name.isText speedName || name.isText seedName || name.isText dialectName

def checkNames (entries : List (Datum × Datum)) : Except Error Unit :=
  match (entries.map Prod.fst).filter fun n => !isKnown n with
  | [] => .ok ()
  | unknown =>
    match Datum.sortNames unknown with
    | .ok names => .error (.unknownSettings names)
    | .error e => .error e

def readDialect (entries : List (Datum × Datum)) : Except Error Dialect :=
  match Datum.lookup dialectName entries with
  | none => .ok {}
  | some d => if d.truthy then Dialect.ofDatum d else .ok {}

def readNumber (name : String) (default : Int) (entries : List (Datum × Datum)) :
    Except Error Int :=
  match Datum.lookup name entries with
  | none => .ok default
  | some d =>
    match d.toInt with
    | .ok n => .ok n
    | .error e => .error (.number e)

def readSpeed (entries : List (Datum × Datum)) : Except Error Nat := do
  let n ← readNumber speedName 8 entries
  if n < 1 then .error (.slowSpeed n) else .ok n.toNat

def ofEntries (entries : List (Datum × Datum)) : Except Error Settings := do
  checkNames entries
  let dialect ← readDialect entries
  let speed ← readSpeed entries
  let seed ← readNumber seedName 0 entries
  return { speed, seed, dialect }

def ofDatum (d : Datum) : Except Error Settings := do ofEntries (← d.entries)

def checkSeed (seed : Int) : Except Error Unit :=
  if fitsSigned 64 seed then .ok () else .error .seedRange

end Settings

def Machine.create (seed : Int) (dialect : Dialect) : Except Error Machine := do
  Settings.checkSeed seed
  return Machine.powerOn seed dialect

end Chip8
