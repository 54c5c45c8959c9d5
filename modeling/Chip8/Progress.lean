import Chip8.Datum.Mapping
import Chip8.Text.Numeral

/-! A progress bar over a number of frames. A bar that is switched off shows nothing and counts
nothing, but its description is written all the same. -/

namespace Chip8

structure Progress where
  total : Int
  enabled : Bool
  description : String
  count : Int
deriving DecidableEq, Repr

namespace Progress

def unit : String := "frame"

def defaultDescription (n : Int) : String := "Running (" ++ Text.grouped n ++ " frames)"

/-- Unless a description is given, the total is written into one. -/
def describe (total : Int) (limit : Option Nat) : Option String → Except Error String
  | some description => .ok description
  | none => if Text.writes limit total then .ok (defaultDescription total) else .error (.unwritten limit)

def start (total : Int) (description : Option String) (enabled : Bool) (count : Int)
    (limit : Option Nat := some Text.digitLimit) : Except Error Progress := do
  let description ← describe total limit description
  return { total, enabled, description, count }

def update (p : Progress) (amount : Int) : Progress :=
  if p.enabled then { p with count := p.count + amount } else p

def builder : String := "build_progress_bar"

def clash? (args more : List (Datum × Datum)) : Option Datum :=
  (more.find? fun (name, _) => args.any fun e => e.1.sameName name).map Prod.fst

def checkNames (args more : List (Datum × Datum)) : Except Error Unit :=
  match clash? args more with
  | some name => .error (.twiceNamed ("chip8vm.logging." ++ builder) name.plain)
  | none =>
    if (Datum.lookup "n" (args ++ more)).isSome then .error (.twicePlaced builder "n") else .ok ()

def checkUnit (named : List (Datum × Datum)) : Except Error Unit :=
  if (Datum.lookup "unit" named).isSome then .error (.twiceNamed "tqdm.std.tqdm" "unit") else .ok ()

def knownNames : List String := [
  "desc", "enabled", "total", "disable", "initial", "iterable", "leave", "file", "ncols",
  "mininterval", "maxinterval", "miniters", "ascii", "unit_scale", "dynamic_ncols", "smoothing",
  "bar_format", "position", "postfix", "unit_divisor", "write_bytes", "lock_args", "nrows",
  "colour", "delay", "gui"]

def unknownNames (named : List (Datum × Datum)) : List (Datum × Datum) :=
  named.filter fun (name, _) => !knownNames.any fun known => name.isText known

/-- A bar with what is given by name. A total among it is passed over, and a bar that is switched off does
not look at names that it does not know. -/
def ofNamed (total : Int) (args more : List (Datum × Datum)) : Except Error Progress := do
  checkNames args more
  let named := args ++ more
  let unknown := unknownNames named
  let description :=
    match Datum.lookup "desc" named with
    | none => none
    | some .null => none
    | some d => some d.plain
  let enabled := ((Datum.lookup "enabled" named).map Datum.truthy).getD true
  let count :=
    match Datum.lookup "initial" named with
    | some d => d.toInt.toOption.getD 0
    | none => 0
  let bar ← start total description enabled count
  checkUnit named
  if enabled && !unknown.isEmpty then throw (.unknownNames unknown)
  return bar

end Progress
end Chip8
