import Chip8.CommandLine.Argument
import Chip8.Journal.Level
import Chip8.Palette
import Chip8.Text.Numeral

/-! The options of a run, read from the command line. Of several values for one switch the last counts.
One argument that belongs to no switch is the name of the program's file; all others are mistakes, and
are reported when all switches are read. Two dashes behind the equals sign of a switch are no value at all
and are not checked. -/

namespace Chip8.CommandLine

inductive Given (α : Type) where
  | value (a : α)
  | nothing
deriving DecidableEq, Repr

def Given.toDatum {α : Type} (ofValue : α → Datum) : Given α → Datum
  | value a => ofValue a
  | nothing => .list []

structure Options where
  program : String
  frames : Given Int := .value 600
  speed : Option (Given Int) := none
  seed : Option (Given Int) := none
  secondShift : Bool := false
  indexAdvance : Bool := false
  config : Option (Given String) := none
  snapshot : Option (Given String) := none
  scheme : Given String := .value Palette.defaultName
  level : Given Level := .value .info
  quiet : Bool := false
deriving DecidableEq, Repr

/-- Options while they are read: whether there is a program yet, and the arguments left over. -/
structure Draft where
  options : Options := { program := "" }
  hasProgram : Bool := false
  extras : List String := []

namespace Draft

def setProgram (d : Draft) (text : String) : Draft :=
  { d with options := { d.options with program := text }, hasProgram := true }

def leave (d : Draft) (text : String) : Draft := { d with extras := d.extras ++ [text] }

def number (s : Switch) (text : String) : Except Misuse Int :=
  match Text.readNumeral text with
  | .ok n => .ok n
  | .error _ => .error (.notNumber s text)

def schemes : List String := Palette.names.mergeSort (· ≤ ·)

def scheme (s : Switch) (text : String) : Except Misuse String :=
  if schemes.contains text then .ok text else .error (.notListed s text schemes)

def level (s : Switch) (text : String) : Except Misuse Level :=
  match Level.ofName? text with
  | some l => .ok l
  | none => .error (.notListed s (Text.upper text) Level.names)

def given {α : Type} (read : Switch → String → Except Misuse α) (s : Switch) (text : String) :
    Except Misuse (Given α) :=
  if text = "--" then .ok .nothing else (read s text).map .value

def anyText (_ : Switch) (text : String) : Except Misuse String := .ok text

def set (d : Draft) (s : Switch) (text : String) : Except Misuse Draft := do
  let o := d.options
  match s with
  | .frames => return { d with options := { o with frames := ← given number s text } }
  | .speed => return { d with options := { o with speed := some (← given number s text) } }
  | .seed => return { d with options := { o with seed := some (← given number s text) } }
  | .config => return { d with options := { o with config := some (← given anyText s text) } }
  | .snapshot => return { d with options := { o with snapshot := some (← given anyText s text) } }
  | .colourScheme => return { d with options := { o with scheme := ← given scheme s text } }
  | .logLevel => return { d with options := { o with level := ← given level s text } }
  | _ => throw (.unexpectedValue s text)

def turnOn (d : Draft) (s : Switch) : Except Misuse Draft :=
  let o := d.options
  match s with
  | .help => .error .help
  | .secondShift => .ok { d with options := { o with secondShift := true } }
  | .indexAdvance => .ok { d with options := { o with indexAdvance := true } }
  | .noProgress => .ok { d with options := { o with quiet := true } }
  | s => .error (.missingValue s)

/-- A boundary next to the program is dropped with it, on either side; elsewhere it is left over. -/
def read (d : Draft) : List Argument → Except Misuse Draft
  | [] => .ok d
  | .switch s (some text) :: as => do read (← d.set s text) as
  | .switch s none :: as =>
    match s.takesValue, as with
    | true, .plain text :: as => do read (← d.set s text) as
    | _, as => do read (← d.turnOn s) as
  | .unknown text :: as => read (d.leave text) as
  | .plain text :: as =>
    match d.hasProgram, as with
    | true, as => read (d.leave text) as
    | false, .boundary :: as => read (d.setProgram text) as
    | false, as => read (d.setProgram text) as
  | .boundary :: as =>
    match d.hasProgram, as with
    | false, .plain text :: as => read (d.setProgram text) as
    | _, as => read (d.leave "--") as

def finish (d : Draft) : Except Misuse Options :=
  if !d.hasProgram then .error .missingProgram
  else if d.extras.isEmpty then .ok d.options
  else .error (.unrecognized d.extras)

end Draft

def Options.ofArguments (texts : List String) : Except Misuse Options := do
  (← ({} : Draft).read (← Argument.ofTexts texts)).finish

end Chip8.CommandLine
