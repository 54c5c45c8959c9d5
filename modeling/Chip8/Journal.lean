import Chip8.Error
import Chip8.Journal.Level
import Chip8.Journal.Message

/-! A journal keeps the messages that are at least as urgent as its threshold, in the order in which
they come. An entry carries the seconds since the journal was opened, if the journal stamps its
entries; the clock is read once for every stamp. -/

namespace Chip8

/-- The readings that a clock still has to give; the last one repeats. -/
structure Clock where
  upcoming : List Float
deriving Repr

def Clock.read (c : Clock) : Float × Clock :=
  match c.upcoming with
  | [] => (0, c)
  | [t] => (t, c)
  | t :: ts => (t, ⟨ts⟩)

structure Entry where
  level : Level
  stamp : Option Float
  message : Message
deriving Repr

structure Journal where
  name : String
  threshold : Level
  coloured : Bool
  stamped : Bool
  clock : Clock
  opened : Float
  entries : Array Entry
deriving Repr

namespace Journal

/-- A fresh journal. Its clock is read once. -/
def start (name : String) (threshold : Level) (coloured stamped : Bool) (clock : Clock) : Journal :=
  let (opened, clock) := clock.read
  { name, threshold, coloured, stamped, clock, opened, entries := #[] }

def levelName : Datum → Except Error String
  | .text s => .ok s
  | d => .error (.noAttribute d.kind "upper")

def readLevel (d : Datum) : Except Error Level := do
  let s ← levelName d
  match Level.ofName? s with
  | some l => return l
  | none => throw (.unknownLevel s Level.names)

def listedLevel (d : Datum) : Except Error Level := do
  match Level.ofName? (← levelName d) with
  | some l => return l
  | none => throw .unlistedLevel

def accepts (j : Journal) (level : Level) : Bool := j.threshold ≤ level

def log (j : Journal) (level : Level) (message : Message) : Journal :=
  if j.accepts level then
    if j.stamped then
      let (now, clock) := j.clock.read
      { j with clock, entries := j.entries.push ⟨level, some (now - j.opened), message⟩ }
    else { j with entries := j.entries.push ⟨level, none, message⟩ }
  else j

def logAll (j : Journal) (level : Level) (messages : List Message) : Journal :=
  messages.foldl (fun j m => j.log level m) j

def settingLines (figures : List (String × Datum)) : List Message :=
  figures.map fun (name, value) => .setting name value

/-- The lines go on to the first figure that the host cannot write. -/
def logRunStart (j : Journal) (figures : List (String × Datum))
    (limit : Option Nat := some Text.digitLimit) : Journal × Option Error :=
  let shown := figures.takeWhile fun (_, value) => value.number?.all (Text.writes limit)
  let lines := .rule :: .runStarted :: settingLines shown
  if shown.length = figures.length then (j.logAll .info (lines ++ [.rule]), none)
  else (j.logAll .info lines, some (.unwritten limit))

/-- The time of the whole run is read before the first line is written. -/
def logRunEnd (j : Journal) (figures : List (String × Datum)) : Journal :=
  let (now, clock) := j.clock.read
  let elapsed := now - j.opened
  let j := { j with clock }
  j.logAll .info (.rule :: .runFinished elapsed :: settingLines figures ++ [.rule])

def padText (width : Nat) (cs : List Char) : String :=
  String.ofList (Text.padLeft ' ' width cs)

def stampText : Option Float → String
  | none => ""
  | some t => "[" ++ padText 8 (Decimal.fixed 2 t) ++ "s]"

def escape (code : String) : String := "\x1b[" ++ code ++ "m"

def levelText (coloured : Bool) (level : Level) : String :=
  let tag := "[" ++ padText 8 level.name.toList ++ "]"
  if coloured then escape level.colour ++ tag ++ escape "0" else tag

def line (j : Journal) (e : Entry) : String :=
  stampText e.stamp ++ levelText j.coloured e.level ++ "[" ++ j.name ++ "] " ++ e.message.render

def linesFrom (j : Journal) (k : Nat) : List String := (j.entries.toList.drop k).map j.line

def lines (j : Journal) : List String := j.linesFrom 0

end Journal
end Chip8
