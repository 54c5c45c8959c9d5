import Chip8.CommandLine.Options
import Chip8.Document
import Chip8.Picture
import Chip8.Session.Run
import Chip8.Text.Split

/-! A run from the command line. What the command line says about speed and seed goes over what the
settings file says; a switch for a behaviour can only add it to those of the file. -/

namespace Chip8.CommandLine

namespace Options

def number (name : String) : Option (Given Int) → List (Datum × Datum)
  | none => []
  | some n => [(.text name, n.toDatum .int)]

def overlay (o : Options) : List (Datum × Datum) :=
  number Settings.speedName o.speed ++ number Settings.seedName o.seed

def addTo (o : Options) (d : Dialect) : Dialect :=
  { shiftsSecond := o.secondShift || d.shiftsSecond
    advancesIndex := o.indexAdvance || d.advancesIndex }

def settingsOver (o : Options) (base : Datum) : Except Error Settings := do
  let s ← Settings.ofLayers base o.overlay
  return { s with dialect := o.addTo s.dialect }

def path? : Option (Given String) → Option String
  | some (.value path) => if path.isEmpty then none else some path
  | _ => none

def configPath? (o : Options) : Option String := (path? o.config).map shortPath

def fileText (bytes : List Byte) : Except Error String :=
  match String.fromUTF8? (ByteArray.mk (bytes.map fun b => UInt8.ofNat b.toNat).toArray) with
  | some s => .ok s
  | none => .error (.document .undecodable)

def base (o : Options) (folder : Folder) : Except Error Datum :=
  match o.configPath? with
  | none => .ok (.map [])
  | some path => do Document.load (← fileText (← (folder.read path).mapError .file))

def settings (o : Options) (folder : Folder) : Except Error Settings := do
  o.settingsOver (← o.base folder)

end Options

def figures (o : Options) (s : Settings) : List (String × Datum) :=
  [("rom", .text o.program), ("frames", o.frames.toDatum .int), ("speed", .int s.speed),
    ("seed", .int s.seed)] ++
    s.dialect.toEntries.map fun (name, b) => (name, .bool b)

inductive Ending where
  | finished (fault : Option Fault)
  | misused (m : Misuse)
  | failed (e : Error)
deriving Repr

def Ending.status : Ending → Nat
  | finished none => 0
  | finished (some _) => 1
  | misused m => m.status
  | failed _ => 1

structure Report where
  ending : Ending
  lines : List String := []
  saved : Option (String × Picture.File) := none
deriving Repr

namespace Report

def failed (e : Error) (j : Journal) : Report :=
  { ending := .failed e, lines := j.lines }

def printed (r : Report) : List String :=
  r.lines.flatMap fun l => (Text.lines (l.toList ++ ['\n'])).map String.ofList

def picture (o : Options) (folder : Folder) (s : Session) (path : String) :
    Except Error Picture.File :=
  match o.scheme with
  | .nothing => .error (.unhashable (Datum.list []).kind)
  | .value scheme =>
    Picture.save folder s.machine.screen.toDisplay path Picture.defaultScale scheme

def ofSession (o : Options) (folder : Folder) (s : Session) (r : Summary) : Report :=
  let done (s : Session) (saved : Option (String × Picture.File)) : Report :=
    { ending := .finished r.fault, lines := s.journal.lines, saved }
  match Options.path? o.snapshot with
  | none => done s none
  | some path =>
    match picture o folder s path with
    | .error e => failed e s.journal
    | .ok file => done (s.log .info (.screenSaved path)) (some (path, file))

def start (o : Options) (folder : Folder) (j : Journal) : Except Error Session := do
  Session.create (← o.settings folder) j false

/-- A run of the loaded program. A count of frames that is nothing can be written down, but not shown with
the progress of the run. -/
def ofLoaded (o : Options) (folder : Folder) (s : Session) : Report :=
  match s.journal.logRunStart (figures o s.settings) s.digitLimit, o.frames with
  | (journal, some e), _ => failed e journal
  | (journal, none), .nothing => failed (.unformattable (Datum.list []).kind) journal
  | (journal, none), .value frames =>
    match { s with journal }.run frames with
    | (s, .error e) => failed e s.journal
    | (s, .ok r) => ofSession o folder s r

def ofOptions (o : Options) (folder : Folder) (j : Journal) : Report :=
  match start o folder j with
  | .error e => failed e j
  | .ok s =>
    match s.loadFile (folder.read o.program) with
    | (s, some e) => failed e s.journal
    | (s, none) => ofLoaded o folder s

end Report

def journalName : String := "Engine"

def run (folder : Folder) (coloured : Bool) (clock : Clock) (texts : List String) : Report :=
  match Options.ofArguments texts with
  | .error m => { ending := .misused m }
  | .ok o =>
    match o.level with
    | .nothing => { ending := .failed (.noAttribute (Datum.list []).kind "upper") }
    | .value level =>
      Report.ofOptions o folder (Journal.start journalName level coloured true clock)

end Chip8.CommandLine
