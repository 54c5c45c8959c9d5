import Chip8.Progress
import Chip8.Session

/-! Running a session for a number of frames. A run stops at the first fault, and also when the program
waits for a key, since nothing can deliver one. -/

namespace Chip8

structure Summary where
  frames : Nat
  steps : Nat
  soundFrames : Nat
  awaitingKey : Bool
  fault : Option Fault
deriving DecidableEq, Repr

def Summary.figures (r : Summary) : List (String × Datum) :=
  [("frames", .int r.frames),
    ("steps", .int r.steps),
    ("sound_frames", .int r.soundFrames),
    ("awaiting_key", .bool r.awaitingKey),
    ("error", match r.fault with
      | none => .null
      | some f => .text f.message)]

/-- Frames completed so far, and those of them that ended with the speaker on. -/
structure Tally where
  frames : Nat := 0
  sounding : Nat := 0
deriving DecidableEq, Repr

def Tally.count (t : Tally) (sounding : Bool) : Tally :=
  ⟨t.frames + 1, if sounding then t.sounding + 1 else t.sounding⟩

namespace Session

def runFrom (t : Tally) : Nat → Session → Session × Tally × Option Fault
  | 0, s => (s, t, none)
  | n + 1, s =>
    match s.cycle with
    | (r, some f) => (r, t, some f)
    | (r, none) =>
      let t := t.count r.soundActive
      if r.isAwaiting then (r.log .info (.parked s.machine.pc), t, none)
      else runFrom t n r

def runFrames (s : Session) (frames : Int) : Session × Summary :=
  let (r, t, fault) := runFrom {} frames.toNat s
  let summary : Summary :=
    { frames := t.frames
      steps := r.steps - s.steps
      soundFrames := t.sounding
      awaitingKey := r.isAwaiting
      fault }
  ({ r with journal := r.journal.logRunEnd summary.figures }, summary)

/-- A run has a progress bar, hidden or not, and the bar is made before the first frame. -/
def run (s : Session) (frames : Int) (description : Option String := none) :
    Session × Except Error Summary :=
  match Progress.start frames description false 0 s.digitLimit with
  | .error e => (s, .error e)
  | .ok _ =>
    let (r, summary) := s.runFrames frames
    (r, .ok summary)

end Session
end Chip8
