/-! The switches of the command line. -/

namespace Chip8.CommandLine

inductive Switch where
  | help
  | frames
  | speed
  | seed
  | secondShift
  | indexAdvance
  | config
  | snapshot
  | colourScheme
  | logLevel
  | noProgress
deriving DecidableEq, Repr

namespace Switch

def all : List Switch := [
  help, frames, speed, seed, secondShift, indexAdvance, config, snapshot, colourScheme, logLevel,
  noProgress]

def long : Switch → String
  | help => "--help"
  | frames => "--frames"
  | speed => "--speed"
  | seed => "--seed"
  | secondShift => "--original-shift"
  | indexAdvance => "--increment-index"
  | config => "--config"
  | snapshot => "--snapshot"
  | colourScheme => "--color-scheme"
  | logLevel => "--log-level"
  | noProgress => "--no-progress"

def title : Switch → String
  | help => "-h/--help"
  | s => s.long

def takesValue : Switch → Bool
  | help => false
  | secondShift => false
  | indexAdvance => false
  | noProgress => false
  | _ => true

def named (text : String) : Option Switch := all.find? fun s => s.long = text

def beginningWith (text : String) : List Switch := all.filter fun s => s.long.startsWith text

end Switch
end Chip8.CommandLine
