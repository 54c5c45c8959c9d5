import Chip8.CommandLine.Run
import Chip8.Picture.Encoding
import Chip8.Progress

/-! The command: runs a program file, prints the journal and writes the picture. -/

namespace Chip8.CommandLine

def readFile (path : String) : IO (Except FileError (List Byte)) := do
  try
    let bytes ← IO.FS.readBinFile path
    return .ok (bytes.toList.map fun b => BitVec.ofNat 8 b.toNat)
  catch _ => return .error .missing

def openFolder (o : Options) : IO Folder := do
  let paths := o.program :: o.configPath?.toList
  let files ← paths.mapM fun path => do return (path, ← readFile path)
  return {
    read := fun path => (files.lookup path).getD (.error .missing)
    accepts := fun _ => .ok () }

def helpLines : List String :=
  "usage: chip8 rom" :: Switch.all.map fun s =>
    "  " ++ s.title ++ if s.takesValue then " VALUE" else ""

def describe (o : Options) : IO Unit :=
  match o.quiet, o.frames with
  | false, .value frames =>
    match Progress.start frames none true 0 with
    | .ok bar => IO.eprintln bar.description
    | .error _ => pure ()
  | _, _ => pure ()

def showEnding : Ending → IO Unit
  | .finished _ => pure ()
  | .misused .help => helpLines.forM IO.println
  | .misused m => IO.eprintln m.report
  | .failed e => IO.eprintln ("chip8: " ++ e.raised.message)

def perform (texts : List String) (coloured : Bool) : IO Report :=
  match Options.ofArguments texts with
  | .error m => return { ending := .misused m }
  | .ok o => do
    describe o
    return run (← openFolder o) coloured ⟨[]⟩ texts

end Chip8.CommandLine

open Chip8.CommandLine in
def main (texts : List String) : IO UInt32 := do
  let report ← perform texts (← (← IO.getStdout).isTty)
  report.lines.forM IO.println
  match report.saved with
  | some (name, file) => IO.FS.writeBinFile name file.encode
  | none => pure ()
  showEnding report.ending
  return UInt32.ofNat report.ending.status
