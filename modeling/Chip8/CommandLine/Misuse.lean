import Chip8.CommandLine.Switch
import Chip8.Text.Quoted
import Chip8.Text.Split

/-! What can be wrong with a command line, and the text for it. Asking for help is no mistake, but ends
the reading too. -/

namespace Chip8.CommandLine

inductive Misuse where
  | help
  | ambiguous (text : String) (candidates : List Switch)
  | missingValue (s : Switch)
  | unexpectedValue (s : Switch) (text : String)
  | notNumber (s : Switch) (text : String)
  | notListed (s : Switch) (text : String) (choices : List String)
  | missingProgram
  | unrecognized (texts : List String)
deriving DecidableEq, Repr

namespace Misuse

def about (s : Switch) (text : String) : String := "argument " ++ s.title ++ ": " ++ text

def message : Misuse → String
  | help => ""
  | ambiguous text candidates =>
    "ambiguous option: " ++ text ++ " could match " ++ ", ".intercalate (candidates.map Switch.long)
  | missingValue s => about s "expected one argument"
  | unexpectedValue s text => about s ("ignored explicit argument " ++ Text.quoted text)
  | notNumber s text => about s ("invalid int value: " ++ Text.quoted text)
  | notListed s text choices =>
    about s ("invalid choice: " ++ Text.quoted text ++ " (choose from " ++
      ", ".intercalate (choices.map Text.quoted) ++ ")")
  | missingProgram => "the following arguments are required: rom"
  | unrecognized texts => "unrecognized arguments: " ++ " ".intercalate texts

def mark : String := ": error: "

def report (m : Misuse) : String := "chip8" ++ mark ++ m.message

/-- The last line of the report, from its first mark on if there is one on it. -/
def summary (m : Misuse) : String :=
  let line := ((Text.lines (Text.trim m.report.toList)).getLast?).getD []
  String.ofList ((Text.after? mark.toList line).getD line)

def status : Misuse → Nat
  | help => 0
  | _ => 2

end Misuse
end Chip8.CommandLine
