import Chip8.CommandLine.Misuse
import Chip8.Text.Numeral

/-! The arguments of a command line, each by itself. A switch may be shortened as long as it remains the
only one that begins so, and its value may follow an equals sign. A negative number and a text with a
space are no switches, and neither is anything behind two dashes that stand alone. -/

namespace Chip8.CommandLine

inductive Argument where
  | plain (text : String)
  | boundary
  | switch (s : Switch) (value : Option String)
  | unknown (text : String)
deriving DecidableEq, Repr

namespace Argument

def isDigit (c : Char) : Bool := (Text.digitValue? c).isSome

def dropBreak (cs : List Char) : List Char :=
  if cs.getLast? = some '\n' then cs.dropLast else cs

def isDecimal (cs : List Char) : Bool :=
  let whole := cs.takeWhile isDigit
  match cs.drop whole.length with
  | [] => !whole.isEmpty
  | '.' :: behind => !behind.isEmpty && behind.all isDigit
  | _ => false

def isNegativeNumber : List Char → Bool
  | '-' :: cs => isDecimal (dropBreak cs)
  | _ => false

def cut (text : String) : String × Option String :=
  let cs := text.toList
  let name := cs.takeWhile (· ≠ '=')
  match cs.drop name.length with
  | [] => (text, none)
  | _ :: value => (String.ofList name, some (String.ofList value))

def ofShort (cs : List Char) : Option Argument :=
  match cs with
  | 'h' :: rest =>
    if rest.head? = some '=' then some (switch .help (some (String.ofList (rest.drop 1))))
    else
      match rest.dropWhile (· = 'h') with
      | [] => some (switch .help none)
      | rest => some (switch .help (some (String.ofList rest)))
  | _ => none

def candidates (text : String) : List Argument :=
  match text.toList with
  | '-' :: '-' :: _ =>
    let (name, value) := cut text
    (Switch.beginningWith name).map fun s => switch s value
  | '-' :: cs => (ofShort cs).toList
  | _ => []

def full? (text : String) : Option Argument :=
  let (name, value) := cut text
  match Switch.named text, Switch.named name with
  | some s, _ => some (switch s none)
  | none, some s => some (switch s value)
  | none, none => none

def switches (as : List Argument) : List Switch :=
  as.filterMap fun
    | switch s _ => some s
    | _ => none

def ofDashed (text : String) : Except Misuse Argument :=
  match full? text with
  | some a => .ok a
  | none =>
    match candidates text with
    | [a] => .ok a
    | [] =>
      if isNegativeNumber text.toList || text.toList.contains ' ' then .ok (plain text)
      else .ok (unknown text)
    | as => .error (.ambiguous text (switches as))

def ofText (text : String) : Except Misuse Argument :=
  match text.toList with
  | '-' :: _ :: _ => ofDashed text
  | _ => .ok (plain text)

/-- The arguments in their order, or the first mistake among them. -/
def ofTexts : List String → Except Misuse (List Argument)
  | [] => .ok []
  | text :: texts =>
    if text = "--" then .ok (boundary :: texts.map plain)
    else do
      let a ← ofText text
      return a :: (← ofTexts texts)

end Argument
end Chip8.CommandLine
