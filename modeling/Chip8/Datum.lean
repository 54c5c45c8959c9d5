import Chip8.Decimal
import Chip8.Text.Quoted

/-! Plain data: what a settings document holds, and what a caller may offer as a key, a byte or a
setting. `written` shows a datum with text in quotes, `plain` shows a text as it stands. -/

namespace Chip8

inductive Datum where
  | null
  | bool (b : Bool)
  | int (n : Int)
  | float (f : Float)
  | text (s : String)
  | list (items : List Datum)
  | map (entries : List (Datum × Datum))
deriving Repr, Inhabited

namespace Datum

def kind : Datum → String
  | null => "NoneType"
  | bool _ => "bool"
  | int _ => "int"
  | float _ => "float"
  | text _ => "str"
  | list _ => "list"
  | map _ => "dict"

def truthy : Datum → Bool
  | null => false
  | bool b => b
  | int n => n ≠ 0
  | float f => f != 0
  | text s => !s.isEmpty
  | list items => !items.isEmpty
  | map entries => !entries.isEmpty

def number? : Datum → Option Int
  | int n => some n
  | _ => none

def isText (name : String) : Datum → Bool
  | text s => s = name
  | _ => false

def lookup (name : String) (entries : List (Datum × Datum)) : Option Datum :=
  (entries.find? fun e => e.1.isText name).map Prod.snd

def writtenBool (b : Bool) : String := if b then "True" else "False"

mutual

def written : Datum → String
  | null => "None"
  | bool b => writtenBool b
  | int n => toString n
  | float f => Decimal.shortest f
  | text s => Text.quoted s
  | list items => Text.bracketed (writtenItems items)
  | map entries => "\x7b" ++ ", ".intercalate (writtenEntries entries) ++ "\x7d"

def writtenItems : List Datum → List String
  | [] => []
  | d :: ds => d.written :: writtenItems ds

def writtenEntries : List (Datum × Datum) → List String
  | [] => []
  | (k, v) :: es => (k.written ++ ": " ++ v.written) :: writtenEntries es

end

def plain : Datum → String
  | text s => s
  | d => d.written

end Datum
end Chip8
