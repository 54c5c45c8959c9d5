import Chip8.Datum
import Chip8.Text.Numeral

/-! Reading a datum as a whole number. A boolean counts as 0 or 1, a fraction loses its fractional
part, and a text has to be a numeral. -/

namespace Chip8

inductive NumberError where
  | malformed (base : Nat) (text : String)
  | tooLong (limit digits : Nat)
  | unwritable (limit : Nat)
  | notNumber (kind : String)
  | infinite
  | undefined
deriving DecidableEq, Repr

namespace NumberError

def shownLength : Nat := 200

def lengthMessage (limit : Nat) (found : String) : String :=
  "Exceeds the limit (" ++ toString limit ++ " digits) for integer string conversion" ++ found ++
    "; use sys.set_int_max_str_digits() to increase the limit"

def message : NumberError → String
  | malformed base s =>
    "invalid literal for int() with base " ++ toString base ++ ": " ++
      String.ofList ((Text.quoted s).toList.take shownLength)
  | tooLong limit n => lengthMessage limit (": value has " ++ toString n ++ " digits")
  | unwritable limit => lengthMessage limit ""
  | notNumber kind =>
    "int() argument must be a string, a bytes-like object or a real number, not '" ++ kind ++ "'"
  | infinite => "cannot convert float infinity to integer"
  | undefined => "cannot convert float NaN to integer"

end NumberError

/-- The number, if a host with a limit on digits can read it. -/
def Datum.readInt (limit : Option Nat) : Datum → Except NumberError Int
  | int n => .ok n
  | bool b => .ok (if b then 1 else 0)
  | float f =>
    match Decimal.Reading.ofFloat f with
    | .finite b => .ok b.truncate
    | .infinite _ => .error .infinite
    | .undefined => .error .undefined
  | text s =>
    match Text.readNumeral s limit with
    | .ok n => .ok n
    | .error .malformed => .error (.malformed 10 s)
    | .error (.tooLong k n) => .error (.tooLong k n)
  | d => .error (.notNumber d.kind)

def Datum.toInt : Datum → Except NumberError Int := readInt (some Text.digitLimit)

end Chip8
