import Chip8.Decimal
import Chip8.Error
import Chip8.Text.Split

/-! What a plain scalar stands for. A few words stand for nothing, for true and for false; whole
numbers have four bases and may be written in sixties, and fractions have a point or an exponent.
Everything else is a text. Underscores count for nothing in a number. -/

namespace Chip8.Document

def nothings : List String := ["", "~", "null", "Null", "NULL"]

def truths : List String := ["yes", "Yes", "YES", "true", "True", "TRUE", "on", "On", "ON"]

def falsehoods : List String := ["no", "No", "NO", "false", "False", "FALSE", "off", "Off", "OFF"]

def mergeMark : String := "<<"

def valueMark : String := "="

def reserved : List String := [mergeMark, valueMark]

def digitIn (base : Nat) (c : Char) : Option Nat :=
  let d? :=
    if c.isDigit then some (c.toNat - '0'.toNat)
    else if 'a' ≤ c && c ≤ 'f' then some (c.toNat - 'a'.toNat + 10)
    else if 'A' ≤ c && c ≤ 'F' then some (c.toNat - 'A'.toNat + 10)
    else none
  d?.filter (· < base)

def isDigitOrGap (c : Char) : Bool := c.isDigit || c = '_'

def digitsIn (base : Nat) (cs : List Char) : Option (List Nat) :=
  match cs.filter (· ≠ '_') with
  | [] => none
  | ds => ds.mapM (digitIn base)

def sixtieth : List Char → Option Nat
  | [c] => digitIn 10 c
  | [c, d] => do return (← digitIn 6 c) * 10 + (← digitIn 10 d)
  | _ => none

def startsWithDigit : List Char → Bool
  | c :: _ => c.isDigit
  | [] => false

def sixties : List (List Char) → Option (List Nat)
  | [] => none
  | lead :: rest => do
    if !startsWithDigit lead then none
    else return Text.ofDigits 10 (← digitsIn 10 lead) :: (← rest.mapM sixtieth)

def based? (base : Nat) (cs : List Char) : Option (Except NumberError Nat) :=
  if cs.isEmpty then none
  else if cs.all (· = '_') then some (.error (.malformed base ""))
  else (digitsIn base cs).map fun ds => .ok (Text.ofDigits base ds)

def limited (digits : List Char) (n : Nat) : Except NumberError Nat :=
  let count := (digits.filter (· ≠ '_')).length
  if Text.digitLimit < count then .error (.tooLong Text.digitLimit count) else .ok n

def magnitude? (cs : List Char) : Option (Except NumberError Nat) :=
  match cs with
  | '0' :: 'b' :: ds => based? 2 ds
  | '0' :: 'x' :: ds => based? 16 ds
  | '0' :: _ => based? 8 cs
  | _ =>
    if !startsWithDigit cs then none
    else if cs.contains ':' then
      (sixties (Text.splitOn ':' cs)).map fun ns =>
        limited (cs.takeWhile (· ≠ ':')) (Text.ofDigits 60 ns)
    else (digitsIn 10 cs).map fun ds => limited cs (Text.ofDigits 10 ds)

def exponent? (signed : Bool) : List Char → Option Int
  | [] => some 0
  | e :: cs =>
    let (negative, ds) := Text.splitSign cs
    if (e = 'e' || e = 'E') && !ds.isEmpty && ds.all Char.isDigit &&
        (!signed || ds.length < cs.length) then
      (digitsIn 10 ds).map fun ds =>
        if negative then -(Text.ofDigits 10 ds : Int) else Text.ofDigits 10 ds
    else none

def fraction (before behind : List Char) (exponent : Int) : Float :=
  let behind := behind.filter (· ≠ '_')
  let ds := (before ++ behind).filterMap (digitIn 10)
  Decimal.nearest (Text.ofDigits 10 ds) (exponent - behind.length)

def sixtyFraction? (before behind : List Char) : Option Float := do
  let ns ← sixties (Text.splitOn ':' before)
  let last := fraction (toString (ns.getLast?.getD 0)).toList behind 0
  let step (sum : Float × Nat) (n : Nat) : Float × Nat :=
    (sum.1 + Decimal.nearest n 0 * Decimal.nearest sum.2 0, sum.2 * 60)
  return (ns.dropLast.reverse.foldl step (last, 60)).1

def isGrouped (cs : List Char) : Bool :=
  (Text.splitOn '_' cs).all fun ds => !ds.isEmpty && ds.all Char.isDigit

def size? (signed : Bool) (cs : List Char) : Option Float :=
  let before := cs.takeWhile isDigitOrGap
  if cs.contains ':' then
    let before := cs.takeWhile (· ≠ '.')
    match cs.drop before.length with
    | _ :: behind => if behind.all isDigitOrGap then sixtyFraction? before behind else none
    | [] => none
  else
    match cs.drop before.length with
    | [] => none
    | '.' :: rest =>
      let behind := rest.takeWhile isDigitOrGap
      let tail := rest.drop behind.length
      if startsWithDigit before then
        (exponent? (!isGrouped before) tail).map (fraction before behind)
      else if before.isEmpty && !signed && startsWithDigit behind then
        (exponent? true tail).map (fraction [] behind)
      else none
    | tail =>
      if isGrouped before then (exponent? false tail).map (fraction before []) else none

def infinities : List String := [".inf", ".Inf", ".INF"]

def undefineds : List String := [".nan", ".NaN", ".NAN"]

def float? (cs : List Char) : Option Float :=
  let (negative, body) := Text.splitSign cs
  let size? : Option Float :=
    if undefineds.contains (String.ofList cs) then some (0 / 0)
    else if infinities.contains (String.ofList body) then some (1 / 0)
    else size? (body.length < cs.length) body
  size?.map fun f => if negative then -f else f

def whole? (cs : List Char) : Option (Except NumberError Int) :=
  let (negative, body) := Text.splitSign cs
  (magnitude? body).map fun r => r.map fun n => if negative then -(n : Int) else n

/-- The datum that a plain scalar stands for. -/
def resolve (s : String) : Except Error Datum :=
  if nothings.contains s then .ok .null
  else if truths.contains s then .ok (.bool true)
  else if falsehoods.contains s then .ok (.bool false)
  else if reserved.contains s then .error (.document .unsupportedValue)
  else
    match whole? s.toList with
    | some (.ok n) => .ok (.int n)
    | some (.error e) => .error (.number e)
    | none => .ok (((float? s.toList).map Datum.float).getD (.text s))

end Chip8.Document
