/-! Whole numbers as text. A numeral may stand between blanks, may carry one sign, may take its digits from any script
of Unicode 14, and may have single underscores between them; leading zeros count for nothing. The ten digits of a
script are ten consecutive code points, so each script is known by its zero. Hexadecimal numbers are padded with
zeros to a least width, in which a sign counts. -/

namespace Chip8.Text

def scriptZeros : List Nat := [
  0x30, 0x660, 0x6F0, 0x7C0, 0x966, 0x9E6, 0xA66, 0xAE6, 0xB66, 0xBE6, 0xC66, 0xCE6, 0xD66, 0xDE6,
  0xE50, 0xED0, 0xF20, 0x1040, 0x1090, 0x17E0, 0x1810, 0x1946, 0x19D0, 0x1A80, 0x1A90, 0x1B50,
  0x1BB0, 0x1C40, 0x1C50, 0xA620, 0xA8D0, 0xA900, 0xA9D0, 0xA9F0, 0xAA50, 0xABF0, 0xFF10, 0x104A0,
  0x10D30, 0x11066, 0x110F0, 0x11136, 0x111D0, 0x112F0, 0x11450, 0x114D0, 0x11650, 0x116C0, 0x11730,
  0x118E0, 0x11950, 0x11C50, 0x11D50, 0x11DA0, 0x16A60, 0x16AC0, 0x16B50, 0x1D7CE, 0x1D7D8, 0x1D7E2,
  0x1D7EC, 0x1D7F6, 0x1E140, 0x1E2F0, 0x1E950, 0x1FBF0]

def digitValue? (c : Char) : Option Nat :=
  (scriptZeros.find? fun z => z ≤ c.toNat && c.toNat < z + 10).map (c.toNat - ·)

def isAsciiBlank (c : Char) : Bool :=
  c = ' ' || c = '\t' || c = '\n' || c = '\x0b' || c = '\x0c' || c = '\r'

def wideBlanks : List Nat := [
  0x85, 0xA0, 0x1680, 0x2000, 0x2001, 0x2002, 0x2003, 0x2004, 0x2005, 0x2006, 0x2007, 0x2008,
  0x2009, 0x200A, 0x2028, 0x2029, 0x202F, 0x205F, 0x3000]

def isBlank (c : Char) : Bool := isAsciiBlank c || wideBlanks.contains c.toNat

inductive NumeralError where
  | malformed
  | tooLong (limit digits : Nat)
deriving DecidableEq, Repr

/-- The digits at the front, a single underscore between two digits left out, and the rest. -/
def spanDigits : List Char → List Nat × List Char
  | [] => ([], [])
  | [c] =>
    match digitValue? c with
    | some d => ([d], [])
    | none => ([], [c])
  | c :: u :: cs =>
    match digitValue? c with
    | none => ([], c :: u :: cs)
    | some d =>
      if u = '_' then
        let r := spanDigits cs
        if r.1.isEmpty then ([d], u :: cs) else (d :: r.1, r.2)
      else
        let r := spanDigits (u :: cs)
        (d :: r.1, r.2)

def ofDigits (base : Nat) (ds : List Nat) : Nat := ds.foldl (fun n d => n * base + d) 0

/-- A host may limit the digits of the numbers that it reads and writes. This is the limit of a host that is not told
otherwise. -/
def digitLimit : Nat := 4300

def writes (limit : Option Nat) (n : Int) : Bool := limit.all fun k => n.natAbs < Nat.pow 10 k

def splitSign : List Char → Bool × List Char
  | '-' :: cs => (true, cs)
  | '+' :: cs => (false, cs)
  | cs => (false, cs)

/-- A numeral that is too long is refused before it is read to its end. -/
def readNumeral (s : String) (limit : Option Nat := some digitLimit) : Except NumeralError Int :=
  let (negative, cs) := splitSign (s.toList.dropWhile isBlank)
  let (ds, rest) := spanDigits cs
  if ds.isEmpty || rest.head? = some '_' then .error .malformed
  else
    match limit.filter (· < ds.length) with
    | some k => .error (.tooLong k ds.length)
    | none =>
      if rest.all isBlank then
        .ok (if negative then -(ofDigits 10 ds : Int) else ofDigits 10 ds)
      else .error .malformed

def groupThrees : List Char → List Char
  | a :: b :: c :: d :: cs => a :: b :: c :: ',' :: groupThrees (d :: cs)
  | cs => cs

def grouped (n : Int) : String :=
  let sign := if n < 0 then ['-'] else []
  String.ofList (sign ++ (groupThrees (Nat.toDigits 10 n.natAbs).reverse).reverse)

def hexDigits (n : Nat) : List Char := (Nat.toDigits 16 n).map Char.toUpper

def signOf (n : Int) : List Char := if n < 0 then ['-'] else []

def padLeft (c : Char) (width : Nat) (cs : List Char) : List Char :=
  List.replicate (width - cs.length) c ++ cs

def hex (width : Nat) (n : Int) : String :=
  let sign := signOf n
  String.ofList (sign ++ padLeft '0' (width - sign.length) (hexDigits n.natAbs))

end Chip8.Text
