import Chip8.Document.Cursor
import Chip8.Document.Scalar

/-! Quoted scalars. Between single quotes a quote is written twice; between double quotes a backslash
begins an escape. Lines are joined as in plain scalars. -/

namespace Chip8.Document

def namedEscapes : List (Char × Char) := [
  ('0', '\x00'), ('a', '\x07'), ('b', '\x08'), ('t', '\t'), ('\t', '\t'), ('n', '\n'), ('v', '\x0b'),
  ('f', '\x0c'), ('r', '\r'), ('e', '\x1b'), (' ', ' '), ('"', '"'), ('\\', '\\'), ('/', '/'),
  ('N', '\x85'), ('_', '\xa0'), ('L', '\u2028'), ('P', '\u2029')]

def numberedEscapes : List (Char × Nat) := [('x', 2), ('u', 4), ('U', 8)]

def numbered? (digits : Nat) (cs : List Char) : Option Char := do
  let ds ← (cs.take digits).mapM (digitIn 16)
  let n := Text.ofDigits 16 ds
  if ds.length = digits && n.isValidChar then return Char.ofNat n else none

def openGap (gap : Option Gap) : Option Gap := gap.filter fun g => !g.bounded

def escape? : List Char → Option (List Char × Nat)
  | [] => none
  | c :: cs =>
    match namedEscapes.lookup c, numberedEscapes.lookup c with
    | some d, _ => some ([d], 1)
    | none, some n => (numbered? n cs).map fun d => ([d], n + 1)
    | none, none =>
      if isBreak c then (openGap (emptyLines 0 0 cs)).map fun g => (g.text, g.length + 1) else none

/-- The text up to the closing quote and its length, the quote included. Every step takes a character. -/
def quotedFrom (double : Bool) : Nat → List Char → Option (List Char × Nat)
  | 0, _ => none
  | _, [] => none
  | fuel + 1, c :: cs =>
    let put (text : List Char) (length : Nat) (rest : List Char) : Option (List Char × Nat) :=
      (quotedFrom double fuel rest).map fun (t, n) => (text ++ t, n + length)
    if c = (if double then '"' else '\'') then
      if !double && cs.head? = some '\'' then put ['\''] 2 (cs.drop 1) else some ([], 1)
    else if double && c = '\\' then
      (escape? cs).bind fun (t, n) => put t (n + 1) (cs.drop n)
    else if isGap c then
      (openGap (wordGap 0 (c :: cs))).bind fun g => put g.text g.length ((c :: cs).drop g.length)
    else put [c] 1 cs

def quoted? (double : Bool) (cs : List Char) : Option (List Char × Nat) :=
  quotedFrom double (cs.length + 1) cs

end Chip8.Document
