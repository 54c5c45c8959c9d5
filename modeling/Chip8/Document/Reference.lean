import Chip8.Text.Split

/-! References as they are written. A text may refer to another part of a document by a path between a
dollar sign with an opening brace and a closing brace. The names on the path are divided by points or stand
in brackets, points at its front lead outwards, and a name may itself be a reference. A path with a colon in
it is a call. -/

namespace Chip8.Document

/-- A piece of a text: characters as they are, a reference with the pieces of its path, or a call. -/
inductive Piece where
  | literal (cs : List Char)
  | reference (path : List Piece)
  | call
deriving Repr

def opening : List Char := ['$', '\x7b']

def opens : List Char → Bool
  | '$' :: '\x7b' :: _ => true
  | _ => false

def refers : List Char → Bool
  | [] => false
  | c :: cs => opens (c :: cs) || refers cs

def isInlineBlank (c : Char) : Bool := c = ' ' || c = '\t'

def isNameChar (c : Char) : Bool := !"\\\x7b\x7d()[]:. \t'\"".toList.contains c

def isLetter (c : Char) : Bool := c.isAlpha || c = '_'

def isCallable : List Char → Bool
  | [] => false
  | c :: cs => isLetter c && cs.all fun d => isLetter d || d.isDigit || d = '-'

def isArgumentChar (c : Char) : Bool := isLetter c || c.isDigit || "/-+.$%*@?|,: \t".toList.contains c

def call? (cs : List Char) : Option (List Char) :=
  let name := cs.takeWhile fun c => c = '.' || isNameChar c
  match cs.drop name.length with
  | ':' :: arguments =>
    match arguments.dropWhile isArgumentChar with
    | '\x7d' :: rest => if (Text.splitOn '.' name).all isCallable then some rest else none
    | _ => none
  | _ => none

mutual

def reference? : Nat → List Char → Option (Piece × List Char)
  | 0, _ => none
  | fuel + 1, cs =>
    let cs := cs.dropWhile isInlineBlank
    match call? cs with
    | some rest => some (.call, rest)
    | none =>
      let outward := cs.takeWhile (· = '.')
      (path? true fuel (cs.drop outward.length)).map fun (ps, rest) =>
        (.reference (.literal outward :: ps), rest)

def path? (first : Bool) : Nat → List Char → Option (List Piece × List Char)
  | 0, _ => none
  | fuel + 1, cs =>
    match first, cs with
    | _, '[' :: cs => do
      match ← name? fuel cs with
      | (name, ']' :: rest) =>
        let (ps, rest) ← path? false fuel rest
        return (.literal ['['] :: name :: .literal [']'] :: ps, rest)
      | _ => none
    | true, cs => do
      let (name, rest) ← name? fuel cs
      let (ps, rest) ← path? false fuel rest
      return (name :: ps, rest)
    | false, '.' :: cs => do
      let (name, rest) ← name? fuel cs
      let (ps, rest) ← path? false fuel rest
      return (.literal ['.'] :: name :: ps, rest)
    | false, cs =>
      match cs.dropWhile isInlineBlank with
      | '\x7d' :: rest => some ([], rest)
      | _ => none

def name? : Nat → List Char → Option (Piece × List Char)
  | 0, _ => none
  | fuel + 1, cs =>
    if opens cs then reference? fuel (cs.drop 2)
    else
      let name := cs.takeWhile isNameChar
      if name.isEmpty then none else some (.literal name, cs.drop name.length)

end

/-- The pieces of a text. Of the backslashes before a reference every two stand for one, and a last single
one makes the reference a literal. Several dollar signs in a row open no reference. Every step takes a
character. -/
def piecesFrom : Nat → List Char → Option (List Piece)
  | 0, _ => none
  | fuel + 1, cs =>
    let slashes := cs.takeWhile (· = '\\')
    let rest := cs.drop slashes.length
    let dollars := rest.takeWhile (· = '$')
    if rest.isEmpty then some [.literal slashes]
    else if opens rest then
      let kept := Piece.literal (slashes.take (slashes.length / 2))
      if slashes.length % 2 = 1 then
        (piecesFrom fuel (rest.drop 2)).map fun ps => kept :: .literal opening :: ps
      else do
        let (p, rest) ← reference? (3 * rest.length) (rest.drop 2)
        return kept :: p :: (← piecesFrom fuel rest)
    else
      let taken := rest.take (max 1 dollars.length)
      (piecesFrom fuel (rest.drop taken.length)).map fun ps => .literal (slashes ++ taken) :: ps

def Piece.isBlank : Piece → Bool
  | literal cs => cs.isEmpty
  | _ => false

def pieces? (s : String) : Option (List Piece) :=
  (piecesFrom (s.length + 1) s.toList).map fun ps => ps.filter fun p => !p.isBlank

def bracketed? (cs : List Char) : Option (List Char × List Char) :=
  let name := cs.takeWhile fun c => c ≠ ']' && c ≠ '\n'
  match cs.drop name.length with
  | ']' :: rest => some (name, rest)
  | _ => none

def isStepChar (c : Char) : Bool := c ≠ '.' && c ≠ '['

def laterNames : Nat → List Char → List (List Char)
  | 0, _ => []
  | _, [] => []
  | fuel + 1, '.' :: cs =>
    let name := cs.takeWhile isStepChar
    name :: laterNames fuel (cs.drop name.length)
  | fuel + 1, c :: cs =>
    match if c = '[' then bracketed? cs else none with
    | some (name, rest) => name :: laterNames fuel rest
    | none => laterNames fuel cs

def names (cs : List Char) : List (List Char) :=
  let first := cs.takeWhile isStepChar
  let later := laterNames cs.length (cs.drop first.length)
  if first.isEmpty && cs.head? = some '[' then later else first :: later

end Chip8.Document
