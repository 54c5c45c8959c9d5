import Chip8.Document.Cursor

/-! Plain scalars: words without quotes, joined over lines that are indented far enough. A colon before a
gap ends a word, and so does every mark of a bracketed mapping or list inside of one. There a colon next
to such a mark is refused. -/

namespace Chip8.Document

def bracketMarks : List Char := ",[]\x7b\x7d".toList

def colonMarks : List Char := '?' :: bracketMarks

def leadMarks : List Char := "-?:,[]\x7b\x7d#&*!|>'\"%@`".toList

def startsPlain (bracketed : Bool) : List Char → Bool
  | [] => false
  | c :: cs =>
    if isGap c then false
    else if leadMarks.contains c then
      !atGap cs && (c = '-' || (!bracketed && (c = '?' || c = ':')))
    else true

def endsWord (bracketed : Bool) (c : Char) (cs : List Char) : Bool :=
  isGap c || (c = ':' && atGap cs) || (bracketed && bracketMarks.contains c)

def isStray (bracketed : Bool) (c : Char) (cs : List Char) : Bool :=
  bracketed && c = ':' && (cs.head?.map colonMarks.contains).getD false

def wordLength (bracketed : Bool) : List Char → Option Nat
  | [] => some 0
  | c :: cs =>
    if isStray bracketed c cs then none
    else if endsWord bracketed c cs then some 0
    else (wordLength bracketed cs).map (· + 1)

structure Phrase where
  text : List Char
  cursor : Cursor
  broken : Bool

def isLast (bracketed : Bool) (indent : Nat) (gap : Gap) (c : Cursor) : Bool :=
  gap.length = 0 || gap.bounded || c.rest.head? = some '#' || (!bracketed && c.column < indent)

/-- The words after the first, with the gaps before them. Outside of brackets a word on a new line has to
stand at the column `indent` or right of it. Every step takes a word. -/
def moreWords (bracketed : Bool) (indent : Nat) : Nat → Cursor → Option Phrase
  | 0, _ => none
  | fuel + 1, c => do
    let gap ← wordGap indent c.rest
    let d := c.skip gap.length
    let length ← if isLast bracketed indent gap d then some 0 else wordLength bracketed d.rest
    if length = 0 then return { text := [], cursor := d, broken := gap.broken }
    else
      let r ← moreWords bracketed indent fuel (d.skip length)
      return { r with text := gap.text ++ d.rest.take length ++ r.text }

def plain? (bracketed : Bool) (indent : Nat) (c : Cursor) : Option Phrase := do
  let length ← wordLength bracketed c.rest
  let r ← moreWords bracketed indent (c.rest.length + 1) (c.skip length)
  return { r with text := c.rest.take length ++ r.text }

end Chip8.Document
