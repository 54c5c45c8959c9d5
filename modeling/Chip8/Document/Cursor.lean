/-! A place in the text of a document, and the rules by which lines are joined. A line break between two
words of a scalar counts as one blank, unless empty lines follow it, which then stand for themselves. -/

namespace Chip8.Document

def isBreak (c : Char) : Bool := c = '\n' || c = '\x85' || c = '\u2028' || c = '\u2029'

def isGap (c : Char) : Bool := c = ' ' || c = '\t' || isBreak c

def atGap : List Char → Bool
  | [] => true
  | c :: _ => isGap c

def isMark : List Char → Bool
  | a :: b :: c :: cs => a = b && b = c && (a = '-' || a = '.') && atGap cs
  | _ => false

structure Cursor where
  rest : List Char
  line : Nat := 0
  column : Nat := 0
  index : Nat := 0

namespace Cursor

def next (c : Cursor) : Cursor :=
  match c.rest with
  | [] => c
  | x :: xs =>
    if isBreak x then ⟨xs, c.line + 1, 0, c.index + 1⟩
    else ⟨xs, c.line, c.column + 1, c.index + 1⟩

def skip : Nat → Cursor → Cursor
  | 0, c => c
  | n + 1, c => skip n c.next

end Cursor

/-- The length of what stands between two tokens: blanks, line breaks and comments. Tabs are blanks in
brackets; outside of them a line may not begin with one. -/
def gapLength (bracketed tabs comment : Bool) : List Char → Nat
  | [] => 0
  | c :: cs =>
    if isBreak c then gapLength bracketed bracketed false cs + 1
    else if comment then gapLength bracketed tabs true cs + 1
    else if c = ' ' || (tabs && c = '\t') then gapLength bracketed tabs false cs + 1
    else if c = '#' then gapLength bracketed tabs true cs + 1
    else 0

def breakText (c : Char) : List Char := if c = '\u2028' || c = '\u2029' then [c] else ['\n']

structure Gap where
  text : List Char := []
  length : Nat := 0
  broken : Bool := false
  bounded : Bool := false
deriving DecidableEq, Repr

def Gap.extend (text : List Char) (g : Gap) : Gap :=
  { g with text := text ++ g.text, length := g.length + 1 }

def emptyLines (indent column : Nat) : List Char → Option Gap
  | [] => some { broken := true }
  | c :: cs =>
    if column = 0 && isMark (c :: cs) then some { broken := true, bounded := true }
    else if isBreak c then (emptyLines indent 0 cs).map (Gap.extend (breakText c))
    else if c = ' ' then (emptyLines indent (column + 1) cs).map (Gap.extend [])
    else if c = '\t' then
      if column < indent then none else (emptyLines indent (column + 1) cs).map (Gap.extend [])
    else some { broken := true }

def joinLines (mark : Char) (empty : List Char) : List Char :=
  if breakText mark ≠ ['\n'] then breakText mark ++ empty
  else if empty.isEmpty then [' ']
  else empty

/-- The gap at the front of a text, which is its blanks as they are if they are followed by no line
break. -/
def wordGap (indent : Nat) (cs : List Char) : Option Gap :=
  let blanks := cs.takeWhile fun c => c = ' ' || c = '\t'
  let line : Gap := { text := blanks, length := blanks.length }
  match cs.drop blanks.length with
  | [] => some line
  | c :: rest =>
    if isBreak c then
      (emptyLines indent 0 rest).map fun g =>
        { g with text := joinLines c g.text, length := blanks.length + 1 + g.length }
    else some line

end Chip8.Document
