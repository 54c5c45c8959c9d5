import Chip8.Document.Plain
import Chip8.Document.Quote

/-! The tokens of a document. Indentation becomes a pair of tokens around each block. Whether a scalar
names an entry is known only at the colon behind it, so its place is remembered as long as a colon may
follow: on the same line and not too far away. -/

namespace Chip8.Document

inductive Token where
  | openBlockMap
  | openBlockList
  | closeBlock
  | openMap
  | closeMap
  | openList
  | closeList
  | name
  | value
  | item
  | comma
  | scalar (text : String) (plain : Bool)
  | start
  | stop
  | finish
  | broken
deriving DecidableEq, Repr

structure Candidate where
  number : Nat
  required : Bool
  line : Nat
  column : Nat
  index : Nat

/-- The state of a scan. There is one candidate at most for every open bracket, the innermost first, and
one outside of all brackets. -/
structure Scan where
  cursor : Cursor
  indents : List Nat := []
  mayName : Bool := true
  candidates : List (Option Candidate) := [none]
  tokens : Array Token := #[]

namespace Scan

def bracketed (s : Scan) : Bool := 1 < s.candidates.length

def indent (s : Scan) : Int := (s.indents.head?.map Int.ofNat).getD (-1)

def put (t : Token) (s : Scan) : Scan := { s with tokens := s.tokens.push t }

def skip (n : Nat) (s : Scan) : Scan := { s with cursor := s.cursor.skip n }

def allow (mayName : Bool) (s : Scan) : Scan := { s with mayName }

def skipGap (s : Scan) : Scan :=
  let tabs := s.bracketed || !s.mayName
  let cursor := s.cursor.skip (gapLength s.bracketed tabs false s.cursor.rest)
  { s with
    cursor
    mayName := s.mayName || (!s.bracketed && s.cursor.line < cursor.line) }

def nameLimit : Nat := 1024

def isStale (s : Scan) (c : Candidate) : Bool :=
  c.line ≠ s.cursor.line || nameLimit < s.cursor.index - c.index

def release (drop : Candidate → Bool) : Option Candidate → Option (Option Candidate)
  | none => some none
  | some c => if drop c then if c.required then none else some none else some (some c)

def dropStale (s : Scan) : Option Scan := do
  return { s with candidates := ← s.candidates.mapM (release s.isStale) }

def dropCandidate (s : Scan) : Option Scan :=
  match s.candidates with
  | [] => some s
  | c :: cs => do return { s with candidates := (← release (fun _ => true) c) :: cs }

def markCandidate (s : Scan) : Option Scan :=
  if s.mayName then do
    let s ← s.dropCandidate
    let c : Candidate :=
      { number := s.tokens.size
        required := !s.bracketed && s.indent = s.cursor.column
        line := s.cursor.line
        column := s.cursor.column
        index := s.cursor.index }
    return { s with candidates := some c :: s.candidates.drop 1 }
  else some s

def closeBlocks (column : Int) : List Nat → Array Token → List Nat × Array Token
  | [], ts => ([], ts)
  | i :: is, ts => if column < i then closeBlocks column is (ts.push .closeBlock) else (i :: is, ts)

def unwind (column : Int) (s : Scan) : Scan :=
  if s.bracketed then s
  else
    let (indents, tokens) := closeBlocks column s.indents s.tokens
    { s with indents, tokens }

def openBlock (t : Token) (column number : Nat) (s : Scan) : Scan :=
  if !s.bracketed && s.indent < column then
    { s with
      indents := column :: s.indents
      tokens := s.tokens.insertIdxIfInBounds number t }
  else s

def documentMark (t : Token) (s : Scan) : Option Scan := do
  let s ← (s.unwind (-1)).dropCandidate
  return ((s.allow false).put t).skip 3

def openBracket (t : Token) (s : Scan) : Option Scan := do
  let s ← s.markCandidate
  return (({ s with candidates := none :: s.candidates }.allow true).put t).skip 1

def closeBracket (t : Token) (s : Scan) : Option Scan := do
  let s ← s.dropCandidate
  let candidates := if s.bracketed then s.candidates.drop 1 else s.candidates
  return (({ s with candidates }.allow false).put t).skip 1

def comma (s : Scan) : Option Scan := do
  return (((← s.dropCandidate).allow true).put .comma).skip 1

def lead (block t : Token) (mayName : Bool) (s : Scan) : Option Scan :=
  if s.bracketed || s.mayName then do
    let s ← (s.openBlock block s.cursor.column s.tokens.size).dropCandidate
    return ((s.allow mayName).put t).skip 1
  else none

def colon (s : Scan) : Option Scan :=
  match s.candidates with
  | some c :: cs =>
    let s := { s with
      candidates := none :: cs
      tokens := s.tokens.insertIdxIfInBounds c.number .name }
    some ((((s.openBlock .openBlockMap c.column c.number).allow false).put .value).skip 1)
  | _ =>
    if s.bracketed || s.mayName then
      let s := s.openBlock .openBlockMap s.cursor.column s.tokens.size
      some (((s.allow !s.bracketed).put .value).skip 1)
    else none

def quotedScalar (double : Bool) (s : Scan) : Option Scan := do
  let s ← s.markCandidate
  let (t, n) ← quoted? double (s.cursor.rest.drop 1)
  return ((s.allow false).put (.scalar (String.ofList t) false)).skip (n + 1)

def plainScalar (s : Scan) : Option Scan := do
  let s ← s.markCandidate
  let r ← plain? s.bracketed (s.indent + 1).toNat s.cursor
  return { s.allow r.broken with cursor := r.cursor }.put (.scalar (String.ofList r.text) true)

def finish (s : Scan) : Option Scan := do
  let s ← (s.unwind (-1)).dropCandidate
  if s.candidates.any fun c? => (c?.map Candidate.required).getD false then none
  else some (s.put .finish)

/-- The next token, if the characters form one; at the end of the text the last one. -/
def next (s : Scan) : Option Scan := do
  let s ← s.skipGap.dropStale
  let s := s.unwind s.cursor.column
  match s.cursor.rest with
  | [] => s.finish
  | c :: cs =>
    if s.cursor.column = 0 && c = '%' then none
    else if s.cursor.column = 0 && isMark (c :: cs) then
      s.documentMark (if c = '-' then .start else .stop)
    else if c = '[' then s.openBracket .openList
    else if c = '\x7b' then s.openBracket .openMap
    else if c = ']' then s.closeBracket .closeList
    else if c = '\x7d' then s.closeBracket .closeMap
    else if c = ',' then s.comma
    else if c = '-' && atGap cs then s.lead .openBlockList .item true
    else if c = '?' && (s.bracketed || atGap cs) then s.lead .openBlockMap .name !s.bracketed
    else if c = ':' && (s.bracketed || atGap cs) then s.colon
    else if c = '\'' then s.quotedScalar false
    else if c = '"' then s.quotedScalar true
    else if startsPlain s.bracketed (c :: cs) then s.plainScalar
    else none

def isLost (s : Scan) : Bool :=
  s.candidates.any fun c? => (c?.map fun c => c.required && s.isStale c).getD false

def pending (s : Scan) : List Candidate :=
  s.candidates.filterMap fun c? => c?.filter fun c => !s.isStale c

/-- The tokens of a scan that breaks off. No token counts that may still turn out to be a name, and none
behind it. -/
def abandon (s : Scan) : Array Token :=
  let number := s.pending.foldl (fun n c => min n c.number) s.tokens.size
  (s.tokens.extract 0 number).push .broken

def run : Nat → Scan → Array Token
  | 0, s => s.abandon
  | fuel + 1, s =>
    match s.next with
    | none => s.abandon
    | some r =>
      if r.tokens.back? = some .finish then r.tokens
      else if r.isLost then s.abandon
      else run fuel r

end Scan

def firstPlace : List Char → Cursor
  | '\uFEFF' :: cs => { rest := cs, column := 1, index := 1 }
  | cs => { rest := cs }

def tokens (cs : List Char) : List Token :=
  (Scan.run (cs.length + 1) { cursor := firstPlace cs }).toList

end Chip8.Document
