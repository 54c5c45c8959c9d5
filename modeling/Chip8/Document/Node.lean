import Chip8.Document.Token
import Chip8.Error

/-! The tree of a document. A mapping in a block and one in brackets are the same tree. A name or a value
may be left out, and then is an empty scalar. -/

namespace Chip8.Document

inductive Node where
  | scalar (text : String) (plain : Bool)
  | list (items : List Node)
  | map (entries : List (Node × Node))
deriving Repr, Inhabited

namespace Node

def empty : Node := scalar "" true

/-- Where a node stands: in brackets, in a block, or after a name or its colon, where the items of a list
need no indentation of their own. -/
inductive Place where
  | bracket
  | block
  | entry
deriving DecidableEq

def refuse {α : Type} : List Token → Except DocumentError α
  | .broken :: _ => .error .unreadable
  | _ => .error .misplaced

def blockEnds : List Token := [.name, .value, .closeBlock]

def listEnds : List Token := [.comma, .closeList]

def mapEnds : List Token := [.comma, .closeMap]

def nameEnds : List Token := .value :: listEnds

def startsWith (ends : List Token) : List Token → Bool
  | [] => false
  | t :: _ => ends.contains t

mutual

/-- One node. Of four calls in a row at least one takes a token, which bounds the depth of the calls. -/
def read (place : Place) : Nat → List Token → Except DocumentError (Node × List Token)
  | 0, ts => refuse ts
  | _ + 1, .scalar s plain :: ts => .ok (scalar s plain, ts)
  | n + 1, .openList :: ts => do
    let (items, ts) ← readBracketed true n ts
    return (list items, ts)
  | n + 1, .openMap :: ts => do
    let (entries, ts) ← readBraced true n ts
    return (map entries, ts)
  | n + 1, .openBlockList :: ts =>
    if place = .bracket then .error .misplaced
    else do
      let (items, ts) ← readItems n ts
      return (list items, ts)
  | n + 1, .openBlockMap :: ts =>
    if place = .bracket then .error .misplaced
    else do
      let (entries, ts) ← readEntries n ts
      return (map entries, ts)
  | n + 1, .item :: ts =>
    if place = .entry then do
      let (items, ts) ← readBareItems n (.item :: ts)
      return (list items, ts)
    else .error .misplaced
  | _, ts => refuse ts

def readOptional (place : Place) (ends : List Token) :
    Nat → List Token → Except DocumentError (Node × List Token)
  | 0, ts => refuse ts
  | n + 1, ts => if startsWith ends ts then .ok (empty, ts) else read place n ts

def readValue (place : Place) (ends : List Token) :
    Nat → List Token → Except DocumentError (Node × List Token)
  | 0, ts => refuse ts
  | n + 1, .value :: ts => readOptional place ends n ts
  | _, ts => .ok (empty, ts)

def readItems : Nat → List Token → Except DocumentError (List Node × List Token)
  | n + 1, .item :: ts => do
    let (x, ts) ← readOptional .block [.item, .closeBlock] n ts
    let (xs, ts) ← readItems n ts
    return (x :: xs, ts)
  | _ + 1, .closeBlock :: ts => .ok ([], ts)
  | _, ts => refuse ts

def readBareItems : Nat → List Token → Except DocumentError (List Node × List Token)
  | 0, ts => refuse ts
  | n + 1, .item :: ts => do
    let (x, ts) ← readOptional .block (.item :: blockEnds) n ts
    let (xs, ts) ← readBareItems n ts
    return (x :: xs, ts)
  | _, ts => .ok ([], ts)

def readEntries : Nat → List Token → Except DocumentError (List (Node × Node) × List Token)
  | n + 1, .name :: ts => do
    let (name, ts) ← readOptional .entry blockEnds n ts
    let (value, ts) ← readValue .entry blockEnds n ts
    let (es, ts) ← readEntries n ts
    return ((name, value) :: es, ts)
  | _ + 1, .closeBlock :: ts => .ok ([], ts)
  | _, ts => refuse ts

/-- Items up to the closing bracket, with a comma before each but the first. An entry among the items is
a mapping of its own; if its name is left out, the token in the place of the name is passed over. -/
def readBracketed (first : Bool) : Nat → List Token → Except DocumentError (List Node × List Token)
  | _ + 1, .closeList :: ts => .ok ([], ts)
  | n + 1, ts =>
    match first, ts with
    | false, .comma :: .closeList :: ts => .ok ([], ts)
    | false, .comma :: ts => readBracketedItem n ts
    | false, ts => refuse ts
    | true, ts => readBracketedItem n ts
  | _, ts => refuse ts

def readBracketedItem : Nat → List Token → Except DocumentError (List Node × List Token)
  | n + 1, .name :: t :: ts => do
    let (name, ts) ← if nameEnds.contains t then .ok (empty, ts) else read .bracket n (t :: ts)
    let (value, ts) ← readValue .bracket listEnds n ts
    let (xs, ts) ← readBracketed false n ts
    return (map [(name, value)] :: xs, ts)
  | n + 1, ts => do
    let (x, ts) ← read .bracket n ts
    let (xs, ts) ← readBracketed false n ts
    return (x :: xs, ts)
  | _, ts => refuse ts

def readBraced (first : Bool) :
    Nat → List Token → Except DocumentError (List (Node × Node) × List Token)
  | _ + 1, .closeMap :: ts => .ok ([], ts)
  | n + 1, ts =>
    match first, ts with
    | false, .comma :: .closeMap :: ts => .ok ([], ts)
    | false, .comma :: ts => readBracedEntry n ts
    | false, ts => refuse ts
    | true, ts => readBracedEntry n ts
  | _, ts => refuse ts

def readBracedEntry : Nat → List Token → Except DocumentError (List (Node × Node) × List Token)
  | n + 1, .name :: ts => do
    let (name, ts) ← readOptional .bracket (.value :: mapEnds) n ts
    let (value, ts) ← readValue .bracket mapEnds n ts
    let (es, ts) ← readBraced false n ts
    return ((name, value) :: es, ts)
  | n + 1, ts => do
    let (name, ts) ← read .bracket n ts
    let (es, ts) ← readBraced false n ts
    return ((name, empty) :: es, ts)
  | _, ts => refuse ts

end

def checkEnd : List Token → Except DocumentError Unit
  | .stop :: ts => checkEnd ts
  | [.finish] => .ok ()
  | .start :: _ => .error .several
  | ts => refuse ts

def readOpened (ts : List Token) : Except DocumentError Node := do
  let (root, ts) ← readOptional .block [.start, .stop, .finish] (4 * ts.length + 4) ts
  checkEnd ts
  return root

def readMarked : List Token → Except DocumentError (Option Node)
  | .stop :: ts => readMarked ts
  | [.finish] => .ok none
  | .start :: ts => do return some (← readOpened ts)
  | ts => refuse ts

def ofTokens (ts : List Token) : Except DocumentError (Option Node) :=
  match ts with
  | [.finish] => .ok none
  | .start :: ts => readMarked (.start :: ts)
  | ts => do
    let (root, ts) ← read .block (4 * ts.length + 4) ts
    checkEnd ts
    return some root

end Node
end Chip8.Document
