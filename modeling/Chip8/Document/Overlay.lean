import Chip8.Document.Resolution

/-! Laying data over a document. A mapping over a mapping is laid entry by entry, and everything else takes
the place of what lies below it. A value left open leaves what is below. A container below may also be
reached by a reference, whose place it then takes. -/

namespace Chip8.Document

def adopt (root : Datum) (p : Place) : Datum :=
  match target root p with
  | .ok (.place q) =>
    match root.part? q with
    | some d => if d.isContainer then root.replace d p else root
    | none => root
  | _ => root

mutual

def overlay (root : Datum) (p : Place) : Datum → Except Error Datum
  | .map top =>
    match root.part? p with
    | some (.map _) => overlayEntries root p top
    | some (.list _) => .error .mismatched
    | _ => .ok (root.replace (.map top) p)
  | .list top =>
    match root.part? p with
    | some (.map _) => .error .mismatched
    | _ => .ok (root.replace (.list top) p)
  | .text s => .ok (if s = openText then root else root.replace (.text s) p)
  | top => .ok (root.replace top p)

def overlayEntries (root : Datum) (p : Place) : List (Datum × Datum) → Except Error Datum
  | [] => .ok root
  | (name, top) :: es => do
    let entries := match root.part? p with
      | some (.map entries) => entries
      | _ => []
    match Datum.entryNumber? name entries with
    | none => overlayEntries (root.replace (.map (Datum.put name top entries)) p) p es
    | some i => do
      let root ← overlay (adopt root (p ++ [i])) (p ++ [i]) top
      overlayEntries root p es

end

end Chip8.Document
