import Chip8.Document.Overlay
import Chip8.Proofs.Execution
import Mathlib.Tactic.Common

/-! Plain documents: data in which no text refers to another part. Following the references of a plain document
changes nothing, and laying an entry over a plain mapping replaces the value under its name or adds the entry. -/

namespace Chip8

namespace Datum

variable {d c : Datum} {s : String} {p : Place}

/-- No text of the datum refers to another part. -/
def IsPlain (d : Datum) : Prop := ∀ s ∈ d.texts, Document.refers s.toList = false

theorem mem_itemTexts_iff {items : List Datum} : s ∈ itemTexts items ↔ ∃ c ∈ items, s ∈ c.texts := by
  induction items with
  | nil => simp [itemTexts]
  | cons c items ih => simp [itemTexts, ih]

theorem entryTexts_eq (entries : List (Datum × Datum)) : entryTexts entries = itemTexts (entries.map Prod.snd) := by
  induction entries with
  | nil => rfl
  | cons e entries ih => rw [entryTexts, ih, List.map_cons, itemTexts]

theorem size_le_itemsSize {items : List Datum} (h : c ∈ items) : c.size ≤ itemsSize items := by
  induction items with
  | nil => cases h
  | cons a items ih =>
    rw [itemsSize]
    rcases List.mem_cons.mp h with rfl | hmem
    · exact Nat.le_add_right _ _
    · exact Nat.le_trans (ih hmem) (Nat.le_add_left _ _)

theorem entriesSize_eq (entries : List (Datum × Datum)) :
    entriesSize entries = itemsSize (entries.map Prod.snd) := by
  induction entries with
  | nil => rfl
  | cons e entries ih => rw [entriesSize, ih, List.map_cons, itemsSize]

theorem size_lt_of_mem_children (h : c ∈ d.children) : c.size < d.size := by
  cases d with
  | list items => exact Nat.lt_succ_of_le (size_le_itemsSize h)
  | map entries =>
    rw [size, entriesSize_eq]
    exact Nat.lt_succ_of_le (size_le_itemsSize h)
  | _ => cases h

theorem mem_texts_of_mem_children (h : c ∈ d.children) (hs : s ∈ c.texts) : s ∈ d.texts := by
  cases d with
  | list items => exact mem_itemTexts_iff.mpr ⟨c, h, hs⟩
  | map entries =>
    rw [texts, entryTexts_eq]
    exact mem_itemTexts_iff.mpr ⟨c, h, hs⟩
  | _ => cases h

theorem IsPlain.of_mem_children (hd : d.IsPlain) (h : c ∈ d.children) : c.IsPlain :=
  fun s hs => hd s (mem_texts_of_mem_children h hs)

theorem part?_cons {i : Nat} (h : d.part? (i :: p) = some c) : ∃ a, d.children[i]? = some a ∧ a.part? p = some c :=
  Option.bind_eq_some_iff.mp h

theorem IsPlain.of_part? (hd : d.IsPlain) (h : d.part? p = some c) : c.IsPlain := by
  induction p generalizing d with
  | nil =>
    cases h
    exact hd
  | cons i p ih =>
    obtain ⟨a, ha, hc⟩ := part?_cons h
    exact ih (hd.of_mem_children (List.mem_of_getElem? ha)) hc

theorem modify_eq_self {α : Type} {f : α → α} {xs : List α} {i : Nat} (h : ∀ a, xs[i]? = some a → f a = a) :
    xs.modify i f = xs := by
  refine List.ext_getElem? fun j => ?_
  by_cases hij : i = j
  · subst hij
    rw [List.getElem?_modify_eq]
    cases ha : xs[i]? with
    | none => rfl
    | some a => exact congrArg some (h a ha)
  · exact List.getElem?_modify_ne f xs hij

theorem replace_part? (h : d.part? p = some c) : d.replace c p = d := by
  induction p generalizing d with
  | nil => exact (Option.some.inj h).symm
  | cons i p ih =>
    obtain ⟨a, ha, hc⟩ := part?_cons h
    have hreplace := ih hc
    cases d with
    | list items =>
      refine congrArg list (modify_eq_self fun b hb => ?_)
      cases hb.symm.trans ha
      exact hreplace
    | map entries =>
      refine congrArg map (modify_eq_self fun e he => ?_)
      have hvalue : (entries.map Prod.snd)[i]? = some e.2 := by rw [List.getElem?_map, he, Option.map_some]
      cases hvalue.symm.trans ha
      exact Prod.ext rfl hreplace
    | _ => cases ha

theorem part?_append_singleton {i : Nat} (h : d.part? p = some c) : d.part? (p ++ [i]) = c.children[i]? := by
  induction p generalizing d with
  | nil =>
    cases h
    exact Option.bind_fun_some _
  | cons j p ih =>
    obtain ⟨a, ha, hc⟩ := part?_cons h
    rw [List.cons_append, part?, ha]
    exact ih hc

section

variable {name name' : String} {entries : List (Datum × Datum)} {v : Datum}

theorem sameName_text (d : Datum) (name : String) : d.sameName (.text name) = d.isText name := by
  cases d with
  | text s => rfl
  | _ =>
    simp only [sameName, isText]
    split <;> simp_all [quotient?]

theorem isText_iff : d.isText name = true ↔ d = .text name := by
  cases d with
  | text s => simp [isText]
  | _ => simp [isText]

theorem lookup_cons (k v : Datum) (entries : List (Datum × Datum)) (name : String) :
    lookup name ((k, v) :: entries) = if k.isText name then some v else lookup name entries := by
  rw [lookup, List.find?_cons]
  cases k.isText name <;> rfl

theorem put_cons (k w : Datum) (entries : List (Datum × Datum)) (name : String) (v : Datum) :
    put (.text name) v ((k, w) :: entries) =
      if k.isText name then (k, v) :: entries else (k, w) :: put (.text name) v entries := by
  rw [put, sameName_text]

theorem lookup_put (name name' : String) (v : Datum) (entries : List (Datum × Datum)) :
    lookup name' (put (.text name) v entries) = if name = name' then some v else lookup name' entries := by
  induction entries with
  | nil =>
    rw [put, lookup_cons]
    simp only [isText, decide_eq_true_eq]
  | cons e entries ih =>
    obtain ⟨k, w⟩ := e
    rw [put_cons, lookup_cons]
    by_cases hk : k.isText name = true
    · obtain rfl := isText_iff.mp hk
      rw [if_pos hk, lookup_cons]
      simp only [isText, decide_eq_true_eq]
      split <;> rfl
    · rw [if_neg hk, lookup_cons, ih]
      by_cases hname : name = name'
      · subst hname
        rw [if_neg hk]
        simp only [if_true]
      · simp only [if_neg hname]

theorem mem_names_put {k : Datum} (h : k ∈ entries.map Prod.fst) :
    k ∈ (put (.text name) v entries).map Prod.fst := by
  induction entries with
  | nil => cases h
  | cons e entries ih =>
    rw [put_cons]
    split
    · exact h
    · rw [List.map_cons, List.mem_cons] at h ⊢
      exact h.imp_right ih

theorem put_put (name : String) (v w : Datum) (entries : List (Datum × Datum)) :
    put (.text name) v (put (.text name) w entries) = put (.text name) v entries := by
  induction entries with
  | nil => simp [put, sameName_text, isText]
  | cons e entries ih =>
    rw [put_cons, put_cons]
    split
    · rename_i hk
      rw [put_cons, if_pos hk]
    · rename_i hk
      rw [put_cons, if_neg hk, ih]

theorem put_of_entryNumber? {i : Nat} (h : entryNumber? (.text name) entries = some i) :
    put (.text name) v entries = entries.modify i fun e => (e.1, v) := by
  induction entries generalizing i with
  | nil => cases h
  | cons e entries ih =>
    rw [entryNumber?, List.findIdx?_cons, sameName_text] at h
    rw [put_cons]
    cases hk : e.1.isText name with
    | true =>
      rw [hk] at h
      cases h
      rfl
    | false =>
      rw [hk] at h
      obtain ⟨j, hj, rfl⟩ := Option.map_eq_some_iff.mp h
      rw [ih hj]
      rfl

theorem mem_values_put {c : Datum} (h : c ∈ (put (.text name) v entries).map Prod.snd) :
    c = v ∨ c ∈ entries.map Prod.snd := by
  induction entries with
  | nil => simpa [put] using h
  | cons e entries ih =>
    rw [put_cons] at h
    split at h
    · rw [List.map_cons, List.mem_cons] at h
      exact h.imp_right (List.mem_cons_of_mem _)
    · rw [List.map_cons, List.mem_cons] at h ⊢
      rcases h with h | h
      · exact .inr (.inl h)
      · exact (ih h).imp_right .inr

theorem IsPlain.put (h : (Datum.map entries).IsPlain) (hv : v.IsPlain) :
    (Datum.map (put (.text name) v entries)).IsPlain := by
  intro s hs
  rw [texts, entryTexts_eq] at hs
  obtain ⟨c, hc, hsc⟩ := mem_itemTexts_iff.mp hs
  rcases mem_values_put hc with rfl | hc
  · exact hv s hsc
  · exact h.of_mem_children hc s hsc

end

end Datum

namespace Document

variable {root d : Datum} {p : Place}

theorem target_of_isPlain (h : root.IsPlain) (p : Place) : target root p = .ok (.place p) := by
  rw [target, dereference]
  split
  · rename_i s hs
    have hrefers : refers s.toList = false := (h.of_part? hs) s (by simp [Datum.texts])
    rw [hrefers]
    rfl
  · rfl

theorem mapM_children {ε : Type} {f : Nat → Except ε Datum}
    (h : ∀ i c, d.children[i]? = some c → f i = .ok c) :
    (List.range d.children.length).mapM f = .ok d.children := by
  have hchild (i : Nat) (hi : i < d.children.length) : f i = .ok (d.children[i]?.getD .null) := by
    rw [List.getElem?_eq_getElem hi]
    exact h i _ (List.getElem?_eq_getElem hi)
  rw [mapM_eq_ok_map fun i hi => hchild i (List.mem_range.mp hi)]
  refine congrArg Except.ok (List.ext_getElem (by simp) fun i _ hi => ?_)
  simp [List.getElem?_eq_getElem hi]

def expandChild (root : Datum) (depth : Nat) (p : Place) (i : Nat) : Except DocumentError Datum := do
  match ← target root (p ++ [i]) with
  | .text s => return .text s
  | .place q => expand root depth q

theorem expand_list {depth : Nat} {items : List Datum} (hp : root.part? p = some (.list items)) :
    expand root (depth + 1) p =
      ((List.range items.length).mapM (expandChild root depth p)).map .list := by
  rw [expand, hp]
  rfl

theorem expand_map {depth : Nat} {entries : List (Datum × Datum)} (hp : root.part? p = some (.map entries)) :
    expand root (depth + 1) p = ((List.range entries.length).mapM (expandChild root depth p)).map
      fun values => .map ((entries.map Prod.fst).zip values) := by
  rw [expand, hp]
  rfl

theorem expand_of_isPlain (hroot : root.IsPlain) {depth : Nat} (hp : root.part? p = some d)
    (hdepth : d.size ≤ depth) : expand root depth p = .ok d := by
  induction depth generalizing p d with
  | zero => cases d <;> simp [Datum.size] at hdepth
  | succ depth ih =>
    have hchild (i : Nat) (c : Datum) (hc : d.children[i]? = some c) :
        expandChild root depth p i = .ok c := by
      have hsize := Datum.size_lt_of_mem_children (List.mem_of_getElem? hc)
      rw [expandChild, target_of_isPlain hroot]
      exact ih ((Datum.part?_append_singleton hp).trans hc) (by omega)
    have hchildren := mapM_children hchild
    cases d with
    | list items =>
      rw [expand_list hp]
      exact congrArg (Except.map Datum.list) hchildren
    | map entries =>
      rw [Datum.children, List.length_map] at hchildren
      rw [expand_map hp, hchildren]
      exact congrArg (fun es => Except.ok (Datum.map es)) (List.zip_of_prod rfl rfl).symm
    | _ =>
      rw [expand, hp]
      rfl

/-- Following the references of a plain document changes nothing. -/
theorem resolveReferences_of_isPlain (h : root.IsPlain) : resolveReferences root = .ok root :=
  expand_of_isPlain h rfl (Nat.le_succ _)

section

variable {name : String} {entries es : List (Datum × Datum)} {v : Datum} {i : Nat}

theorem replace_entry (v : Datum) (h : Datum.entryNumber? (.text name) entries = some i) :
    (Datum.map entries).replace v [i] = .map (Datum.put (.text name) v entries) := by
  rw [Datum.put_of_entryNumber? h]
  rfl

theorem adopt_of_isPlain (h : root.IsPlain) (i : Nat) : adopt root [i] = root := by
  unfold adopt
  rw [target_of_isPlain h]
  cases hpart : root.part? [i] with
  | none => simp only [hpart]
  | some d =>
    simp only [hpart, Datum.replace_part? hpart, ite_self]

theorem overlayEntries_cons (h : (Datum.map entries).IsPlain) :
    overlayEntries (.map entries) [] ((.text name, v) :: es) =
      match Datum.entryNumber? (.text name) entries with
      | none => overlayEntries (.map (Datum.put (.text name) v entries)) [] es
      | some i => overlay (.map entries) [i] v >>= fun root => overlayEntries root [] es := by
  rw [overlayEntries]
  simp only [Datum.part?]
  cases Datum.entryNumber? (.text name) entries with
  | none => rfl
  | some i =>
    simp only [List.nil_append, adopt_of_isPlain h]

theorem overlayEntries_int (h : (Datum.map entries).IsPlain) (n : Int) :
    overlayEntries (.map entries) [] ((.text name, .int n) :: es) =
      overlayEntries (.map (Datum.put (.text name) (.int n) entries)) [] es := by
  rw [overlayEntries_cons h]
  split
  · rfl
  · rename_i i hi
    rw [← replace_entry _ hi]
    rfl

theorem overlayEntries_list (h : (Datum.map entries).IsPlain) :
    overlayEntries (.map entries) [] ((.text name, .list []) :: es) =
        overlayEntries (.map (Datum.put (.text name) (.list []) entries)) [] es ∨
      overlayEntries (.map entries) [] ((.text name, .list []) :: es) = .error .mismatched := by
  rw [overlayEntries_cons h]
  split
  · exact .inl rfl
  · rename_i i hi
    rw [← replace_entry _ hi, overlay]
    split
    · exact .inr rfl
    · exact .inl rfl

end

end Document
end Chip8
