import Chip8.Datum.Mapping
import Mathlib.Data.List.Nodup
import Mathlib.Tactic.Common

/-! Records: mappings with texts for names, no name twice. What is read from a record does not depend on the order
of its entries, neither the value under a name nor the list of the names that are not known, which is sorted. -/

namespace Chip8

/-- A mapping with texts for names, no name twice. -/
structure Record where
  entries : List (String × Datum)
  nodup : (entries.map Prod.fst).Nodup

structure Lists (names : List String) (p : String → Prop) : Prop where
  rising : names.Pairwise (· < ·)
  mem_iff : ∀ s, s ∈ names ↔ p s

theorem Lists.unique {names names' : List String} {p : String → Prop} (h : Lists names p)
    (h' : Lists names' p) : names = names' := by
  have hperm : names.Perm names' := (List.perm_ext_iff_of_nodup h.rising.nodup h'.rising.nodup).mpr
    fun s => (h.mem_iff s).trans (h'.mem_iff s).symm
  refine hperm.eq_of_pairwise (fun a b _ _ hab hba => ?_) h.rising h'.rising
  exact absurd (String.lt_trans hab hba) (String.lt_irrefl a)

theorem Lists.congr {names : List String} {p q : String → Prop} (h : Lists names p) (hpq : ∀ s, p s ↔ q s) :
    Lists names q :=
  ⟨h.rising, fun s => (h.mem_iff s).trans (hpq s)⟩

theorem lists_mergeSort {ss : List String} (h : ss.Nodup) : Lists (ss.mergeSort (· ≤ ·)) (· ∈ ss) := by
  refine ⟨?_, fun s => List.mem_mergeSort⟩
  have hsorted : (ss.mergeSort (· ≤ ·)).Pairwise fun a b => decide (a ≤ b) = true := by
    refine List.pairwise_mergeSort (fun a b c hab hbc => ?_) (fun a b => ?_) ss
    · exact decide_eq_true (String.le_trans (of_decide_eq_true hab) (of_decide_eq_true hbc))
    · simpa using String.le_total a b
  have hnodup : (ss.mergeSort (· ≤ ·)).Nodup := (List.mergeSort_perm ss _).nodup_iff.mpr h
  refine List.Pairwise.imp₂ (fun a b hle hne => ?_) hsorted hnodup
  by_contra hlt
  exact hne (String.le_antisymm (of_decide_eq_true hle) (String.not_lt.mp hlt))

namespace Record

variable {r r' : Record} {name : String} {known : List String}

def names (r : Record) : List String := r.entries.map Prod.fst

def get? (r : Record) (name : String) : Option Datum := r.entries.lookup name

def data (r : Record) : List (Datum × Datum) := r.entries.map fun (name, d) => (.text name, d)

def datum (r : Record) : Datum := .map r.data

def empty : Record := ⟨[], List.nodup_nil⟩

def others (r : Record) (known : List String) : List String :=
  (r.names.filter fun s => s ∉ known).mergeSort (· ≤ ·)

theorem lists_others (r : Record) (known : List String) :
    Lists (r.others known) fun s => s ∈ r.names ∧ s ∉ known := by
  refine (lists_mergeSort (r.nodup.filter _)).congr fun s => ?_
  rw [List.mem_filter, decide_eq_true_eq]
  rfl

theorem others_eq_nil_iff : r.others known = [] ↔ ∀ s ∈ r.names, s ∈ known := by
  rw [List.eq_nil_iff_forall_not_mem]
  simp only [(r.lists_others known).mem_iff, not_and, not_not]

theorem mem_entries_iff {d : Datum} : (name, d) ∈ r.entries ↔ r.get? name = some d := by
  obtain ⟨es, hnodup⟩ := r
  simp only [get?]
  induction es with
  | nil => simp
  | cons e es ih =>
    obtain ⟨k, v⟩ := e
    rw [List.map_cons, List.nodup_cons] at hnodup
    rw [List.mem_cons, List.lookup_cons]
    by_cases hk : name = k
    · subst hk
      have hnot : (name, d) ∉ es := fun hmem => hnodup.1 (List.mem_map.mpr ⟨_, hmem, rfl⟩)
      simp [hnot, eq_comm]
    · have hlookup : (name == k) = false := beq_false_of_ne hk
      simp [hk, hlookup, ih hnodup.2]

theorem mem_names_iff : name ∈ r.names ↔ ∃ d, (name, d) ∈ r.entries := by
  simp [names]

theorem get?_eq_of_mem_iff (h : ∀ d, (name, d) ∈ r.entries ↔ (name, d) ∈ r'.entries) :
    r.get? name = r'.get? name := by
  refine Option.ext fun d => ?_
  rw [← mem_entries_iff, ← mem_entries_iff, h]

/-! As data -/

theorem lookup_data (r : Record) (name : String) : Datum.lookup name r.data = r.get? name := by
  rw [Datum.lookup, data, get?]
  induction r.entries with
  | nil => rfl
  | cons e es ih =>
    obtain ⟨k, v⟩ := e
    rw [List.map_cons, List.lookup_cons]
    by_cases hk : k = name
    · subst hk
      simp [Datum.isText]
    · have hlookup : (name == k) = false := beq_false_of_ne (Ne.symm hk)
      rw [List.find?_cons_of_neg (by simpa [Datum.isText] using hk), ih, hlookup]

theorem names_data (r : Record) : r.data.map Prod.fst = r.names.map Datum.text := by
  simp [data, names]

theorem texts?_map_text (ss : List String) : Datum.texts? (ss.map .text) = some ss := by
  induction ss with
  | nil => rfl
  | cons s ss ih => simp [Datum.texts?, ih]

theorem sortNames_map_text (ss : List String) :
    Datum.sortNames (ss.map .text) = .ok ((ss.mergeSort (· ≤ ·)).map .text) := by
  unfold Datum.sortNames
  rw [texts?_map_text]

theorem distinct_map_text {ss : List String} (h : ss.Nodup) : Datum.distinct (ss.map .text) = ss.map .text := by
  suffices hseen : ∀ seen : List String, (seen ++ ss).Nodup → (ss.map Datum.text).foldl
      (fun seen d => if seen.any (·.sameName d) then seen else seen ++ [d]) (seen.map .text) =
        (seen ++ ss).map .text from hseen [] h
  clear h
  induction ss with
  | nil => simp
  | cons s ss ih =>
    intro seen h
    have hnew : s ∉ seen := fun hmem => (List.nodup_append.mp h).2.2 s hmem s (List.mem_cons_self ..) rfl
    have hany : ((seen.map Datum.text).any (·.sameName (.text s))) = false := by
      simp only [List.any_map, List.any_eq_false]
      intro t ht
      simp [Datum.sameName, show t ≠ s from fun hts => hnew (hts ▸ ht)]
    rw [List.map_cons, List.foldl_cons, hany]
    have hnext := ih (seen ++ [s]) (by simpa using h)
    simpa using hnext

end Record
end Chip8
