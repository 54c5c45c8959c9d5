import Chip8.Proofs.Call

/-! A key offered to a session beside the same key offered to its machine. While a key is awaited the session
writes the key down first, and only whole numbers and booleans have a label to be written down under. Every other
key the session then refuses by itself, whether its machine would have accepted it or refused it with a message
of its own. In all other cases the two agree. -/

namespace Chip8

def Datum.HasLabel (d : Datum) : Prop := (∃ n, d = .int n) ∨ ∃ b, d = .bool b

theorem head?_toList_append {s t : String} {c : Char} (h : s.toList.head? = some c) :
    (s ++ t).toList.head? = some c := by
  rw [String.toList_append, List.head?_append, h, Option.some_or]

namespace Error

def initial (e : Error) : Option Char := e.message.toList.head?

theorem initial_unlabelledKey (kind : String) :
    (unlabelledKey kind).initial = some 'U' ∨ (unlabelledKey kind).initial = some 'u' := by
  have hmessage : (unlabelledKey kind).message = if kind = "float" || kind = "str" then
      "Unknown format code 'X' for object of type '" ++ kind ++ "'"
    else "unsupported format string passed to " ++ kind ++ ".__format__" := rfl
  rw [initial, hmessage]
  split
  · exact .inl (head?_toList_append (head?_toList_append rfl))
  · exact .inr (head?_toList_append (head?_toList_append rfl))

theorem head?_lengthMessage (limit : Nat) (found : String) :
    (NumberError.lengthMessage limit found).toList.head? = some 'E' :=
  head?_toList_append (head?_toList_append (head?_toList_append (head?_toList_append rfl)))

theorem initial_number (e : NumberError) : (number e).initial ∈ [some 'i', some 'E', some 'c'] := by
  cases e with
  | malformed base s =>
    have hi : (number (.malformed base s)).initial = some 'i' :=
      head?_toList_append (head?_toList_append (head?_toList_append rfl))
    simp [hi]
  | tooLong limit n =>
    have hE : (number (.tooLong limit n)).initial = some 'E' := head?_lengthMessage limit _
    simp [hE]
  | unwritable limit =>
    have hE : (number (.unwritable limit)).initial = some 'E' := head?_lengthMessage limit _
    simp [hE]
  | notNumber kind =>
    have hi : (number (.notNumber kind)).initial = some 'i' :=
      head?_toList_append (head?_toList_append rfl)
    simp [hi]
  | infinite => decide
  | undefined => decide

theorem initial_invalidKey (key : Datum) : (refusal (.invalidKey key)).initial = some 'K' :=
  head?_toList_append (head?_toList_append rfl)

end Error

theorem Nibble.ofKey_eq_error {key : Datum} {limit : Option Nat} {e : Error}
    (h : ofKey key limit = .error e) : (∃ n, e = .number n) ∨ e = .refusal (.invalidKey key) := by
  unfold ofKey at h
  split at h
  · exact .inr (Except.error.inj h).symm
  · split at h
    · exact .inl ⟨_, (Except.error.inj h).symm⟩
    · split at h
      · cases h
      · rw [← Except.error.inj h]
        rcases Error.raised_cases (.refusal (.invalidKey key)) limit with he | he
        · exact .inr he
        · exact .inl ⟨_, he⟩

theorem Nibble.message_ne_of_ofKey {key : Datum} {limit : Option Nat} {e : Error}
    (h : ofKey key limit = .error e) (kind : String) : e.message ≠ (Error.unlabelledKey kind).message := by
  intro hmessage
  have hinitial : e.initial = (Error.unlabelledKey kind).initial :=
    congrArg (fun s => s.toList.head?) hmessage
  have hlabel := Error.initial_unlabelledKey kind
  rw [← hinitial] at hlabel
  rcases ofKey_eq_error h with ⟨n, rfl⟩ | rfl
  · have hnumber := Error.initial_number n
    rcases hlabel with hU | hu
    · rw [hU] at hnumber
      exact absurd hnumber (by decide)
    · rw [hu] at hnumber
      exact absurd hnumber (by decide)
  · rw [Error.initial_invalidKey] at hlabel
    exact absurd hlabel (by decide)

namespace Machine

variable {m : Machine} {key : Datum} {limit : Option Nat}

theorem exists_deliverKey_iff :
    (∃ n, m.deliverKey key limit = .ok n) ↔ ∃ k, Nibble.ofKey key limit = .ok k := by
  constructor
  · rintro ⟨n, hn⟩
    obtain ⟨k, hk, -⟩ := deliverKey_eq_ok hn
    exact ⟨k, hk⟩
  · rintro ⟨k, hk⟩
    exact ⟨m.deliver k, map_eq_ok_iff.mpr ⟨k, hk, rfl⟩⟩

end Machine

namespace Session

variable {s : Session} {key : Datum}

/-- The machine that a call leaves, or the error that it ends with. -/
def outcome : Session × Option Error → Except Error Machine
  | (t, none) => .ok t.machine
  | (_, some e) => .error e

theorem outcome_settle (s : Session) (x : Except Error Machine) : outcome (s.settle x) = x := by
  cases x <;> rfl

theorem outcome_deliverKey (h : s.isAwaiting = true → key.HasLabel) :
    outcome (s.deliverKey key) = s.machine.deliverKey key s.digitLimit := by
  rcases deliverKey_cases s key with ⟨u, -, hd⟩ | ⟨e, ha, hl, -⟩
  · rw [hd]
    exact outcome_settle u _
  · obtain ⟨n, rfl⟩ | ⟨b, rfl⟩ := h ha
    · cases hl
    · cases hl

theorem deliverKey_unlabelled (ha : s.isAwaiting = true) (h : ¬ key.HasLabel) :
    s.deliverKey key = (s, some (.unlabelledKey key.kind)) := by
  obtain ⟨x, hx⟩ := Option.isSome_iff_exists.mp ha
  have hlabel : keyLabel key = .error (.unlabelledKey key.kind) := by
    cases key with
    | int n => exact absurd (.inl ⟨n, rfl⟩) h
    | bool b => exact absurd (.inr ⟨b, rfl⟩) h
    | _ => rfl
  rw [deliverKey, hx, hlabel]

theorem exists_outcome_iff {r : Session × Option Error} : (∃ m, outcome r = .ok m) ↔ r.2 = none := by
  obtain ⟨t, _ | e⟩ := r
  · exact iff_of_true ⟨t.machine, rfl⟩ rfl
  · exact iff_of_false nofun nofun

/-- A session does with a key what its machine does with it, in the machine that is left and in the error, if
and only if no label is missing. A key that is accepted at rest is accepted from a waiting session if and only
if it has a label, and a missing label is a message that no machine would give. -/
theorem deliverKey_agrees_iff (s : Session) (key : Datum) :
    (outcome (s.deliverKey key) = s.machine.deliverKey key s.digitLimit ↔
        (s.isAwaiting = true → key.HasLabel)) ∧
      ((s.deliverKey key).2 = none ↔
        (∃ k, Nibble.ofKey key s.digitLimit = .ok k) ∧ (s.isAwaiting = true → key.HasLabel)) ∧
      (s.isAwaiting = true → ¬ key.HasLabel →
        s.deliverKey key = (s, some (.unlabelledKey key.kind)) ∧
          ∀ e, s.machine.deliverKey key s.digitLimit = .error e →
            e.message ≠ (Error.unlabelledKey key.kind).message) := by
  have hmessage (e : Error) (he : s.machine.deliverKey key s.digitLimit = .error e) :
      e.message ≠ (Error.unlabelledKey key.kind).message :=
    Nibble.message_ne_of_ofKey (Machine.deliverKey_eq_error he) key.kind
  by_cases h : s.isAwaiting = true → key.HasLabel
  · have hagree := outcome_deliverKey h
    refine ⟨iff_of_true hagree h, ?_, fun ha hno => absurd (h ha) hno⟩
    rw [← exists_outcome_iff, hagree, Machine.exists_deliverKey_iff]
    exact (and_iff_left h).symm
  · obtain ⟨ha, hno⟩ := Classical.not_imp.mp h
    have hrefused := deliverKey_unlabelled ha hno
    refine ⟨iff_of_false (fun hagree => ?_) h, ?_, fun _ _ => ⟨hrefused, hmessage⟩⟩
    · rw [hrefused] at hagree
      exact hmessage _ hagree.symm rfl
    · rw [hrefused]
      exact iff_of_false nofun fun hk => h hk.2

/-- The text `7` answers the wait of a machine, but the session that waits refuses it. -/
theorem deliverKey_disagrees :
    ¬ ∀ (s : Session) (key : Datum),
      outcome (s.deliverKey key) = s.machine.deliverKey key s.digitLimit := by
  intro h
  have hsession : outcome (parked.deliverKey (.text "7")) = .error (.unlabelledKey "str") := rfl
  have hmachine : parked.machine.deliverKey (.text "7") parked.digitLimit =
      .ok (parked.machine.deliver 7) := rfl
  have hagree := h parked (.text "7")
  rw [hsession, hmachine] at hagree
  cases hagree

/-- No key at all is refused by both, but not with one message. -/
example : outcome (parked.deliverKey .null) = .error (.unlabelledKey "NoneType") ∧
    parked.machine.deliverKey .null = .error (.number (.notNumber "NoneType")) := ⟨rfl, rfl⟩

end Session
end Chip8
