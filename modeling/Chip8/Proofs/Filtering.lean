import Chip8.Proofs.Utterance

/-! Two journals of different thresholds. What the more patient one writes down, filtered by level, is what the
other one writes down, and nothing else of a session depends on which of the two it keeps. -/

namespace Chip8

theorem Level.le_trans {a b c : Level} (h : a ≤ b) (h' : b ≤ c) : a ≤ c := Nat.le_trans h h'

namespace Journal

/-- The entries of `k` are those of `j` from level `l` on. Neither journal stamps its entries, so that a line is
the same in both. -/
structure Narrows (l : Level) (j k : Journal) : Prop where
  name : k.name = j.name
  coloured : k.coloured = j.coloured
  clock : k.clock = j.clock
  opened : k.opened = j.opened
  unstamped : j.stamped = false ∧ k.stamped = false
  patient : j.threshold ≤ l
  threshold : k.threshold = l
  entries : k.entries.toList = j.entries.toList.filter (l ≤ ·.level)

variable {l : Level} {j k : Journal}

theorem narrows_start {l₁ l₂ : Level} (h : l₁ ≤ l₂) (name : String) (coloured : Bool) (clock : Clock) :
    Narrows l₂ (start name l₁ coloured false clock) (start name l₂ coloured false clock) where
  name := rfl
  coloured := rfl
  clock := rfl
  opened := rfl
  unstamped := ⟨rfl, rfl⟩
  patient := h
  threshold := rfl
  entries := rfl

theorem log_of_unstamped (h : j.stamped = false) (level : Level) (message : Message) :
    j.log level message =
      { j with
        entries :=
          if j.threshold ≤ level then j.entries.push ⟨level, none, message⟩ else j.entries } := by
  cases j
  cases h
  simp only [log, accepts, decide_eq_true_eq]
  split <;> rfl

theorem Narrows.log (h : Narrows l j k) (level : Level) (message : Message) :
    Narrows l (j.log level message) (k.log level message) := by
  rw [log_of_unstamped h.unstamped.1, log_of_unstamped h.unstamped.2]
  refine { h with entries := ?_ }
  simp only [h.threshold]
  by_cases hl : l ≤ level
  · have hj : j.threshold ≤ level := Level.le_trans h.patient hl
    simp [hl, hj, h.entries]
  · -- The message is filtered out, whether it has been written down or not.
    by_cases hj : j.threshold ≤ level <;> simp [hl, hj, h.entries]

theorem Narrows.logAll (h : Narrows l j k) (level : Level) (messages : List Message) :
    Narrows l (j.logAll level messages) (k.logAll level messages) := by
  induction messages generalizing j k with
  | nil => exact h
  | cons m ms ih => exact ih (h.log level m)

theorem Narrows.logRunEnd (h : Narrows l j k) (figures : List (String × Datum)) :
    Narrows l (j.logRunEnd figures) (k.logRunEnd figures) := by
  unfold Journal.logRunEnd
  rw [h.clock, h.opened]
  refine Narrows.logAll ?_ _ _
  exact { h with clock := rfl, opened := rfl }

theorem Narrows.hear (h : Narrows l j k) (u : Utterance) : Narrows l (j.hear u) (k.hear u) := by
  cases u with
  | note level message => exact h.log level message
  | runEnd figures => exact h.logRunEnd figures

theorem Narrows.hearAll (h : Narrows l j k) (us : List Utterance) :
    Narrows l (j.hearAll us) (k.hearAll us) := by
  induction us generalizing j k with
  | nil => exact h
  | cons u us ih => exact ih (h.hear u)

theorem Narrows.lines (h : Narrows l j k) :
    k.lines = (j.entries.toList.filter (l ≤ ·.level)).map j.line := by
  have hline : k.line = j.line := by
    funext e
    rw [line, line, h.name, h.coloured]
  rw [Journal.lines, linesFrom, List.drop_zero, h.entries, hline]

end Journal

/-- The second exchange shows what the first one shows, except for the lines below level `l`. -/
structure Exchange.Filtered (l : Level) (e e' : Exchange) : Prop where
  request : e'.request = e.request
  reply : e'.reply = e.reply
  machine : e'.after.machine = e.after.machine
  steps : e'.after.steps = e.after.steps
  clears : e'.after.clears = e.after.clears
  lines : e'.after.journal.lines =
    (e.after.journal.entries.toList.filter (l ≤ ·.level)).map e.after.journal.line

namespace Session

variable {l : Level} {j k : Journal}

theorem exchange_filtered (h : j.Narrows l k) (s : Session) (r : Request) :
    ((s.withJournal j).exchange r).Filtered l ((s.withJournal k).exchange r) := by
  constructor
  · rfl
  all_goals simp only [exchange, serve_withJournal]
  · rfl
  · rfl
  · rfl
  · exact (h.hearAll (s.notes r)).lines

theorem history_narrows (h : j.Narrows l k) (s : Session) (rs : List Request) :
    List.Forall₂ (Exchange.Filtered l) ((s.withJournal j).history rs)
      ((s.withJournal k).history rs) := by
  induction rs generalizing s j k with
  | nil => exact .nil
  | cons r rs ih =>
    refine .cons (exchange_filtered h s r) ?_
    rw [serve_withJournal s r j, serve_withJournal s r k]
    exact ih (h.hearAll (s.notes r)) (s.serve r).1

/-- Whatever is asked of a session that keeps a journal without stamps, a higher threshold does nothing but
filter the lines. -/
theorem history_filtered {l₁ l₂ : Level} (h : l₁ ≤ l₂) (s : Session) (name : String)
    (coloured : Bool) (clock : Clock) (rs : List Request) :
    List.Forall₂ (Exchange.Filtered l₂)
      ((s.withJournal (.start name l₁ coloured false clock)).history rs)
      ((s.withJournal (.start name l₂ coloured false clock)).history rs) :=
  history_narrows (Journal.narrows_start h name coloured clock) s rs

/-- A key that is refused, a fault, and a run: at the level of warnings only the faults are left. -/
theorem history_filtered_warning :
    let rs : List Request := [.call (.deliver (.int 16)), .call (.deliver (.int 7)), .call .step, .run 2]
    Level.debug ≤ Level.warning ∧
      List.Forall₂ (Exchange.Filtered .warning)
        ((parked.withJournal (.start "Engine" .debug false false ⟨[]⟩)).history rs)
        ((parked.withJournal (.start "Engine" .warning false false ⟨[]⟩)).history rs) := by
  intro rs
  have h : Level.debug ≤ Level.warning := by decide
  exact ⟨h, history_filtered h parked "Engine" false ⟨[]⟩ rs⟩

end Session
end Chip8
