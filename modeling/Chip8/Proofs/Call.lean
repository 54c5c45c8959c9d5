import Chip8.Proofs.Action
import Chip8.Proofs.SessionStep

/-! The calls of a session that can fail, as data. A call that fails leaves machine and count as they
were, with two exceptions. A press holds its key before it delivers it, and a fraction or a text that
reads as a key can be held but has no label under which its delivery could be written down. And a program is put
into memory before its length is written down, which some programs do not have. -/

namespace Chip8

inductive Call where
  | load (program : List Byte)
  | loadData (program : List Datum)
  | loadFile (contents : Except FileError (List Byte))
  | loadUnsized (program : Unsized)
  | press (key : Datum)
  | release (key : Datum)
  | deliver (key : Datum)
  | step

def Datum.IsSpelled (d : Datum) : Prop := (∃ f, d = .float f) ∨ ∃ s, d = .text s

theorem Machine.hold_eq_self_iff {m : Machine} {k : Nibble} {pressed : Bool} :
    m.hold k pressed = m ↔ m.keypad.get k = pressed := by
  constructor
  · intro h
    have hk := congrArg (fun m : Machine => m.keypad.get k) h
    simpa [hold, Table.get_set] using hk.symm
  · intro h
    have hpad : m.keypad.set k pressed = m.keypad := by
      ext j
      rw [Table.get_set]
      split
      · rename_i hj
        rw [← hj, h]
      · rfl
    rw [hold, hpad]

namespace Session

def call (s : Session) : Call → Session × Option Error
  | .load program => s.load program
  | .loadData program => s.loadData program
  | .loadFile contents => s.loadFile contents
  | .loadUnsized program => s.loadUnsized program
  | .press key => s.pressKey key
  | .release key => s.releaseKey key
  | .deliver key => s.deliverKey key
  | .step => (s.step.1, s.step.2.map Error.ofFault)

/-- The call fails after it has made another machine of the one that there was. -/
inductive BreaksOff (s : Session) : Call → Machine → Prop
  | press {key : Datum} {k : Nibble} (hk : Nibble.ofKey key s.digitLimit = .ok k) (hkey : key.IsSpelled)
      (ha : s.isAwaiting = true) (hfree : s.machine.keypad.get k = false) :
      s.BreaksOff (.press key) (s.machine.hold k true)
  | load {program : Unsized} {m : Machine} (hm : s.machine.loadUnsized program = .ok m)
      (hnew : m ≠ s.machine) : s.BreaksOff (.loadUnsized program) m

variable {s t : Session} {e : Error}

theorem install_failed {n : Nat} {x : Except Error Machine} (h : s.install n x = (t, some e)) :
    s.Keeps t := by
  cases x with
  | error e' =>
    obtain ⟨rfl, -⟩ := Prod.mk.inj h
    exact ⟨rfl, rfl⟩
  | ok m => simp [install] at h

theorem settle_failed {x : Except Error Machine} (h : s.settle x = (t, some e)) :
    s.Keeps t ∧ x = .error e := by
  cases x with
  | error e' =>
    obtain ⟨rfl, he⟩ := Prod.mk.inj h
    exact ⟨⟨rfl, rfl⟩, by rw [Option.some.inj he]⟩
  | ok m => simp [settle] at h

theorem keyLabel_eq_error {key : Datum} {k : Nibble} {limit : Option Nat}
    (hk : Nibble.ofKey key limit = .ok k) (h : keyLabel key = .error e) : key.IsSpelled := by
  cases key with
  | float f => exact .inl ⟨f, rfl⟩
  | text u => exact .inr ⟨u, rfl⟩
  | int n => simp [keyLabel] at h
  | bool b => simp [keyLabel] at h
  | null => simp [Nibble.ofKey, Datum.readInt] at hk
  | list items => simp [Nibble.ofKey, Datum.readInt] at hk
  | map entries => simp [Nibble.ofKey, Datum.readInt] at hk

/-- A key is handed to the machine, perhaps with a line more in the journal, unless it answers a wait and has no
label to be written down under. -/
theorem deliverKey_cases (s : Session) (key : Datum) :
    (∃ u, s.Quiet u ∧ s.deliverKey key = u.settle (s.machine.deliverKey key s.digitLimit)) ∨
      ∃ e, s.isAwaiting = true ∧ keyLabel key = .error e ∧ s.deliverKey key = (s, some e) := by
  unfold deliverKey
  cases hx : s.machine.awaiting with
  | none => exact .inl ⟨s, rfl, rfl⟩
  | some x =>
    cases hl : keyLabel key with
    | error e => exact .inr ⟨e, isAwaiting_of_some hx, rfl, rfl⟩
    | ok n => exact .inl ⟨_, quiet_log s .debug (.keyDelivered n x), rfl⟩

theorem deliverKey_failed {key : Datum} (h : s.deliverKey key = (t, some e)) :
    s.Keeps t ∧ ∀ k, Nibble.ofKey key s.digitLimit = .ok k → s.isAwaiting = true ∧ key.IsSpelled := by
  rcases deliverKey_cases s key with ⟨u, hu, hd⟩ | ⟨e', ha, hl, hd⟩
  · -- Once the machine has the key, only the check of the key can fail.
    rw [hd] at h
    obtain ⟨hk, he⟩ := settle_failed h
    refine ⟨⟨hk.1.trans hu.keeps.1, hk.2.trans hu.keeps.2⟩, fun k hok => ?_⟩
    rw [Machine.deliverKey_eq_error he] at hok
    cases hok
  · rw [hd] at h
    obtain ⟨rfl, -⟩ := Prod.mk.inj h
    exact ⟨⟨rfl, rfl⟩, fun k hok => ⟨ha, keyLabel_eq_error hok hl⟩⟩

theorem pressKey_failed {key : Datum} (h : s.pressKey key = (t, some e)) :
    (∃ e', Nibble.ofKey key s.digitLimit = .error e' ∧ s.Keeps t) ∨
      ∃ k, Nibble.ofKey key s.digitLimit = .ok k ∧ s.isAwaiting = true ∧ key.IsSpelled ∧
        t.machine = s.machine.hold k true ∧ t.steps = s.steps := by
  unfold pressKey Machine.setKey at h
  cases hk : Nibble.ofKey key s.digitLimit with
  | error e' =>
    rw [hk] at h
    obtain ⟨rfl, -⟩ := Prod.mk.inj h
    exact .inl ⟨e', rfl, rfl, rfl⟩
  | ok k =>
    rw [hk] at h
    -- The delivery that failed started from the session in which the key is held already.
    obtain ⟨⟨hm, hs⟩, hd⟩ := deliverKey_failed h
    obtain ⟨ha, hkey⟩ := hd k hk
    exact .inr ⟨k, rfl, ha, hkey, hm, hs⟩

/-- What a failed call leaves: the count of steps, and the machine unless the call has broken off. -/
structure Failure (s : Session) (c : Call) (t : Session) : Prop where
  steps : t.steps = s.steps
  keeps_iff : t.machine = s.machine ↔ ∀ m, ¬ s.BreaksOff c m
  machine {m : Machine} : s.BreaksOff c m → t.machine = m

theorem failure_of_keeps {c : Call} (hc : ∀ m, ¬ s.BreaksOff c m) (h : s.Keeps t) : s.Failure c t :=
  ⟨h.2, iff_of_true h.1 hc, fun {m} hm => absurd hm (hc m)⟩

theorem failure_of_left {c : Call} {m : Machine} (hsteps : t.steps = s.steps) (hm : t.machine = m)
    (honly : ∀ n, s.BreaksOff c n → n = m) (hbreaks : m ≠ s.machine → s.BreaksOff c m)
    (hnew : s.BreaksOff c m → m ≠ s.machine) : s.Failure c t := by
  refine ⟨hsteps, ?_, fun {n} hn => (honly n hn).symm ▸ hm⟩
  rw [hm]
  constructor
  · rintro hsame n hn
    obtain rfl := honly n hn
    exact hnew hn hsame
  · intro hno
    by_contra hne
    exact hno m (hbreaks hne)

theorem pressKey_failure {key : Datum} (h : s.pressKey key = (t, some e)) :
    s.Failure (.press key) t := by
  rcases pressKey_failed h with ⟨e', hk, hkeeps⟩ | ⟨k, hk, ha, hkey, hm, hs⟩
  · refine failure_of_keeps (fun m hm => ?_) hkeeps
    cases hm with
    | press hk' =>
      rw [hk] at hk'
      cases hk'
  · have honly (n : Machine) (hn : s.BreaksOff (.press key) n) : n = s.machine.hold k true := by
      cases hn with
      | press hj =>
        rw [hk] at hj
        rw [Except.ok.inj hj]
    refine failure_of_left hs hm honly (fun hne => ?_) fun hbreaks => ?_
    · refine .press hk hkey ha (eq_false_of_ne_true fun hheld => hne ?_)
      exact Machine.hold_eq_self_iff.mpr hheld
    · generalize hn : s.machine.hold k true = n at hbreaks
      cases hbreaks with
      | press hj _ _ hfree =>
        rw [hk] at hj
        obtain rfl := Except.ok.inj hj
        rw [Ne, Machine.hold_eq_self_iff, hfree]
        decide

theorem loadUnsized_failure {program : Unsized} (h : s.loadUnsized program = (t, some e)) :
    s.Failure (.loadUnsized program) t := by
  unfold loadUnsized at h
  cases hm : s.machine.loadUnsized program with
  | error e' =>
    rw [hm] at h
    obtain ⟨rfl, -⟩ := Prod.mk.inj h
    refine failure_of_keeps (fun m hn => ?_) ⟨rfl, rfl⟩
    cases hn with
    | load hn =>
      rw [hm] at hn
      cases hn
  | ok m =>
    rw [hm] at h
    obtain ⟨rfl, -⟩ := Prod.mk.inj h
    refine failure_of_left rfl rfl (fun n hn => ?_) (.load hm) fun hbreaks => ?_
    · cases hn with
      | load hn =>
        rw [hm] at hn
        exact (Except.ok.inj hn).symm
    · cases hbreaks with
      | load _ hnew => exact hnew

/-- A call that fails changes nothing at all, unless it breaks off: then a key is held, or a program is in memory, and
nothing else is changed. -/
theorem failed_call_keeps_iff {c : Call} (h : s.call c = (t, some e)) : s.Failure c t := by
  cases c with
  | load program => exact failure_of_keeps nofun (install_failed h)
  | loadData program => exact failure_of_keeps nofun (install_failed h)
  | loadFile contents => exact failure_of_keeps nofun (install_failed h)
  | loadUnsized program => exact loadUnsized_failure h
  | press key => exact pressKey_failure h
  | release key => exact failure_of_keeps nofun (settle_failed h).1
  | deliver key => exact failure_of_keeps nofun (deliverKey_failed h).1
  | step =>
    obtain ⟨rfl, hf⟩ := Prod.mk.inj h
    obtain ⟨f, hf, -⟩ := Option.map_eq_some_iff.mp hf
    exact failure_of_keeps nofun (step_fault_keeps hf)

def around (m : Machine) : Session where
  settings := {}
  machine := m
  steps := 0
  journal := Journal.start "Engine" .warning false false ⟨[]⟩
  notifiesClear := false
  clears := 0

/-- Right after power-on, awaiting a key for the first register. -/
def parked : Session := around { Machine.powerOn 0 {} with awaiting := some 0 }

def stuck : Session := { parked with machine := parked.machine.hold 7 true }

theorem call_press_seven :
    parked.call (.press (.text "7")) = (stuck, some (.unlabelledKey "str")) := rfl

theorem failed_call_keeps_seven :
    parked.call (.press (.text "7")) = (stuck, some (.unlabelledKey "str")) ∧
      parked.Failure (.press (.text "7")) stuck :=
  ⟨call_press_seven, failed_call_keeps_iff call_press_seven⟩

theorem failed_call_not_atomic :
    ¬ ∀ (s t : Session) (c : Call) (e : Error), s.call c = (t, some e) →
      t.machine = s.machine ∧ t.steps = s.steps := by
  intro h
  have hm : stuck.machine = parked.machine := (h _ _ _ _ call_press_seven).1
  rw [stuck, Machine.hold_eq_self_iff] at hm
  exact absurd hm (by decide)

end Session
end Chip8
