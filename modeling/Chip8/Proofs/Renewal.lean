import Chip8.Proofs.Draws
import Chip8.Proofs.Tandem

/-! A reset forgets the past. Whatever a session has been asked for, after a reset its machine is the one that it
was created with, and from then on it behaves like a session that has just been created. What it kept of the past
is the number of cleared screens that were announced and the lines in its journal; the new ones are the same, up
to the times that they tell. -/

namespace Chip8

/-- The message without the time that it tells. -/
def Message.untimed : Message → Message
  | .runFinished _ => .runFinished 0
  | m => m

def Entry.untimed (e : Entry) : Entry := { e with stamp := none, message := e.message.untimed }

theorem Entry.untimed_untimed (e : Entry) : e.untimed.untimed = e.untimed := by
  obtain ⟨level, stamp, message⟩ := e
  cases message <;> rfl

namespace Journal

structure Alike (j k : Journal) : Prop where
  name : k.name = j.name
  threshold : k.threshold = j.threshold
  coloured : k.coloured = j.coloured
  stamped : k.stamped = j.stamped

structure SameTimes (j k : Journal) : Prop where
  clock : k.clock = j.clock
  opened : k.opened = j.opened

/-- As far as `f` shows, the entries of `j` from number `n` on are all those of `k`, and further entries will be the
same in both: the two tell the same times, or `f` does not show them. -/
structure Continues {β : Type} (f : Entry → β) (n : Nat) (j k : Journal) : Prop where
  alike : j.Alike k
  times : j.SameTimes k ∨ ∀ e, f e.untimed = f e
  size : n ≤ j.entries.size
  entries : (j.entries.toList.drop n).map f = k.entries.toList.map f

variable {β : Type} {f : Entry → β} {n : Nat} {j k l : Journal}

theorem Alike.refl (j : Journal) : j.Alike j := ⟨rfl, rfl, rfl, rfl⟩

theorem Alike.trans (h : j.Alike k) (h' : k.Alike l) : j.Alike l :=
  ⟨h'.name.trans h.name, h'.threshold.trans h.threshold, h'.coloured.trans h.coloured,
    h'.stamped.trans h.stamped⟩

theorem Alike.line (h : j.Alike k) : k.line = j.line := by
  funext e
  rw [Journal.line, Journal.line, h.name, h.coloured]

theorem Alike.symm (h : j.Alike k) : k.Alike j :=
  ⟨h.name.symm, h.threshold.symm, h.coloured.symm, h.stamped.symm⟩

def entry (j : Journal) (level : Level) (message : Message) : Entry where
  level := level
  stamp := if j.stamped then some (j.clock.read.1 - j.opened) else none
  message := message

def write (j : Journal) (e : Entry) : Journal :=
  { j with
    clock := if j.stamped then j.clock.read.2 else j.clock
    entries := j.entries.push e }

theorem log_eq (j : Journal) (level : Level) (message : Message) :
    j.log level message = if j.accepts level then j.write (j.entry level message) else j := by
  unfold log write entry
  cases j.stamped <;> rfl

theorem alike_log (j : Journal) (level : Level) (message : Message) : j.Alike (j.log level message) := by
  rw [log_eq]
  split <;> exact ⟨rfl, rfl, rfl, rfl⟩

theorem alike_logAll (j : Journal) (level : Level) (messages : List Message) :
    j.Alike (j.logAll level messages) := by
  induction messages generalizing j with
  | nil => exact .refl j
  | cons m ms ih => exact (alike_log j level m).trans (ih _)

theorem alike_hear (j : Journal) (u : Utterance) : j.Alike (j.hear u) := by
  cases u with
  | note level message => exact alike_log j level message
  | runEnd figures =>
    have hread : j.Alike { j with clock := j.clock.read.2 } := ⟨rfl, rfl, rfl, rfl⟩
    exact hread.trans (alike_logAll _ _ _)

theorem alike_hearAll (j : Journal) (us : List Utterance) : j.Alike (j.hearAll us) := by
  induction us generalizing j with
  | nil => exact .refl j
  | cons u us ih => exact (alike_hear j u).trans (ih _)

theorem Continues.write (h : Continues f n j k) {d e : Entry} (hf : f d = f e) :
    Continues f n (j.write d) (k.write e) where
  alike := ⟨h.alike.name, h.alike.threshold, h.alike.coloured, h.alike.stamped⟩
  times := by
    refine h.times.imp_left fun ht => ⟨?_, ht.opened⟩
    simp only [Journal.write, ht.clock, h.alike.stamped]
  size := by
    rw [Journal.write, Array.size_push]
    exact Nat.le_succ_of_le h.size
  entries := by
    have hsize : n ≤ j.entries.toList.length := h.size
    rw [Journal.write, Journal.write, Array.toList_push, Array.toList_push,
      List.drop_append_of_le_length hsize, List.map_append, List.map_append, h.entries,
      List.map_singleton, List.map_singleton, hf]

theorem Continues.log (h : Continues f n j k) (level : Level) {p q : Message}
    (hpq : p = q ∨ (∀ e, f e.untimed = f e) ∧ p.untimed = q.untimed) :
    Continues f n (j.log level p) (k.log level q) := by
  have hblind (hf : ∀ e, f e.untimed = f e) (hm : p.untimed = q.untimed) :
      f (j.entry level p) = f (k.entry level q) := by
    have huntimed : (j.entry level p).untimed = (k.entry level q).untimed := by
      simp only [entry, Entry.untimed, hm]
    rw [← hf, huntimed, hf]
  have haccepts : k.accepts level = j.accepts level := by rw [accepts, accepts, h.alike.threshold]
  rw [log_eq, log_eq, haccepts]
  split
  · apply h.write
    rcases hpq with rfl | ⟨hf, hm⟩
    · rcases h.times with ht | hf
      · rw [entry, entry, ht.clock, ht.opened, h.alike.stamped]
      · exact hblind hf rfl
    · exact hblind hf hm
  · exact h

theorem Continues.logAll (h : Continues f n j k) (level : Level) (messages : List Message) :
    Continues f n (j.logAll level messages) (k.logAll level messages) := by
  induction messages generalizing j k with
  | nil => exact h
  | cons m ms ih => exact ih (h.log level (.inl rfl))

theorem Continues.logRunEnd (h : Continues f n j k) (figures : List (String × Datum)) :
    Continues f n (j.logRunEnd figures) (k.logRunEnd figures) := by
  have hread : Continues f n { j with clock := j.clock.read.2 } { k with clock := k.clock.read.2 } :=
    { alike := ⟨h.alike.name, h.alike.threshold, h.alike.coloured, h.alike.stamped⟩
      times := h.times.imp_left fun ht => ⟨by rw [ht.clock], ht.opened⟩
      size := h.size
      entries := h.entries }
  refine Continues.logAll ?_ .info (settingLines figures ++ [.rule])
  refine (hread.log .info (.inl rfl)).log .info ?_
  rcases h.times with ht | hf
  · exact .inl (by rw [ht.clock, ht.opened])
  · exact .inr ⟨hf, rfl⟩

end Journal

/-- The first exchange is the second one with a past of `n` lines and `c` cleared screens. -/
structure Exchange.Repeats (n c : Nat) (e e' : Exchange) : Prop where
  request : e.request = e'.request
  reply : e.reply = e'.reply
  machine : e.after.machine = e'.after.machine
  steps : e.after.steps = e'.after.steps
  clears : e.after.clears = c + e'.after.clears
  line : e.after.journal.line = e'.after.journal.line
  entries : (e.after.journal.entries.toList.drop n).map Entry.untimed =
    e'.after.journal.entries.toList.map Entry.untimed

namespace Session

/-- The first session is the second one with a past, as far as `f` shows their journals. -/
structure Renews {β : Type} (f : Entry → β) (n c : Nat) (s t : Session) : Prop where
  settings : t.settings = s.settings
  machine : t.machine = s.machine
  steps : t.steps = s.steps
  notifiesClear : t.notifiesClear = s.notifiesClear
  clears : s.clears = c + t.clears
  digitLimit : t.digitLimit = s.digitLimit
  journal : s.journal.Continues f n t.journal

variable {β : Type} {f : Entry → β} {n c : Nat} {s t : Session}

theorem Renews.commit (h : Renews f n c s t) (m : Machine) (i : Instruction) :
    Renews f n c (s.commit m i) (t.commit m i) := by
  have hplain : Renews f n c { s with machine := m, steps := s.steps + 1 }
      { t with machine := m, steps := t.steps + 1 } :=
    { h with machine := rfl, steps := congrArg (· + 1) h.steps }
  unfold Session.commit
  cases i.form with
  | clear =>
    dsimp only
    by_cases hn : s.notifiesClear = true
    · have hn' : t.notifiesClear = true := h.notifiesClear.trans hn
      rw [if_pos hn, if_pos hn']
      exact { hplain with clears := congrArg (· + 1) h.clears }
    · have hn' : ¬ t.notifiesClear = true := by rwa [h.notifiesClear]
      rw [if_neg hn, if_neg hn']
      exact hplain
  | awaitKey => exact { hplain with journal := hplain.journal.log .debug (.inl rfl) }
  | _ => exact hplain

theorem tandem_renews (f : Entry → β) (n c : Nat) : Tandem (Renews f n c) where
  settings h := h.settings
  machine h := h.machine
  steps h := h.steps
  digitLimit h := h.digitLimit
  log h level _ := { h with journal := h.journal.log level (.inl rfl) }
  logRunEnd h figures := { h with journal := h.journal.logRunEnd figures }
  replace h _ := { h with machine := rfl }
  restart h _ := { h with machine := rfl, steps := rfl }
  commit h := h.commit

theorem alike_after (s : Session) (rs : List Request) : s.journal.Alike (s.after rs).journal := by
  refine after_induction (I := fun t => s.journal.Alike t.journal) (fun t r ht => ?_) (.refl _) rs
  have hserve : t.journal.Alike (t.serve r).1.journal := by
    rw [journal_serve]
    exact Journal.alike_hearAll _ _
  exact ht.trans hserve

variable {settings : Settings} {journal : Journal} {notifies : Bool} {limit : Option Nat}

theorem alike_reset (hs : create settings journal notifies limit = .ok s) (past : List Request) :
    journal.Alike (s.after past).reset.journal := by
  have hjournal : s.journal = journal := by rw [(create_eq_ok_iff.mp hs).2]
  rw [← hjournal]
  exact (alike_after s past).trans (Journal.alike_log _ _ _)

theorem exists_sameTimes (hs : create settings journal notifies limit = .ok s) (past : List Request) :
    ∃ j : Journal, journal.Alike j ∧ j.entries = #[] ∧ (s.after past).reset.journal.SameTimes j := by
  have halike := alike_reset hs past
  refine ⟨{ (s.after past).reset.journal with entries := #[] }, ?_, rfl, ⟨rfl, rfl⟩⟩
  exact ⟨halike.name, halike.threshold, halike.coloured, halike.stamped⟩

/-- What a reset makes of a session is a new session with a past. -/
theorem renews_reset (hs : create settings journal notifies limit = .ok s) (past : List Request) {j : Journal}
    (hj : journal.Alike j) (hempty : j.entries = #[])
    (htimes : (s.after past).reset.journal.SameTimes j ∨ ∀ e, f e.untimed = f e) :
    ∃ u, create settings j notifies limit = .ok u ∧
      Renews f (s.after past).reset.journal.entries.size (s.after past).clears
        (s.after past).reset u := by
  have halike := (alike_reset hs past).symm
  obtain ⟨hseed, hs⟩ := create_eq_ok_iff.mp hs
  have hsetup := sameSetup_after s past
  have hsettings : (s.after past).settings = settings := hsetup.settings.trans (by rw [hs])
  have hnotifies : (s.after past).notifiesClear = notifies :=
    hsetup.notifiesClear.trans (by rw [hs])
  have hlimit : (s.after past).digitLimit = limit := hsetup.digitLimit.trans (by rw [hs])
  refine ⟨_, create_eq_ok_iff.mpr ⟨hseed, rfl⟩, hsettings.symm, ?_, rfl, hnotifies.symm, rfl,
    hlimit.symm, ?_⟩
  · exact congrArg (fun c => Machine.powerOn c.seed c.dialect) hsettings.symm
  · refine ⟨halike.trans hj, htimes, Nat.le_refl _, ?_⟩
    rw [hempty, ← Array.length_toList, List.drop_length]

theorem repeats_of_renews {u : Session} (h : Renews Entry.untimed n c s u) (rs : List Request) :
    List.Forall₂ (Exchange.Repeats n c) (s.history rs) (u.history rs) := by
  refine (tandem_renews Entry.untimed n c).history (fun s t r _ hserve => ?_) h rs
  obtain ⟨hrelated, hresult⟩ := hserve
  exact {
    request := rfl
    reply := hresult.symm
    machine := hrelated.machine.symm
    steps := hrelated.steps.symm
    clears := hrelated.clears
    line := hrelated.journal.alike.symm.line
    entries := hrelated.journal.entries }

theorem lines_of_renews {u : Session} (h : Renews id n c s u) (rs : List Request) :
    List.Forall₂ (fun e e' => e.after.journal.linesFrom n = e'.after.journal.lines)
      (s.history rs) (u.history rs) := by
  refine (tandem_renews id n c).history (fun s t r _ hserve => ?_) h rs
  have hjournal := hserve.related.journal
  have hentries : (s.serve r).1.journal.entries.toList.drop n = (t.serve r).1.journal.entries.toList := by
    simpa only [List.map_id] using hjournal.entries
  simp only [exchange, Journal.lines, Journal.linesFrom, hentries, hjournal.alike.line, List.drop_zero]

/-- After a reset the machine is as it was created, and whatever is asked from then on is answered as by a new
session of the same settings. The lines are the same but for the times they tell, and if the new journal tells the
same times they are the same. -/
theorem reset_forgets (hs : create settings journal notifies limit = .ok s) (past : List Request) :
    let t := (s.after past).reset
    let n := t.journal.entries.size
    Machine.create settings.seed settings.dialect = .ok t.machine ∧ t.steps = 0 ∧
      ∀ j : Journal, journal.Alike j → j.entries = #[] →
        ∃ u, create settings j notifies limit = .ok u ∧ ∀ rs,
          List.Forall₂ (Exchange.Repeats n t.clears) (t.history rs) (u.history rs) ∧
          (t.journal.SameTimes j → List.Forall₂
            (fun e e' => e.after.journal.linesFrom n = e'.after.journal.lines)
            (t.history rs) (u.history rs)) := by
  intro t n
  have hseed := (create_eq_ok_iff.mp hs).1
  have hmachine : t.machine = Machine.powerOn settings.seed settings.dialect := by
    rw [← (create_eq_ok hs).2, ← (sameSetup_after s past).settings]
    rfl
  refine ⟨?_, rfl, fun j hj hempty => ?_⟩
  · rw [hmachine, Machine.create, hseed]
    rfl
  · obtain ⟨u, hu, hrenews⟩ := renews_reset hs past hj hempty (.inr Entry.untimed_untimed)
    refine ⟨u, hu, fun rs => ⟨repeats_of_renews hrenews rs, fun htimes => ?_⟩⟩
    obtain ⟨v, hv, hexact⟩ := renews_reset (f := id) hs past hj hempty (.inl htimes)
    obtain rfl : u = v := Except.ok.inj (hu.symm.trans hv)
    exact lines_of_renews hexact rs

/-- The past has cleared the screen, ended a wait, drawn a byte, run into a fault and refused a key. -/
theorem reset_forgets_busy :
    let journal := Journal.start "Engine" .debug false false ⟨[]⟩
    let past : List Request := [.call (.load [0x00, 0xE0, 0xF0, 0x0A, 0xC1, 0xFF]), .cycle,
      .call (.press (.int 3)), .run 2, .call (.deliver (.int 16))]
    ∃ s, create {} journal true = .ok s ∧
      let t := (s.after past).reset
      let n := t.journal.entries.size
      (t.clears = 1 ∧ n = 17) ∧
        (∃ j : Journal, journal.Alike j ∧ j.entries = #[] ∧ t.journal.SameTimes j) ∧
        Machine.create 0 {} = .ok t.machine ∧ t.steps = 0 ∧
        ∀ j : Journal, journal.Alike j → j.entries = #[] →
          ∃ u, create {} j true = .ok u ∧ ∀ rs,
            List.Forall₂ (Exchange.Repeats n t.clears) (t.history rs) (u.history rs) ∧
            (t.journal.SameTimes j → List.Forall₂
              (fun e e' => e.after.journal.linesFrom n = e'.after.journal.lines)
              (t.history rs) (u.history rs)) := by
  intro journal past
  obtain ⟨s, hs⟩ : ∃ s, create {} journal true = .ok s := ⟨_, rfl⟩
  obtain ⟨-, rfl⟩ := create_eq_ok_iff.mp hs
  refine ⟨_, hs, ?_, exists_sameTimes hs past, reset_forgets hs past⟩
  decide +kernel

end Session
end Chip8
