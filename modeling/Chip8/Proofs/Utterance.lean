import Chip8.Proofs.Request

/-! What a session says to its journal. The notes of a request are a list of utterances that is found without a
look at the journal: with any other journal the session does and replies the same, and that journal hears the
same notes. A journal that is open to everything writes down all of them, in order. -/

namespace Chip8

/-- A message at its level, or the figures of a run, which the journal writes down with its own time. -/
inductive Utterance where
  | note (level : Level) (message : Message)
  | runEnd (figures : List (String × Datum))

namespace Journal

def hear (j : Journal) : Utterance → Journal
  | .note level message => j.log level message
  | .runEnd figures => j.logRunEnd figures

def hearAll (j : Journal) (us : List Utterance) : Journal := us.foldl hear j

theorem hearAll_append (j : Journal) (us vs : List Utterance) :
    j.hearAll (us ++ vs) = (j.hearAll us).hearAll vs := List.foldl_append

def Open (j : Journal) : Prop := j.threshold = .debug

def pick {α : Type} (f : Level → Message → Option α) (j : Journal) : List α :=
  j.entries.toList.filterMap fun e => f e.level e.message

end Journal

def Utterance.pick {α : Type} (f : Level → Message → Option α) : Utterance → Option α
  | .note level message => f level message
  | .runEnd _ => none

structure SkipsFigures {α : Type} (f : Level → Message → Option α) : Prop where
  rule : f .info .rule = none
  finished (elapsed : Float) : f .info (.runFinished elapsed) = none
  setting (name : String) (value : Datum) : f .info (.setting name value) = none

namespace Journal

variable {α : Type} {f : Level → Message → Option α} {j : Journal}

theorem toList_append_filterMap {β γ : Type} (g : β → Option γ) (b : β) (bs : List β) :
    (g b).toList ++ bs.filterMap g = (b :: bs).filterMap g := by
  cases hb : g b <;> simp [hb]

theorem Open.accepts (h : j.Open) (level : Level) : j.accepts level = true := by
  rw [Journal.accepts, h, decide_eq_true_eq]
  exact Nat.zero_le level.rank

theorem threshold_log (j : Journal) (level : Level) (message : Message) :
    (j.log level message).threshold = j.threshold := by
  unfold log
  split
  · split <;> rfl
  · rfl

theorem Open.pick_log (h : j.Open) (level : Level) (message : Message) :
    (j.log level message).pick f = j.pick f ++ (f level message).toList := by
  rw [log, if_pos (h.accepts level)]
  cases hm : f level message <;> split <;> simp [pick, hm]

theorem Open.logAll (h : j.Open) (level : Level) (messages : List Message) :
    (j.logAll level messages).Open ∧
      (j.logAll level messages).pick f = j.pick f ++ messages.filterMap (f level) := by
  induction messages generalizing j with
  | nil => exact ⟨h, (List.append_nil _).symm⟩
  | cons m ms ih =>
    obtain ⟨hopen, hrest⟩ := ih (j := j.log level m) ((threshold_log j level m).trans h)
    refine ⟨hopen, hrest.trans ?_⟩
    rw [h.pick_log, List.append_assoc, toList_append_filterMap]

theorem filterMap_figures (hf : SkipsFigures f) (elapsed : Float)
    (figures : List (String × Datum)) :
    (Message.rule :: .runFinished elapsed :: settingLines figures ++ [Message.rule]).filterMap
      (f .info) = [] := by
  rw [List.filterMap_eq_nil_iff]
  intro m hm
  simp only [settingLines, List.cons_append, List.mem_cons, List.mem_append, List.mem_map,
    List.not_mem_nil, or_false] at hm
  obtain rfl | rfl | ⟨⟨name, value⟩, -, rfl⟩ | rfl := hm
  · exact hf.rule
  · exact hf.finished elapsed
  · exact hf.setting name value
  · exact hf.rule

theorem Open.hear (h : j.Open) (hf : SkipsFigures f) (u : Utterance) :
    (j.hear u).Open ∧ (j.hear u).pick f = j.pick f ++ (u.pick f).toList := by
  cases u with
  | note level message => exact ⟨(threshold_log j level message).trans h, h.pick_log level message⟩
  | runEnd figures =>
    let elapsed := j.clock.read.1 - j.opened
    have hread : { j with clock := j.clock.read.2 }.Open := h
    obtain ⟨hopen, hlines⟩ := hread.logAll (f := f) .info
      (.rule :: .runFinished elapsed :: settingLines figures ++ [.rule])
    rw [filterMap_figures hf] at hlines
    exact ⟨hopen, hlines⟩

theorem Open.hearAll (h : j.Open) (hf : SkipsFigures f) (us : List Utterance) :
    (j.hearAll us).Open ∧ (j.hearAll us).pick f = j.pick f ++ us.filterMap (Utterance.pick f) := by
  induction us generalizing j with
  | nil => exact ⟨h, (List.append_nil _).symm⟩
  | cons u us ih =>
    obtain ⟨hopen, hu⟩ := h.hear hf u
    obtain ⟨hlast, hrest⟩ := ih hopen
    refine ⟨hlast, hrest.trans ?_⟩
    rw [hu, List.append_assoc, toList_append_filterMap]

end Journal

namespace Session

def withJournal (s : Session) (j : Journal) : Session := { s with journal := j }

theorem machine_withJournal (s : Session) (j : Journal) : (s.withJournal j).machine = s.machine := rfl

theorem settings_withJournal (s : Session) (j : Journal) :
    (s.withJournal j).settings = s.settings := rfl

theorem digitLimit_withJournal (s : Session) (j : Journal) :
    (s.withJournal j).digitLimit = s.digitLimit := rfl

theorem isAwaiting_withJournal (s : Session) (j : Journal) :
    (s.withJournal j).isAwaiting = s.isAwaiting := rfl

def faultNotes (s : Session) (f : Fault) : List Utterance :=
  [.note .error (.refused (.fault (f.tag s.machine.pc.toNat))), .note .error (dump s.machine)]

def traceNote (s : Session) (i : Instruction) : Utterance :=
  .note .debug (.trace s.machine.pc.toNat s.machine.current.toNat i.form.mnemonic)

def commitNotes (i : Instruction) : List Utterance :=
  match i.form with
  | .awaitKey => [.note .debug (.keyAwaited i.x)]
  | _ => []

def stepNotes (s : Session) : List Utterance :=
  if s.isAwaiting then []
  else
    match Instruction.ofWord? s.machine.current.toNat with
    | none => s.faultNotes (.unknownOpcode s.machine.current.toNat none)
    | some i =>
      s.traceNote i ::
        match s.machine.advancePc.perform i with
        | .error f => s.faultNotes f
        | .ok _ => commitNotes i

def advanceNotes : Nat → Session → List Utterance
  | 0, _ => []
  | n + 1, s =>
    if s.isAwaiting then []
    else s.stepNotes ++
      match s.step with
      | (_, some _) => []
      | (t, none) => advanceNotes n t

def cycleNotes (s : Session) : List Utterance := advanceNotes s.settings.speed s

def runFromNotes : Nat → Session → List Utterance
  | 0, _ => []
  | n + 1, s => s.cycleNotes ++
    match s.cycle with
    | (_, some _) => []
    | (t, none) =>
      if t.isAwaiting then [.note .info (.parked s.machine.pc)] else runFromNotes n t

def installNotes (size : Nat) : Except Error Machine → List Utterance
  | .error _ => []
  | .ok _ => [.note .debug (.programLoaded size)]

def deliveryNotes (s : Session) (key : Datum) : List Utterance :=
  match s.machine.awaiting, keyLabel key with
  | some x, .ok n => [.note .debug (.keyDelivered n x)]
  | _, _ => []

def pressNotes (s : Session) (key : Datum) : List Utterance :=
  match Nibble.ofKey key s.digitLimit with
  | .error _ => []
  | .ok _ => s.deliveryNotes key

def runNotes (s : Session) (frames : Int) (description : Option String) : List Utterance :=
  if s.describes frames description then
    runFromNotes frames.toNat s ++ [.runEnd (s.runFrames frames).2.figures]
  else []

def notes (s : Session) : Request → List Utterance
  | .call (.load program) => installNotes program.length (s.machine.load program)
  | .call (.loadData program) => installNotes program.length (s.machine.loadData program)
  | .call (.loadFile contents) =>
    installNotes (contents.toOption.getD []).length (s.machine.loadFile contents)
  | .call (.loadUnsized _) => []
  | .call (.press key) => s.pressNotes key
  | .call (.release _) => []
  | .call (.deliver key) => s.deliveryNotes key
  | .call .step => s.stepNotes
  | .tick => []
  | .cycle => s.cycleNotes
  | .run frames description => s.runNotes frames description
  | .reset => [.note .debug .powerOn]

/-- With another journal the outcome is the same, and that journal hears `us`. -/
def Speaks {α : Type} (s : Session) (f : Session → Session × α) (us : List Utterance) : Prop :=
  ∀ j, f (s.withJournal j) = ((f s).1.withJournal (j.hearAll us), (f s).2)

variable {s : Session}

theorem Speaks.map {α β : Type} {f : Session → Session × α} {us : List Utterance} (h : s.Speaks f us)
    (g : α → β) : s.Speaks (fun s => ((f s).1, g (f s).2)) us := by
  intro j
  simp only [h j]

theorem commit_withJournal (s : Session) (m : Machine) (i : Instruction) (j : Journal) :
    (s.withJournal j).commit m i = (s.commit m i).withJournal (j.hearAll (commitNotes i)) := by
  unfold commit commitNotes withJournal
  cases i.form with
  | clear => cases s.notifiesClear <;> rfl
  | _ => rfl

def traced (s : Session) (i : Instruction) : Session :=
  s.log .debug (.trace s.machine.pc.toNat s.machine.current.toNat i.form.mnemonic)

section step

variable {i : Instruction} (ha : s.isAwaiting = false)

include ha in
theorem step_unknown (hi : Instruction.ofWord? s.machine.current.toNat = none) :
    s.step = s.fail (.unknownOpcode s.machine.current.toNat none) ∧
      s.stepNotes = s.faultNotes (.unknownOpcode s.machine.current.toNat none) := by
  simp only [step, stepNotes, ha, Machine.fetch, hi, Bool.false_eq_true, if_false, and_self]

variable (hi : Instruction.ofWord? s.machine.current.toNat = some i)

include ha hi in
theorem step_failed {f : Fault} (hm : s.machine.advancePc.perform i = .error f) :
    s.step = (s.traced i).fail f ∧ s.stepNotes = s.traceNote i :: s.faultNotes f := by
  simp only [step, stepNotes, ha, Machine.fetch, hi, hm, Bool.false_eq_true, if_false, traced, traceNote,
    and_self]

include ha hi in
theorem step_committed {m : Machine} (hm : s.machine.advancePc.perform i = .ok m) :
    s.step = ((s.traced i).commit m i, none) ∧ s.stepNotes = s.traceNote i :: commitNotes i := by
  simp only [step, stepNotes, ha, Machine.fetch, hi, hm, Bool.false_eq_true, if_false, traced, traceNote,
    and_self]

end step

inductive StepCases (s : Session) : Prop
  | awaiting (ha : s.isAwaiting = true)
  | unknown (ha : s.isAwaiting = false) (hi : Instruction.ofWord? s.machine.current.toNat = none)
  | failed {i : Instruction} {f : Fault} (ha : s.isAwaiting = false)
      (hi : Instruction.ofWord? s.machine.current.toNat = some i)
      (hm : s.machine.advancePc.perform i = .error f)
  | committed {i : Instruction} {m : Machine} (ha : s.isAwaiting = false)
      (hi : Instruction.ofWord? s.machine.current.toNat = some i)
      (hm : s.machine.advancePc.perform i = .ok m)

theorem stepCases (s : Session) : s.StepCases := by
  cases ha : s.isAwaiting with
  | true => exact .awaiting ha
  | false =>
    cases hi : Instruction.ofWord? s.machine.current.toNat with
    | none => exact .unknown ha hi
    | some i =>
      cases hm : s.machine.advancePc.perform i with
      | error f => exact .failed ha hi hm
      | ok m => exact .committed ha hi hm

theorem speaks_step (s : Session) : s.Speaks step s.stepNotes := by
  intro j
  rcases s.stepCases with ha | ⟨ha, hi⟩ | @⟨i, f, ha, hi, hm⟩ | @⟨i, m, ha, hi, hm⟩
  · have ha' : (s.withJournal j).isAwaiting = true := ha
    rw [step_awaiting ha, step_awaiting ha', stepNotes, if_pos ha]
    rfl
  · have ha' : (s.withJournal j).isAwaiting = false := ha
    obtain ⟨hstep, hnotes⟩ := step_unknown ha hi
    rw [(step_unknown ha' hi).1, hstep, hnotes]
    rfl
  · have ha' : (s.withJournal j).isAwaiting = false := ha
    obtain ⟨hstep, hnotes⟩ := step_failed ha hi hm
    rw [(step_failed ha' hi hm).1, hstep, hnotes]
    rfl
  · have ha' : (s.withJournal j).isAwaiting = false := ha
    obtain ⟨hstep, hnotes⟩ := step_committed ha hi hm
    have hcommit (k : Journal) := commit_withJournal (s.traced i) m i k
    rw [(step_committed ha' hi hm).1, hstep, hnotes]
    exact Prod.ext (hcommit _) rfl

theorem speaks_advance (n : Nat) (s : Session) : s.Speaks (advance n) (advanceNotes n s) := by
  induction n generalizing s with
  | zero => exact fun _ => rfl
  | succ n ih =>
    intro j
    rw [advance, advance, advanceNotes, isAwaiting_withJournal]
    cases s.isAwaiting with
    | true => rfl
    | false =>
      simp only [speaks_step s j, Bool.false_eq_true, if_false]
      rcases s.step with ⟨t, f | f⟩
      · rw [Journal.hearAll_append]
        exact ih t _
      · rw [List.append_nil]

theorem speaks_cycle (s : Session) : s.Speaks cycle s.cycleNotes := by
  intro j
  rw [cycle, cycle, settings_withJournal, speaks_advance s.settings.speed s j, cycleNotes]
  rcases advance s.settings.speed s with ⟨t, f | f⟩
  · dsimp only
    rw [isAwaiting_withJournal]
    cases t.isAwaiting <;> rfl
  · rfl

theorem speaks_runFrom (t : Tally) (n : Nat) (s : Session) :
    s.Speaks (runFrom t n) (runFromNotes n s) := by
  induction n generalizing t s with
  | zero => exact fun _ => rfl
  | succ n ih =>
    intro j
    simp only [runFrom, runFromNotes, speaks_cycle s j]
    rcases s.cycle with ⟨u, f | f⟩
    · dsimp only
      rw [isAwaiting_withJournal, Journal.hearAll_append]
      cases u.isAwaiting with
      | true => rfl
      | false => exact ih _ u _
    · rw [List.append_nil]

theorem speaks_runFrames (s : Session) (frames : Int) :
    s.Speaks (·.runFrames frames)
      (runFromNotes frames.toNat s ++ [.runEnd (s.runFrames frames).2.figures]) := by
  intro j
  simp only [runFrames, speaks_runFrom {} frames.toNat s j]
  rw [Journal.hearAll_append]
  rfl

theorem speaks_run (s : Session) (frames : Int) (description : Option String) :
    s.Speaks (·.run frames description) (s.runNotes frames description) := by
  intro j
  have hsame : (s.withJournal j).describes frames description = s.describes frames description := rfl
  unfold runNotes
  cases hd : s.describes frames description with
  | false =>
    simp only [run_of_not_describes hd, run_of_not_describes (hsame.trans hd)]
    rfl
  | true =>
    simp only [run_of_describes hd, run_of_describes (hsame.trans hd), speaks_runFrames s frames j]
    rfl

theorem speaks_install (s : Session) (size : Nat) (f : Machine → Except Error Machine) :
    s.Speaks (fun s => s.install size (f s.machine)) (installNotes size (f s.machine)) := by
  intro j
  simp only [machine_withJournal]
  cases f s.machine <;> rfl

theorem speaks_loadUnsized (s : Session) (program : Unsized) :
    s.Speaks (·.loadUnsized program) [] := by
  intro j
  simp only [loadUnsized, machine_withJournal]
  cases s.machine.loadUnsized program <;> rfl

theorem speaks_settle (s : Session) (f : Option Nat → Machine → Except Error Machine) :
    s.Speaks (fun s => s.settle (f s.digitLimit s.machine)) [] := by
  intro j
  simp only [machine_withJournal, digitLimit_withJournal]
  cases f s.digitLimit s.machine <;> rfl

theorem speaks_deliverKey (s : Session) (key : Datum) :
    s.Speaks (·.deliverKey key) (s.deliveryNotes key) := by
  intro j
  simp only [deliverKey, deliveryNotes, machine_withJournal]
  cases s.machine.awaiting with
  | none => exact speaks_settle s (fun limit m => m.deliverKey key limit) j
  | some x =>
    cases keyLabel key with
    | error e => rfl
    | ok n =>
      exact speaks_settle (s.log .debug (.keyDelivered n x)) (fun limit m => m.deliverKey key limit) _

theorem speaks_pressKey (s : Session) (key : Datum) :
    s.Speaks (·.pressKey key) (s.pressNotes key) := by
  intro j
  simp only [pressKey, pressNotes, Machine.setKey, machine_withJournal, digitLimit_withJournal]
  cases Nibble.ofKey key s.digitLimit with
  | error e => rfl
  | ok k => exact speaks_deliverKey { s with machine := s.machine.hold k true } key j

theorem speaks_call (s : Session) (c : Call) : s.Speaks (·.call c) (s.notes (.call c)) := by
  cases c with
  | load program => exact speaks_install s program.length (·.load program)
  | loadData program => exact speaks_install s program.length (·.loadData program)
  | loadFile contents =>
    exact speaks_install s (contents.toOption.getD []).length (·.loadFile contents)
  | loadUnsized program => exact speaks_loadUnsized s program
  | press key => exact speaks_pressKey s key
  | release key => exact speaks_settle s (fun limit m => m.setKey key false limit)
  | deliver key => exact speaks_deliverKey s key
  | step => exact (speaks_step s).map (Option.map Error.ofFault)

/-- Whatever journal a session keeps, it serves a request in the same way, and it is the notes of the request
that the journal hears. -/
theorem speaks_serve (s : Session) (r : Request) : s.Speaks (·.serve r) (s.notes r) := by
  cases r with
  | call c => exact (speaks_call s c).map Reply.ofError
  | tick => exact fun _ => rfl
  | cycle => exact (speaks_cycle s).map Reply.ofFault
  | run frames description => exact (speaks_run s frames description).map Reply.ofRun
  | reset => exact fun _ => rfl

theorem serve_withJournal (s : Session) (r : Request) (j : Journal) :
    (s.withJournal j).serve r = ((s.serve r).1.withJournal (j.hearAll (s.notes r)), (s.serve r).2) :=
  speaks_serve s r j

theorem journal_serve (s : Session) (r : Request) :
    (s.serve r).1.journal = s.journal.hearAll (s.notes r) :=
  congrArg (fun p => p.1.journal) (serve_withJournal s r s.journal)

end Session
end Chip8
