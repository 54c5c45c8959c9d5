import Chip8.Proofs.Decomposition
import Chip8.Proofs.Stepwise
import Chip8.Proofs.TraceLine

/-! The transcript of a session. A journal that is open to everything tells, step by step and in order, where the
machine was and what it found there, and, if the step went wrong, what was wrong and how the registers stood.
What is due for a step is said of its machine alone; the steps of a session are all that are tried in its single
steps, its cycles and its runs. -/

namespace Chip8

def report (level : Level) (message : Message) : Option (Level × String) :=
  if level = .info then none else some (level, message.render)

namespace Journal

def reports (j : Journal) : List (Level × String) := j.pick report

def traced (j : Journal) : List (Nat × Nat) := j.pick fun _ message => readTrace message.render

end Journal

namespace Machine

variable {m : Machine} {i : Instruction} {f : Fault}

def fault? (m : Machine) : Option Fault :=
  match m.step with
  | .error f => some (f.tag m.pc.toNat)
  | .ok _ => none

def traceText (m : Machine) (i : Instruction) : String :=
  "0x" ++ Text.hex 3 m.pc.toNat ++ ": " ++ Text.hex 4 m.current.toNat ++ "  " ++ i.form.mnemonic

def dumpText (m : Machine) : String :=
  "PC=" ++ Text.hex 3 m.pc.toNat ++ " I=" ++ Text.hex 4 m.index.toNat ++ " " ++
    " ".intercalate ((List.range 16).map fun (k : Nat) =>
      "V" ++ Text.hex 1 k ++ "=" ++ Text.hex 2 (m.register (BitVec.ofNat 4 k)).toNat)

def waitText (i : Instruction) : String := "Waiting for key into V" ++ Text.hex 1 i.x.toNat

/-- What is to be written down about a step: the instruction that is found, the fault and the registers, and the
wait that begins. -/
def account (m : Machine) : List (Level × String) :=
  (m.instruction? .step).toList.map (fun i => (.debug, m.traceText i)) ++
    m.fault?.toList.flatMap (fun f => [(.error, f.title ++ ": " ++ f.message), (.error, m.dumpText)]) ++
    ((m.commit? .step).toList.filter (Commit.hasForm .awaitKey)).map fun c =>
      (.debug, waitText c.instruction)

def found? (m : Machine) : Option (Nat × Nat) :=
  (m.instruction? .step).map fun _ => (m.pc.toNat, m.current.toNat)

theorem instruction?_awaiting (ha : m.isAwaiting = true) : m.instruction? .step = none := by
  rw [instruction?, ha]
  rfl

theorem instruction?_running (ha : m.isAwaiting = false) :
    m.instruction? .step = Instruction.ofWord? m.current.toNat := by
  rw [instruction?, ha]
  rfl

theorem fault?_of_ok {n : Machine} (h : m.step = .ok n) : m.fault? = none := by
  rw [fault?, h]

theorem fault?_of_error (h : m.step = .error f) : m.fault? = some (f.tag m.pc.toNat) := by
  rw [fault?, h]

theorem account_awaiting (ha : m.isAwaiting = true) : m.account = [] := by
  have hcommit : m.commit? .step = none := (stuck_of_awaiting ha).2
  simp [account, instruction?_awaiting ha, fault?_of_ok (step_awaiting ha), hcommit]

section

variable (ha : m.isAwaiting = false)

include ha in
theorem account_unknown (hi : Instruction.ofWord? m.current.toNat = none) :
    m.account = [(.error, (Fault.unknownOpcode m.current.toNat (some m.pc.toNat)).title ++ ": " ++
      (Fault.unknownOpcode m.current.toNat (some m.pc.toNat)).message), (.error, m.dumpText)] := by
  have hstep : m.step = .error (.unknownOpcode m.current.toNat none) :=
    step_eq_error_iff.mpr ⟨ha, .inl ⟨hi, rfl⟩⟩
  have hcommit : m.commit? .step = none := (stuck_of_fault hstep).2
  simp [account, instruction?_running ha, hi, fault?_of_error hstep, hcommit, Fault.tag]

variable (hi : Instruction.ofWord? m.current.toNat = some i)

include ha hi in
theorem account_failed (hm : m.advancePc.perform i = .error f) :
    m.account = [(.debug, m.traceText i), (.error, (f.tag m.pc.toNat).title ++ ": " ++
      (f.tag m.pc.toNat).message), (.error, m.dumpText)] := by
  have hstep : m.step = .error f := by
    rw [step_running ha, execute, decode_eq_ok_iff.mpr hi]
    exact hm
  have hcommit : m.commit? .step = none := (stuck_of_fault hstep).2
  simp [account, instruction?_running ha, hi, fault?_of_error hstep, hcommit]

include ha hi in
theorem account_committed {n : Machine} (hm : m.advancePc.perform i = .ok n) :
    m.account = (.debug, m.traceText i) ::
      if i.form = .awaitKey then [(.debug, waitText i)] else [] := by
  have hstep : m.step = .ok n := by
    rw [step_running ha, execute, decode_eq_ok_iff.mpr hi]
    exact hm
  have hcommit : m.commit? .step = some ⟨m, i, n⟩ :=
    commit?_eq_some_iff.mpr ⟨rfl, (instruction?_running ha).trans hi, hm⟩
  by_cases hf : i.form = .awaitKey <;>
    simp [account, instruction?_running ha, hi, fault?_of_ok hstep, hcommit, Commit.hasForm, hf]

end

end Machine

def Request.Steps (r : Request) : Prop :=
  r = .call .step ∨ r = .cycle ∨ ∃ frames description, r = .run frames description

/-- The fault that is handed back in reply, also within the figures of a run. -/
def Exchange.fault? (e : Exchange) : Option Fault :=
  match e.reply with
  | .fault f => some f
  | .summary r => r.fault
  | _ => none

namespace Session

def advanceAttempts : Nat → Session → List Machine
  | 0, _ => []
  | n + 1, s =>
    if s.isAwaiting then []
    else s.machine :: match s.step with
      | (_, some _) => []
      | (t, none) => advanceAttempts n t

def runAttempts : Nat → Session → List Machine
  | 0, _ => []
  | n + 1, s => advanceAttempts s.settings.speed s ++
    match s.cycle with
    | (_, some _) => []
    | (t, none) => if t.isAwaiting then [] else runAttempts n t

def attemptsOf (s : Session) : Request → List Machine
  | .call .step => [s.machine]
  | .cycle => advanceAttempts s.settings.speed s
  | .run frames description => if s.describes frames description then runAttempts frames.toNat s else []
  | _ => []

/-- The machines on which a step is tried in the course of some requests, in order. -/
def attempts (s : Session) : List Request → List Machine
  | [] => []
  | r :: rs => s.attemptsOf r ++ (s.serve r).1.attempts rs

structure Finds {α : Type} (f : Level → Message → Option α) (g : Machine → List α) : Prop
    extends SkipsFigures f where
  step (s : Session) : s.stepNotes.filterMap (Utterance.pick f) = g s.machine
  parked (a : Word) : f .info (.parked a) = none

variable {s : Session} {rs : List Request}

namespace Finds

variable {α : Type} {f : Level → Message → Option α} {g : Machine → List α}

theorem advance (h : Finds f g) (n : Nat) (s : Session) :
    (advanceNotes n s).filterMap (Utterance.pick f) = (advanceAttempts n s).flatMap g := by
  induction n generalizing s with
  | zero => rfl
  | succ n ih =>
    rw [advanceNotes, advanceAttempts]
    split
    · rfl
    · rw [List.filterMap_append, List.flatMap_cons, h.step]
      rcases s.step with ⟨t, f | f⟩
      · rw [ih]
      · rfl

theorem runFrom (h : Finds f g) (n : Nat) (s : Session) :
    (runFromNotes n s).filterMap (Utterance.pick f) = (runAttempts n s).flatMap g := by
  induction n generalizing s with
  | zero => rfl
  | succ n ih =>
    rw [runFromNotes, runAttempts, List.filterMap_append, List.flatMap_append, cycleNotes, h.advance]
    rcases s.cycle with ⟨t, f | f⟩
    · dsimp only
      split
      · simp [Utterance.pick, h.parked]
      · rw [ih]
    · rfl

theorem notes (h : Finds f g) {r : Request} (hr : r.Steps) (s : Session) :
    (s.notes r).filterMap (Utterance.pick f) = (s.attemptsOf r).flatMap g := by
  rcases hr with rfl | rfl | ⟨frames, description, rfl⟩
  · exact (h.step s).trans (List.flatMap_singleton g s.machine).symm
  · exact h.advance s.settings.speed s
  · rw [Session.notes, runNotes, attemptsOf]
    split
    · rw [List.filterMap_append, h.runFrom]
      exact List.append_nil _
    · rfl

theorem after (h : Finds f g) (hopen : s.journal.Open) (hrs : ∀ r ∈ rs, r.Steps) :
    (s.after rs).journal.pick f = s.journal.pick f ++ (s.attempts rs).flatMap g := by
  induction rs generalizing s with
  | nil => exact (List.append_nil _).symm
  | cons r rs ih =>
    rw [List.forall_mem_cons] at hrs
    obtain ⟨hnext, hfirst⟩ := hopen.hearAll h.toSkipsFigures (s.notes r)
    rw [← journal_serve] at hnext hfirst
    have hrest := ih hnext hrs.2
    rw [attempts, List.flatMap_append, ← List.append_assoc, ← h.notes hrs.1, ← hfirst]
    exact hrest

end Finds

/-! ## What is found in the notes of a step -/

theorem registerTexts_eq (i : Nat) (vs : List Int) : Message.registerTexts i vs =
    (vs.zipIdx i).map fun p => "V" ++ Text.hex 1 p.2 ++ "=" ++ Text.hex 2 p.1 := by
  induction vs generalizing i with
  | nil => rfl
  | cons v vs ih => rw [Message.registerTexts, ih, List.zipIdx_cons, List.map_cons]

theorem zipIdx_registers (m : Machine) :
    (m.registers.toList.map fun b => (b.toNat : Int)).zipIdx =
      (List.range 16).map fun (k : Nat) => (((m.register (BitVec.ofNat 4 k)).toNat : Int), k) := by
  apply List.ext_getElem
  · simp
  · intro k hk hk'
    have hlt : k < 16 := by simpa using hk'
    simp [Machine.register, Table.get, Table.toList, Nat.mod_eq_of_lt hlt]

theorem render_dump (m : Machine) : (dump m).render = m.dumpText := by
  have hrender : (dump m).render = "PC=" ++ Text.hex 3 m.pc.toNat ++ " I=" ++ Text.hex 4 m.index.toNat ++
      " " ++ " ".intercalate (Message.registerTexts 0 (m.registers.toList.map fun b => (b.toNat : Int))) := rfl
  rw [hrender, registerTexts_eq, zipIdx_registers, List.map_map]
  rfl

theorem reports_faultNotes (s : Session) (f : Fault) :
    (s.faultNotes f).filterMap (Utterance.pick report) =
      [(.error, (f.tag s.machine.pc.toNat).title ++ ": " ++ (f.tag s.machine.pc.toNat).message),
        (.error, s.machine.dumpText)] := by
  rw [← render_dump]
  rfl

theorem reports_commitNotes (i : Instruction) : (commitNotes i).filterMap (Utterance.pick report) =
    if i.form = .awaitKey then [(.debug, Machine.waitText i)] else [] := by
  unfold commitNotes
  cases i.form <;> rfl

theorem finds_report : Finds report Machine.account where
  rule := rfl
  finished _ := rfl
  setting _ _ := rfl
  parked _ := rfl
  step s := by
    rcases s.stepCases with ha | ⟨ha, hi⟩ | ⟨ha, hi, hm⟩ | ⟨ha, hi, hm⟩
    · rw [stepNotes, if_pos ha, Machine.account_awaiting ha]
      rfl
    · rw [(step_unknown ha hi).2, Machine.account_unknown ha hi, reports_faultNotes]
      rfl
    · rw [(step_failed ha hi hm).2, Machine.account_failed ha hi hm, ← reports_faultNotes]
      rfl
    · rw [(step_committed ha hi hm).2, Machine.account_committed ha hi hm, ← reports_commitNotes]
      rfl

theorem readTrace_fault (f : Fault) : readTrace (Message.render (.refused (.fault f))) = none := by
  have hrender : Message.render (.refused (.fault f)) = f.title ++ (": " ++ f.message) := String.append_assoc
  rw [hrender]
  cases f with
  | unknownOpcode w a =>
    have htitle : (Fault.unknownOpcode w a).title = "UnknownOpcode" := rfl
    exact readTrace_of_head? (c := 'U') (head?_toList_append (by rw [htitle]; rfl)) (by decide)
  | stackUnderflow a =>
    have htitle : (Fault.stackUnderflow a).title = "StackUnderflow" := rfl
    exact readTrace_of_head? (c := 'S') (head?_toList_append (by rw [htitle]; rfl)) (by decide)

theorem readTrace_dump (m : Machine) : readTrace (dump m).render = none := by
  have hhead : m.dumpText.toList.head? = some 'P' :=
    head?_toList_append (head?_toList_append (head?_toList_append (head?_toList_append
      (head?_toList_append rfl))))
  rw [render_dump]
  exact readTrace_of_head? hhead (by decide)

theorem traced_faultNotes (s : Session) (f : Fault) :
    (s.faultNotes f).filterMap (Utterance.pick fun _ message => readTrace message.render) = [] := by
  simp [faultNotes, Utterance.pick, readTrace_fault, readTrace_dump]

theorem traced_commitNotes (i : Instruction) :
    (commitNotes i).filterMap (Utterance.pick fun _ message => readTrace message.render) = [] := by
  have hhead (x : Nibble) : (Message.render (.keyAwaited x)).toList.head? = some 'W' :=
    head?_toList_append rfl
  have hread (x : Nibble) : readTrace (Message.render (.keyAwaited x)) = none :=
    readTrace_of_head? (hhead x) (by decide)
  unfold commitNotes
  cases i.form with
  | awaitKey => simp [Utterance.pick, hread]
  | _ => rfl

theorem traced_traceNote (s : Session) (i : Instruction) :
    (s.traceNote i).pick (fun _ message => readTrace message.render) =
      some (s.machine.pc.toNat, s.machine.current.toNat) := by
  rw [traceNote, Utterance.pick, readTrace_trace]

theorem finds_traced : Finds (fun _ message => readTrace message.render) fun m => m.found?.toList where
  rule := readTrace_of_head? (c := '=') rfl (by decide)
  finished _ := readTrace_of_head? (c := 'R') (head?_toList_append (head?_toList_append rfl)) (by decide)
  setting _ _ := readTrace_of_head? (c := ' ') (head?_toList_append (head?_toList_append
    (head?_toList_append rfl))) (by decide)
  parked _ := readTrace_of_head? (c := 'P') (head?_toList_append rfl) (by decide)
  step s := by
    have hfirst := traced_traceNote s
    rcases s.stepCases with ha | ⟨ha, hi⟩ | ⟨ha, hi, hm⟩ | ⟨ha, hi, hm⟩
    · rw [stepNotes, if_pos ha, Machine.found?, Machine.instruction?_awaiting ha]
      rfl
    · rw [(step_unknown ha hi).2, traced_faultNotes, Machine.found?, Machine.instruction?_running ha, hi]
      rfl
    · rw [(step_failed ha hi hm).2, List.filterMap_cons_some (hfirst _), traced_faultNotes, Machine.found?,
        Machine.instruction?_running ha, hi]
      rfl
    · rw [(step_committed ha hi hm).2, List.filterMap_cons_some (hfirst _), traced_commitNotes, Machine.found?,
        Machine.instruction?_running ha, hi]
      rfl

/-! ## Which steps are tried -/

theorem fault?_eq (s : Session) : s.machine.fault? = s.step.2 := by
  cases hm : s.machine.step with
  | error f => rw [Machine.fault?_of_error hm, (step_fault hm).1]
  | ok m =>
    rw [Machine.fault?_of_ok hm]
    cases hf : s.step.2 with
    | none => rfl
    | some f =>
      obtain ⟨g, hg, -⟩ := step_snd_eq_some_iff.mp hf
      rw [hm] at hg
      cases hg

theorem faults_advance (n : Nat) (s : Session) :
    (advanceAttempts n s).filterMap Machine.fault? = (advance n s).2.toList := by
  induction n generalizing s with
  | zero => rfl
  | succ n ih =>
    rw [advanceAttempts]
    cases ha : s.isAwaiting with
    | true =>
      rw [advance_awaiting ha]
      rfl
    | false =>
      have hfault := fault?_eq s
      rw [advance, ha]
      rcases hstep : s.step with ⟨t, f | f⟩ <;> rw [hstep] at hfault
      · exact (List.filterMap_cons_none hfault).trans (ih t)
      · exact List.filterMap_cons_some hfault

theorem faults_runFrom (t : Tally) (n : Nat) (s : Session) :
    (runAttempts n s).filterMap Machine.fault? = (runFrom t n s).2.2.toList := by
  induction n generalizing t s with
  | zero => rfl
  | succ n ih =>
    have hcycle : (advance s.settings.speed s).2 = s.cycle.2 := (finish_snd _).symm
    rw [runAttempts, runFrom, List.filterMap_append, faults_advance, hcycle]
    rcases s.cycle with ⟨u, f | f⟩
    · dsimp only
      split
      · rfl
      · exact ih _ u
    · rfl

theorem faults_attemptsOf {r : Request} (hr : r.Steps) (s : Session) :
    (s.attemptsOf r).filterMap Machine.fault? = (s.exchange r).fault?.toList := by
  rcases hr with rfl | rfl | ⟨frames, description, rfl⟩
  · have hfault := fault?_eq s
    have hreply : (s.exchange (.call .step)).reply = .ofError (s.step.2.map Error.ofFault) := rfl
    rw [Exchange.fault?, hreply]
    cases hstep : s.step.2 with
    | none => exact List.filterMap_cons_none (hfault.trans hstep)
    | some f => exact List.filterMap_cons_some (hfault.trans hstep)
  · have hfaults := faults_advance s.settings.speed s
    have hreply : (s.exchange .cycle).reply = .ofFault s.cycle.2 := rfl
    rw [← finish_snd, ← cycle_eq_finish] at hfaults
    rw [attemptsOf, hfaults, Exchange.fault?, hreply]
    cases s.cycle.2 <;> rfl
  · have hreply : (s.exchange (.run frames description)).reply = .ofRun (s.run frames description).2 := rfl
    rw [attemptsOf, Exchange.fault?, hreply]
    cases hd : s.describes frames description with
    | false =>
      rw [run_of_not_describes hd]
      rfl
    | true =>
      rw [run_of_describes hd]
      exact faults_runFrom {} frames.toNat s

theorem faults_attempts (hrs : ∀ r ∈ rs, r.Steps) :
    (s.attempts rs).filterMap Machine.fault? = (s.history rs).filterMap Exchange.fault? := by
  induction rs generalizing s with
  | nil => rfl
  | cons r rs ih =>
    rw [List.forall_mem_cons] at hrs
    have hrest := ih (s := (s.serve r).1) hrs.2
    rw [attempts, history, List.filterMap_append, faults_attemptsOf hrs.1, hrest,
      Journal.toList_append_filterMap]

theorem commits_advance (n : Nat) (s : Session) :
    (advanceAttempts n s).filterMap (·.commit? .step) = s.machine.commits (List.replicate n .step) := by
  induction n generalizing s with
  | zero => rfl
  | succ n ih =>
    rw [advanceAttempts]
    cases ha : s.isAwaiting with
    | true => exact ((Machine.stuck_of_awaiting ha).replicate (n + 1)).2.symm
    | false =>
      cases hm : s.machine.step with
      | error f =>
        have hstuck := Machine.stuck_of_fault hm
        have hstep : s.step = (s.step.1, some (f.tag s.machine.pc.toNat)) := by rw [← (step_fault hm).1]
        rw [hstep, (hstuck.replicate (n + 1)).2]
        exact List.filterMap_cons_none hstuck.2
      | ok m =>
        have hstep : s.step = (s.step.1, none) := by rw [← (step_ok ha hm).1]
        have hnext : s.step.1.machine = (s.machine.respond .step).2 := (performs_step s).machine
        have hrest := ih s.step.1
        rw [hstep, List.replicate_succ, Machine.commits, ← hnext, ← hrest]
        exact (Journal.toList_append_filterMap (fun k : Machine => k.commit? .step) s.machine _).symm

theorem commits_cycle (s : Session) :
    s.machine.commits s.cycleActions = s.machine.commits (List.replicate s.settings.speed .step) := by
  have htick (n : Machine) : n.commits [.tick] = [] := rfl
  rw [cycleActions, Machine.commits_append]
  rcases advance s.settings.speed s with ⟨t, f | f⟩
  · dsimp only
    split
    · exact List.append_nil _
    · rw [htick, List.append_nil]
  · exact List.append_nil _

theorem commits_runFrom (n : Nat) (s : Session) :
    (runAttempts n s).filterMap (·.commit? .step) = s.machine.commits (runActions n s) := by
  induction n generalizing s with
  | zero => rfl
  | succ n ih =>
    have hnext := (performs_cycle s).machine
    rw [runAttempts, runActions, List.filterMap_append, Machine.commits_append, ← hnext, commits_cycle,
      commits_advance]
    rcases s.cycle with ⟨t, f | f⟩
    · dsimp only
      split
      · rfl
      · rw [ih]
    · rfl

theorem commits_attempts (hrs : ∀ r ∈ rs, r.Steps) :
    (s.attempts rs).filterMap (·.commit? .step) = s.commits rs := by
  induction rs generalizing s with
  | nil => rfl
  | cons r rs ih =>
    rw [List.forall_mem_cons] at hrs
    rw [attempts, commits, List.filterMap_append, ih hrs.2]
    congr 1
    rcases hrs.1 with rfl | rfl | ⟨frames, description, rfl⟩
    · exact (Journal.toList_append_filterMap (fun k : Machine => k.commit? .step) s.machine []).symm
    · exact (commits_advance s.settings.speed s).trans (commits_cycle s).symm
    · rw [attemptsOf, actions]
      split
      · exact commits_runFrom frames.toNat s
      · rfl

/-- A journal that turns nothing away receives what is due for each step that is tried, in this order, and nothing
else reads as a line of the trace. The steps that are tried are those that commit something or hand back a fault, and
those that find the session waiting. -/
theorem transcript_faithful (hopen : s.journal.Open) (hrs : ∀ r ∈ rs, r.Steps) :
    let ms := s.attempts rs
    let journal := (s.after rs).journal
    journal.reports = s.journal.reports ++ ms.flatMap Machine.account ∧
      journal.traced = s.journal.traced ++ ms.filterMap Machine.found? ∧
      ms.filterMap (·.commit? .step) = s.commits rs ∧
      ms.filterMap Machine.fault? = (s.history rs).filterMap Exchange.fault? := by
  intro ms journal
  have htraced := finds_traced.after hopen hrs
  rw [← List.filterMap_eq_flatMap_toList] at htraced
  exact ⟨finds_report.after hopen hrs, htraced, commits_attempts hrs, faults_attempts hrs⟩

/-- One instruction, and a return from nowhere. -/
theorem transcript_faithful_underflow :
    let m := (Machine.powerOn 0 {}).loaded [0x6A, 0x07, 0x00, 0xEE]
    let s := (around m).withJournal (.start "Engine" .debug false false ⟨[]⟩)
    let rs : List Request := [.call .step, .run 2]
    let ms := s.attempts rs
    let journal := (s.after rs).journal
    s.journal.Open ∧ (∀ r ∈ rs, r.Steps) ∧
      ms.flatMap Machine.account =
        [(.debug, "0x200: 6A07  LD_BYTE"), (.debug, "0x202: 00EE  RET"),
          (.error, "StackUnderflow: Return with empty call stack at 0x202"),
          (.error, "PC=202 I=0000 V0=00 V1=00 V2=00 V3=00 V4=00 V5=00 V6=00 V7=00 V8=00 V9=00 VA=07 " ++
            "VB=00 VC=00 VD=00 VE=00 VF=00")] ∧
      ms.filterMap Machine.found? = [(0x200, 0x6A07), (0x202, 0x00EE)] ∧
      journal.reports = s.journal.reports ++ ms.flatMap Machine.account ∧
      journal.traced = s.journal.traced ++ ms.filterMap Machine.found? ∧
      ms.filterMap (·.commit? .step) = s.commits rs ∧
      ms.filterMap Machine.fault? = (s.history rs).filterMap Exchange.fault? := by
  intro m s rs ms journal
  have hopen : s.journal.Open := rfl
  have hrs : ∀ r ∈ rs, r.Steps := by simp [rs, Request.Steps]
  refine ⟨hopen, hrs, ?_, ?_, transcript_faithful hopen hrs⟩
  · decide +kernel
  · decide +kernel

end Session
end Chip8
