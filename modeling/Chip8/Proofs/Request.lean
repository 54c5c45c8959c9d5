import Chip8.Proofs.Call
import Chip8.Session.Run

/-! What a session can be asked for, and the history of a session that serves a list of requests. An exchange
is idle if it commits nothing: no more than memory, keypad and timers are replaced, each of them by the
requests that are about it. -/

namespace Chip8

inductive Request where
  | call (c : Call)
  | tick
  | cycle
  | run (frames : Int) (description : Option String := none)
  | reset

inductive Reply where
  | done
  | fault (f : Fault)
  | refused (e : Error)
  | summary (r : Summary)

namespace Reply

def ofFault : Option Fault → Reply
  | none => .done
  | some f => .fault f

def ofError : Option Error → Reply
  | none => .done
  | some (.refusal (.fault f)) => .fault f
  | some e => .refused e

def ofRun : Except Error Summary → Reply
  | .ok r => .summary r
  | .error e => .refused e

end Reply

namespace Request

def Loads : Request → Prop
  | .call (.load _) | .call (.loadData _) | .call (.loadFile _) | .call (.loadUnsized _) => True
  | _ => False

def Holds : Request → Prop
  | .call (.press _) | .call (.release _) => True
  | _ => False

end Request

/-- A request and its reply, between the sessions before and after. -/
structure Exchange where
  before : Session
  request : Request
  reply : Reply
  after : Session

namespace Session

def serve (s : Session) : Request → Session × Reply
  | .call c => ((s.call c).1, .ofError (s.call c).2)
  | .tick => (s.tick, .done)
  | .cycle => (s.cycle.1, .ofFault s.cycle.2)
  | .run frames description => ((s.run frames description).1, .ofRun (s.run frames description).2)
  | .reset => (s.reset, .done)

def exchange (s : Session) (r : Request) : Exchange := ⟨s, r, (s.serve r).2, (s.serve r).1⟩

def history (s : Session) : List Request → List Exchange
  | [] => []
  | r :: rs => s.exchange r :: (s.serve r).1.history rs

/-- The host can write what the bar of a run says: a description that is given, or else the number of frames. -/
def describes (s : Session) (frames : Int) (description : Option String) : Bool :=
  description.isSome || Text.writes s.digitLimit frames

def after (s : Session) (rs : List Request) : Session := rs.foldl (fun s r => (s.serve r).1) s

/-- What every single exchange keeps and shows is kept and shown in the whole history. -/
theorem history_induction {I : Session → Prop} {P : Request → Prop} {Q : Exchange → Prop}
    (hstep : ∀ s r, I s → P r → I (s.serve r).1 ∧ Q (s.exchange r)) {s : Session} (hs : I s)
    {rs : List Request} (hrs : ∀ r ∈ rs, P r) : I (s.after rs) ∧ ∀ e ∈ s.history rs, Q e := by
  induction rs generalizing s with
  | nil => exact ⟨hs, List.forall_mem_nil _⟩
  | cons r rs ih =>
    rw [List.forall_mem_cons] at hrs
    obtain ⟨hnext, hr⟩ := hstep s r hs hrs.1
    obtain ⟨hlast, hrest⟩ := ih hnext hrs.2
    exact ⟨hlast, List.forall_mem_cons.mpr ⟨hr, hrest⟩⟩

theorem after_induction {I : Session → Prop} (hstep : ∀ s r, I s → I (s.serve r).1) {s : Session}
    (hs : I s) (rs : List Request) : I (s.after rs) :=
  (history_induction (P := fun _ => True) (Q := fun _ => True) (fun s r h _ => ⟨hstep s r h, trivial⟩)
    hs fun _ _ => trivial).1

/-- No instruction has been committed and no wait has ended: memory, keypad and timers apart, the machine is
the same. -/
structure Rests (s t : Session) : Prop where
  settings : t.settings = s.settings
  steps : t.steps = s.steps
  registers : t.machine.registers = s.machine.registers
  index : t.machine.index = s.machine.index
  pc : t.machine.pc = s.machine.pc
  stack : t.machine.stack = s.machine.stack
  screen : t.machine.screen = s.machine.screen
  awaiting : t.machine.awaiting = s.machine.awaiting
  random : t.machine.random = s.machine.random
  dialect : t.machine.dialect = s.machine.dialect
  digitLimit : t.digitLimit = s.digitLimit

variable {s t u : Session}

theorem describes_congr (h : t.digitLimit = s.digitLimit) (frames : Int) (description : Option String) :
    t.describes frames description = s.describes frames description := by
  rw [describes, h, describes]

theorem run_of_describes {frames : Int} {description : Option String}
    (h : s.describes frames description = true) :
    s.run frames description = ((s.runFrames frames).1, .ok (s.runFrames frames).2) := by
  have hbar : ∃ text, Progress.describe frames s.digitLimit description = .ok text := by
    cases description with
    | some text => exact ⟨text, rfl⟩
    | none => exact ⟨_, if_pos h⟩
  obtain ⟨text, htext⟩ := hbar
  rw [run, Progress.start, htext]
  rfl

theorem run_of_not_describes {frames : Int} {description : Option String}
    (h : s.describes frames description = false) :
    s.run frames description = (s, .error (.unwritten s.digitLimit)) := by
  cases description with
  | some text => cases h
  | none =>
    have hbar : Progress.describe frames s.digitLimit none = .error (.unwritten s.digitLimit) :=
      if_neg (Bool.eq_false_iff.mp h)
    rw [run, Progress.start, hbar]
    rfl

theorem run_eq_ok {frames : Int} {description : Option String} {r : Summary}
    (h : (s.run frames description).2 = .ok r) :
    s.describes frames description = true ∧ (s.runFrames frames).2 = r := by
  cases hd : s.describes frames description with
  | false =>
    rw [run_of_not_describes hd] at h
    cases h
  | true =>
    rw [run_of_describes hd] at h
    exact ⟨rfl, Except.ok.inj h⟩

theorem rests_replaced (s : Session) (memory : Table 12 Byte) (keypad : Table 4 Bool)
    (delay sound : Byte) (journal : Journal) :
    s.Rests { s with
      machine := { s.machine with
        memory := memory
        keypad := keypad
        delay := delay
        sound := sound }
      journal := journal } :=
  ⟨rfl, rfl, rfl, rfl, rfl, rfl, rfl, rfl, rfl, rfl, rfl⟩

theorem Rests.refl (s : Session) : s.Rests s := rests_replaced s _ _ _ _ _

theorem Rests.trans (h : s.Rests t) (h' : t.Rests u) : s.Rests u where
  settings := h'.settings.trans h.settings
  steps := h'.steps.trans h.steps
  registers := h'.registers.trans h.registers
  index := h'.index.trans h.index
  pc := h'.pc.trans h.pc
  stack := h'.stack.trans h.stack
  screen := h'.screen.trans h.screen
  awaiting := h'.awaiting.trans h.awaiting
  random := h'.random.trans h.random
  dialect := h'.dialect.trans h.dialect
  digitLimit := h'.digitLimit.trans h.digitLimit

theorem Rests.describes (h : s.Rests t) (frames : Int) (description : Option String) :
    t.describes frames description = s.describes frames description :=
  describes_congr h.digitLimit frames description

end Session

namespace Exchange

/-- An exchange that leaves the program where it is. -/
structure Idle (e : Exchange) : Prop where
  rests : e.before.Rests e.after
  memory : ¬ e.request.Loads → e.after.machine.memory = e.before.machine.memory
  keypad : ¬ e.request.Holds → e.after.machine.keypad = e.before.machine.keypad
  delay : e.request ≠ .tick → e.after.machine.delay = e.before.machine.delay
  sound : e.request ≠ .tick → e.after.machine.sound = e.before.machine.sound

end Exchange

namespace Session

variable {s : Session} {r : Request}

theorem rests_of_quiet {t : Session} (h : s.Quiet t) : s.Rests t := by
  rw [h]
  exact rests_replaced s _ _ _ _ _

theorem idle_of_quiet (h : s.Quiet (s.serve r).1) : (s.exchange r).Idle := by
  have hm : (s.serve r).1.machine = s.machine := by rw [h]
  constructor
  · exact rests_of_quiet h
  all_goals
    intro _
    simp only [exchange, hm]

theorem idle_of_loaded {bytes : List Byte} (hr : r.Loads)
    (h : s.Quiet { (s.serve r).1 with machine := s.machine })
    (hm : (s.serve r).1.machine = s.machine.loaded bytes) : (s.exchange r).Idle := by
  have hafter : (s.serve r).1 =
      { s with machine := s.machine.loaded bytes, journal := (s.serve r).1.journal } := by
    rw [← hm]
    exact congrArg (fun t : Session => { t with machine := (s.serve r).1.machine }) h
  constructor
  · simp only [exchange]
    rw [hafter]
    exact rests_replaced s _ _ _ _ _
  · exact fun hno => absurd hr hno
  all_goals
    intro _
    simp only [exchange, hm]
    rfl

theorem idle_install {n : Nat} {x : Except Error Machine} {c : Call} (hc : (Request.call c).Loads)
    (hcall : s.call c = s.install n x) (hx : ∀ m, x = .ok m → ∃ bytes, m = s.machine.loaded bytes) :
    (s.exchange (.call c)).Idle := by
  have hafter : (s.serve (.call c)).1 = (s.install n x).1 := congrArg Prod.fst hcall
  cases x with
  | error e =>
    apply idle_of_quiet
    rw [hafter]
    rfl
  | ok m =>
    obtain ⟨bytes, rfl⟩ := hx m rfl
    have hm : (s.serve (.call c)).1.machine = s.machine.loaded bytes := by
      rw [hafter]
      rfl
    refine idle_of_loaded hc ?_ hm
    rw [hafter]
    rfl

theorem idle_loadUnsized (s : Session) (program : Unsized) :
    (s.exchange (.call (.loadUnsized program))).Idle := by
  have hafter : (s.serve (.call (.loadUnsized program))).1 = (s.loadUnsized program).1 := rfl
  unfold loadUnsized at hafter
  cases hm : s.machine.loadUnsized program with
  | error e =>
    rw [hm] at hafter
    apply idle_of_quiet
    rw [hafter]
    rfl
  | ok m =>
    obtain ⟨bytes, -, hload⟩ := Machine.loadUnsized_eq_ok hm
    rw [hm, Machine.load_eq_ok hload] at hafter
    have hloaded : (s.serve (.call (.loadUnsized program))).1.machine = s.machine.loaded bytes := by
      rw [hafter]
    refine idle_of_loaded (r := .call (.loadUnsized program)) trivial ?_ hloaded
    rw [hafter]
    rfl

theorem idle_loads (hr : r.Loads) (s : Session) : (s.exchange r).Idle := by
  cases r with
  | call c =>
    cases c with
    | load program => exact idle_install hr rfl fun m h => ⟨program, Machine.load_eq_ok h⟩
    | loadData program =>
      exact idle_install hr rfl fun m h => (Machine.loadData_eq_ok h).imp fun _ => Machine.load_eq_ok
    | loadFile contents =>
      exact idle_install hr rfl fun m h => (Machine.loadFile_eq_ok h).imp fun _ => Machine.load_eq_ok
    | loadUnsized program => exact idle_loadUnsized s program
    | _ => exact hr.elim
  | _ => exact hr.elim

theorem pressKey_refused {key : Datum} {e : Error} (h : Nibble.ofKey key s.digitLimit = .error e) :
    s.pressKey key = (s, some e) := by
  have hm : s.machine.setKey key true s.digitLimit = .error e := map_eq_error_iff.mpr h
  rw [pressKey, hm]

theorem quiet_deliverKey {key : Datum} {e : Error} (h : Nibble.ofKey key s.digitLimit = .error e) :
    s.Quiet (s.deliverKey key).1 := by
  have hm : s.machine.deliverKey key s.digitLimit = .error e := map_eq_error_iff.mpr h
  rcases deliverKey_cases s key with ⟨u, hu, hd⟩ | ⟨e', -, -, hd⟩
  · rw [hd, hm]
    exact hu
  · rw [hd]
    rfl

theorem deliverKey_of_none (ha : s.machine.awaiting = none) (key : Datum) :
    (s.deliverKey key).1 = s := by
  rw [deliverKey, ha]
  change (s.settle (s.machine.deliverKey key s.digitLimit)).1 = s
  cases hm : s.machine.deliverKey key s.digitLimit with
  | error e => rfl
  | ok m =>
    obtain ⟨k, -, rfl⟩ := Machine.deliverKey_eq_ok hm
    rw [Machine.deliver_of_none ha]
    rfl

/-- A transitive relation that holds across steps, ticks and lines in the journal. Cycles and runs are made of
these, so it holds across them too. -/
structure Spreads (R : Session → Session → Prop) : Prop where
  trans {s t u : Session} : R s t → R t u → R s u
  quiet {s t : Session} : s.Quiet t → R s t
  step (s : Session) : R s s.step.1
  tick (s : Session) : R s s.tick

namespace Spreads

variable {R : Session → Session → Prop}

theorem advance (h : Spreads R) (n : Nat) (s : Session) : R s (advance n s).1 := by
  induction n generalizing s with
  | zero => exact h.quiet rfl
  | succ n ih =>
    rw [Session.advance]
    split
    · exact h.quiet rfl
    · refine h.trans (h.step s) ?_
      rcases s.step with ⟨t, f | f⟩
      · exact ih t
      · exact h.quiet rfl

theorem cycle (h : Spreads R) (s : Session) : R s s.cycle.1 := by
  rw [Session.cycle]
  refine h.trans (h.advance s.settings.speed s) ?_
  rcases Session.advance s.settings.speed s with ⟨t, f | f⟩
  · dsimp only
    split
    · exact h.quiet rfl
    · exact h.tick t
  · exact h.quiet rfl

theorem runFrom (h : Spreads R) (t : Tally) (n : Nat) (s : Session) : R s (runFrom t n s).1 := by
  induction n generalizing t s with
  | zero => exact h.quiet rfl
  | succ n ih =>
    rw [Session.runFrom]
    refine h.trans (h.cycle s) ?_
    rcases s.cycle with ⟨u, f | f⟩
    · dsimp only
      split
      · exact h.quiet rfl
      · exact ih _ u
    · exact h.quiet rfl

theorem run (h : Spreads R) (s : Session) (frames : Int) (description : Option String) :
    R s (s.run frames description).1 := by
  cases hd : s.describes frames description with
  | false =>
    rw [run_of_not_describes hd]
    exact h.quiet rfl
  | true =>
    rw [run_of_describes hd]
    refine h.trans (h.runFrom {} frames.toNat s) (h.quiet ?_)
    rfl

theorem serve (h : Spreads R) (hcall : ∀ s c, R s (s.call c).1) (hreset : ∀ s, R s s.reset)
    (s : Session) (r : Request) : R s (s.serve r).1 := by
  cases r with
  | call c => exact hcall s c
  | tick => exact h.tick s
  | cycle => exact h.cycle s
  | run frames description => exact h.run s frames description
  | reset => exact hreset s

end Spreads

end Session
end Chip8
