import Chip8.Proofs.Commit
import Chip8.Proofs.Utterance

/-! What a session does to its machine, taken apart into actions. Every request but a reset amounts to a list
of actions, a cycle to as many steps as the speed says and a tick, a run to the actions of its cycles. The
instructions that the actions commit are those that the session counts, and the screens they clear are those
that it announces. -/

namespace Chip8

def Commit.hasForm (f : Form) (c : Commit) : Bool := c.instruction.form = f

namespace Session

/-- What is done with a key that is one of the sixteen, which is known by its number then. -/
def keyActions (s : Session) (key : Datum) (f : Datum → Action) : List Action :=
  match Nibble.ofKey key s.digitLimit with
  | .error _ => []
  | .ok k => [f (.int k.toNat)]

def delivery (s : Session) (key : Datum) : List Action :=
  match s.machine.awaiting, keyLabel key with
  | some _, .error _ => []
  | _, _ => s.keyActions key .deliver

/-- After a fault, and while a key is awaited, the steps that are left change nothing and no tick follows. -/
def cycleActions (s : Session) : List Action :=
  List.replicate s.settings.speed .step ++
    match advance s.settings.speed s with
    | (_, some _) => []
    | (t, none) => if t.isAwaiting then [] else [.tick]

def loadActions (program : Unsized) : List Action :=
  match program.bytes with
  | .error _ => []
  | .ok bytes => [.load bytes]

def runActions : Nat → Session → List Action
  | 0, _ => []
  | n + 1, s => s.cycleActions ++
    match s.cycle with
    | (_, some _) => []
    | (t, none) => if t.isAwaiting then [] else runActions n t

def actions (s : Session) : Request → List Action
  | .call (.load program) => [.load program]
  | .call (.loadData program) => [.loadData program]
  | .call (.loadFile contents) => [.loadFile contents]
  | .call (.loadUnsized program) => loadActions program
  | .call (.press key) => s.keyActions key (.hold · true) ++ s.delivery key
  | .call (.release key) => s.keyActions key (.hold · false)
  | .call (.deliver key) => s.delivery key
  | .call .step => [.step]
  | .tick => [.tick]
  | .cycle => s.cycleActions
  | .run frames description => if s.describes frames description then runActions frames.toNat s else []
  | .reset => []

/-- All that is committed in the course of some requests, in order. -/
def commits (s : Session) : List Request → List Commit
  | [] => []
  | r :: rs => s.machine.commits (s.actions r) ++ (s.serve r).1.commits rs

end Session

namespace Machine

variable {m n : Machine}

theorem commit?_step_of_ok (ha : m.isAwaiting = false) (h : m.step = .ok n) :
    ∃ i, m.commit? .step = some ⟨m, i, n⟩ := by
  rw [step_running ha] at h
  obtain ⟨i, hw, hi⟩ := execute_eq_ok_iff.mp h
  refine ⟨i, commit?_eq_some_iff.mpr ⟨rfl, ?_, hi⟩⟩
  rw [instruction?, ha]
  exact hw

def Stuck (m : Machine) : Prop := (m.respond .step).2 = m ∧ m.commit? .step = none

theorem stuck_of_awaiting (ha : m.isAwaiting = true) : m.Stuck := by
  have hi : m.instruction? .step = none := by rw [instruction?, ha]; rfl
  exact ⟨by rw [respond_step (step_awaiting ha)], by rw [commit?, hi]; rfl⟩

theorem stuck_of_fault {f : Fault} (h : m.step = .error f) : m.Stuck := by
  have happly : m.apply .step = .error (.ofFault f) := by
    rw [apply, h]
    rfl
  refine ⟨by rw [respond_of_error happly], ?_⟩
  cases hc : m.commit? .step with
  | none => rfl
  | some c =>
    -- A commit would be answered by no error.
    have hnone := respond_of_commit? hc
    rw [respond_of_error happly] at hnone
    cases hnone

theorem Stuck.replicate (h : m.Stuck) (k : Nat) :
    m.after (List.replicate k .step) = m ∧ m.commits (List.replicate k .step) = [] := by
  induction k with
  | zero => exact ⟨rfl, rfl⟩
  | succ k ih =>
    rw [List.replicate_succ, after, List.foldl_cons, commits, h.1, h.2]
    exact ih

end Machine

namespace Session

def announced (s : Session) (cs : List Commit) : Nat :=
  if s.notifiesClear then cs.countP (Commit.hasForm .clear) else 0

/-- From `s` to `t` the machine went through some actions, and the session counted what they committed and
announced the screens that they cleared. -/
structure Performs (s : Session) (as : List Action) (t : Session) : Prop where
  machine : t.machine = s.machine.after as
  steps : t.steps = s.steps + (s.machine.commits as).length
  notifiesClear : t.notifiesClear = s.notifiesClear
  clears : t.clears = s.clears + s.announced (s.machine.commits as)

variable {s t u : Session} {as bs : List Action}

theorem announced_append (s : Session) (cs ds : List Commit) :
    s.announced (cs ++ ds) = s.announced cs + s.announced ds := by
  unfold announced
  split
  · exact List.countP_append
  · rfl

theorem announced_congr (h : t.notifiesClear = s.notifiesClear) (cs : List Commit) :
    t.announced cs = s.announced cs := by
  rw [announced, announced, h]

theorem announced_nil (s : Session) : s.announced [] = 0 := by
  unfold announced
  split <;> rfl

theorem Performs.append (h : s.Performs as t) (h' : t.Performs bs u) : s.Performs (as ++ bs) u where
  machine := by rw [h'.machine, h.machine, Machine.after_append]
  steps := by
    rw [h'.steps, h.steps, h.machine, Machine.commits_append, List.length_append, Nat.add_assoc]
  notifiesClear := h'.notifiesClear.trans h.notifiesClear
  clears := by
    rw [h'.clears, h.clears, h.machine, Machine.commits_append, announced_append,
      announced_congr h.notifiesClear, Nat.add_assoc]

theorem Performs.of_quiet (h : s.Performs as t) (hu : t.Quiet u) : s.Performs as u := by
  rw [hu]
  exact ⟨h.machine, h.steps, h.notifiesClear, h.clears⟩

theorem performs_of_commits_eq_nil (hcommits : s.machine.commits as = [])
    (h : t = { s with machine := s.machine.after as, journal := t.journal }) : s.Performs as t := by
  rw [h]
  constructor
  · rfl
  · rw [hcommits]
    rfl
  · rfl
  · rw [hcommits, announced_nil]
    rfl

theorem performs_nil (h : s.Quiet t) : s.Performs [] t :=
  performs_of_commits_eq_nil rfl h

theorem Quiet.performs_steps (h : s.Quiet t) (hstuck : s.machine.Stuck) (k : Nat) :
    s.Performs (List.replicate k .step) t := by
  obtain ⟨hafter, hcommits⟩ := hstuck.replicate k
  refine performs_of_commits_eq_nil hcommits ?_
  rw [hafter]
  exact h

theorem clears_commit (s : Session) (m : Machine) (c : Commit) :
    (s.commit m c.instruction).clears = s.clears + s.announced [c] := by
  have hcount : [c].countP (Commit.hasForm .clear) = if c.instruction.form = .clear then 1 else 0 := by
    simp [Commit.hasForm]
  unfold commit announced
  rw [hcount]
  cases c.instruction.form with
  | clear => cases s.notifiesClear <;> rfl
  | _ => cases s.notifiesClear <;> rfl

theorem performs_step (s : Session) : s.Performs [.step] s.step.1 := by
  cases ha : s.isAwaiting with
  | true =>
    rw [step_awaiting ha]
    exact (Quiet.refl s).performs_steps (Machine.stuck_of_awaiting ha) 1
  | false =>
    cases hm : s.machine.step with
    | error g => exact (step_fault_quiet hm).2.performs_steps (Machine.stuck_of_fault hm) 1
    | ok m =>
      obtain ⟨i, hc⟩ := Machine.commit?_step_of_ok ha hm
      obtain ⟨-, hi, hp⟩ := Machine.commit?_eq_some_iff.mp hc
      have hi' : Instruction.ofWord? s.machine.current.toNat = some i := by
        rwa [Machine.instruction?, show s.machine.isAwaiting = false from ha] at hi
      have hcommits : s.machine.commits [.step] = [⟨s.machine, i, m⟩] := by
        rw [Machine.commits, hc]
        rfl
      obtain ⟨hmachine, hsteps⟩ := commit_spec (s.traced i) m i
      have hclears := clears_commit (s.traced i) m ⟨s.machine, i, m⟩
      rw [(step_committed ha hi' hp).1]
      constructor
      · rw [hmachine, Machine.after, List.foldl_cons, Machine.respond_of_commit? hc]
        rfl
      · rw [hsteps, hcommits]
        rfl
      · rw [commit_eq]
        rfl
      · rw [hcommits]
        exact hclears

theorem performs_advance (n : Nat) (s : Session) :
    s.Performs (List.replicate n .step) (advance n s).1 := by
  induction n generalizing s with
  | zero => exact performs_nil rfl
  | succ n ih =>
    rw [advance]
    cases ha : s.isAwaiting with
    | true => exact (Quiet.refl s).performs_steps (Machine.stuck_of_awaiting ha) _
    | false =>
      cases hm : s.machine.step with
      | error g =>
        obtain ⟨hf, hquiet⟩ := step_fault_quiet hm
        have hstep : s.step = (s.step.1, some (g.tag s.machine.pc.toNat)) := by rw [← hf]
        rw [hstep]
        exact hquiet.performs_steps (Machine.stuck_of_fault hm) _
      | ok m =>
        have hstep : s.step = (s.step.1, none) := by rw [← (step_ok ha hm).1]
        rw [hstep]
        exact (performs_step s).append (ih s.step.1)

theorem performs_action {a : Action} (hi : s.machine.instruction? a = none)
    (h : t = { s with machine := (s.machine.respond a).2, journal := t.journal }) :
    s.Performs [a] t := by
  have hc : s.machine.commit? a = none := by rw [Machine.commit?, hi]; rfl
  refine performs_of_commits_eq_nil ?_ h
  rw [Machine.commits, hc]
  rfl

theorem performs_tick (s : Session) : s.Performs [.tick] s.tick := performs_action rfl rfl

theorem performs_cycle (s : Session) : s.Performs s.cycleActions s.cycle.1 := by
  have hsteps := performs_advance s.settings.speed s
  unfold cycleActions cycle
  refine hsteps.append ?_
  rcases advance s.settings.speed s with ⟨t, f | f⟩
  · dsimp only
    split
    · exact performs_nil rfl
    · exact performs_tick t
  · exact performs_nil rfl

theorem performs_runFrom (t : Tally) (n : Nat) (s : Session) :
    s.Performs (runActions n s) (runFrom t n s).1 := by
  induction n generalizing t s with
  | zero => exact performs_nil rfl
  | succ n ih =>
    have hcycle := performs_cycle s
    unfold runActions runFrom
    refine hcycle.append ?_
    rcases s.cycle with ⟨u, f | f⟩
    · dsimp only
      split
      · exact performs_nil rfl
      · exact ih _ u
    · exact performs_nil rfl

theorem performs_install {a : Action} (hi : s.machine.instruction? a = none) (n : Nat) :
    s.Performs [a] (s.install n (s.machine.apply a)).1 := by
  cases hx : s.machine.apply a with
  | error e => exact performs_action hi (by rw [Machine.respond_of_error hx]; rfl)
  | ok m => exact performs_action hi (by rw [Machine.respond_of_ok hx]; rfl)

theorem performs_loadUnsized (s : Session) (program : Unsized) :
    s.Performs (loadActions program) (s.loadUnsized program).1 := by
  unfold loadUnsized loadActions Machine.loadUnsized
  cases program.bytes with
  | error e => exact performs_nil rfl
  | ok bytes =>
    dsimp only
    cases hm : s.machine.load bytes with
    | error e => exact performs_action rfl (by rw [Machine.respond_of_error (a := .load bytes) hm])
    | ok m => exact performs_action rfl (by rw [Machine.respond_of_ok (a := .load bytes) hm])

theorem performs_key {key : Datum} {f : Datum → Action} {g : Nibble → Machine}
    (hi : ∀ d, s.machine.instruction? (f d) = none)
    (hf : ∀ k : Nibble, s.machine.apply (f (.int k.toNat)) = .ok (g k)) :
    s.Performs (s.keyActions key f) (s.settle ((Nibble.ofKey key s.digitLimit).map g)).1 := by
  unfold keyActions
  cases Nibble.ofKey key s.digitLimit with
  | error e => exact performs_nil rfl
  | ok k => exact performs_action (hi _) (by rw [Machine.respond_of_ok (hf k)]; rfl)

theorem performs_deliver (s : Session) (key : Datum) :
    s.Performs (s.delivery key) (s.deliverKey key).1 := by
  have hkey (t : Session) : t.Performs (t.keyActions key .deliver)
      (t.settle (t.machine.deliverKey key t.digitLimit)).1 :=
    performs_key (fun _ => rfl) fun k => t.machine.deliverKey_toNat k _
  unfold delivery deliverKey
  cases s.machine.awaiting with
  | none => exact hkey s
  | some x =>
    cases keyLabel key with
    | error e => exact performs_nil rfl
    | ok n =>
      -- What is written down first does not concern the machine.
      have hlogged := hkey (s.log .debug (.keyDelivered n x))
      exact ⟨hlogged.machine, hlogged.steps, hlogged.notifiesClear, hlogged.clears⟩

theorem delivery_of_error {key : Datum} {e : Error} (h : Nibble.ofKey key s.digitLimit = .error e) :
    s.delivery key = [] := by
  unfold delivery keyActions
  rw [h]
  split <;> rfl

theorem performs_press (s : Session) (key : Datum) :
    s.Performs (s.keyActions key (.hold · true) ++ s.delivery key) (s.pressKey key).1 := by
  have hhold := @performs_key s key (.hold · true) (s.machine.hold · true) (fun _ => rfl)
    fun k => s.machine.setKey_toNat k true _
  cases hk : Nibble.ofKey key s.digitLimit with
  | error e =>
    rw [hk] at hhold
    rw [pressKey_refused hk, delivery_of_error hk, List.append_nil]
    exact hhold
  | ok k =>
    rw [hk] at hhold
    have hm : s.machine.setKey key true s.digitLimit = .ok (s.machine.hold k true) :=
      map_eq_ok_iff.mpr ⟨k, hk, rfl⟩
    rw [pressKey, hm]
    exact hhold.append (performs_deliver { s with machine := s.machine.hold k true } key)

theorem performs_run (s : Session) (frames : Int) (description : Option String) :
    s.Performs (s.actions (.run frames description)) (s.run frames description).1 := by
  cases hd : s.describes frames description with
  | false =>
    rw [run_of_not_describes hd, actions, if_neg (Bool.eq_false_iff.mp hd)]
    exact performs_nil rfl
  | true =>
    rw [run_of_describes hd, actions, if_pos hd]
    exact (performs_runFrom {} frames.toNat s).of_quiet rfl

theorem performs_serve {r : Request} (hr : r ≠ .reset) : s.Performs (s.actions r) (s.serve r).1 := by
  cases r with
  | call c =>
    cases c with
    | load program => exact performs_install (a := .load program) rfl _
    | loadData program => exact performs_install (a := .loadData program) rfl _
    | loadFile contents => exact performs_install (a := .loadFile contents) rfl _
    | loadUnsized program => exact performs_loadUnsized s program
    | press key => exact performs_press s key
    | release key =>
      exact performs_key (s := s) (f := (.hold · false)) (fun _ => rfl) fun k =>
        s.machine.setKey_toNat k false _
    | deliver key => exact performs_deliver s key
    | step => exact performs_step s
  | tick => exact performs_tick s
  | cycle => exact performs_cycle s
  | run frames description => exact performs_run s frames description
  | reset => exact absurd rfl hr

/-- Without a reset a whole list of requests is one list of actions. -/
theorem exists_actions {rs : List Request} (hrs : .reset ∉ rs) :
    ∃ as, s.Performs as (s.after rs) ∧ s.commits rs = s.machine.commits as := by
  induction rs generalizing s with
  | nil => exact ⟨[], performs_nil rfl, rfl⟩
  | cons r rs ih =>
    rw [List.mem_cons, not_or] at hrs
    obtain ⟨hr, hrest⟩ := hrs
    have hserve := performs_serve (s := s) (Ne.symm hr)
    obtain ⟨as, has, hcommits⟩ := ih (s := (s.serve r).1) hrest
    refine ⟨s.actions r ++ as, hserve.append has, ?_⟩
    rw [commits, hcommits, Machine.commits_append, hserve.machine]

end Session
end Chip8
