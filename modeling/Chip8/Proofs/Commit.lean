import Chip8.Proofs.Action
import Chip8.Proofs.Footprint

/-! The instructions that a machine commits. A step commits the instruction at the program counter, an
execution that of its word, if it can be performed; no other action commits one. What the program sees of
itself, the pointers, the call stack, the screen and the random source, is moved by commits alone. -/

namespace Chip8

/-- An instruction that was performed, between the machines before and after. -/
structure Commit where
  before : Machine
  instruction : Instruction
  after : Machine

namespace Machine

def instruction? (m : Machine) : Action → Option Instruction
  | .step => if m.isAwaiting then none else Instruction.ofWord? m.current.toNat
  | .execute w => Instruction.ofWord? w
  | _ => none

/-- The machine on which it is performed: a step has moved the program counter past the word. -/
def performer (m : Machine) : Action → Machine
  | .step => m.advancePc
  | _ => m

def commit? (m : Machine) (a : Action) : Option Commit := do
  let i ← m.instruction? a
  let n ← ((m.performer a).perform i).toOption
  return ⟨m, i, n⟩

def after (m : Machine) (as : List Action) : Machine := as.foldl (fun m a => (m.respond a).2) m

def commits (m : Machine) : List Action → List Commit
  | [] => []
  | a :: as => (m.commit? a).toList ++ (m.respond a).2.commits as

theorem after_append (m : Machine) (as bs : List Action) :
    m.after (as ++ bs) = (m.after as).after bs :=
  List.foldl_append

theorem commits_append (m : Machine) (as bs : List Action) :
    m.commits (as ++ bs) = m.commits as ++ (m.after as).commits bs := by
  induction as generalizing m with
  | nil => rfl
  | cons a as ih =>
    have h := ih (m.respond a).2
    simp only [List.cons_append, commits, h, List.append_assoc]
    rfl

theorem forall_commits_cons {P : Commit → Prop} {m : Machine} {a : Action} {as : List Action} :
    (∀ c ∈ m.commits (a :: as), P c) ↔
      (∀ c, m.commit? a = some c → P c) ∧ ∀ c ∈ (m.respond a).2.commits as, P c := by
  rw [commits, List.forall_mem_append]
  simp only [Option.mem_toList]

theorem after_induction {I : Machine → Prop} (hstep : ∀ m a, I m → I (m.respond a).2) {m : Machine}
    (hm : I m) (as : List Action) : I (m.after as) := by
  induction as generalizing m with
  | nil => exact hm
  | cons a as ih => exact ih (hstep m a hm)

/-- What an action keeps whenever all it commits satisfies `P` is kept for as long as all that is committed does. -/
theorem after_of_commits {I : Machine → Prop} {P : Commit → Prop}
    (hstep : ∀ m a, (∀ c, m.commit? a = some c → P c) → I m → I (m.respond a).2) {m : Machine}
    {as : List Action} (hc : ∀ c ∈ m.commits as, P c) (hm : I m) : I (m.after as) := by
  induction as generalizing m with
  | nil => exact hm
  | cons a as ih =>
    obtain ⟨hfirst, hrest⟩ := forall_commits_cons.mp hc
    exact ih hrest (hstep m a hfirst hm)

structure Undisturbed (m n : Machine) : Prop where
  index : n.index = m.index
  pc : n.pc = m.pc
  stack : n.stack = m.stack
  screen : n.screen = m.screen
  random : n.random = m.random
  dialect : n.dialect = m.dialect
  awaiting : n.awaiting = m.awaiting ∨ n.awaiting = none

variable {m n : Machine} {a : Action} {c : Commit}

theorem Undisturbed.refl (m : Machine) : Undisturbed m m := ⟨rfl, rfl, rfl, rfl, rfl, rfl, .inl rfl⟩

theorem undisturbed_deliver (m : Machine) (k : Nibble) : Undisturbed m (m.deliver k) := by
  unfold deliver
  cases m.awaiting with
  | none => exact .refl m
  | some x => exact ⟨rfl, rfl, rfl, rfl, rfl, rfl, .inr rfl⟩

theorem undisturbed_loaded (m : Machine) (program : List Byte) : Undisturbed m (m.loaded program) :=
  ⟨rfl, rfl, rfl, rfl, rfl, rfl, .inl rfl⟩

theorem commit?_eq_some_iff :
    m.commit? a = some c ↔ c.before = m ∧ m.instruction? a = some c.instruction ∧
      (m.performer a).perform c.instruction = .ok c.after := by
  have hok (x : Except Fault Machine) (n : Machine) : x.toOption = some n ↔ x = .ok n := by
    cases x <;> simp [Except.toOption]
  obtain ⟨k, i, n⟩ := c
  simp only [commit?, Option.bind_eq_bind, Option.bind_eq_some_iff, hok, Option.pure_def,
    Option.some.injEq, Commit.mk.injEq]
  constructor
  · rintro ⟨i, hi, n, hn, rfl, rfl, rfl⟩
    exact ⟨rfl, hi, hn⟩
  · rintro ⟨rfl, hi, hn⟩
    exact ⟨i, hi, n, hn, rfl, rfl, rfl⟩

theorem respond_of_ok (h : m.apply a = .ok n) : m.respond a = (none, n) := by rw [respond, h]

theorem respond_of_error {e : Error} (h : m.apply a = .error e) : m.respond a = (some e, m) := by
  rw [respond, h]

theorem apply_step_eq_ok (h : m.apply .step = .ok n) : m.step = .ok n := mapError_eq_ok_iff.mp h

theorem apply_execute_eq_ok {w : Int} (h : m.apply (.execute w) = .ok n) : m.execute w = .ok n :=
  mapError_eq_ok_iff.mp h

theorem respond_step (h : m.step = .ok n) : m.respond .step = (none, n) :=
  respond_of_ok (mapError_eq_ok_iff.mpr h)

theorem respond_execute {w : Int} (h : m.execute w = .ok n) : m.respond (.execute w) = (none, n) :=
  respond_of_ok (mapError_eq_ok_iff.mpr h)

theorem respond_of_commit? (h : m.commit? a = some c) : m.respond a = (none, c.after) := by
  obtain ⟨-, hi, hn⟩ := commit?_eq_some_iff.mp h
  cases a with
  | step =>
    cases ha : m.isAwaiting with
    | true => simp [instruction?, ha] at hi
    | false =>
      have hw : Instruction.ofWord? m.current.toNat = some c.instruction := by
        simpa [instruction?, ha] using hi
      have hm : m.advancePc.execute m.current.toNat = .ok c.after :=
        execute_eq_ok_iff.mpr ⟨_, hw, hn⟩
      exact respond_step ((step_running ha).trans hm)
  | execute w => exact respond_execute (execute_eq_ok_iff.mpr ⟨_, hi, hn⟩)
  | _ => simp [instruction?] at hi

/-- What an action can do to a machine without committing an instruction. -/
inductive Uncommitted (m : Machine) (a : Action) : Machine → Prop
  | nothing : m.Uncommitted a m
  | tick (ha : a = .tick) : m.Uncommitted a m.tick
  | deliver (k : Nibble) : m.Uncommitted a (m.deliver k)
  | hold (k : Nibble) (pressed : Bool) : m.Uncommitted a (m.hold k pressed)
  | load {n : Machine} (program : List Byte) (h : m.load program = .ok n) : m.Uncommitted a n

theorem uncommitted_respond (h : m.commit? a = none) : m.Uncommitted a (m.respond a).2 := by
  -- Only what has a form and can be performed is executed, and then it would be a commit.
  have hno (i : Instruction) (k : Machine) (hi : m.instruction? a = some i) :
      (m.performer a).perform i ≠ .ok k := by
    intro hk
    rw [commit?_eq_some_iff (c := ⟨m, i, k⟩) |>.mpr ⟨rfl, hi, hk⟩] at h
    cases h
  cases hx : m.apply a with
  | error e =>
    rw [respond_of_error hx]
    exact .nothing
  | ok n =>
    rw [respond_of_ok hx]
    cases a with
    | step =>
      have hm := apply_step_eq_ok hx
      cases ha : m.isAwaiting with
      | true =>
        rw [step_awaiting ha] at hm
        cases hm
        exact .nothing
      | false =>
        rw [step_running ha] at hm
        obtain ⟨i, hw, hi⟩ := execute_eq_ok_iff.mp hm
        exact absurd hi (hno i n (by simpa [instruction?, ha] using hw))
    | execute w =>
      obtain ⟨i, hw, hi⟩ := execute_eq_ok_iff.mp (apply_execute_eq_ok hx)
      exact absurd hi (hno i n hw)
    | tick =>
      cases hx
      exact .tick rfl
    | deliver key =>
      obtain ⟨k, -, rfl⟩ := deliverKey_eq_ok hx
      exact .deliver k
    | hold key pressed =>
      obtain ⟨k, -, rfl⟩ := setKey_eq_ok hx
      exact .hold k pressed
    | load program => exact .load program hx
    | loadData program =>
      obtain ⟨bytes, hload⟩ := loadData_eq_ok hx
      exact .load bytes hload
    | loadFile contents =>
      obtain ⟨bytes, hload⟩ := loadFile_eq_ok hx
      exact .load bytes hload

theorem undisturbed_respond (h : m.commit? a = none) : Undisturbed m (m.respond a).2 := by
  have hn := uncommitted_respond h
  generalize (m.respond a).2 = n at hn ⊢
  cases hn with
  | nothing => exact .refl m
  | tick => exact ⟨rfl, rfl, rfl, rfl, rfl, rfl, .inl rfl⟩
  | deliver k => exact undisturbed_deliver m k
  | hold k pressed => exact ⟨rfl, rfl, rfl, rfl, rfl, rfl, .inl rfl⟩
  | load program hload =>
    obtain rfl := load_eq_ok hload
    exact undisturbed_loaded m program

theorem performer_eq (m : Machine) (a : Action) :
    m.performer a = { m with pc := (m.performer a).pc } := by
  cases a <;> rfl

end Machine
end Chip8
