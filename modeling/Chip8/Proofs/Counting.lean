import Chip8.Proofs.Adjustment
import Chip8.Proofs.Draws
import Chip8.Proofs.Subroutine

/-! What a session has at any time. Its machine keeps its shape, return addresses reach memory, and the dialect is
the one that was set. The count of steps is the number of instructions committed since the last reset, the depth
of the stack that of the calls without that of the returns, and every cleared screen has been announced once. -/

namespace Chip8
namespace Machine

theorem commits_cons (m : Machine) (a : Action) (as : List Action) :
    m.commits (a :: as) = m.commits [a] ++ (m.respond a).2.commits as :=
  commits_append m [a] as

theorem commits_singleton (m : Machine) (a : Action) : m.commits [a] = (m.commit? a).toList :=
  List.append_nil _

theorem depth_respond (m : Machine) (a : Action) :
    (m.respond a).2.stack.length + (m.commits [a]).countP (Commit.hasForm .ret) =
      m.stack.length + (m.commits [a]).countP (Commit.hasForm .call) := by
  have hcount {c : Commit} {f g : Form} (hf : c.instruction.form = f) :
      [c].countP (Commit.hasForm g) = if f = g then 1 else 0 := by
    simp [Commit.hasForm, hf]
  rw [commits_singleton]
  rcases stack_respond m a with ⟨hs, hno⟩ | ⟨c, w, hc, hcall, hs⟩ | ⟨c, hc, hret, hs⟩
  · rw [hs]
    cases hc : m.commit? a with
    | none => rfl
    | some c =>
      obtain ⟨hcall, hret⟩ := hno c hc
      rw [Option.toList_some, hcount rfl, hcount rfl, if_neg hcall, if_neg hret]
  · rw [hc, hs, Option.toList_some, hcount hcall, hcount hcall]
    rfl
  · rw [hc, respond_of_commit? hc, hs, Option.toList_some, hcount hret, hcount hret]
    rfl

theorem depth_after (m : Machine) (as : List Action) :
    (m.after as).stack.length + (m.commits as).countP (Commit.hasForm .ret) =
      m.stack.length + (m.commits as).countP (Commit.hasForm .call) := by
  induction as generalizing m with
  | nil => rfl
  | cons a as ih =>
    have hfirst := depth_respond m a
    have hrest := ih (m.respond a).2
    have hafter : m.after (a :: as) = (m.respond a).2.after as := rfl
    rw [commits_cons, List.countP_append, List.countP_append, hafter]
    omega

def ReturnsToMemory (m : Machine) : Prop := ∀ a ∈ m.stack, a.toNat < memorySize

theorem returnsToMemory_respond {m : Machine} (h : m.ReturnsToMemory) (a : Action) :
    (m.respond a).2.ReturnsToMemory := by
  unfold ReturnsToMemory at h ⊢
  rcases stack_respond m a with ⟨hs, -⟩ | ⟨c, w, -, -, hs⟩ | ⟨c, hc, -, hs⟩
  · rwa [hs]
  · rw [hs, List.forall_mem_cons]
    refine ⟨?_, h⟩
    rw [BitVec.toNat_setWidth]
    exact Nat.lt_of_le_of_lt (Nat.mod_le _ _) (addressOf w).isLt
  · rw [hs, List.forall_mem_cons] at h
    rw [respond_of_commit? hc]
    exact h.2

theorem returnsToMemory_after {m : Machine} (h : m.ReturnsToMemory) (as : List Action) :
    (m.after as).ReturnsToMemory :=
  after_induction (I := ReturnsToMemory) (fun _ a hm => returnsToMemory_respond hm a) h as

theorem dialect_after (m : Machine) (as : List Action) : (m.after as).dialect = m.dialect :=
  after_induction (I := fun n => n.dialect = m.dialect) (fun n a hn => (dialect_respond n a).trans hn) rfl as

end Machine

namespace Session

/-- The shape of a session at any time. -/
structure Sound (s : Session) : Prop where
  memory : s.machine.memory.toList.length = memorySize
  registers : s.machine.registers.toList.length = 16
  keypad : s.machine.keypad.toList.length = keyCount
  rows : s.machine.screen.toList.length = screenHeight
  columns : ∀ row ∈ s.machine.screen.toList, row.toNat < Nat.pow 2 screenWidth
  stack : s.machine.ReturnsToMemory
  awaiting : ∀ x, s.machine.awaiting = some x → x.toNat < 16
  dialect : s.machine.dialect = s.settings.dialect

variable {s : Session}

-- The sizes of the tables and the range of a waiting register hold by type, which leaves the stack and the dialect.
theorem sound_of (hstack : s.machine.ReturnsToMemory)
    (hdialect : s.machine.dialect = s.settings.dialect) : s.Sound where
  memory := Table.length_toList _
  registers := Table.length_toList _
  keypad := Table.length_toList _
  rows := Table.length_toList _
  columns row _ := row.isLt
  stack := hstack
  awaiting x _ := x.isLt
  dialect := hdialect

theorem sound_serve (h : s.Sound) (r : Request) : (s.serve r).1.Sound := by
  have hsettings := (sameSetup_serve s r).settings
  by_cases hr : r = .reset
  · rw [hr]
    exact sound_of nofun rfl
  · have hmachine := (performs_serve (s := s) hr).machine
    apply sound_of
    · rw [hmachine]
      exact Machine.returnsToMemory_after h.stack _
    · rw [hmachine, hsettings, Machine.dialect_after]
      exact h.dialect

theorem sound_after (h : s.Sound) (rs : List Request) : (s.after rs).Sound :=
  after_induction (I := Sound) (fun _ r ht => sound_serve ht r) h rs

theorem clears_after (s : Session) (rs : List Request) :
    (s.after rs).clears = s.clears + s.announced (s.commits rs) := by
  induction rs generalizing s with
  | nil => rw [commits, announced_nil]; rfl
  | cons r rs ih =>
    have hnotifies := (sameSetup_serve s r).notifiesClear
    have hserve : (s.serve r).1.clears = s.clears + s.announced (s.machine.commits (s.actions r)) := by
      by_cases hr : r = .reset
      · rw [hr, actions, Machine.commits, announced_nil]
        rfl
      · exact (performs_serve hr).clears
    have hafter : s.after (r :: rs) = (s.serve r).1.after rs := rfl
    rw [hafter, ih, hserve, commits, announced_append, announced_congr hnotifies, Nat.add_assoc]

variable {settings : Settings} {journal : Journal} {notifies : Bool} {limit : Option Nat} {past rs : List Request}

theorem steps_of_fresh (hs : create settings journal notifies limit = .ok s)
    (hpast : past = [] ∨ past.getLast? = some .reset) : (s.after past).steps = 0 := by
  rcases hpast with rfl | hlast
  · rw [(create_eq_ok_iff.mp hs).2]
    rfl
  · obtain ⟨before, rfl⟩ := List.getLast?_eq_some_iff.mp hlast
    rw [after_append]
    rfl

/-- A session is sound at any time. Steps and depth count from its creation or the last reset on, which a list of
requests without a reset continues; the announced screens count from its creation on, through every reset. -/
theorem counters_exact (hs : create settings journal notifies limit = .ok s)
    (hpast : past = [] ∨ past.getLast? = some .reset) (hrs : .reset ∉ rs) :
    let t := s.after (past ++ rs)
    let recent := (s.after past).commits rs
    t.Sound ∧ t.steps = recent.length ∧
      (t.machine.stack.length : Int) =
        recent.countP (Commit.hasForm .call) - recent.countP (Commit.hasForm .ret) ∧
      t.clears = if notifies then (s.commits (past ++ rs)).countP (Commit.hasForm .clear) else 0 := by
  intro t recent
  have ht : t = (s.after past).after rs := after_append s past rs
  obtain ⟨as, has, hcommits⟩ := exists_actions (s := s.after past) hrs
  have hrecent : recent = (s.after past).machine.commits as := hcommits
  obtain ⟨-, hcreated⟩ := create_eq_ok_iff.mp hs
  refine ⟨?_, ?_, ?_, ?_⟩
  · have hsound : s.Sound := by
      rw [hcreated]
      exact sound_of nofun rfl
    exact sound_after hsound _
  · rw [ht, has.steps, steps_of_fresh hs hpast, Nat.zero_add, hrecent]
  · have hdepth := (s.after past).machine.depth_after as
    have hempty : (s.after past).machine.stack.length = 0 := by rw [machine_of_fresh hs hpast]; rfl
    rw [ht, has.machine, hrecent]
    omega
  · have hclears : s.clears = 0 := by rw [hcreated]
    have hnotifies : s.notifiesClear = notifies := by rw [hcreated]
    rw [clears_after, hclears, Nat.zero_add, announced, hnotifies]

/-- Two screens are cleared, one of them in a routine that returns; then a key is awaited and pressed, another
routine is called and faults. -/
theorem counters_exact_routines :
    let journal := Journal.start "Engine" .debug false false ⟨[]⟩
    let past : List Request := [.call (.load [0x00, 0xE0]), .call .step, .reset]
    let rs : List Request := [.call (.load [0x00, 0xE0, 0x22, 0x0A, 0xF0, 0x0A, 0x22, 0x08, 0x00, 0x00,
      0x00, 0xE0, 0x00, 0xEE]), .run 1, .call (.press (.int 3)), .call .step, .call .step]
    ∃ s, create {} journal true = .ok s ∧
      let t := s.after (past ++ rs)
      let recent := (s.after past).commits rs
      (t.steps = 6 ∧ t.machine.stack = [0x208] ∧ t.clears = 3) ∧
        t.Sound ∧ t.steps = recent.length ∧
        (t.machine.stack.length : Int) =
          recent.countP (Commit.hasForm .call) - recent.countP (Commit.hasForm .ret) ∧
        t.clears = if true then (s.commits (past ++ rs)).countP (Commit.hasForm .clear) else 0 := by
  intro journal past rs
  obtain ⟨s, hs⟩ : ∃ s, create {} journal true = .ok s := ⟨_, rfl⟩
  have hpast : past.getLast? = some .reset := rfl
  have hrs : .reset ∉ rs := by simp [rs]
  have hexact := counters_exact hs (.inr hpast) hrs
  obtain ⟨-, rfl⟩ := create_eq_ok_iff.mp hs
  refine ⟨_, hs, ?_, hexact⟩
  decide +kernel

end Session
end Chip8
