import Chip8.Proofs.Frames
import Chip8.Proofs.Ticking

/-! The timers over a run of frames. A timer is lowered by ticks, set by its one instruction, and changed by
nothing else. So over any actions that do not set it, it falls by the number of their ticks and stops at zero.
A run that is not stopped ticks once for each of its frames, and the speaker is looked at after the tick. -/

namespace Chip8

inductive Timer where
  | delay
  | sound

def Timer.setter : Timer → Form
  | delay => .setDelay
  | sound => .setSound

def Action.isTick : Action → Bool
  | .tick => true
  | _ => false

theorem Action.isTick_of_ne {a : Action} (h : a ≠ .tick) : a.isTick = false := by
  cases a with
  | tick => exact absurd rfl h
  | _ => rfl

namespace Machine

def timer (m : Machine) : Timer → Byte
  | .delay => m.delay
  | .sound => m.sound

variable {m n : Machine} {a : Action} {as : List Action} {r : Timer}

theorem timer_tick (m : Machine) (r : Timer) : m.tick.timer r = countdown (m.timer r) := by
  cases r <;> rfl

theorem timer_deliver (m : Machine) (k : Nibble) (r : Timer) : (m.deliver k).timer r = m.timer r := by
  unfold deliver
  cases m.awaiting <;> cases r <;> rfl

theorem timer_of_footprint {i : Instruction} (h : i.Footprint m n) (hi : i.form ≠ r.setter) :
    n.timer r = m.timer r := by
  cases r with
  | delay => exact h.delay hi
  | sound => exact h.sound hi

theorem timer_of_uncommitted (h : m.Uncommitted a n) (ha : a ≠ .tick) : n.timer r = m.timer r := by
  cases h with
  | nothing => rfl
  | tick hsame => exact absurd hsame ha
  | deliver k => exact timer_deliver m k r
  | hold k pressed => cases r <;> rfl
  | load program hload =>
    obtain rfl := load_eq_ok hload
    cases r <;> rfl

theorem timer_respond (ha : a ≠ .tick)
    (hfree : ∀ c, m.commit? a = some c → c.instruction.form ≠ r.setter) :
    (m.respond a).2.timer r = m.timer r := by
  cases hc : m.commit? a with
  | none => exact timer_of_uncommitted (uncommitted_respond hc) ha
  | some c =>
    obtain ⟨-, -, hn⟩ := commit?_eq_some_iff.mp hc
    have hmoved : (m.performer a).timer r = m.timer r := by
      rw [performer_eq]
      cases r <;> rfl
    rw [respond_of_commit? hc, timer_of_footprint (perform_footprint hn) (hfree c hc), hmoved]

/-- Whatever else is done, a timer that is not set falls by one with each tick and stops at zero. -/
theorem timer_after (hfree : ∀ c ∈ m.commits as, c.instruction.form ≠ r.setter) :
    ((m.after as).timer r).toNat = (m.timer r).toNat - as.countP Action.isTick := by
  induction as generalizing m with
  | nil => rfl
  | cons a as ih =>
    obtain ⟨hfirst, hrest⟩ := forall_commits_cons.mp hfree
    have hafter : m.after (a :: as) = (m.respond a).2.after as := rfl
    rw [hafter, ih hrest, List.countP_cons]
    by_cases ha : a = .tick
    · have htick : (m.respond .tick).2 = m.tick := rfl
      rw [ha, htick, timer_tick, toNat_countdown, Action.isTick, if_pos rfl]
      omega
    · rw [timer_respond ha hfirst, Action.isTick_of_ne ha]
      rfl

end Machine

namespace Session

variable {s u : Session} {t : Tally} {n : Nat} {r : Timer}

theorem cycleActions_of_full (h : s.cycle = (u, none)) (ha : u.isAwaiting = false) :
    s.cycleActions = List.replicate s.settings.speed .step ++ [.tick] := by
  rw [cycle_eq_finish] at h
  unfold cycleActions
  rcases hx : advance s.settings.speed s with ⟨v, f | f⟩
  · rw [hx, finish] at h
    cases hv : v.isAwaiting with
    | true =>
      -- The cycle would have left the wait as it is.
      rw [hv, if_pos rfl] at h
      obtain ⟨rfl, -⟩ := Prod.mk.inj h
      rw [hv] at ha
      cases ha
    | false => simp [hv]
  · rw [hx, finish] at h
    cases h

theorem runActions_of_full (h : s.cycle = (u, none)) (ha : u.isAwaiting = false) (n : Nat) :
    runActions (n + 1) s = s.cycleActions ++ runActions n u := by
  rw [runActions, h]
  simp only [ha, Bool.false_eq_true, if_false]

theorem ticks_cycleActions (h : s.cycle = (u, none)) (ha : u.isAwaiting = false) :
    s.cycleActions.countP Action.isTick = 1 := by
  rw [cycleActions_of_full h ha, List.countP_append, List.countP_replicate]
  rfl

theorem ticks_runActions (hfault : (runFrom t n s).2.2 = none) (hwait : (runFrom t n s).1.isAwaiting = false) :
    (runActions n s).countP Action.isTick = n := by
  induction n generalizing t s with
  | zero => rfl
  | succ n ih =>
    obtain ⟨u, hc, hu⟩ := full_of_unstopped hfault hwait
    rw [runFrom_of_full hc hu] at hfault hwait
    rw [runActions_of_full hc hu, List.countP_append, ticks_cycleActions hc hu, ih hfault hwait, Nat.add_comm]

theorem timer_runFrom (hfault : (runFrom t n s).2.2 = none) (hwait : (runFrom t n s).1.isAwaiting = false)
    (hfree : ∀ c ∈ s.machine.commits (runActions n s), c.instruction.form ≠ r.setter) :
    ((runFrom t n s).1.machine.timer r).toNat = (s.machine.timer r).toNat - n := by
  rw [(performs_runFrom t n s).machine, Machine.timer_after hfree, ticks_runActions hfault hwait]

theorem sounding_count_eq (t : Tally) (s : Session) :
    (t.count s.soundActive).sounding = t.sounding + min 1 s.machine.sound.toNat := by
  unfold soundActive Tally.count
  by_cases hzero : s.machine.sound = 0
  · simp [hzero]
  · have hpos : 0 < s.machine.sound.toNat := Nat.pos_of_ne_zero fun h => hzero (BitVec.eq_of_toNat_eq h)
    simp only [hzero, ne_eq, not_false_eq_true, decide_true, if_true]
    omega

theorem sounding_runFrom_eq (hfault : (runFrom t n s).2.2 = none)
    (hwait : (runFrom t n s).1.isAwaiting = false)
    (hfree : ∀ c ∈ s.machine.commits (runActions n s), c.instruction.form ≠ .setSound) :
    (runFrom t n s).2.1.sounding = t.sounding + min n (s.machine.sound.toNat - 1) := by
  induction n generalizing t s with
  | zero => rw [runFrom, Nat.zero_min, Nat.add_zero]
  | succ n ih =>
    obtain ⟨u, hc, hu⟩ := full_of_unstopped hfault hwait
    have hcycle : s.Performs s.cycleActions u := by
      have hperforms := performs_cycle s
      rwa [hc] at hperforms
    rw [runFrom_of_full hc hu] at hfault hwait ⊢
    rw [runActions_of_full hc hu, Machine.commits_append, ← hcycle.machine, List.forall_mem_append] at hfree
    obtain ⟨hfirst, hrest⟩ := hfree
    have hlower : u.machine.sound.toNat = s.machine.sound.toNat - 1 := by
      have htimer := Machine.timer_after (r := .sound) hfirst
      rwa [← hcycle.machine, ticks_cycleActions hc hu] at htimer
    rw [ih hfault hwait hrest, sounding_count_eq, hlower]
    omega

/-- Over `n` frames that are not stopped a timer that is not set falls by `n` and stops at zero, at any speed and
whatever else the program does. The sound timer is heard in one frame less than it lasts. -/
theorem timers_run_down (s : Session) (n : Nat) (description : Option String) {r : Summary}
    (hr : (s.run n description).2 = .ok r) (hfault : r.fault = none) (hwait : r.awaitingKey = false) :
    let t := (s.run n description).1
    ((∀ c ∈ s.commits [.run n description], c.instruction.form ≠ .setSound) →
      t.machine.sound.toNat = s.machine.sound.toNat - n ∧
        r.soundFrames = min n (s.machine.sound.toNat - 1)) ∧
    ((∀ c ∈ s.commits [.run n description], c.instruction.form ≠ .setDelay) →
      t.machine.delay.toNat = s.machine.delay.toNat - n) := by
  obtain ⟨hd, rfl⟩ := run_eq_ok hr
  have hactions : s.actions (.run n description) = runActions n s := if_pos hd
  have hcommits : s.commits [.run n description] = s.machine.commits (runActions n s) := by
    rw [commits, commits, List.append_nil, hactions]
  rw [hcommits, run_of_describes hd]
  refine ⟨fun hfree => ⟨?_, ?_⟩, fun hfree => ?_⟩
  · exact timer_runFrom (r := .sound) hfault hwait hfree
  · exact (sounding_runFrom_eq hfault hwait hfree).trans (Nat.zero_add _)
  · exact timer_runFrom (r := .delay) hfault hwait hfree

/-- A program that reads the delay timer again and again, for three frames. The sound timer is heard in the first
of them and runs out in the second; the delay timer goes on. -/
theorem timers_run_down_reading :
    let m := (Machine.powerOn 0 {}).loaded [0xF1, 0x07, 0x12, 0x00]
    let s := (around { m with delay := 9, sound := 2 }).atSpeed 3
    let n : Nat := 3
    let r : Summary :=
      { frames := 3
        steps := 9
        soundFrames := 1
        awaitingKey := false
        fault := none }
    (s.run n).2 = .ok r ∧ r.fault = none ∧ r.awaitingKey = false ∧
      (∀ c ∈ s.commits [.run n], c.instruction.form ≠ .setSound ∧ c.instruction.form ≠ .setDelay) ∧
      ((s.run n).1.machine.sound.toNat = s.machine.sound.toNat - n ∧
        r.soundFrames = min n (s.machine.sound.toNat - 1)) ∧
      (s.run n).1.machine.delay.toNat = s.machine.delay.toNat - n := by
  intro m s n r
  have hr : (s.run n).2 = .ok r := by
    rw [run_of_describes (by decide +kernel)]
    exact congrArg Except.ok (by decide +kernel)
  have hfree : ∀ c ∈ s.commits [.run n],
      c.instruction.form ≠ .setSound ∧ c.instruction.form ≠ .setDelay := by
    decide +kernel
  have hdown := timers_run_down s n none hr rfl rfl
  exact ⟨hr, rfl, rfl, hfree, hdown.1 fun c hc => (hfree c hc).1, hdown.2 fun c hc => (hfree c hc).2⟩

end Session
end Chip8
