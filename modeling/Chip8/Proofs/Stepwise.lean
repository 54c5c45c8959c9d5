import Chip8.Proofs.KeyWait
import Chip8.Proofs.Standstill
import Chip8.Proofs.Tandem

/-! A cycle beside single steps. A session that awaits a key ignores a step, and one that has faulted faults
again, so the steps of a cycle are single steps that stop being taken once they would have no effect. A cycle
may therefore be cut anywhere: what follows some of its steps is the cycle of those that are left. -/

namespace Chip8
namespace Session

/-- The same session with another number of steps to a cycle. -/
def atSpeed (s : Session) (n : Nat) : Session :=
  { s with settings := { s.settings with speed := n } }

def stepped (s : Session) (n : Nat) : Session := s.after (List.replicate n (.call .step))

/-- How up to `n` steps in a row may end. Only the steps that were committed are counted. -/
inductive Ends (s : Session) (n : Nat) : Session × Option Fault → Prop
  | full {t : Session} (ha : t.isAwaiting = false) (hsteps : t.steps = s.steps + n) : s.Ends n (t, none)
  | parked {t : Session} (ha : t.isAwaiting = true) (hle : s.steps ≤ t.steps)
      (hsteps : t.steps ≤ s.steps + n) : s.Ends n (t, none)
  | faulted {t : Session} {f : Fault} (ha : t.isAwaiting = false) (hle : s.steps ≤ t.steps)
      (hsteps : t.steps < s.steps + n) : s.Ends n (t, some f)

variable {s t : Session} {f : Fault} {a k n : Nat}

theorem isAwaiting_of_quiet (h : s.Quiet t) : t.isAwaiting = s.isAwaiting := by
  rw [h]
  rfl

theorem Quiet.atSpeed (h : s.Quiet t) (n : Nat) : (s.atSpeed n).Quiet (t.atSpeed n) := by
  rw [h]
  rfl

theorem Speaks.quiet {α : Type} {g : Session → Session × α} {us : List Utterance} (h : s.Speaks g us)
    (hst : s.Quiet t) : (g s).1.Quiet (g t).1 ∧ (g t).2 = (g s).2 := by
  have hg := h t.journal
  have ht : t = s.withJournal t.journal := hst
  rw [ht, hg]
  exact ⟨rfl, rfl⟩

theorem step_snd_of_quiet (h : s.Quiet t) : t.step.2 = s.step.2 := ((speaks_step s).quiet h).2

/-! ## Single steps -/

theorem stepped_succ (s : Session) (n : Nat) : s.stepped (n + 1) = s.step.1.stepped n := rfl

theorem quiet_stepped (h : s.step.2 = some f) (n : Nat) : s.Quiet (s.stepped n) := by
  induction n generalizing s with
  | zero => exact .refl s
  | succ n ih =>
    have hquiet := quiet_step h
    have hagain : s.step.1.step.2 = some f := (step_snd_of_quiet hquiet).trans h
    exact hquiet.trans (ih hagain)

theorem steps_step (ha : s.isAwaiting = false) (h : s.step.2 = none) :
    s.step.1.steps = s.steps + 1 := by
  cases hm : s.machine.step with
  | ok m => exact (step_ok ha hm).2.2
  | error g =>
    rw [(step_fault hm).1] at h
    cases h

/-! ## Steps in a row -/

theorem advance_of_fault (h : s.step.2 = some f) (n : Nat) : advance (n + 1) s = (s.step.1, some f) := by
  have hstep : s.step = (s.step.1, some f) := by rw [← h]
  rw [advance, not_awaiting_of_fault h, hstep]
  rfl

-- It makes no difference that the loop looks for a wait before each step.
theorem advance_of_none (h : s.step.2 = none) (n : Nat) : advance (n + 1) s = advance n s.step.1 := by
  cases ha : s.isAwaiting with
  | true => rw [step_awaiting ha, advance_awaiting ha, advance_awaiting ha]
  | false =>
    have hstep : s.step = (s.step.1, none) := by rw [← h]
    rw [advance, ha, hstep]
    rfl

theorem advance_stepped (h : ∀ k < a, (s.stepped k).step.2 = none) (b : Nat) :
    advance (a + b) s = advance b (s.stepped a) := by
  induction a generalizing s with
  | zero => rw [Nat.zero_add]; rfl
  | succ a ih =>
    have hfirst : s.step.2 = none := h 0 (Nat.succ_pos a)
    have hrest : ∀ k < a, (s.step.1.stepped k).step.2 = none := fun k hk => h (k + 1) (Nat.succ_lt_succ hk)
    rw [Nat.succ_add, advance_of_none hfirst, ih hrest, stepped_succ]

theorem advance_faulted (hk : k < n) (h : (s.stepped k).step.2 = some f) :
    (advance n s).2 = some f ∧ (s.stepped k).Quiet (advance n s).1 := by
  induction n generalizing s k with
  | zero => exact absurd hk (Nat.not_lt_zero k)
  | succ n ih =>
    cases hstep : s.step.2 with
    | some g =>
      -- Whatever fault the later step meets, it is that of the first one.
      have hquiet := quiet_stepped hstep k
      obtain rfl : g = f := by
        rw [step_snd_of_quiet hquiet, hstep] at h
        exact Option.some.inj h
      rw [advance_of_fault hstep]
      exact ⟨rfl, hquiet.symm.trans (quiet_step hstep)⟩
    | none =>
      rw [advance_of_none hstep]
      cases k with
      | zero =>
        have hnone : (s.stepped 0).step.2 = none := hstep
        rw [hnone] at h
        cases h
      | succ k => exact ih (Nat.lt_of_succ_lt_succ hk) h

theorem advance_parked (hk : k ≤ n) (h : (s.stepped k).isAwaiting = true) :
    advance n s = (s.stepped k, none) := by
  induction k generalizing s n with
  | zero => exact advance_awaiting h n
  | succ k ih =>
    obtain ⟨n, rfl⟩ := Nat.exists_eq_add_of_le' hk
    cases hstep : s.step.2 with
    | some g =>
      rw [isAwaiting_of_quiet (quiet_stepped hstep (k + 1)), not_awaiting_of_fault hstep] at h
      cases h
    | none => exact (advance_of_none hstep (n + k)).trans (ih (Nat.le_add_left k n) h)

theorem step_of_advance (h : (advance n s).2 = none) (hk : k < n) : (s.stepped k).step.2 = none := by
  cases hstep : (s.stepped k).step.2 with
  | none => rfl
  | some g =>
    rw [(advance_faulted hk hstep).1] at h
    cases h

theorem advance_eq_stepped (h : (advance n s).2 = none) : advance n s = (s.stepped n, none) :=
  advance_stepped (fun _ hk => step_of_advance h hk) 0

theorem ends_advance (n : Nat) (s : Session) : s.Ends n (advance n s) := by
  induction n generalizing s with
  | zero =>
    cases ha : s.isAwaiting with
    | true => exact .parked ha (Nat.le_refl _) (Nat.le_refl _)
    | false => exact .full ha rfl
  | succ n ih =>
    cases ha : s.isAwaiting with
    | true =>
      rw [advance_awaiting ha]
      exact .parked ha (Nat.le_refl _) (Nat.le_add_right _ _)
    | false =>
      cases hstep : s.step.2 with
      | some f =>
        have hkeeps := (quiet_step hstep).keeps
        have hstill : s.step.1.isAwaiting = false := (isAwaiting_of_quiet (quiet_step hstep)).trans ha
        rw [advance_of_fault hstep]
        refine .faulted hstill ?_ ?_
        · exact Nat.le_of_eq hkeeps.2.symm
        · rw [hkeeps.2]
          omega
      | none =>
        have hsteps := steps_step ha hstep
        have hrest := ih s.step.1
        rw [advance_of_none hstep]
        generalize advance n s.step.1 = x at hrest ⊢
        cases hrest with
        | full ha' h => exact .full ha' (by omega)
        | parked ha' hle h => exact .parked ha' (by omega) (by omega)
        | faulted ha' hle h => exact .faulted ha' (by omega) (by omega)

/-! ## Cycles -/

theorem commit_atSpeed (s : Session) (v : Nat) (m : Machine) (i : Instruction) :
    (s.atSpeed v).commit m i = (s.commit m i).atSpeed v := by
  unfold commit atSpeed
  cases i.form with
  | clear => cases s.notifiesClear <;> rfl
  | _ => rfl

-- Only a whole cycle looks at the speed.
theorem parallel_atSpeed (v : Nat) : Parallel fun s t => t = s.atSpeed v where
  machine hst := by rw [hst]; rfl
  log hst _ _ := by rw [hst]; rfl
  replace hst _ := by rw [hst]; rfl
  commit hst m i := by rw [hst, commit_atSpeed]

theorem advance_atSpeed (n : Nat) (s : Session) (v : Nat) :
    advance n (s.atSpeed v) = ((advance n s).1.atSpeed v, (advance n s).2) := by
  have hsteps := (parallel_atSpeed v).advance (s := s) rfl n
  exact Prod.ext hsteps.related hsteps.result

/-- What a cycle does once its steps are taken. -/
def finish : Session × Option Fault → Session × Option Fault
  | (s, some f) => (s, some f)
  | (s, none) => (if s.isAwaiting then s else s.tick, none)

theorem cycle_eq_finish (s : Session) : s.cycle = finish (advance s.settings.speed s) := rfl

theorem finish_snd (x : Session × Option Fault) : (finish x).2 = x.2 := by
  obtain ⟨t, f | f⟩ := x <;> rfl

theorem finish_atSpeed (x : Session × Option Fault) (v : Nat) :
    finish (x.1.atSpeed v, x.2) = ((finish x).1.atSpeed v, (finish x).2) := by
  obtain ⟨t, _ | f⟩ := x
  · simp only [finish]
    split
    · next h => rw [if_pos (show t.isAwaiting = true from h)]
    · next h => rw [if_neg (show ¬ t.isAwaiting = true from h)]; rfl
  · rfl

theorem cycle_atSpeed (s : Session) (v : Nat) :
    (s.atSpeed v).cycle = ((finish (advance v s)).1.atSpeed v, (finish (advance v s)).2) := by
  rw [← finish_atSpeed, ← advance_atSpeed]
  rfl

theorem ends_cycle (s : Session) : s.Ends s.settings.speed s.cycle := by
  have hsteps := ends_advance s.settings.speed s
  rw [cycle_eq_finish]
  generalize advance s.settings.speed s = x at hsteps
  cases hsteps with
  | full ha h =>
    rw [finish, ha]
    exact .full ha h
  | parked ha hle h =>
    rw [finish, ha]
    exact .parked ha hle h
  | faulted ha hle h => exact .faulted ha hle h

theorem cycle_parked (hk : k ≤ s.settings.speed) (ha : (s.stepped k).isAwaiting = true) :
    s.cycle = (s.stepped k, none) := by
  rw [cycle_eq_finish, advance_parked hk ha, finish, if_pos ha]

/-- A cycle that is not stopped takes all of its steps, each of which commits an instruction, and ticks once. -/
theorem cycle_full (h : s.cycle.2 = none) (ha : s.cycle.1.isAwaiting = false) :
    let n := s.settings.speed
    (∀ k < n, (s.stepped k).isAwaiting = false ∧ (s.stepped k).step.2 = none) ∧
      (s.stepped n).steps = s.steps + n ∧ s.cycle.1 = (s.stepped n).tick := by
  intro n
  have hnone : (advance n s).2 = none := (finish_snd (advance n s)).symm.trans h
  have hrunning : ∀ k ≤ n, (s.stepped k).isAwaiting = false := by
    intro k hk
    cases hb : (s.stepped k).isAwaiting with
    | false => rfl
    | true =>
      rw [cycle_parked hk hb, hb] at ha
      exact ha
  have hcycle : s.cycle = ((s.stepped n).tick, none) := by
    rw [cycle_eq_finish, advance_eq_stepped hnone, finish, hrunning n (Nat.le_refl n)]
    rfl
  have hsteps := ends_cycle s
  rw [hcycle] at hsteps ha
  refine ⟨fun k hk => ⟨hrunning k (Nat.le_of_lt hk), step_of_advance hnone hk⟩, ?_, by rw [hcycle]⟩
  cases hsteps with
  | full _ hfull => exact hfull
  | parked hparked =>
    rw [hparked] at ha
    cases ha

/-- Whether a step is taken by itself or within a cycle is all the same. A fault or a wait in the first `a` steps ends
the cycle there, without a tick; otherwise it goes on as a cycle of the other `b` steps. -/
theorem cycle_splits (s : Session) (a b : Nat) :
    let whole := (s.atSpeed (a + b)).cycle
    (∀ k f, k < a → (s.stepped k).step.2 = some f →
      whole.2 = some f ∧ ((s.stepped k).atSpeed (a + b)).Quiet whole.1) ∧
    (∀ k ≤ a, (s.stepped k).isAwaiting = true → whole = ((s.stepped k).atSpeed (a + b), none)) ∧
    ((∀ k < a, (s.stepped k).step.2 = none) →
      let rest := ((s.stepped a).atSpeed b).cycle
      whole = (rest.1.atSpeed (a + b), rest.2)) ∧
    (s.cycle.2 = none → s.cycle.1.isAwaiting = false →
      let n := s.settings.speed
      (∀ k < n, (s.stepped k).isAwaiting = false ∧ (s.stepped k).step.2 = none) ∧
        (s.stepped n).steps = s.steps + n ∧ s.cycle.1 = (s.stepped n).tick) := by
  intro whole
  have hwhole : whole = ((finish (advance (a + b) s)).1.atSpeed (a + b), (finish (advance (a + b) s)).2) :=
    cycle_atSpeed s (a + b)
  refine ⟨?_, ?_, ?_, cycle_full⟩
  · intro k f hk hf
    obtain ⟨hfault, hquiet⟩ := advance_faulted (Nat.lt_add_right b hk) hf
    have hadvance : advance (a + b) s = ((advance (a + b) s).1, some f) := by rw [← hfault]
    rw [hadvance, finish] at hwhole
    rw [hwhole]
    exact ⟨rfl, hquiet.atSpeed (a + b)⟩
  · intro k hk ha
    rw [advance_parked (Nat.le_add_right_of_le hk) ha, finish, if_pos ha] at hwhole
    exact hwhole
  · intro hnone rest
    rw [advance_stepped hnone] at hwhole
    have hrest : rest = ((finish (advance b (s.stepped a))).1.atSpeed b, (finish (advance b (s.stepped a))).2) :=
      cycle_atSpeed (s.stepped a) b
    rw [hwhole, hrest]
    rfl

end Session
end Chip8
