import Chip8.Proofs.Setup
import Chip8.Proofs.Stepwise

/-! Runs of frames. The frames of a run that are not its last one are full cycles, so the figures that are
reported fix each other up to the steps of one cycle. A run that was not stopped can be continued, and the
figures of its parts add up; one that was stopped would have gone no further with more frames. -/

namespace Chip8

def Tally.plus (t u : Tally) : Tally := ⟨t.frames + u.frames, t.sounding + u.sounding⟩

@[simp] theorem Tally.frames_plus (t u : Tally) : (t.plus u).frames = t.frames + u.frames := rfl

@[simp] theorem Tally.frames_count (t : Tally) (sounding : Bool) :
    (t.count sounding).frames = t.frames + 1 := rfl

theorem Tally.count_eq (t : Tally) (sounding : Bool) :
    t.count sounding = t.plus (Tally.count {} sounding) := by
  cases sounding <;> rfl

namespace Session

variable {s u : Session} {t : Tally} {f : Fault} {m n : Nat}

/-! ## Frames in a row -/

theorem runFrom_of_fault (h : s.cycle = (u, some f)) (t : Tally) (n : Nat) :
    runFrom t (n + 1) s = (u, t, some f) := by
  rw [runFrom, h]

theorem runFrom_of_wait (h : s.cycle = (u, none)) (ha : u.isAwaiting = true) (t : Tally) (n : Nat) :
    runFrom t (n + 1) s = (u.log .info (.parked s.machine.pc), t.count u.soundActive, none) := by
  rw [runFrom, h]
  simp only [ha, if_true]

theorem runFrom_of_full (h : s.cycle = (u, none)) (ha : u.isAwaiting = false) (t : Tally) (n : Nat) :
    runFrom t (n + 1) s = runFrom (t.count u.soundActive) n u := by
  rw [runFrom, h]
  simp only [ha, Bool.false_eq_true, if_false]

theorem full_of_unstopped (hfault : (runFrom t (n + 1) s).2.2 = none)
    (hwait : (runFrom t (n + 1) s).1.isAwaiting = false) :
    ∃ u, s.cycle = (u, none) ∧ u.isAwaiting = false := by
  rcases hc : s.cycle with ⟨u, f | f⟩
  · refine ⟨u, rfl, ?_⟩
    cases hu : u.isAwaiting with
    | false => rfl
    | true =>
      rw [runFrom_of_wait hc hu] at hwait
      have hwaits : u.isAwaiting = false := hwait
      rw [hu] at hwaits
      cases hwaits
  · rw [runFrom_of_fault hc] at hfault
    cases hfault

def summary (s : Session) (x : Session × Tally × Option Fault) : Summary where
  frames := x.2.1.frames
  steps := x.1.steps - s.steps
  soundFrames := x.2.1.sounding
  awaitingKey := x.1.isAwaiting
  fault := x.2.2

end Session
end Chip8
