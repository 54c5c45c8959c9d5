import Chip8.Proofs.Utterance

/-! Two sessions side by side. A relation between sessions of equal settings, machines and counts that is kept
by the few things of which every request is made is kept by the requests themselves, and both sessions reply
the same. So it holds all along two histories of the same requests. Steps alone ask for less: neither the settings
nor the counts have to be equal. -/

namespace Chip8
namespace Session

structure Tandem (R : Session → Session → Prop) : Prop where
  settings {s t : Session} : R s t → t.settings = s.settings
  machine {s t : Session} : R s t → t.machine = s.machine
  steps {s t : Session} : R s t → t.steps = s.steps
  digitLimit {s t : Session} : R s t → t.digitLimit = s.digitLimit
  log {s t : Session} : R s t → ∀ level message, R (s.log level message) (t.log level message)
  logRunEnd {s t : Session} : R s t → ∀ figures,
    R { s with journal := s.journal.logRunEnd figures } { t with journal := t.journal.logRunEnd figures }
  replace {s t : Session} : R s t → ∀ m, R { s with machine := m } { t with machine := m }
  restart {s t : Session} : R s t → ∀ m,
    R { s with machine := m, steps := 0 } { t with machine := m, steps := 0 }
  commit {s t : Session} : R s t → ∀ m i, R (s.commit m i) (t.commit m i)

structure Alongside {α : Type} (R : Session → Session → Prop) (x y : Session × α) : Prop where
  related : R x.1 y.1
  result : y.2 = x.2

variable {R : Session → Session → Prop} {s t : Session}

theorem Alongside.pairs {α : Type} {x y : Session × α} (h : Alongside R x y) :
    ∃ s t a, x = (s, a) ∧ y = (t, a) ∧ R s t :=
  ⟨x.1, y.1, x.2, rfl, by rw [← h.result], h.related⟩

/-- A relation between sessions of equal machines that is kept by all that a step is made of. -/
structure Parallel (R : Session → Session → Prop) : Prop where
  machine {s t : Session} : R s t → t.machine = s.machine
  log {s t : Session} : R s t → ∀ level message, R (s.log level message) (t.log level message)
  replace {s t : Session} : R s t → ∀ m, R { s with machine := m } { t with machine := m }
  commit {s t : Session} : R s t → ∀ m i, R (s.commit m i) (t.commit m i)

namespace Parallel

theorem isAwaiting (h : Parallel R) (hst : R s t) : t.isAwaiting = s.isAwaiting := by
  rw [Session.isAwaiting, Session.isAwaiting, h.machine hst]

theorem fail (h : Parallel R) (hst : R s t) (f : Fault) : Alongside R (s.fail f) (t.fail f) := by
  unfold Session.fail
  rw [h.machine hst]
  exact ⟨h.log (h.log hst _ _) _ _, rfl⟩

theorem traced (h : Parallel R) (hst : R s t) (i : Instruction) : R (s.traced i) (t.traced i) := by
  unfold Session.traced
  rw [h.machine hst]
  exact h.log hst _ _

theorem step (h : Parallel R) (hst : R s t) : Alongside R s.step t.step := by
  have hm := h.machine hst
  have hwait := h.isAwaiting hst
  rcases s.stepCases with ha | ⟨ha, hi⟩ | @⟨i, f, ha, hi, hp⟩ | @⟨i, m, ha, hi, hp⟩ <;> rw [ha] at hwait
  · rw [step_awaiting ha, step_awaiting hwait]
    exact ⟨hst, rfl⟩
  · have hi' : Instruction.ofWord? t.machine.current.toNat = none := by rw [hm, hi]
    rw [(step_unknown ha hi).1, (step_unknown hwait hi').1, hm]
    exact h.fail hst _
  · have hi' : Instruction.ofWord? t.machine.current.toNat = some i := by rw [hm, hi]
    have hp' : t.machine.advancePc.perform i = .error f := by rw [hm, hp]
    rw [(step_failed ha hi hp).1, (step_failed hwait hi' hp').1]
    exact h.fail (h.traced hst i) f
  · have hi' : Instruction.ofWord? t.machine.current.toNat = some i := by rw [hm, hi]
    have hp' : t.machine.advancePc.perform i = .ok m := by rw [hm, hp]
    rw [(step_committed ha hi hp).1, (step_committed hwait hi' hp').1]
    exact ⟨h.commit (h.traced hst i) m i, rfl⟩

theorem tick (h : Parallel R) (hst : R s t) : R s.tick t.tick := by
  unfold Session.tick
  rw [h.machine hst]
  exact h.replace hst _

theorem advance (h : Parallel R) (hst : R s t) (n : Nat) : Alongside R (advance n s) (advance n t) := by
  induction n generalizing s t with
  | zero => exact ⟨hst, rfl⟩
  | succ n ih =>
    rw [Session.advance, Session.advance, h.isAwaiting hst]
    split
    · exact ⟨hst, rfl⟩
    · obtain ⟨s', t', f, hs, ht, hrelated⟩ := (h.step hst).pairs
      rw [hs, ht]
      cases f with
      | none => exact ih hrelated
      | some f => exact ⟨hrelated, rfl⟩

end Parallel

namespace Tandem

theorem parallel (h : Tandem R) : Parallel R := ⟨h.machine, h.log, h.replace, h.commit⟩

theorem cycle (h : Tandem R) (hst : R s t) : Alongside R s.cycle t.cycle := by
  obtain ⟨s', t', f, hs, ht, hrelated⟩ := (h.parallel.advance hst s.settings.speed).pairs
  rw [Session.cycle, Session.cycle, h.settings hst, hs, ht]
  cases f with
  | none =>
    refine ⟨?_, rfl⟩
    dsimp only
    rw [h.parallel.isAwaiting hrelated]
    split
    · exact hrelated
    · exact h.parallel.tick hrelated
  | some f => exact ⟨hrelated, rfl⟩

theorem runFrom (h : Tandem R) (hst : R s t) (y : Tally) (n : Nat) :
    Alongside R (runFrom y n s) (runFrom y n t) := by
  induction n generalizing y s t with
  | zero => exact ⟨hst, rfl⟩
  | succ n ih =>
    obtain ⟨s', t', f, hs, ht, hrelated⟩ := (h.cycle hst).pairs
    rw [Session.runFrom, Session.runFrom, h.machine hst, hs, ht]
    cases f with
    | some f => exact ⟨hrelated, rfl⟩
    | none =>
      have hsound : t'.soundActive = s'.soundActive := by
        rw [soundActive, soundActive, h.machine hrelated]
      dsimp only
      rw [h.parallel.isAwaiting hrelated, hsound]
      split
      · exact ⟨h.log hrelated _ _, rfl⟩
      · exact ih hrelated _

theorem runFrames (h : Tandem R) (hst : R s t) (frames : Int) :
    Alongside R (s.runFrames frames) (t.runFrames frames) := by
  obtain ⟨s', t', ⟨y, f⟩, hs, ht, hrelated⟩ := (h.runFrom hst {} frames.toNat).pairs
  have hsteps : t'.steps - t.steps = s'.steps - s.steps := by rw [h.steps hst, h.steps hrelated]
  rw [Session.runFrames, Session.runFrames, hs, ht]
  dsimp only
  -- Both journals are given the same figures.
  rw [hsteps, h.parallel.isAwaiting hrelated]
  exact ⟨h.logRunEnd hrelated _, rfl⟩

theorem run (h : Tandem R) (hst : R s t) (frames : Int) (description : Option String) :
    Alongside R (s.run frames description) (t.run frames description) := by
  have hsame := describes_congr (h.digitLimit hst) frames description
  cases hd : s.describes frames description with
  | false =>
    rw [run_of_not_describes hd, run_of_not_describes (hsame.trans hd), h.digitLimit hst]
    exact ⟨hst, rfl⟩
  | true =>
    obtain ⟨hrelated, hresult⟩ := h.runFrames hst frames
    rw [run_of_describes hd, run_of_describes (hsame.trans hd)]
    exact ⟨hrelated, congrArg Except.ok hresult⟩

theorem install (h : Tandem R) (hst : R s t) (size : Nat) (x : Except Error Machine) :
    Alongside R (s.install size x) (t.install size x) := by
  cases x with
  | error e => exact ⟨hst, rfl⟩
  | ok m => exact ⟨h.log (h.replace hst m) _ _, rfl⟩

theorem loadUnsized (h : Tandem R) (hst : R s t) (program : Unsized) :
    Alongside R (s.loadUnsized program) (t.loadUnsized program) := by
  unfold Session.loadUnsized
  rw [h.machine hst]
  cases s.machine.loadUnsized program with
  | error e => exact ⟨hst, rfl⟩
  | ok m => exact ⟨h.replace hst m, rfl⟩

theorem settle (h : Tandem R) (hst : R s t) (x : Except Error Machine) :
    Alongside R (s.settle x) (t.settle x) := by
  cases x with
  | error e => exact ⟨hst, rfl⟩
  | ok m => exact ⟨h.replace hst m, rfl⟩

theorem deliverKey (h : Tandem R) (hst : R s t) (key : Datum) :
    Alongside R (s.deliverKey key) (t.deliverKey key) := by
  unfold Session.deliverKey
  rw [h.machine hst, h.digitLimit hst]
  cases s.machine.awaiting with
  | none => exact h.settle hst _
  | some x =>
    cases keyLabel key with
    | error e => exact ⟨hst, rfl⟩
    | ok n => exact h.settle (h.log hst _ _) _

theorem pressKey (h : Tandem R) (hst : R s t) (key : Datum) :
    Alongside R (s.pressKey key) (t.pressKey key) := by
  have hm : t.machine.setKey key true t.digitLimit = s.machine.setKey key true s.digitLimit := by
    rw [h.machine hst, h.digitLimit hst]
  rw [Session.pressKey, Session.pressKey, hm]
  cases s.machine.setKey key true s.digitLimit with
  | error e => exact ⟨hst, rfl⟩
  | ok m => exact h.deliverKey (h.replace hst m) key

theorem call (h : Tandem R) (hst : R s t) (c : Call) : Alongside R (s.call c) (t.call c) := by
  have hm := h.machine hst
  cases c with
  | load program =>
    rw [Session.call, Session.call, Session.load, Session.load, hm]
    exact h.install hst _ _
  | loadData program =>
    rw [Session.call, Session.call, Session.loadData, Session.loadData, hm]
    exact h.install hst _ _
  | loadFile contents =>
    rw [Session.call, Session.call, Session.loadFile, Session.loadFile, hm]
    exact h.install hst _ _
  | loadUnsized program => exact h.loadUnsized hst program
  | press key => exact h.pressKey hst key
  | release key =>
    rw [Session.call, Session.call, Session.releaseKey, Session.releaseKey, hm, h.digitLimit hst]
    exact h.settle hst _
  | deliver key => exact h.deliverKey hst key
  | step =>
    obtain ⟨hrelated, hresult⟩ := h.parallel.step hst
    exact ⟨hrelated, congrArg (Option.map Error.ofFault) hresult⟩

theorem reset (h : Tandem R) (hst : R s t) : R s.reset t.reset := by
  have hm : Machine.powerOn t.settings.seed t.settings.dialect =
      Machine.powerOn s.settings.seed s.settings.dialect := by rw [h.settings hst]
  rw [Session.reset, Session.reset, hm]
  exact h.log (h.restart hst _) _ _

theorem serve (h : Tandem R) (hst : R s t) (r : Request) : Alongside R (s.serve r) (t.serve r) := by
  cases r with
  | call c =>
    obtain ⟨hrelated, hresult⟩ := h.call hst c
    exact ⟨hrelated, congrArg Reply.ofError hresult⟩
  | tick => exact ⟨h.parallel.tick hst, rfl⟩
  | cycle =>
    obtain ⟨hrelated, hresult⟩ := h.cycle hst
    exact ⟨hrelated, congrArg Reply.ofFault hresult⟩
  | run frames description =>
    obtain ⟨hrelated, hresult⟩ := h.run hst frames description
    exact ⟨hrelated, congrArg Reply.ofRun hresult⟩
  | reset => exact ⟨h.reset hst, rfl⟩

/-- What a relation shows of two related sessions after the same request and the same reply, it shows all along
their histories. -/
theorem history (h : Tandem R) {Q : Exchange → Exchange → Prop}
    (hQ : ∀ s t r, R s t → Alongside R (s.serve r) (t.serve r) → Q (s.exchange r) (t.exchange r))
    (hst : R s t) (rs : List Request) : List.Forall₂ Q (s.history rs) (t.history rs) := by
  induction rs generalizing s t with
  | nil => exact .nil
  | cons r rs ih =>
    have hserve := h.serve hst r
    exact .cons (hQ s t r hst hserve) (ih hserve.related)

end Tandem

end Session
end Chip8
