import Chip8.Proofs.Request

/-! What a session is set up with: its settings, whether a cleared screen is announced, and the limit on digits of its
host. No request changes any of them. -/

namespace Chip8
namespace Session

structure SameSetup (s t : Session) : Prop where
  settings : t.settings = s.settings
  notifiesClear : t.notifiesClear = s.notifiesClear
  digitLimit : t.digitLimit = s.digitLimit

variable {s t u : Session}

theorem SameSetup.refl (s : Session) : s.SameSetup s := ⟨rfl, rfl, rfl⟩

theorem SameSetup.trans (h : s.SameSetup t) (h' : t.SameSetup u) : s.SameSetup u :=
  ⟨h'.settings.trans h.settings, h'.notifiesClear.trans h.notifiesClear,
    h'.digitLimit.trans h.digitLimit⟩

theorem sameSetup_commit (s : Session) (m : Machine) (i : Instruction) :
    s.SameSetup (s.commit m i) := by
  rw [commit_eq]
  exact ⟨rfl, rfl, rfl⟩

theorem sameSetup_step (s : Session) : s.SameSetup s.step.1 := by
  unfold step
  split
  · exact .refl s
  · dsimp only
    split
    · exact ⟨rfl, rfl, rfl⟩
    · split
      · exact ⟨rfl, rfl, rfl⟩
      · refine .trans ?_ (sameSetup_commit _ _ _)
        exact ⟨rfl, rfl, rfl⟩

theorem sameSetup_install (s : Session) (n : Nat) (x : Except Error Machine) :
    s.SameSetup (s.install n x).1 := by
  cases x <;> exact ⟨rfl, rfl, rfl⟩

theorem sameSetup_loadUnsized (s : Session) (program : Unsized) :
    s.SameSetup (s.loadUnsized program).1 := by
  unfold loadUnsized
  cases s.machine.loadUnsized program <;> exact ⟨rfl, rfl, rfl⟩

theorem sameSetup_settle (s : Session) (x : Except Error Machine) : s.SameSetup (s.settle x).1 := by
  cases x <;> exact ⟨rfl, rfl, rfl⟩

theorem sameSetup_deliverKey (s : Session) (key : Datum) : s.SameSetup (s.deliverKey key).1 := by
  rcases deliverKey_cases s key with ⟨u, hu, hd⟩ | ⟨e, -, -, hd⟩
  · have hsame : s.SameSetup u := by
      rw [hu]
      exact ⟨rfl, rfl, rfl⟩
    rw [hd]
    exact hsame.trans (sameSetup_settle u _)
  · rw [hd]
    exact .refl s

theorem sameSetup_pressKey (s : Session) (key : Datum) : s.SameSetup (s.pressKey key).1 := by
  unfold pressKey
  cases s.machine.setKey key true s.digitLimit with
  | error e => exact .refl s
  | ok m =>
    refine .trans ?_ (sameSetup_deliverKey _ key)
    exact ⟨rfl, rfl, rfl⟩

theorem sameSetup_call (s : Session) (c : Call) : s.SameSetup (s.call c).1 := by
  cases c with
  | load program => exact sameSetup_install s _ _
  | loadData program => exact sameSetup_install s _ _
  | loadFile contents => exact sameSetup_install s _ _
  | loadUnsized program => exact sameSetup_loadUnsized s program
  | press key => exact sameSetup_pressKey s key
  | release key => exact sameSetup_settle s _
  | deliver key => exact sameSetup_deliverKey s key
  | step => exact sameSetup_step s

theorem sameSetup_serve (s : Session) (r : Request) : s.SameSetup (s.serve r).1 := by
  have hspreads : Spreads SameSetup :=
    { trans := .trans
      quiet := fun h => by rw [h]; exact ⟨rfl, rfl, rfl⟩
      step := sameSetup_step
      tick := fun _ => ⟨rfl, rfl, rfl⟩ }
  exact hspreads.serve sameSetup_call (fun _ => ⟨rfl, rfl, rfl⟩) s r

theorem sameSetup_after (s : Session) (rs : List Request) : s.SameSetup (s.after rs) :=
  after_induction (fun t r ht => ht.trans (sameSetup_serve t r)) (.refl s) rs

variable {settings : Settings} {journal : Journal} {notifies : Bool} {limit : Option Nat}

theorem create_eq_ok_iff :
    create settings journal notifies limit = .ok s ↔ Settings.checkSeed settings.seed = .ok () ∧
      s = {
        settings
        machine := Machine.powerOn settings.seed settings.dialect
        steps := 0
        journal
        notifiesClear := notifies
        clears := 0
        digitLimit := limit } := by
  unfold create Machine.create
  cases Settings.checkSeed settings.seed with
  | error e => simp [bind, Except.bind]
  | ok u => simp [bind, Except.bind, pure, Except.pure, eq_comm]

theorem create_eq_ok (h : create settings journal notifies limit = .ok s) :
    s.machine = Machine.powerOn settings.seed settings.dialect ∧ s.settings = settings := by
  obtain ⟨-, rfl⟩ := create_eq_ok_iff.mp h
  exact ⟨rfl, rfl⟩

end Session
end Chip8
