import Chip8.Proofs.Adjustment

/-! Programs without branches. A program whose words neither move the program counter nor write to memory nor
await a key is loaded with the high byte of each word first and read back by fetching word after word. So the
steps of the machine perform its words in order, and nothing but the program counter tells the stepping machine
from one that is handed the same words for execution. -/

namespace Chip8

def assemble (ws : List Word) : List Byte :=
  ws.flatMap fun w => [w.extractLsb' 8 8, w.extractLsb' 0 8]

/-- The word has a form, one that goes on with the next word at once and leaves the program as it is. -/
def IsStraight (w : Word) : Prop :=
  ∃ i, Instruction.ofWord? w.toNat = some i ∧
    ¬ i.form.Branches ∧ i.form ≠ .awaitKey ∧ i.form ≠ .decimal ∧ i.form ≠ .store

theorem length_assemble (ws : List Word) : (assemble ws).length = 2 * ws.length := by
  induction ws with
  | nil => rfl
  | cons w ws ih =>
    have hcons : (assemble (w :: ws)).length = (assemble ws).length + 2 := rfl
    rw [hcons, ih, List.length_cons]
    omega

theorem append_extract (w : Word) : w.extractLsb' 8 8 ++ w.extractLsb' 0 8 = w := by
  apply BitVec.eq_of_getLsbD_eq
  intro k hk
  rw [BitVec.getLsbD_append]
  by_cases hlow : k < 8
  · simp [hlow]
  · have hhigh : k - 8 < 8 := by omega
    have hsum : 8 + (k - 8) = k := by omega
    simp [hlow, hhigh, hsum]

namespace Machine

variable {q n : Machine} {p : Word} {w : Word} {ws : List Word}

def executions (ws : List Word) : List Action := ws.map fun w => .execute w.toNat

theorem wordAt_of_window {a : Address}
    (h : q.memory.window a (assemble (w :: ws)).length = assemble (w :: ws)) :
    q.wordAt a = w ∧
      q.memory.window (a + 1 + 1) (assemble ws).length = assemble ws := by
  obtain ⟨hhigh, hrest⟩ := List.cons.inj h
  obtain ⟨hlow, hrest⟩ := List.cons.inj hrest
  exact ⟨by rw [wordAt, hhigh, hlow, append_extract], hrest⟩

theorem execute_straight (q : Machine) (hw : IsStraight w) :
    ∃ n, q.execute w.toNat = .ok n ∧ n.memory = q.memory ∧ n.awaiting = q.awaiting := by
  obtain ⟨i, hi, hbranch, hkey, hdecimal, hstore⟩ := hw
  cases hp : q.perform i with
  | error f =>
    obtain ⟨hret, -, -⟩ := perform_eq_error_iff.mp hp
    rw [hret] at hbranch
    exact absurd trivial hbranch
  | ok n =>
    have hfoot := perform_footprint hp
    have hno (a : Address) : ¬ i.StoresAt q a := by
      unfold Instruction.StoresAt
      split
      · contradiction
      · contradiction
      · exact id
    refine ⟨n, execute_eq_ok_iff.mpr ⟨i, hi, hp⟩, ?_, hfoot.awaiting hkey⟩
    exact Table.ext fun a => hfoot.memory a (hno a)

theorem respond_step_at (ha : q.awaiting = none) (hw : IsStraight w)
    (hword : q.wordAt (addressOf p) = w) (hn : q.execute w.toNat = .ok n) :
    { q with pc := p }.respond .step = (none, { n with pc := p + 2 }) := by
  obtain ⟨i, hi, hbranch, -⟩ := hw
  have hexecute : { q with pc := p + 2 }.execute w.toNat = .ok { n with pc := p + 2 } := by
    -- The machine that has moved past the word is an adjustment of `q`.
    change (q.adjust { pc := fun _ => p + 2 }).execute w.toNat = _
    rw [execute_adjust, hn]
    · rfl
    · intro j hj
      obtain rfl : i = j := Option.some.inj (hi.symm.trans hj)
      exact ⟨fun hb => absurd hb hbranch, fun _ => ⟨rfl, rfl⟩, .refl i _⟩
  have hawake : { q with pc := p }.isAwaiting = false := isAwaiting_eq_false_iff.mpr ha
  apply respond_step
  rw [step_running hawake, ← hexecute, ← hword]
  rfl

theorem run_straight (ha : q.awaiting = none) (hws : ∀ w ∈ ws, IsStraight w)
    (hmem : q.memory.window (addressOf p) (assemble ws).length = assemble ws) :
    q.Succeeds (executions ws) ∧
      { q with pc := p }.Succeeds (List.replicate ws.length .step) ∧
      { q with pc := p }.after (List.replicate ws.length .step) =
        { q.after (executions ws) with pc := p + BitVec.ofNat 16 (2 * ws.length) } := by
  induction ws generalizing q p with
  | nil =>
    have hp : p + BitVec.ofNat 16 0 = p := BitVec.add_zero p
    refine ⟨List.forall_mem_nil _, List.forall_mem_nil _, ?_⟩
    simp only [List.length_nil, Nat.mul_zero, hp]
    rfl
  | cons w ws ih =>
    obtain ⟨hw, hws⟩ := List.forall_mem_cons.mp hws
    obtain ⟨hword, hrest⟩ := wordAt_of_window hmem
    obtain ⟨n, hn, hmemory, hawaiting⟩ := execute_straight q hw
    have hexecute := respond_execute hn
    have hstep := respond_step_at ha hw hword hn
    have hnext : addressOf (p + 2) = addressOf p + 1 + 1 := by
      rw [addressOf_add, BitVec.add_assoc]
      rfl
    have hlength : p + 2 + BitVec.ofNat 16 (2 * ws.length) =
        p + BitVec.ofNat 16 (2 * (ws.length + 1)) := by
      rw [Nat.mul_add, Nat.add_comm, BitVec.ofNat_add, BitVec.add_assoc]
      rfl
    obtain ⟨hexecutions, hsteps, hafter⟩ := ih (q := n) (p := p + 2) (hawaiting.trans ha) hws
      (by rw [hmemory, hnext, hrest])
    refine ⟨succeeds_cons.mpr ?_, succeeds_cons.mpr ?_, ?_⟩
    · rw [hexecute]
      exact ⟨rfl, hexecutions⟩
    · rw [hstep]
      exact ⟨rfl, hsteps⟩
    · simp only [List.length_cons, List.replicate_succ, after, List.foldl_cons, hstep]
      simp only [executions, List.map_cons, List.foldl_cons, hexecute, ← hlength]
      exact hafter

/-- A program without branches, loaded where programs start, runs as the list of its words. -/
theorem program_runs_straight {m : Machine} (hpc : m.pc = BitVec.ofNat 16 programStart)
    (ha : m.isAwaiting = false) (hlen : ws.length ≤ 1792) (hws : ∀ w ∈ ws, IsStraight w) :
    m.Succeeds (.load (assemble ws) :: List.replicate ws.length .step) ∧
      m.Succeeds (.load (assemble ws) :: executions ws) ∧
      m.after (.load (assemble ws) :: List.replicate ws.length .step) =
        { m.after (.load (assemble ws) :: executions ws) with
          pc := BitVec.ofNat 16 (programStart + 2 * ws.length) } := by
  have hfits : (assemble ws).length ≤ programCapacity := by
    rw [length_assemble]
    exact Nat.mul_le_mul_left 2 hlen
  have hload : m.respond (.load (assemble ws)) = (none, m.loaded (assemble ws)) := by
    apply respond_of_ok
    rw [apply, load, if_neg (Nat.not_lt_of_le hfits)]
    rfl
  have hplaced : (m.loaded (assemble ws)).memory.window
      (addressOf (BitVec.ofNat 16 programStart)) (assemble ws).length = assemble ws :=
    Table.window_patch m.memory _ (Nat.le_trans hfits (by decide))
  obtain ⟨hexecutions, hsteps, hafter⟩ := run_straight (q := m.loaded (assemble ws))
    (isAwaiting_eq_false_iff.mp ha) hws hplaced
  have hstart : { m.loaded (assemble ws) with pc := BitVec.ofNat 16 programStart } =
      m.loaded (assemble ws) := by
    rw [← hpc]
    rfl
  rw [hstart] at hsteps hafter
  refine ⟨succeeds_cons.mpr ?_, succeeds_cons.mpr ?_, ?_⟩
  · rw [hload]
    exact ⟨rfl, hsteps⟩
  · rw [hload]
    exact ⟨rfl, hexecutions⟩
  · rw [BitVec.ofNat_add]
    simp only [after, List.foldl_cons, hload]
    exact hafter

/-- Eight words that draw a glyph, shift a random byte and read three bytes back, with the sound on. -/
theorem program_runs_straight_glyph :
    let m := { powerOn 5 ⟨true, true⟩ with sound := 9 }
    let ws : List Word := [0x6A05, 0xFA29, 0xDAA5, 0xC3FF, 0x8346, 0xF265, 0xFA18, 0x00E0]
    m.pc = BitVec.ofNat 16 programStart ∧ m.isAwaiting = false ∧ ws.length ≤ 1792 ∧
      (∀ w ∈ ws, IsStraight w) ∧
      m.Succeeds (.load (assemble ws) :: List.replicate ws.length .step) ∧
      m.Succeeds (.load (assemble ws) :: executions ws) ∧
      m.after (.load (assemble ws) :: List.replicate ws.length .step) =
        { m.after (.load (assemble ws) :: executions ws) with
          pc := BitVec.ofNat 16 (programStart + 2 * ws.length) } := by
  intro m ws
  have hlen : ws.length ≤ 1792 := by decide
  have hws : ∀ w ∈ ws, IsStraight w := by
    simp only [ws, List.forall_mem_cons]
    refine ⟨?_, ?_, ?_, ?_, ?_, ?_, ?_, ?_, List.forall_mem_nil _⟩
    all_goals exact ⟨_, rfl, id, nofun, nofun, nofun⟩
  exact ⟨rfl, rfl, hlen, hws, program_runs_straight rfl rfl hlen hws⟩

end Machine
end Chip8
