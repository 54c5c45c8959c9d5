import Chip8.Proofs.Adjustment
import Mathlib.Data.List.Perm.Basic
import Mathlib.Logic.Function.Iterate

/-! Ticks between instructions. An instruction that neither reads nor sets a timer does the same before a tick
and after it. So in a run of steps that holds no other instructions ticks may come at any time: they change
nothing but the timers, and only their number counts. -/

namespace Chip8

theorem steady_ticking : Adjustment.ticking.Steady := ⟨rfl, fun _ => rfl, fun _ => rfl⟩

theorem ignores_ticking {i : Instruction} (h : ¬ i.form.UsesTimers) (d : Dialect) :
    i.Ignores .ticking d :=
  ⟨fun _ => rfl, fun ht => absurd ht h, .refl i d⟩

theorem toNat_countdown (b : Byte) : (countdown b).toNat = b.toNat - 1 := by
  unfold countdown
  split
  · next h => rw [h]; rfl
  · next h =>
    have hpos : b.toNat ≠ 0 := fun hzero => h (BitVec.eq_of_toNat_eq hzero)
    have hlt := b.isLt
    rw [BitVec.toNat_sub]
    simp only [BitVec.ofNat_eq_ofNat, BitVec.toNat_ofNat]
    omega

theorem iterate_countdown (t : Nat) (b : Byte) :
    countdown^[t] b = BitVec.ofNat 8 (b.toNat - t) := by
  have hnat : (countdown^[t] b).toNat = b.toNat - t := by
    induction t with
    | zero => rfl
    | succ t ih =>
      rw [Function.iterate_succ_apply', toNat_countdown, ih]
      omega
  rw [← hnat, BitVec.ofNat_toNat, BitVec.setWidth_eq]

namespace Machine

variable {m : Machine} {k t : Nat} {as : List Action}

theorem execute_tick {w : Int} (h : ∀ i, Instruction.ofWord? w = some i → ¬ i.form.UsesTimers)
    (m : Machine) : m.tick.execute w = (m.execute w).map tick :=
  execute_adjust fun i hi => ignores_ticking (h i hi) m.dialect

theorem iterate_tick (m : Machine) (t : Nat) :
    tick^[t] m = { m with delay := countdown^[t] m.delay, sound := countdown^[t] m.sound } := by
  induction t generalizing m with
  | zero => rfl
  | succ t ih =>
    rw [Function.iterate_succ_apply, ih]
    rfl

theorem tick_steps (hrun : m.Succeeds (List.replicate k .step))
    (hfree : ∀ c ∈ m.commits (List.replicate k .step), ¬ c.instruction.form.UsesTimers) :
    m.tick.Succeeds (List.replicate k .step) ∧
      (∀ c ∈ m.tick.commits (List.replicate k .step), ¬ c.instruction.form.UsesTimers) ∧
      m.tick.after (List.replicate k .step) = (m.after (List.replicate k .step)).tick := by
  obtain ⟨htrace, hafter, hcommits⟩ := run_adjust steady_ticking
    fun c hc => ignores_ticking (hfree c hc) m.dialect
  rw [← tick_eq_adjust] at htrace hafter hcommits
  refine ⟨?_, ?_, hafter⟩
  · rw [Succeeds, htrace, List.forall_mem_map]
    exact hrun
  · rw [hcommits, List.forall_mem_map]
    exact hfree

theorem after_interleaved (hrun : m.Succeeds (List.replicate k .step))
    (hfree : ∀ c ∈ m.commits (List.replicate k .step), ¬ c.instruction.form.UsesTimers)
    (has : as.Perm (List.replicate k .step ++ List.replicate t .tick)) :
    m.Succeeds as ∧ m.after as = tick^[t] (m.after (List.replicate k .step)) := by
  induction as generalizing m k t with
  | nil =>
    have hlength : 0 = k + t := by simpa using has.length_eq
    obtain ⟨rfl, rfl⟩ : k = 0 ∧ t = 0 := by omega
    exact ⟨hrun, rfl⟩
  | cons a as ih =>
    have ha : a ∈ List.replicate k .step ++ List.replicate t .tick := has.subset List.mem_cons_self
    rw [List.mem_append, List.mem_replicate, List.mem_replicate] at ha
    rcases ha with ⟨hk, rfl⟩ | ⟨ht, rfl⟩
    · -- The first step of the run comes first.
      obtain ⟨k, rfl⟩ := Nat.exists_eq_succ_of_ne_zero hk
      rw [List.replicate_succ] at hrun hfree has
      obtain ⟨hfirst, hrest⟩ := succeeds_cons.mp hrun
      rw [commits, List.forall_mem_append] at hfree
      obtain ⟨hsucceeds, hafter⟩ := ih hrest hfree.2 has.cons_inv
      exact ⟨succeeds_cons.mpr ⟨hfirst, hsucceeds⟩, hafter⟩
    · -- A tick comes first, and the whole run is still to come.
      obtain ⟨t, rfl⟩ := Nat.exists_eq_succ_of_ne_zero ht
      rw [List.replicate_succ] at has
      obtain ⟨hrun', hfree', htick⟩ := tick_steps hrun hfree
      obtain ⟨hsucceeds, hafter⟩ := ih hrun' hfree' (has.trans List.perm_middle).cons_inv
      refine ⟨succeeds_cons.mpr ⟨rfl, hsucceeds⟩, ?_⟩
      rw [Function.iterate_succ_apply, ← htick]
      exact hafter

/-- An instruction that does not use the timers may be executed before or after a tick. So ticks that are
inserted anywhere among the steps of a run lower the timers by their number, down to zero, and change nothing
else. -/
theorem ticks_interleave (hrun : m.Succeeds (List.replicate k .step))
    (hfree : ∀ c ∈ m.commits (List.replicate k .step), ¬ c.instruction.form.UsesTimers)
    (has : as.Perm (List.replicate k .step ++ List.replicate t .tick)) :
    (∀ (s : Machine) (w : Int),
      (∀ i, Instruction.ofWord? w = some i → ¬ i.form.UsesTimers) →
        s.tick.execute w = (s.execute w).map tick) ∧
      m.Succeeds as ∧
      m.after as = { m.after (List.replicate k .step) with
        delay := BitVec.ofNat 8 ((m.after (List.replicate k .step)).delay.toNat - t)
        sound := BitVec.ofNat 8 ((m.after (List.replicate k .step)).sound.toNat - t) } := by
  obtain ⟨hsucceeds, hafter⟩ := after_interleaved hrun hfree has
  rw [iterate_tick, iterate_countdown, iterate_countdown] at hafter
  exact ⟨fun s w h => execute_tick h s, hsucceeds, hafter⟩

/-- An addition and a key wait in four steps, the last two of them while the machine waits, and three ticks. -/
theorem ticks_interleave_waiting :
    let m := { (powerOn 0 {}).loaded [0x71, 0x05, 0xF2, 0x0A] with delay := 2, sound := 200 }
    let as : List Action := [.tick, .step, .tick, .step, .step, .tick, .step]
    m.Succeeds (List.replicate 4 .step) ∧
      (∀ c ∈ m.commits (List.replicate 4 .step), ¬ c.instruction.form.UsesTimers) ∧
      as.Perm (List.replicate 4 .step ++ List.replicate 3 .tick) ∧
      (∀ i, Instruction.ofWord? 0x7105 = some i → ¬ i.form.UsesTimers) ∧
      m.tick.execute 0x7105 = (m.execute 0x7105).map tick ∧
      m.Succeeds as ∧
      m.after as = { m.after (List.replicate 4 .step) with delay := 0, sound := 197 } := by
  intro m as
  have hrun : m.Succeeds (List.replicate 4 .step) := by
    unfold Succeeds
    decide +kernel
  have hfree : ∀ c ∈ m.commits (List.replicate 4 .step), ¬ c.instruction.form.UsesTimers := by
    decide +kernel
  have hplaces : [false, true, false, true, true, false, true].Perm
      (List.replicate 4 true ++ List.replicate 3 false) := by decide
  let beat : Bool → Action := fun b => if b then .step else .tick
  have has : as.Perm (List.replicate 4 .step ++ List.replicate 3 .tick) := hplaces.map beat
  have hword : ∀ i, Instruction.ofWord? 0x7105 = some i → ¬ i.form.UsesTimers := by
    intro i hi
    obtain rfl : ⟨0x7105, .addByte⟩ = i := Option.some.inj hi
    decide
  obtain ⟨hexecute, hsucceeds, hafter⟩ := ticks_interleave hrun hfree has
  have hdelay : (m.after (List.replicate 4 .step)).delay = 2 := by decide +kernel
  have hsound : (m.after (List.replicate 4 .step)).sound = 200 := by decide +kernel
  rw [hdelay, hsound] at hafter
  exact ⟨hrun, hfree, has, hword, hexecute m _ hword, hsucceeds, hafter⟩

end Machine
end Chip8
