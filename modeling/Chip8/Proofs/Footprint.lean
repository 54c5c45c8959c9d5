import Chip8.Proofs.Execution
import Mathlib.Tactic.Common

/-! What an instruction can change. Each form has its footprint: the memory cells and the registers that it
may write, and the parts of the machine that it may replace. Whatever lies outside is the same after the
instruction as before, also where a store runs over the end of memory and where an operand is the flag
register. -/

namespace Chip8

def Form.Branches : Form → Prop
  | .ret | .jump | .call | .jumpOffset | .skip _ => True
  | _ => False

def Form.MovesIndex (d : Dialect) : Form → Prop
  | .loadIndex | .addIndex | .glyph => True
  | .store | .load => d.advancesIndex = true
  | _ => False

namespace Instruction

/-- The memory cells that an instruction may write. -/
def StoresAt (i : Instruction) (m : Machine) (a : Address) : Prop :=
  match i.form with
  | .decimal => ∃ k < 3, a = BitVec.ofNat 12 (m.index.toNat + k)
  | .store => ∃ k ≤ i.x.toNat, a = BitVec.ofNat 12 (m.index.toNat + k)
  | _ => False

/-- The registers that an instruction may write. -/
def Writes (i : Instruction) (r : Nibble) : Prop :=
  match i.form with
  | .loadByte | .addByte | .arithmetic .copy | .random | .readDelay => r = i.x
  | .arithmetic _ => r = i.x ∨ r = flagRegister
  | .draw => r = flagRegister
  | .load => r.toNat ≤ i.x.toNat
  | _ => False

/-- From `m` to `n` nothing changes but what the form of the instruction allows. -/
structure Footprint (i : Instruction) (m n : Machine) : Prop where
  memory : ∀ a, ¬ i.StoresAt m a → n.memory.get a = m.memory.get a
  registers : ∀ r, ¬ i.Writes r → n.register r = m.register r
  index : ¬ i.form.MovesIndex m.dialect → n.index = m.index
  pc : ¬ i.form.Branches → n.pc = m.pc
  stack : i.form ≠ .call → i.form ≠ .ret → n.stack = m.stack
  screen : i.form ≠ .clear → i.form ≠ .draw → n.screen = m.screen
  keypad : n.keypad = m.keypad
  delay : i.form ≠ .setDelay → n.delay = m.delay
  sound : i.form ≠ .setSound → n.sound = m.sound
  awaiting : i.form ≠ .awaitKey → n.awaiting = m.awaiting
  random : i.form ≠ .random → n.random = m.random
  dialect : n.dialect = m.dialect

theorem Footprint.refl (i : Instruction) (m : Machine) : i.Footprint m m where
  memory _ _ := rfl
  registers _ _ := rfl
  index _ := rfl
  pc _ := rfl
  stack _ _ := rfl
  screen _ _ := rfl
  keypad := rfl
  delay _ := rfl
  sound _ := rfl
  awaiting _ := rfl
  random _ := rfl
  dialect := rfl

end Instruction

namespace Machine
open Instruction

variable {m n : Machine} {i : Instruction} {x r : Nibble}

theorem register_setRegister (m : Machine) (x : Nibble) (b : Byte) : (m.setRegister x b).register x = b := by
  rw [register, setRegister, Table.get_set, if_pos rfl]

theorem register_setRegister_of_ne {b : Byte} (h : r ≠ x) :
    (m.setRegister x b).register r = m.register r := by
  rw [register, setRegister, Table.get_set, if_neg h.symm, register]

theorem combine_eq_registers (m : Machine) (o : Operation) (x y : Nibble) :
    m.combine o x y = { m with registers := (m.combine o x y).registers } := by
  cases o <;> rfl

theorem register_combine_of_ne {o : Operation} {y : Nibble} (hx : r ≠ x)
    (hflag : o = .copy ∨ r ≠ flagRegister) : (m.combine o x y).register r = m.register r := by
  rcases hflag with rfl | hflag
  · exact register_setRegister_of_ne hx
  · have hset (b c : Byte) : ((m.setRegister x b).setFlag c).register r = m.register r := by
      rw [setFlag, register_setRegister_of_ne hflag, register_setRegister_of_ne hx]
    cases o with
    | copy => exact register_setRegister_of_ne hx
    | _ => exact hset _ _

theorem get_storeBytes_of_ne {a : Address} {bs : List Byte}
    (h : ∀ k < bs.length, a ≠ BitVec.ofNat 12 (m.index.toNat + k)) :
    (m.storeBytes bs).memory.get a = m.memory.get a := by
  refine Table.get_patch_of_ne fun k hk => ?_
  have hk' := h k hk
  rwa [BitVec.ofNat_add, BitVec.ofNat_toNat] at hk'

theorem get_patch_zero_of_le {t : Table 4 Byte} {bs : List Byte} (h : bs.length ≤ r.toNat) :
    (t.patch 0 bs).get r = t.get r := by
  refine Table.get_patch_of_ne fun k hk => ?_
  have hr := r.isLt
  have hsum : (0 + BitVec.ofNat 4 k : Nibble).toNat = k % 16 := by simp
  rw [ne_eq, ← BitVec.toNat_inj, hsum]
  omega

theorem register_drawSprite_of_ne {y k : Nibble} (h : r ≠ flagRegister) :
    (m.drawSprite x y k).register r = m.register r := by
  -- Stated for any screen: with the sprite in place, unification would compute its rows.
  have hflag (s : Screen) (b : Byte) :
      ({ m with screen := s }.setFlag b).register r = m.register r := by
    rw [setFlag, register_setRegister_of_ne h]
    rfl
  exact hflag _ _

theorem advance_eq_index (m : Machine) (x : Nibble) :
    m.advance x = { m with index := (m.advance x).index } := by
  unfold advance
  split <;> rfl

theorem index_advance_of_not (m : Machine) (x : Nibble) (h : ¬ m.dialect.advancesIndex = true) :
    (m.advance x).index = m.index := by
  rw [advance, if_neg h]

theorem perform_footprint (h : m.perform i = .ok n) : i.Footprint m n := by
  -- One case for each form names the parts that the form replaces; the others are those of `m`.
  obtain ⟨w, f⟩ := i
  cases f with
  | clear =>
    cases h
    exact { Footprint.refl _ m with screen := fun hc => absurd rfl hc }
  | ret =>
    obtain ⟨a, rest, -, rfl⟩ := perform_ret_eq_ok rfl h
    exact { Footprint.refl _ m with
      pc := fun hb => absurd trivial hb
      stack := fun _ hr => absurd rfl hr }
  | jump =>
    cases h
    exact { Footprint.refl _ m with pc := fun hb => absurd trivial hb }
  | call =>
    cases h
    exact { Footprint.refl _ m with
      pc := fun hb => absurd trivial hb
      stack := fun hc => absurd rfl hc }
  | skip c =>
    cases h
    split
    · exact { Footprint.refl _ m with pc := fun hb => absurd trivial hb }
    · exact Footprint.refl _ m
  | loadByte =>
    cases h
    exact { Footprint.refl _ m with registers := fun r hr => register_setRegister_of_ne hr }
  | addByte =>
    cases h
    exact { Footprint.refl _ m with registers := fun r hr => register_setRegister_of_ne hr }
  | arithmetic o =>
    cases h
    rw [combine_eq_registers]
    refine { Footprint.refl _ m with registers := fun r hr => ?_ }
    change (m.combine o _ _).register r = m.register r
    cases o with
    | copy => exact register_combine_of_ne hr (.inl rfl)
    | _ =>
      obtain ⟨hx, hflag⟩ := not_or.mp hr
      exact register_combine_of_ne hx (.inr hflag)
  | loadIndex =>
    cases h
    exact { Footprint.refl _ m with index := fun hi => absurd trivial hi }
  | jumpOffset =>
    cases h
    exact { Footprint.refl _ m with pc := fun hb => absurd trivial hb }
  | random =>
    cases h
    exact { Footprint.refl _ m with
      registers := fun r hr => register_setRegister_of_ne hr
      random := fun hr => absurd rfl hr }
  | draw =>
    cases h
    exact { Footprint.refl _ m with
      registers := fun r hr => register_drawSprite_of_ne hr
      screen := fun _ hd => absurd rfl hd }
  | readDelay =>
    cases h
    exact { Footprint.refl _ m with registers := fun r hr => register_setRegister_of_ne hr }
  | awaitKey =>
    cases h
    exact { Footprint.refl _ m with awaiting := fun ha => absurd rfl ha }
  | setDelay =>
    cases h
    exact { Footprint.refl _ m with delay := fun hd => absurd rfl hd }
  | setSound =>
    cases h
    exact { Footprint.refl _ m with sound := fun hs => absurd rfl hs }
  | addIndex =>
    cases h
    exact { Footprint.refl _ m with index := fun hi => absurd trivial hi }
  | glyph =>
    cases h
    exact { Footprint.refl _ m with index := fun hi => absurd trivial hi }
  | decimal =>
    cases h
    refine { Footprint.refl _ m with memory := fun a ha => get_storeBytes_of_ne fun k hk hak => ?_ }
    exact ha ⟨k, hk, hak⟩
  | store =>
    cases h
    rw [storeRegisters, advance_eq_index]
    refine { Footprint.refl _ m with
      memory := fun a ha => get_storeBytes_of_ne fun k hk hak => ha ⟨k, ?_, hak⟩
      index := fun hi => index_advance_of_not (m.storeBytes _) _ hi }
    rw [Table.window_length] at hk
    exact Nat.le_of_lt_succ hk
  | load =>
    cases h
    rw [loadRegisters, advance_eq_index]
    refine { Footprint.refl _ m with
      registers := fun r hr => get_patch_zero_of_le ?_
      index := fun hi => index_advance_of_not { m with registers := _ } _ hi }
    rw [Table.window_length]
    exact Nat.lt_of_not_le hr

/-- Every word that is executed has a form, and changes what lies in the footprint of the form and nothing
else. -/
theorem execute_footprint {w : Int} (h : m.execute w = .ok n) :
    ∃ i, Instruction.ofWord? w = some i ∧ i.Footprint m n := by
  obtain ⟨i, hw, hi⟩ := execute_eq_ok_iff.mp h
  exact ⟨i, hw, perform_footprint hi⟩

/-- Four registers stored across the end of memory, in the dialect that moves the index on. -/
theorem execute_footprint_store :
    let m := { powerOn 0 ⟨false, true⟩ with index := 0xFFFE }
    m.execute 0xF355 = .ok (m.storeRegisters 3) ∧
      ∃ i, Instruction.ofWord? 0xF355 = some i ∧ i.Footprint m (m.storeRegisters 3) := by
  intro m
  have h : m.execute 0xF355 = .ok (m.storeRegisters 3) := rfl
  exact ⟨h, execute_footprint h⟩

end Machine
end Chip8
