import Chip8.Proofs.Drawing
import Chip8.Proofs.Footprint

/-! Drawing a sprite twice. A draw changes the screen and the flag and nothing else, and unless its position is kept
in the flag register the same draw comes out at the same place again. So the second draw takes back the first. The
first flag tells whether the sprite met a set pixel, the second whether it met a clear one. -/

namespace Chip8

def Byte.Tells (b : Byte) (p : Prop) : Prop := (p → b = 1) ∧ (¬ p → b = 0)

theorem tells_flagOf {c : Bool} {p : Prop} (h : c = true ↔ p) : Byte.Tells (Operation.flagOf c) p := by
  cases c with
  | false => exact ⟨fun hp => absurd (h.mpr hp) Bool.false_ne_true, fun _ => rfl⟩
  | true => exact ⟨fun _ => rfl, fun hp => absurd (h.mp rfl) hp⟩

theorem Byte.Tells.eq_zero_iff {b : Byte} {p : Prop} (h : Byte.Tells b p) : b = 0 ↔ ¬ p := by
  refine ⟨fun hb hp => ?_, h.2⟩
  rw [hb] at h
  exact absurd (h.1 hp) (by decide)

namespace Machine

/-- A lit bit of the sprite at the index falls on the pixel. -/
def Covers (m : Machine) (x y n : Nibble) (i : BitVec 6) (j : BitVec 5) : Prop :=
  ∃ r < n.toNat, ∃ c < 8, m.lit r c = true ∧
    i.toNat = (m.register x).toNat % screenWidth + c ∧
    j.toNat = (m.register y).toNat % screenHeight + r

def spriteAt (m : Machine) (x y n : Nibble) : Screen :=
  Screen.sprite m.memory (addressOf m.index) ↑((m.register x).toNat % screenWidth)
    ↑((m.register y).toNat % screenHeight) n.toNat

variable (m : Machine) (x y n : Nibble)

theorem drawSprite_eq : m.drawSprite x y n =
    { m with screen := m.screen.xor (m.spriteAt x y n) }.setFlag
      (Operation.flagOf (m.screen.meets (m.spriteAt x y n))) := rfl

theorem pixel_spriteAt (i : BitVec 6) (j : BitVec 5) :
    (m.spriteAt x y n).pixel i j = true ↔ m.Covers x y n i j := by
  rw [spriteAt, ← reached_eq_sprite, Drawing.reached, Drawing.passed, Bool.and_eq_true,
    decide_eq_true_eq]
  constructor
  · rintro ⟨hin, hlit⟩
    exact ⟨_, by omega, _, by omega, hlit, by omega, by omega⟩
  · rintro ⟨r, hr, c, hc, hlit, hi, hj⟩
    rw [hi, hj, Nat.add_sub_cancel_left, Nat.add_sub_cancel_left]
    exact ⟨by omega, hlit⟩

theorem screen_drawSprite : (m.drawSprite x y n).screen = m.screen.xor (m.spriteAt x y n) := by
  rw [drawSprite_eq]
  rfl

theorem flag_drawSprite : (m.drawSprite x y n).register flagRegister =
    Operation.flagOf (m.screen.meets (m.spriteAt x y n)) := by
  rw [drawSprite_eq, setFlag, register_setRegister]

variable {m : Machine} {x y n : Nibble}

theorem spriteAt_drawSprite (hx : x ≠ flagRegister) (hy : y ≠ flagRegister) :
    (m.drawSprite x y n).spriteAt x y n = m.spriteAt x y n := by
  rw [spriteAt, register_drawSprite_of_ne hx, register_drawSprite_of_ne hy, drawSprite_eq]
  rfl

theorem flag_drawSprite_drawSprite (hx : x ≠ flagRegister) (hy : y ≠ flagRegister) :
    ((m.drawSprite x y n).drawSprite x y n).register flagRegister =
      Operation.flagOf ((m.screen.xor (m.spriteAt x y n)).meets (m.spriteAt x y n)) := by
  rw [flag_drawSprite, screen_drawSprite, spriteAt_drawSprite hx hy]

theorem drawSprite_drawSprite (hx : x ≠ flagRegister) (hy : y ≠ flagRegister) :
    (m.drawSprite x y n).drawSprite x y n =
      m.setFlag (((m.drawSprite x y n).drawSprite x y n).register flagRegister) := by
  rw [flag_drawSprite_drawSprite hx hy, drawSprite_eq (m.drawSprite x y n), screen_drawSprite,
    spriteAt_drawSprite hx hy, Screen.xor_xor_cancel, drawSprite_eq]
  simp only [setFlag, setRegister, Table.set_set]

theorem meets_spriteAt :
    m.screen.meets (m.spriteAt x y n) = true ↔
      ∃ i j, m.Covers x y n i j ∧ m.screen.pixel i j = true := by
  simp only [Screen.meets_iff, pixel_spriteAt, and_comm]

theorem meets_spriteAt_again :
    (m.screen.xor (m.spriteAt x y n)).meets (m.spriteAt x y n) = true ↔
      ∃ i j, m.Covers x y n i j ∧ m.screen.pixel i j = false := by
  simp only [Screen.meets_iff, Screen.pixel_xor, ← pixel_spriteAt]
  refine exists_congr fun i => exists_congr fun j => ?_
  cases m.screen.pixel i j <;> cases (m.spriteAt x y n).pixel i j <;> decide

theorem covers_none_iff : (∀ i j, ¬ m.Covers x y n i j) ↔
    ∀ r < n.toNat, ∀ c < 8, m.lit r c = true →
      ¬ ((m.register x).toNat % screenWidth + c < screenWidth ∧
        (m.register y).toNat % screenHeight + r < screenHeight) := by
  constructor
  · intro hnone r hr c hc hlit ⟨hcolumn, hrow⟩
    refine hnone (BitVec.ofNat 6 ((m.register x).toNat % screenWidth + c))
      (BitVec.ofNat 5 ((m.register y).toNat % screenHeight + r)) ⟨r, hr, c, hc, hlit, ?_, ?_⟩
    · exact (BitVec.toNat_ofNat _ _).trans (Nat.mod_eq_of_lt hcolumn)
    · exact (BitVec.toNat_ofNat _ _).trans (Nat.mod_eq_of_lt hrow)
  · rintro hoff i j ⟨r, hr, c, hc, hlit, hi, hj⟩
    refine hoff r hr c hc hlit ⟨?_, ?_⟩
    · rw [← hi]
      exact i.isLt
    · rw [← hj]
      exact j.isLt

theorem execute_drawSprite (m : Machine) (x y n : Nibble) :
    m.execute (wordOf 0xD x y n) = .ok (m.drawSprite x y n) := by
  rw [execute_of_ofWord? (ofWord?_draw x y n), perform, Instruction.x_wordOf, Instruction.y_wordOf,
    Instruction.n_wordOf]

/-- The second draw of a sprite restores all but the flag. The first flag tells whether the sprite covered a set
pixel, the second whether it covered a clear one, and neither is raised exactly if no lit bit of the sprite is on
the screen. -/
theorem draw_twice (hx : x ≠ flagRegister) (hy : y ≠ flagRegister) :
    ∃ k l : Machine, m.execute (wordOf 0xD x y n) = .ok k ∧ k.execute (wordOf 0xD x y n) = .ok l ∧
      l = m.setFlag (l.register flagRegister) ∧
      Byte.Tells (k.register flagRegister) (∃ i j, m.Covers x y n i j ∧ m.screen.pixel i j = true) ∧
      Byte.Tells (l.register flagRegister) (∃ i j, m.Covers x y n i j ∧ m.screen.pixel i j = false) ∧
      (k.register flagRegister = 0 ∧ l.register flagRegister = 0 ↔
        ∀ r < n.toNat, ∀ c < 8, m.lit r c = true →
          ¬ ((m.register x).toNat % screenWidth + c < screenWidth ∧
            (m.register y).toNat % screenHeight + r < screenHeight)) := by
  have hfirst := tells_flagOf (meets_spriteAt (m := m) (x := x) (y := y) (n := n))
  have hsecond := tells_flagOf (meets_spriteAt_again (m := m) (x := x) (y := y) (n := n))
  rw [← flag_drawSprite] at hfirst
  rw [← flag_drawSprite_drawSprite hx hy] at hsecond
  refine ⟨_, _, execute_drawSprite m x y n, execute_drawSprite _ x y n, drawSprite_drawSprite hx hy, hfirst,
    hsecond, ?_⟩
  rw [hfirst.eq_zero_iff, hsecond.eq_zero_iff, ← covers_none_iff]
  constructor
  · rintro ⟨hset, hclear⟩ i j hij
    cases hs : m.screen.pixel i j with
    | true => exact hset ⟨i, j, hij, hs⟩
    | false => exact hclear ⟨i, j, hij, hs⟩
  · intro hnone
    exact ⟨fun ⟨i, j, hij, _⟩ => hnone i j hij, fun ⟨i, j, hij, _⟩ => hnone i j hij⟩

/-- A glyph in the lower right corner, where all but three of its lit bits are cut off and one of these meets a
set pixel. -/
theorem draw_twice_clipped :
    let m := { ((powerOn 0 {}).setRegister 1 126).setRegister 2 62 with
      screen := Screen.blank.toggle 63 30 }
    (1 : Nibble) ≠ flagRegister ∧ (2 : Nibble) ≠ flagRegister ∧
      ∃ k l : Machine, m.execute (wordOf 0xD 1 2 5) = .ok k ∧ k.execute (wordOf 0xD 1 2 5) = .ok l ∧
        l = m.setFlag 1 ∧ k.register flagRegister = 1 := by
  intro m
  have hx : (1 : Nibble) ≠ flagRegister := by decide
  have hy : (2 : Nibble) ≠ flagRegister := by decide
  have hset : m.Covers 1 2 5 63 30 ∧ m.screen.pixel 63 30 = true :=
    ⟨⟨0, by decide, 1, by decide, by decide +kernel, by decide +kernel, by decide +kernel⟩, by decide +kernel⟩
  have hclear : m.Covers 1 2 5 62 31 ∧ m.screen.pixel 62 31 = false :=
    ⟨⟨1, by decide, 0, by decide, by decide +kernel, by decide +kernel, by decide +kernel⟩, by decide +kernel⟩
  obtain ⟨k, l, hk, hl, hkept, hfirst, hsecond, -⟩ := draw_twice (m := m) (n := 5) hx hy
  rw [hsecond.1 ⟨_, _, hclear⟩] at hkept
  exact ⟨hx, hy, k, l, hk, hl, hkept, hfirst.1 ⟨_, _, hset⟩⟩

end Machine
end Chip8
