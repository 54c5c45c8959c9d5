import Chip8.Proofs.Redraw

/-! Sprites cut between two rows, and sprites moved. The distance of a pixel from the corner of a sprite tells which
bit falls on it, wherever the corner lies, so a sprite that is moved takes its pixels along. Up to the sixteenth each
row is read from a memory cell of its own, and the cells go on around the end of memory. So a sprite that is no higher
can be cut into an upper part and a lower one, which begins as many cells and rows further on. All of this is said of
the masks of sprites, and there is one as long as the edges of the sprite are numbers of the grids. -/

namespace Chip8.Screen

/-- The edges of a sprite are numbers of the grids. -/
def InGrids (x y height : Int) : Prop :=
  -0x80000000 ≤ x ∧ x + 8 < 0x80000000 ∧ -0x80000000 ≤ y ∧ y < 0x80000000 ∧
    -0x80000000 ≤ y + height ∧ y + height < 0x80000000

/-- The bit of a sprite in row `r` and column `c`, counted from its corner. A bit is read for every place, the nearest
one where the sprite has none, and what lies outside is dropped afterwards. -/
def clampedBit (m : Memory) (index height r c : Int) : Bool :=
  (m.get (BitVec.ofInt 12 (index + clamp 15 (inGrid r)))).getMsbD (clamp 7 c).toNat &&
    decide (0 ≤ r ∧ r < height ∧ 0 ≤ c ∧ c < 8)

theorem clamp_eq_self {last v : Int} (h0 : 0 ≤ v) (h : v ≤ last) : clamp last v = v := by
  rw [clamp, Int.min_eq_left h, Int.max_eq_right h0]

theorem inGrid_eq_self {n : Int} (h0 : -0x80000000 ≤ n) (h : n < 0x80000000) : inGrid n = n := by
  rw [inGrid, BitVec.toInt_ofInt]
  exact Int.bmod_eq_of_le (by omega) (by omega)

theorem fitsSigned_iff {n : Int} : fitsSigned 32 n = true ↔ -0x80000000 ≤ n ∧ n < 0x80000000 := by
  have hpow : Int.pow 2 (32 - 1) = 0x80000000 := rfl
  rw [fitsSigned, hpow, Bool.and_eq_true, decide_eq_true_eq, decide_eq_true_eq]

section

variable {m : Memory} {s t : Screen} {x y height : Int} {i : BitVec 6} {j : BitVec 5}

theorem all_fitsSigned_iff :
    [x, x + 8, y, y + height].all (fitsSigned 32) = true ↔ InGrids x y height := by
  simp only [List.all_cons, List.all_nil, Bool.and_true, Bool.and_eq_true, fitsSigned_iff, InGrids]
  omega

theorem exists_mask {index : Int} (hindex : fitsSigned 32 index = true) (h : InGrids x y height) :
    ∃ s, mask m index x y height = .ok s := by
  rw [← all_fitsSigned_iff] at h
  rw [mask, h, hindex]
  exact ⟨_, rfl⟩

theorem pixel_mask {index : Int} (h : mask m index x y height = .ok s) (i : BitVec 6) (j : BitVec 5) :
    s.pixel i j = clampedBit m index height (j.toNat - y) (i.toNat - x) := by
  unfold mask at h
  split at h
  · cases h
  split at h
  · cases h
  rw [← Except.ok.inj h, pixel, Table.get_ofFn, clampedBit]
  by_cases hin : 0 ≤ j.toNat - y ∧ j.toNat - y < height ∧ 0 ≤ i.toNat - x ∧ i.toNat - x < 8
  · have hrow : (decide (y ≤ j.toNat) && decide (j.toNat < y + height)) = true := by
      rw [Bool.and_eq_true, decide_eq_true_eq, decide_eq_true_eq]
      omega
    have hcolumn : x ≤ i.toNat ∧ i.toNat < x + 8 := by omega
    rw [if_pos hrow, getMsbD_spriteRow, decide_eq_true hcolumn, decide_eq_true hin,
      clamp_eq_self hin.2.2.1 (by omega), Bool.true_and, Bool.and_true]
  · rw [decide_eq_false hin, Bool.and_false]
    split
    · rename_i hrow
      rw [Bool.and_eq_true, decide_eq_true_eq, decide_eq_true_eq] at hrow
      have hcolumn : ¬ (x ≤ i.toNat ∧ i.toNat < x + 8) := by omega
      rw [getMsbD_spriteRow, decide_eq_false hcolumn, Bool.false_and]
    · exact BitVec.getMsbD_zero

variable {index : Nat}

variable {h₁ h₂ : Nat}

theorem InGrids.cut (h : InGrids x y ↑(h₁ + h₂)) : InGrids x y h₁ ∧ InGrids x (y + h₁) h₂ := by
  unfold InGrids at h ⊢
  omega

end

theorem mask_eq_sprite {m : Memory} {index : Nat} {x y height : Int} (hindex : fitsSigned 32 index = true)
    (h : InGrids x y height) (hheight : height ≤ 0x80000000) :
    mask m index x y height = .ok (sprite m (BitVec.ofNat 12 index) x y height) := by
  obtain ⟨s, hs⟩ := exists_mask (m := m) hindex h
  rw [hs]
  refine congrArg Except.ok (ext_pixel fun i j => ?_)
  rw [pixel_mask hs, pixel_sprite, clampedBit]
  by_cases hin : 0 ≤ j.toNat - y ∧ j.toNat - y < height ∧ 0 ≤ i.toNat - x ∧ i.toNat - x < 8
  · obtain ⟨r, hr⟩ := Int.eq_ofNat_of_zero_le hin.1
    have hrow : clamp 15 (inGrid r) = ↑(min (r : Int) 15).toNat := by
      rw [inGrid_eq_self (by omega) (by omega), clamp]
      omega
    rw [decide_eq_true hin, decide_eq_true (by omega), hr, hrow, clamp_eq_self hin.2.2.1 (by omega),
      ← Int.natCast_add, BitVec.ofInt_natCast, BitVec.ofNat_add, Bool.true_and, Bool.and_true]
  · rw [decide_eq_false hin, decide_eq_false (by omega), Bool.false_and, Bool.and_false]

/-- A draw instruction has the mask of its sprite. -/
theorem mask_spriteAt (m : Machine) (x y n : Nibble) :
    mask m.memory m.index.toNat ↑((m.register x).toNat % screenWidth)
      ↑((m.register y).toNat % screenHeight) n.toNat = .ok (m.spriteAt x y n) := by
  have hindex := m.index.isLt
  have hn := n.isLt
  have hin : InGrids ↑((m.register x).toNat % screenWidth) ↑((m.register y).toNat % screenHeight) n.toNat := by
    unfold InGrids screenWidth screenHeight
    omega
  rw [mask_eq_sprite (fitsSigned_iff.mpr (by omega)) hin (by omega)]
  rfl

/-- A seventeenth row shows the cell of the sixteenth again, and not the one that a sprite beginning there shows. -/
example :
    let m := (Machine.powerOn 0 {}).memory
    let shown (x : Except Error Screen) : Option Bool := x.toOption.map (·.pixel 0 16)
    (shown (mask m 0 0 0 17), shown (mask m 0 0 0 16), shown (mask m 16 0 16 1)) =
      (some true, some false, some false) := by
  decide +kernel

end Chip8.Screen
