import Chip8.Screen
import Mathlib.Tactic.Common

/-! Screens as sets of pixels. A screen is known through its pixels, and each operation on screens is
known through one equation about them. -/

namespace Chip8.Screen

theorem ext_pixel {s t : Screen} (h : ∀ x y, s.pixel x y = t.pixel x y) : s = t := by
  apply Table.ext
  intro y
  apply BitVec.eq_of_getMsbD_eq
  intro i hi
  have hx := h (BitVec.ofNat 6 i) y
  rwa [pixel, pixel, BitVec.toNat_ofNat, Nat.mod_eq_of_lt (by omega)] at hx

theorem pixel_xor (s t : Screen) (x : BitVec 6) (y : BitVec 5) :
    (s.xor t).pixel x y = (s.pixel x y ^^ t.pixel x y) := by
  simp only [pixel, xor, Table.get_ofFn, BitVec.getMsbD_xor]

theorem xor_xor_cancel (s t : Screen) : (s.xor t).xor t = s := by
  apply ext_pixel
  intro x y
  rw [pixel_xor, pixel_xor, Bool.xor_assoc, Bool.xor_self, Bool.xor_false]

theorem xor_right_comm (s t u : Screen) : (s.xor t).xor u = (s.xor u).xor t := by
  apply ext_pixel
  intro x y
  simp only [pixel_xor, Bool.xor_assoc, Bool.xor_comm (t.pixel x y)]

theorem and_ne_zero_iff {a b : BitVec 64} :
    a &&& b ≠ 0 ↔ ∃ x : BitVec 6, a.getMsbD x.toNat = true ∧ b.getMsbD x.toNat = true := by
  constructor
  · intro h
    by_contra hnone
    apply h
    apply BitVec.eq_of_getMsbD_eq
    intro i hi
    have hx := not_exists.mp hnone (BitVec.ofNat 6 i)
    rw [BitVec.toNat_ofNat, Nat.mod_eq_of_lt (by omega)] at hx
    simpa using hx
  · rintro ⟨x, ha, hb⟩ h
    have hx := congrArg (·.getMsbD x.toNat) h
    simp [ha, hb] at hx

theorem meets_iff {s t : Screen} :
    s.meets t = true ↔ ∃ x y, s.pixel x y = true ∧ t.pixel x y = true := by
  simp only [meets, Vector.any_eq_true, Vector.getElem_zip, decide_eq_true_eq, and_ne_zero_iff]
  constructor
  · rintro ⟨i, hi, x, hs, ht⟩
    exact ⟨x, ⟨⟨i, hi⟩⟩, hs, ht⟩
  · rintro ⟨x, y, hs, ht⟩
    exact ⟨y.toNat, y.isLt, x, hs, ht⟩

theorem getMsbD_placed (b : Byte) (j : Nat) : (b.setWidth 64 <<< 56).getMsbD j = b.getMsbD j := by
  simp [BitVec.getMsbD_setWidth]

theorem getMsbD_spriteRow (b : Byte) (x : Int) (i : BitVec 6) :
    (spriteRow b x).getMsbD i.toNat =
      (decide (x ≤ i.toNat ∧ i.toNat < x + 8) && b.getMsbD (i.toNat - x).toNat) := by
  have hi := i.isLt
  simp only [spriteRow]
  split
  · rename_i hout
    have hx : ¬ (x ≤ i.toNat ∧ i.toNat < x + 8) := by
      simp only [Bool.or_eq_true, decide_eq_true_eq] at hout
      omega
    simp [hx]
  -- Placed at the left edge, the byte is shifted right from there, or left if it sticks out.
  split
  · rename_i h0
    obtain ⟨k, rfl⟩ := Int.eq_ofNat_of_zero_le h0
    have hk : ((i.toNat : Int) - k).toNat = i.toNat - k := by omega
    rw [Int.toNat_natCast, BitVec.getMsbD_ushiftRight, getMsbD_placed, hk]
    by_cases hki : i.toNat < k
    · have hx : ¬ ((k : Int) ≤ i.toNat ∧ i.toNat < (k : Int) + 8) := by omega
      rw [decide_eq_false hx, decide_eq_true hki]
      simp
    · by_cases h8 : i.toNat - k < 8
      · have hx : (k : Int) ≤ i.toNat ∧ i.toNat < (k : Int) + 8 := by omega
        simp [hki, hx, hi]
      · simp [BitVec.getMsbD_of_ge _ _ (Nat.le_of_not_lt h8)]
  · rename_i hneg
    have hk : ((i.toNat : Int) - x).toNat = i.toNat + (-x).toNat := by omega
    rw [BitVec.getMsbD_shiftLeft, getMsbD_placed, hk]
    by_cases h8 : i.toNat + (-x).toNat < 8
    · have hx : x ≤ i.toNat ∧ i.toNat < x + 8 := by omega
      simp [hx]
    · simp [BitVec.getMsbD_of_ge _ _ (Nat.le_of_not_lt h8)]

/-- A sprite covers eight columns and as many rows as it is high; what lies off the screen has no
pixel. -/
theorem pixel_sprite (m : Memory) (start : Address) (x y height : Int) (i : BitVec 6) (j : BitVec 5) :
    (sprite m start x y height).pixel i j =
      (decide (y ≤ j.toNat ∧ j.toNat < y + height ∧ x ≤ i.toNat ∧ i.toNat < x + 8) &&
        (m.get (start + BitVec.ofNat 12 (min ((j.toNat : Int) - y) 15).toNat)).getMsbD
          (i.toNat - x).toNat) := by
  simp only [pixel, sprite, Table.get_ofFn]
  split
  · rename_i hrow
    have hj : y ≤ j.toNat ∧ j.toNat < y + height := by
      simp only [Bool.and_eq_true, decide_eq_true_eq] at hrow
      omega
    rw [getMsbD_spriteRow]
    simp [hj]
  · rename_i hrow
    have hj : ¬ (y ≤ j.toNat ∧ j.toNat < y + height ∧ x ≤ i.toNat ∧ i.toNat < x + 8) := by
      simp only [Bool.and_eq_true, decide_eq_true_eq] at hrow
      omega
    simp [hj]

end Chip8.Screen
