import Chip8.Machine.Execute
import Chip8.Proofs.Digit
import Chip8.Proofs.Pixel

/-! Drawing a sprite pixel by pixel. Two nested loops go through the rows and columns of the sprite and
flip one pixel of the screen at a time; no pixel comes up twice, so what they leave is the screen with the
whole sprite laid over it at once, and they meet a set pixel exactly if the two have a pixel in common. -/

namespace Chip8

def Screen.toggle (s : Screen) (x : BitVec 6) (y : BitVec 5) : Screen :=
  s.set y (s.get y ^^^ BitVec.twoPow 64 (63 - x.toNat))

theorem Screen.pixel_toggle (s : Screen) (x i : BitVec 6) (y j : BitVec 5) :
    (s.toggle x y).pixel i j = (s.pixel i j ^^ (decide (i = x) && decide (j = y))) := by
  have hx := x.isLt
  have hi := i.isLt
  rw [pixel, toggle, Table.get_set]
  split
  · rename_i hy
    have hbit : (63 - x.toNat < 64) ∧ (i.toNat = 64 - (63 - x.toNat) - 1 ↔ i = x) := by
      rw [← BitVec.toNat_inj]
      omega
    rw [BitVec.getMsbD_xor, BitVec.getMsbD_twoPow]
    simp [pixel, hy, hbit]
  · rename_i hy
    simp [pixel, Ne.symm hy]

structure Drawing where
  screen : Screen
  erased : Bool

namespace Drawing

/-- Flips one pixel. A position off the screen is passed over. -/
def touch (d : Drawing) (x y : Nat) : Drawing :=
  if x < screenWidth ∧ y < screenHeight then
    { screen := d.screen.toggle (BitVec.ofNat 6 x) (BitVec.ofNat 5 y)
      erased := d.erased || d.screen.pixel (BitVec.ofNat 6 x) (BitVec.ofNat 5 y) }
  else d

def columns (lit : Nat → Nat → Bool) (x y r n : Nat) (d : Drawing) : Drawing :=
  (List.range n).foldl (fun d c => if lit r c then d.touch (x + c) (y + r) else d) d

def rows (lit : Nat → Nat → Bool) (x y n : Nat) (d : Drawing) : Drawing :=
  (List.range n).foldl (fun d r => columns lit x y r 8 d) d

end Drawing

namespace Machine

def lit (m : Machine) (r c : Nat) : Bool :=
  (m.memory.get (BitVec.ofNat 12 (m.index.toNat + r))).getLsbD (7 - c)

/-- The position is read first, the flag is written last. -/
def drawPixels (m : Machine) (x y n : Nibble) : Machine :=
  let column := (m.register x).toNat % screenWidth
  let row := (m.register y).toNat % screenHeight
  let d := Drawing.rows m.lit column row n.toNat ⟨m.screen, false⟩
  { m with screen := d.screen }.setRegister flagRegister (if d.erased then 1 else 0)

end Machine

namespace Drawing

/-- What a screen becomes by flipping each pixel of a set once. -/
structure Flips (s : Screen) (P : BitVec 6 → BitVec 5 → Bool) (d : Drawing) : Prop where
  screen : ∀ i j, d.screen.pixel i j = (s.pixel i j ^^ P i j)
  erased : d.erased = true ↔ ∃ i j, P i j = true ∧ s.pixel i j = true

variable {s : Screen} {P : BitVec 6 → BitVec 5 → Bool} {d : Drawing}

theorem Flips.eq_xor {t : Screen} (h : Flips s t.pixel d) :
    d.screen = s.xor t ∧ d.erased = s.meets t := by
  constructor
  · apply Screen.ext_pixel
    intro i j
    rw [h.screen, Screen.pixel_xor]
  · rw [Bool.eq_iff_iff, h.erased, Screen.meets_iff]
    simp only [and_comm]

theorem Flips.touch_on (h : Flips s P d) (x : BitVec 6) (y : BitVec 5) (hP : P x y = false) :
    Flips s (fun i j => P i j || (decide (i = x) && decide (j = y)))
      ⟨d.screen.toggle x y, d.erased || d.screen.pixel x y⟩ := by
  constructor
  · intro i j
    rw [Screen.pixel_toggle, h.screen]
    by_cases hij : i = x ∧ j = y
    · obtain ⟨rfl, rfl⟩ := hij
      simp [hP]
    · have hmiss : (decide (i = x) && decide (j = y)) = false := by simpa using hij
      rw [hmiss, Bool.xor_false, Bool.or_false]
  · rw [Bool.or_eq_true, h.screen, hP, Bool.xor_false, h.erased]
    constructor
    · rintro (⟨i, j, hij, hs⟩ | hs)
      · exact ⟨i, j, by rw [hij, Bool.true_or], hs⟩
      · exact ⟨x, y, by simp, hs⟩
    · rintro ⟨i, j, hij, hs⟩
      rcases Bool.or_eq_true_iff.mp hij with hold | hnew
      · exact .inl ⟨i, j, hold, hs⟩
      · simp only [Bool.and_eq_true, decide_eq_true_eq] at hnew
        obtain ⟨rfl, rfl⟩ := hnew
        exact .inr hs

theorem Flips.touch (h : Flips s P d) (x y : Nat)
    (hP : ∀ i j, i.toNat = x → j.toNat = y → P i j = false) :
    Flips s (fun i j => P i j || (decide (i.toNat = x) && decide (j.toNat = y))) (d.touch x y) := by
  unfold Drawing.touch
  split
  · rename_i hon
    have hx : x < 2 ^ 6 := hon.1
    have hy : y < 2 ^ 5 := hon.2
    have hi (i : BitVec 6) : i = BitVec.ofNat 6 x ↔ i.toNat = x := by
      rw [← BitVec.toNat_inj, BitVec.toNat_ofNat, Nat.mod_eq_of_lt hx]
    have hj (j : BitVec 5) : j = BitVec.ofNat 5 y ↔ j.toNat = y := by
      rw [← BitVec.toNat_inj, BitVec.toNat_ofNat, Nat.mod_eq_of_lt hy]
    have hnew := h.touch_on _ _ (hP _ _ ((hi _).mp rfl) ((hj _).mp rfl))
    simpa only [hi, hj] using hnew
  · rename_i hoff
    have hmiss (i : BitVec 6) (j : BitVec 5) :
        (decide (i.toNat = x) && decide (j.toNat = y)) = false := by
      have hx : i.toNat < screenWidth := i.isLt
      have hy : j.toNat < screenHeight := j.isLt
      by_contra hij
      simp only [Bool.not_eq_false, Bool.and_eq_true, decide_eq_true_eq] at hij
      exact hoff ⟨hij.1 ▸ hx, hij.2 ▸ hy⟩
    simpa only [hmiss, Bool.or_false] using h

def passed (x y r c : Nat) (i : BitVec 6) (j : BitVec 5) : Bool :=
  decide (x ≤ i.toNat ∧ i.toNat < x + 8 ∧ y ≤ j.toNat ∧
    (j.toNat < y + r ∨ j.toNat = y + r ∧ i.toNat < x + c))

section

variable {x y r c : Nat} {i : BitVec 6} {j : BitVec 5}

theorem passed_start : passed x y 0 0 i j = false := by
  rw [passed, decide_eq_false_iff_not]
  omega

theorem passed_here (hi : i.toNat = x + c) (hj : j.toNat = y + r) : passed x y r c i j = false := by
  rw [passed, decide_eq_false_iff_not]
  omega

theorem passed_row_end : passed x y r 8 i j = passed x y (r + 1) 0 i j := by
  rw [passed, passed, decide_eq_decide]
  omega

theorem passed_succ (hc : c < 8) :
    passed x y r (c + 1) i j =
      (passed x y r c i j || (decide (i.toNat = x + c) && decide (j.toNat = y + r))) := by
  rw [passed, passed, ← Bool.decide_and, ← Bool.decide_or, decide_eq_decide]
  omega

end

def reached (lit : Nat → Nat → Bool) (x y r c : Nat) (i : BitVec 6) (j : BitVec 5) : Bool :=
  passed x y r c i j && lit (j.toNat - y) (i.toNat - x)

variable {lit : Nat → Nat → Bool} {x y r c : Nat}

theorem reached_row_end : reached lit x y r 8 = reached lit x y (r + 1) 0 := by
  funext i j
  rw [reached, reached, passed_row_end]

theorem reached_succ (hc : c < 8) :
    reached lit x y r (c + 1) = fun i j => reached lit x y r c i j ||
      (lit r c && (decide (i.toNat = x + c) && decide (j.toNat = y + r))) := by
  funext i j
  have hlit : ((decide (i.toNat = x + c) && decide (j.toNat = y + r)) &&
      lit (j.toNat - y) (i.toNat - x)) =
      (lit r c && (decide (i.toNat = x + c) && decide (j.toNat = y + r))) := by
    by_cases hij : i.toNat = x + c ∧ j.toNat = y + r
    · rw [hij.1, hij.2, Nat.add_sub_cancel_left, Nat.add_sub_cancel_left, Bool.and_comm]
    · rw [← Bool.decide_and, decide_eq_false hij, Bool.false_and, Bool.and_false]
  rw [reached, reached, passed_succ hc, Bool.and_or_distrib_right, hlit]

theorem Flips.columns (h : Flips s (reached lit x y r 0) d) {n : Nat} (hn : n ≤ 8) :
    Flips s (reached lit x y r n) (d.columns lit x y r n) := by
  induction n with
  | zero => exact h
  | succ n ih =>
    have hd := ih (Nat.le_of_succ_le hn)
    rw [Drawing.columns, List.range_succ, List.foldl_append, reached_succ hn]
    change Flips s _ (if lit r n then (d.columns lit x y r n).touch (x + n) (y + r)
      else d.columns lit x y r n)
    cases hlit : lit r n with
    | false => simpa using hd
    | true =>
      -- The loop is just arriving at this pixel, so it has not been flipped before.
      have hnew := hd.touch (x + n) (y + r) fun i j hi hj => by
        rw [reached, passed_here hi hj, Bool.false_and]
      simpa using hnew

theorem flips_rows (s : Screen) (lit : Nat → Nat → Bool) (x y n : Nat) :
    Flips s (reached lit x y n 0) (rows lit x y n ⟨s, false⟩) := by
  induction n with
  | zero =>
    constructor
    · intro i j
      simp [rows, reached, passed_start]
    · simp [rows, reached, passed_start]
  | succ n ih =>
    rw [Drawing.rows, List.range_succ, List.foldl_append, ← reached_row_end]
    exact ih.columns (Nat.le_refl 8)

end Drawing

/-- The set of all lit pixels is the sprite. -/
theorem reached_eq_sprite (m : Machine) (x y : Nat) (n : Nibble) :
    Drawing.reached m.lit x y n.toNat 0 =
      (Screen.sprite m.memory (addressOf m.index) x y n.toNat).pixel := by
  funext i j
  have hn := n.isLt
  rw [Screen.pixel_sprite, Drawing.reached, Drawing.passed, Machine.lit]
  by_cases hin : x ≤ i.toNat ∧ i.toNat < x + 8 ∧ y ≤ j.toNat ∧ j.toNat < y + n.toNat
  · have haddr : addressOf m.index + BitVec.ofNat 12 (min ((j.toNat : Int) - y) 15).toNat =
        BitVec.ofNat 12 (m.index.toNat + (j.toNat - y)) := by
      have hrow : (min ((j.toNat : Int) - y) 15).toNat = j.toNat - y := by omega
      rw [hrow, addressOf, ← BitVec.ofNat_toNat, BitVec.ofNat_add]
    have hcol : ((i.toNat : Int) - x).toNat = i.toNat - x := by omega
    have h8 : i.toNat - x < 8 := by omega
    rw [haddr, hcol, BitVec.getMsbD_eq_getLsbD, decide_eq_true h8, decide_eq_true (by omega),
      decide_eq_true (by omega)]
    simp
  · rw [decide_eq_false (by omega), decide_eq_false (by omega), Bool.false_and, Bool.false_and]

theorem drawSprite_eq_drawPixels (m : Machine) (x y n : Nibble) :
    m.drawSprite x y n = m.drawPixels x y n := by
  have hflips := Drawing.flips_rows m.screen m.lit ((m.register x).toNat % screenWidth)
    ((m.register y).toNat % screenHeight) n.toNat
  rw [reached_eq_sprite] at hflips
  obtain ⟨hscreen, herased⟩ := hflips.eq_xor
  rw [Machine.drawPixels, hscreen, herased]
  rfl

theorem execute_draw (m : Machine) (x y n : Nibble) :
    m.execute (wordOf 0xD x y n) = .ok (m.drawPixels x y n) := by
  rw [Machine.execute, Machine.decode, ofWord?_draw]
  change Except.ok (m.drawSprite _ _ _) = _
  rw [Instruction.x_wordOf, Instruction.y_wordOf, Instruction.n_wordOf, drawSprite_eq_drawPixels]

end Chip8
