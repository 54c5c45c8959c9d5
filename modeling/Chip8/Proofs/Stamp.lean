import Chip8.Proofs.Commit
import Chip8.Proofs.Redraw
import Mathlib.Algebra.Group.Nat.Even
import Mathlib.Data.List.Perm.Basic

/-! Drawing one sprite after another. A draw leaves memory and all registers but the flag as they are, so every
sprite is the one that the first machine would have drawn, and the screen shows them all laid over what it showed
before. Neither the order of the sprites matters nor a sprite that is drawn an even number of times. -/

namespace Chip8

/-- A sprite that is drawn by two words: the first points the index at its rows, and the second names two
registers with its position, neither of them the flag register. -/
structure Stamp where
  address : Address
  x : Nibble
  y : Nibble
  height : Nibble
  x_ne : x ≠ flagRegister := by decide
  y_ne : y ≠ flagRegister := by decide
deriving DecidableEq

namespace Stamp

def actions (b : Stamp) : List Action :=
  [.execute ↑(0xA000 + b.address.toNat), .execute (wordOf 0xD b.x b.y b.height)]

def sprite (b : Stamp) (m : Machine) : Screen :=
  Screen.sprite m.memory b.address ↑((m.register b.x).toNat % screenWidth)
    ↑((m.register b.y).toNat % screenHeight) b.height.toNat

end Stamp

def stamping (bs : List Stamp) : List Action := bs.flatMap Stamp.actions

namespace Screen

instance : RightCommutative xor := ⟨xor_right_comm⟩

theorem foldl_xor_replicate_even {k : Nat} (hk : Even k) (s t : Screen) :
    (List.replicate k t).foldl xor s = s := by
  obtain ⟨r, rfl⟩ := hk
  induction r generalizing s with
  | zero => rfl
  | succ r ih =>
    have hsucc : r + 1 + (r + 1) = r + r + 1 + 1 := by omega
    rw [hsucc, List.replicate_succ, List.replicate_succ, List.foldl_cons, List.foldl_cons,
      xor_xor_cancel, ih]

end Screen

namespace Machine

variable {m n : Machine}

structure SameSprites (m n : Machine) : Prop where
  memory : n.memory = m.memory
  registers : ∀ r, r ≠ flagRegister → n.register r = m.register r

theorem SameSprites.sprite_eq (h : m.SameSprites n) (b : Stamp) : b.sprite n = b.sprite m := by
  rw [Stamp.sprite, Stamp.sprite, h.memory, h.registers b.x b.x_ne, h.registers b.y b.y_ne]

theorem execute_loadIndex (m : Machine) (a : Address) :
    m.execute ↑(0xA000 + a.toNat) = .ok { m with index := a.setWidth 16 } := by
  rw [execute_of_ofWord? (ofWord?_loadIndex a), perform, Instruction.nnn_loadIndex]

theorem sameSprites_drawSprite (m : Machine) (x y k : Nibble) : m.SameSprites (m.drawSprite x y k) where
  memory := by
    rw [drawSprite_eq]
    rfl
  registers _ hr := register_drawSprite_of_ne hr

/-- A stamp can always be drawn. It comes out on the screen, and all others come out as before. -/
theorem draw_stamp (m : Machine) (b : Stamp) (as : List Action) :
    ∃ n : Machine, (m.Succeeds (b.actions ++ as) ↔ n.Succeeds as) ∧
      m.after (b.actions ++ as) = n.after as ∧ m.SameSprites n ∧ n.screen = m.screen.xor (b.sprite m) := by
  let k := { m with index := b.address.setWidth 16 }
  have hload : m.respond (.execute ↑(0xA000 + b.address.toNat)) = (none, k) :=
    respond_execute (execute_loadIndex m b.address)
  have hdraw : k.respond (.execute (wordOf 0xD b.x b.y b.height)) =
      (none, k.drawSprite b.x b.y b.height) := respond_execute (execute_drawSprite k b.x b.y b.height)
  have hsprite : k.spriteAt b.x b.y b.height = b.sprite m := by
    have haddress : addressOf (b.address.setWidth 16) = b.address := by
      rw [addressOf, BitVec.setWidth_setWidth_of_le _ (by decide), BitVec.setWidth_eq]
    rw [spriteAt, Stamp.sprite, ← haddress]
    rfl
  have hsame := sameSprites_drawSprite k b.x b.y b.height
  refine ⟨_, ?_, ?_, ⟨hsame.memory, hsame.registers⟩, ?_⟩
  · simp only [Stamp.actions, List.cons_append, List.nil_append, succeeds_cons, hload, hdraw, true_and]
  · simp only [Stamp.actions, List.cons_append, List.nil_append, after, List.foldl_cons, hload, hdraw]
  · rw [screen_drawSprite, hsprite]

theorem draw_stamps (m : Machine) (bs : List Stamp) :
    m.Succeeds (stamping bs) ∧
      (m.after (stamping bs)).screen = (bs.map (·.sprite m)).foldl Screen.xor m.screen := by
  induction bs generalizing m with
  | nil => exact ⟨List.forall_mem_nil _, rfl⟩
  | cons b bs ih =>
    obtain ⟨n, hsucceeds, hafter, hsame, hscreen⟩ := draw_stamp m b (stamping bs)
    obtain ⟨hrest, hscreens⟩ := ih n
    have hcons : stamping (b :: bs) = b.actions ++ stamping bs := List.flatMap_cons
    have hsprites : bs.map (·.sprite n) = bs.map (·.sprite m) := by simp only [hsame.sprite_eq]
    rw [hcons, hafter, hscreens, hsprites, hscreen, List.map_cons, List.foldl_cons]
    exact ⟨hsucceeds.mpr hrest, rfl⟩

/-- A list of stamps can be drawn in any order with the same picture, the one that was there before with the sprites
of all of them laid over it. A stamp that comes an even number of times may as well be left out. -/
theorem stamps_permute {bs cs : List Stamp} (h : bs.Perm cs) (m : Machine) :
    (∀ ds, m.Succeeds (stamping ds)) ∧
      (m.after (stamping bs)).screen = (m.after (stamping cs)).screen ∧
      (m.after (stamping bs)).screen = (bs.map (·.sprite m)).foldl Screen.xor m.screen ∧
      ∀ b, Even (bs.count b) →
        (m.after (stamping (bs.filter (· ≠ b)))).screen = (m.after (stamping bs)).screen := by
  refine ⟨fun ds => (draw_stamps m ds).1, ?_, (draw_stamps m bs).2, fun b hb => ?_⟩
  · rw [(draw_stamps m bs).2, (draw_stamps m cs).2]
    exact (h.map _).foldl_eq m.screen
  · have hperm : (List.replicate (bs.count b) b ++ bs.filter (· ≠ b)).Perm bs := by
      rw [← List.filter_eq]
      simpa using List.filter_append_perm (· = b) bs
    have hfold := (hperm.map (·.sprite m)).foldl_eq (f := Screen.xor) m.screen
    rw [List.map_append, List.foldl_append, List.map_replicate, Screen.foldl_xor_replicate_even hb] at hfold
    rw [(draw_stamps m _).2, (draw_stamps m bs).2, hfold]

/-- A glyph that is cut off in the corner comes twice, and of two sprites that overlap elsewhere one begins at the
end of memory and goes on in the font. -/
theorem stamps_permute_overlapping :
    let m := ((powerOn 0 {}).setRegister 1 126).setRegister 2 30
    let a : Stamp := { address := 0x000, x := 1, y := 2, height := 5 }
    let b : Stamp := { address := 0xFFE, x := 2, y := 3, height := 9 }
    let c : Stamp := { address := 0x00A, x := 2, y := 3, height := 5 }
    [a, b, a, c].Perm [c, a, b, a] ∧ Even ([a, b, a, c].count a) ∧
      (m.after (stamping [a, b, a, c])).screen = (m.after (stamping [c, a, b, a])).screen ∧
      (m.after (stamping [b, c])).screen = (m.after (stamping [a, b, a, c])).screen := by
  intro m a b c
  have hperm : [a, b, a, c].Perm [c, a, b, a] := by decide
  have heven : Even ([a, b, a, c].count a) := by decide
  have hrest : [a, b, a, c].filter (· ≠ a) = [b, c] := by decide
  obtain ⟨-, horder, -, hdrop⟩ := stamps_permute hperm m
  have hleft := hdrop a heven
  rw [hrest] at hleft
  exact ⟨hperm, heven, horder, hleft⟩

end Machine
end Chip8
