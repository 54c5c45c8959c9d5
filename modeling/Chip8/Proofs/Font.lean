import Chip8.Proofs.Draws
import Chip8.Proofs.Image
import Chip8.Proofs.Redraw

/-! The font. What lies below the place where programs start is written by no load, only by the instructions that
store something. So the font stays in place for as long as none of them stores into it, and while it is there, a
digit is drawn by pointing the index at its glyph and drawing five rows. -/

namespace Chip8

def Instruction.stored (i : Instruction) : Nat :=
  match i.form with
  | .decimal => 3
  | .store => i.x.toNat + 1
  | _ => 0

theorem Instruction.storesAt_iff {i : Instruction} {m : Machine} {p : Address} :
    i.StoresAt m p ↔ ∃ k < i.stored, p = BitVec.ofNat 12 (m.index.toNat + k) := by
  unfold StoresAt stored
  cases i.form <;> simp [Nat.lt_succ_iff]

namespace Machine

variable {m : Machine} {a : Action} {as : List Action} {p : Address}

theorem get_memory_respond (hp : p.toNat < programStart)
    (hc : ∀ c, m.commit? a = some c → ¬ c.instruction.StoresAt c.before p) :
    (m.respond a).2.memory.get p = m.memory.get p := by
  cases hm : m.commit? a with
  | some c =>
    obtain ⟨hbefore, -, hn⟩ := commit?_eq_some_iff.mp hm
    have hno : ¬ c.instruction.StoresAt (m.performer a) p := by
      rw [performer_eq, ← hbefore]
      exact hc c hm
    rw [respond_of_commit? hm, (perform_footprint hn).memory p hno, performer_eq]
  | none =>
    have hn := uncommitted_respond hm
    generalize (m.respond a).2 = n at hn ⊢
    cases hn with
    | nothing => rfl
    | tick => rfl
    | hold k pressed => rfl
    | deliver k =>
      unfold deliver
      cases m.awaiting <;> rfl
    | load program hload =>
      obtain rfl := load_eq_ok hload
      exact (installs_loaded (length_le_of_load hload) m).outside p (.inl hp)

theorem get_memory_after (hp : p.toNat < programStart)
    (hc : ∀ c ∈ m.commits as, ¬ c.instruction.StoresAt c.before p) :
    (m.after as).memory.get p = m.memory.get p :=
  after_of_commits (I := fun n => n.memory.get p = m.memory.get p)
    (fun _ _ hfree hn => (get_memory_respond hp hfree).trans hn) hc rfl

def HoldsFont (m : Machine) : Prop := m.memory.window (BitVec.ofNat 12 fontStart) 0x50 = font

theorem holdsFont_powerOn (seed : Int) (dialect : Dialect) : (powerOn seed dialect).HoldsFont := by
  have hlength : font.length ≤ 2 ^ 12 := by decide
  exact Table.window_patch (Table.replicate 12 0) (BitVec.ofNat 12 fontStart) hlength

theorem holdsFont_after (hm : m.HoldsFont)
    (hc : ∀ c ∈ m.commits as, ∀ p, c.instruction.StoresAt c.before p → 0x50 ≤ p.toNat) :
    (m.after as).HoldsFont := by
  refine Eq.trans (Table.window_congr fun k hk => ?_) hm
  have hplace : (BitVec.ofNat 12 fontStart + BitVec.ofNat 12 k).toNat = k := by
    rw [← BitVec.ofNat_add, fontStart, Nat.zero_add, BitVec.toNat_ofNat]
    omega
  apply get_memory_after
  · rw [hplace, programStart]
    omega
  · intro c hcommit hstore
    have hbeyond := hc c hcommit _ hstore
    omega

/-- A lit bit of the glyph for `d` falls on the pixel, if the glyph is placed where two registers say. -/
def GlyphCovers (m : Machine) (d x y : Nibble) (i : BitVec 6) (j : BitVec 5) : Prop :=
  ∃ r < 5, ∃ c < 8, (∃ row, font[5 * d.toNat + r]? = some row ∧ row.getLsbD (7 - c) = true) ∧
    i.toNat = (m.register x).toNat % 64 + c ∧ j.toNat = (m.register y).toNat % 32 + r

theorem execute_glyph (m : Machine) (x : Nibble) :
    m.execute (wordOf 0xF x 0x2 0x9) =
      .ok { m with index := BitVec.ofNat 16 (fontStart + (m.register x).toNat * glyphSize) } := by
  rw [execute_of_ofWord? (ofWord?_misc x 0x2 0x9 rfl), perform, Instruction.x_wordOf]

theorem getElem?_font (hm : m.HoldsFont) {k : Nat} (hk : k < 0x50) :
    font[k]? = some (m.memory.get (BitVec.ofNat 12 k)) := by
  have hget := Table.getElem?_window m.memory (BitVec.ofNat 12 fontStart) hk
  rwa [hm, ← BitVec.ofNat_add, fontStart, Nat.zero_add] at hget

variable {d x y : Nibble} {i : BitVec 6} {j : BitVec 5}

theorem covers_glyph (hm : m.HoldsFont) :
    { m with index := BitVec.ofNat 16 (fontStart + d.toNat * glyphSize) }.Covers x y 5 i j ↔
      m.GlyphCovers d x y i j := by
  have hd := d.isLt
  have hindex : (BitVec.ofNat 16 (fontStart + d.toNat * glyphSize)).toNat = 5 * d.toNat := by
    rw [fontStart, glyphSize, BitVec.toNat_ofNat]
    omega
  refine exists_congr fun r => and_congr_right fun hr => exists_congr fun c => and_congr_right fun hc => ?_
  have hr5 : r < 5 := hr
  have hlit : { m with index := BitVec.ofNat 16 (fontStart + d.toNat * glyphSize) }.lit r c = true ↔
      ∃ row, font[5 * d.toNat + r]? = some row ∧ row.getLsbD (7 - c) = true := by
    rw [lit, hindex, getElem?_font hm (by omega)]
    simp
  rw [hlit]
  rfl

/-- The two words that draw a digit flip the pixels of its glyph and no others. -/
theorem draw_glyph (hm : m.HoldsFont) {z : Nibble} (hz : (m.register z).toNat = d.toNat) (x y : Nibble) :
    ∃ k l, m.execute (wordOf 0xF z 0x2 0x9) = .ok k ∧ k.execute (wordOf 0xD x y 0x5) = .ok l ∧
      ∀ i j, l.screen.pixel i j ≠ m.screen.pixel i j ↔ m.GlyphCovers d x y i j := by
  refine ⟨_, _, execute_glyph m z, execute_drawSprite _ x y 5, fun i j => ?_⟩
  rw [screen_drawSprite, Screen.pixel_xor, hz, ← covers_glyph hm, ← pixel_spriteAt]
  generalize spriteAt _ x y 5 = t
  cases m.screen.pixel i j <;> cases t.pixel i j <;> decide

end Machine

namespace Session

variable {settings : Settings} {journal : Journal} {notifies : Bool} {limit : Option Nat} {s : Session}
  {past rs : List Request}

/-- The font survives whatever a session is asked for since its creation or the last reset, unless an instruction
stores into it. As long as it is there, any register that holds a digit can be used to draw the digit's glyph at
any position. -/
theorem font_survives (hs : create settings journal notifies limit = .ok s)
    (hpast : past = [] ∨ past.getLast? = some .reset) (hrs : .reset ∉ rs)
    (hfont : ∀ c ∈ (s.after past).commits rs, ∀ p, c.instruction.StoresAt c.before p → 0x50 ≤ p.toNat) :
    let m := ((s.after past).after rs).machine
    m.memory.window (BitVec.ofNat 12 fontStart) 0x50 = font ∧
      ∀ d x y z : Nibble, (m.register z).toNat = d.toNat →
        ∃ k l, m.execute (wordOf 0xF z 0x2 0x9) = .ok k ∧ k.execute (wordOf 0xD x y 0x5) = .ok l ∧
          ∀ i j, l.screen.pixel i j ≠ m.screen.pixel i j ↔ m.GlyphCovers d x y i j := by
  intro m
  obtain ⟨as, has, hcommits⟩ := exists_actions (s := s.after past) hrs
  have hstart : (s.after past).machine.HoldsFont := by
    rw [machine_of_fresh hs hpast]
    exact Machine.holdsFont_powerOn _ _
  have hm : m.HoldsFont := by
    rw [hcommits] at hfont
    have hafter := Machine.holdsFont_after hstart hfont
    rwa [← has.machine] at hafter
  exact ⟨hm, fun d x y z hz => Machine.draw_glyph hm hz x y⟩

/-- Before the reset a register is stored into the font. After it three registers are stored right behind the font
and the digits of a number in the last three cells of memory, and what comes next is a fault. The flag register
gives both coordinates of the glyph. -/
theorem font_survives_bordered :
    let s := around (Machine.powerOn 0 {})
    let past : List Request := [.call (.load [0xF0, 0x55]), .call .step, .reset]
    let rs : List Request :=
      .call (.load [0x6A, 0x0B, 0xA0, 0x50, 0xF2, 0x55, 0xAF, 0xFD, 0xFA, 0x33]) ::
        List.replicate 5 (.call .step) ++ [.call (.loadData [.int 256]), .tick, .call (.press (.int 3)), .call .step]
    let m := ((s.after past).after rs).machine
    create {} s.journal false = .ok s ∧ (past = [] ∨ past.getLast? = some .reset) ∧ .reset ∉ rs ∧
      (∀ c ∈ (s.after past).commits rs, ∀ p, c.instruction.StoresAt c.before p → 0x50 ≤ p.toNat) ∧
      m.memory.window (BitVec.ofNat 12 fontStart) 0x50 = font ∧
      (m.register 0xA).toNat = (0xB : Nibble).toNat ∧
      ∃ k l, m.execute (wordOf 0xF 0xA 0x2 0x9) = .ok k ∧ k.execute (wordOf 0xD 0xF 0xF 0x5) = .ok l ∧
        ∀ i j, l.screen.pixel i j ≠ m.screen.pixel i j ↔ m.GlyphCovers 0xB 0xF 0xF i j := by
  intro s past rs m
  have hs : create {} s.journal false = .ok s := rfl
  have hpast : past = [] ∨ past.getLast? = some .reset := .inr rfl
  have hrs : .reset ∉ rs := by simp [rs]
  have hcells : ∀ c ∈ (s.after past).commits rs, ∀ k < c.instruction.stored,
      0x50 ≤ (BitVec.ofNat 12 (c.before.index.toNat + k)).toNat := by decide +kernel
  have hfont : ∀ c ∈ (s.after past).commits rs, ∀ p, c.instruction.StoresAt c.before p →
      0x50 ≤ p.toNat := by
    intro c hc p hp
    obtain ⟨k, hk, rfl⟩ := Instruction.storesAt_iff.mp hp
    exact hcells c hc k hk
  have hdigit : (m.register 0xA).toNat = (0xB : Nibble).toNat := by decide +kernel
  obtain ⟨hm, hglyph⟩ := font_survives hs hpast hrs hfont
  exact ⟨hs, hpast, hrs, hfont, hm, hdigit, hglyph 0xB 0xF 0xF 0xA hdigit⟩

end Session
end Chip8
