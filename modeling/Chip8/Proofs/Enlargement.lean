import Chip8.Picture
import Chip8.Proofs.Execution
import Mathlib.Tactic.Common

/-! Pictures as enlarged displays. A display is given by its pixels, column first, and a picture by its points, row
first. A picture that is rendered has a square of points for every pixel, in the colour of the pixel. What can be
wrong is the scale, and after it a component of the two colours, the first one that no byte holds. Last of all the scale
may be no word of the host. -/

namespace Chip8

def Bitmap.pixel? (b : Bitmap) (x y : Nat) : Option Bool := (b[y]?).bind fun row => row[x]?

def Palette.colour (p : Palette) (bit : Bool) : Colour := if bit then p.on else p.off

namespace Picture

def point? (p : Picture) (i j : Nat) : Option Colour := (p[i]?).bind fun row => row[j]?

def Ink.components (k : Ink) : List Int := [k.red, k.green, k.blue]

def overflows (n : Int) : Bool := n < 0 || 255 < n

/-- The first component of two inks that no byte holds. -/
def outOfRange? (on off : Ink) : Option Int := (on.components ++ off.components).find? overflows

/-- Every pixel of a display is a square of `n` by `n` points, in one ink if it is set and in another if not. -/
structure Enlarges (p : Picture) (d : Display) (n : Nat) (on off : Ink) : Prop where
  height : p.length = d.height * n
  width : ∀ row ∈ p, row.length = d.width * n
  point : ∀ (x : Fin d.width) (y : Fin d.height) (i j : Nat), j / n = x → i / n = y →
    ∃ c, p.point? i j = some c ∧ Ink.ofColour c = if d.pixel x y then on else off

/-- Every point of `p` is a square of `n` by `n` points in `q`. -/
structure Repeats (n : Nat) (p q : Picture) : Prop where
  height : q.length = p.length * n
  point : ∀ i j, q.point? i j = p.point? (i / n) (j / n)

end Picture

/-- The host can count the bytes of the picture, three for each point. -/
def Display.Fits (d : Display) (scale : Int) : Prop :=
  fitsSigned 64 scale = true ∧ fitsSigned 64 (3 * (d.height * scale) * (d.width * scale)) = true

namespace Picture

section

variable {α : Type} {n : Nat}

theorem length_stretch (n : Nat) (xs : List α) : (stretch n xs).length = xs.length * n := by
  rw [stretch, List.length_flatMap]
  simp only [List.length_replicate, List.map_const', List.sum_replicate_nat]

theorem getElem?_stretch (hn : 0 < n) (xs : List α) (i : Nat) : (stretch n xs)[i]? = xs[i / n]? := by
  induction xs generalizing i with
  | nil => rfl
  | cons a xs ih =>
    have hcons : stretch n (a :: xs) = List.replicate n a ++ stretch n xs := rfl
    rw [hcons]
    by_cases hi : i < n
    · rw [List.getElem?_append_left (by simpa using hi), List.getElem?_replicate_of_lt hi,
        Nat.div_eq_of_lt hi]
      rfl
    · have hin : n ≤ i := Nat.le_of_not_lt hi
      rw [List.getElem?_append_right (by simpa using hin), List.length_replicate, ih,
        Nat.div_eq_sub_div hn hin, List.getElem?_cons_succ]

end

section

variable {b : Bitmap} {p : Palette} {n : Nat}

theorem length_paint (p : Palette) (n : Nat) (b : Bitmap) : (paint p n b).length = b.length * n := by
  rw [paint, length_stretch, List.length_map]

theorem length_row_paint {w : Nat} (hb : ∀ row ∈ b, row.length = w) {row : List Colour}
    (hrow : row ∈ paint p n b) : row.length = w * n := by
  obtain ⟨stretched, hstretched, hmem⟩ := List.mem_flatMap.mp hrow
  obtain ⟨bits, hbits, rfl⟩ := List.mem_map.mp hstretched
  rw [List.eq_of_mem_replicate hmem, length_stretch, List.length_map, hb bits hbits]

theorem point?_paint (hn : 0 < n) (p : Palette) (b : Bitmap) (i j : Nat) :
    (paint p n b).point? i j = (b.pixel? (j / n) (i / n)).map p.colour := by
  rw [point?, paint, getElem?_stretch hn, List.getElem?_map, Bitmap.pixel?]
  cases b[i / n]? with
  | none => rfl
  | some row =>
    simp only [Option.map_some, Option.bind_some]
    rw [getElem?_stretch hn, List.getElem?_map]
    rfl

theorem repeats_paint {a : Nat} (ha : 0 < a) (hn : 0 < n) :
    Repeats n (paint p a b) (paint p (a * n) b) where
  height := by rw [length_paint, length_paint, Nat.mul_assoc]
  point i j := by
    rw [point?_paint (Nat.mul_pos ha hn), point?_paint ha, Nat.div_div_eq_div_mul,
      Nat.div_div_eq_div_mul, Nat.mul_comm n a]

end

section

variable {d : Display}

/-- Rows and columns of the bitmap are those of the display, in the other order. -/
theorem pixel?_rows (x : Fin d.width) (y : Fin d.height) : d.rows.pixel? x y = some (d.pixel x y) := by
  simp [Display.rows, Bitmap.pixel?]

theorem enlarges_paint {p : Palette} {n : Nat} (hn : 0 < n) :
    (paint p n d.rows).Enlarges d n (Ink.ofColour p.on) (Ink.ofColour p.off) where
  height := by rw [length_paint, Display.rows, List.length_ofFn]
  width row hrow := by
    refine length_row_paint (fun bits hbits => ?_) hrow
    obtain ⟨y, rfl⟩ := List.mem_ofFn.mp hbits
    exact List.length_ofFn
  point x y i j hj hi := by
    refine ⟨p.colour (d.pixel x y), ?_, apply_ite Ink.ofColour _ _ _⟩
    rw [point?_paint hn, hi, hj, pixel?_rows]
    rfl

end

theorem component_cases (n : Int) :
    overflows n = true ∧ Colour.component n = .error (Colour.componentError n) ∨
      overflows n = false ∧ ∃ c, Colour.component n = .ok c ∧ (c.toNat : Int) = n := by
  unfold overflows Colour.component
  by_cases hn : 0 ≤ n ∧ n < 256
  · obtain ⟨k, rfl⟩ := Int.eq_ofNat_of_zero_le hn.1
    refine .inr ⟨by simp; omega, BitVec.ofNat 8 k, ?_, ?_⟩
    · simp [hn]
    · rw [BitVec.toNat_ofNat, Nat.mod_eq_of_lt (by omega)]
  · refine .inl ⟨by simp; omega, ?_⟩
    rw [if_neg (by simpa using hn)]

theorem toColour_cases (i : Ink) :
    (∃ n, i.components.find? overflows = some n ∧ i.toColour = .error (Colour.componentError n)) ∨
      i.components.find? overflows = none ∧ ∃ c, i.toColour = .ok c ∧ Ink.ofColour c = i := by
  obtain ⟨red, green, blue⟩ := i
  simp only [Ink.components, Ink.toColour, Colour.ofComponents]
  rcases component_cases red with ⟨hred, hr⟩ | ⟨hred, r, hr, rfl⟩
  · exact .inl ⟨red, by rw [List.find?_cons_of_pos hred], by rw [hr]; rfl⟩
  rcases component_cases green with ⟨hgreen, hg⟩ | ⟨hgreen, g, hg, rfl⟩
  · exact .inl ⟨green, by simp [hred, hgreen], by rw [hr, hg]; rfl⟩
  rcases component_cases blue with ⟨hblue, hb⟩ | ⟨hblue, b, hb, rfl⟩
  · exact .inl ⟨blue, by simp [hred, hgreen, hblue], by rw [hr, hg, hb]; rfl⟩
  · exact .inr ⟨by simp [hred, hgreen, hblue], ⟨r, g, b⟩, by rw [hr, hg, hb]; rfl, rfl⟩

section

variable {d : Display} {scale n : Int} {on off : Ink}

theorem render_of_small (h : scale < 1) : render d scale on off = .error (.smallScale scale) := by
  rw [render, checkScale, if_pos h]
  rfl

theorem render_of_pos (h : 1 ≤ scale) : render d scale on off = (do
    let on ← on.toColour
    let off ← off.toColour
    let scale ← repeats scale
    return paint ⟨on, off⟩ scale d.rows) := by
  rw [render, checkScale, if_neg (Int.not_lt.mpr h)]
  rfl

theorem render_of_outOfRange (hscale : 1 ≤ scale) (h : outOfRange? on off = some n) :
    render d scale on off = .error (Colour.componentError n) := by
  rw [outOfRange?, List.find?_append] at h
  rw [render_of_pos hscale]
  rcases toColour_cases on with ⟨k, hk, hon⟩ | ⟨hnone, c, hon, -⟩
  · rw [hk, Option.some_or, Option.some_inj] at h
    rw [hon, h]
    rfl
  rw [hnone, Option.none_or] at h
  rcases toColour_cases off with ⟨k, hk, hoff⟩ | ⟨hnone', -⟩
  · rw [hk, Option.some_inj] at h
    rw [hon, hoff, h]
    rfl
  · rw [hnone'] at h
    cases h

theorem render_of_inRange (h : outOfRange? on off = none) :
    ∃ p : Palette, Ink.ofColour p.on = on ∧ Ink.ofColour p.off = off ∧
      ∀ (d : Display) (scale : Int), 1 ≤ scale →
        render d scale on off = (repeats scale).map fun n => paint p n d.rows := by
  rw [outOfRange?, List.find?_append, Option.or_eq_none_iff] at h
  rcases toColour_cases on with ⟨k, hk, -⟩ | ⟨-, c, hc, hon⟩
  · rw [hk] at h
    cases h.1
  rcases toColour_cases off with ⟨k, hk, -⟩ | ⟨-, c', hc', hoff⟩
  · rw [hk] at h
    cases h.2
  refine ⟨⟨c, c'⟩, hon, hoff, fun d scale hscale => ?_⟩
  rw [render_of_pos hscale, hc, hc']
  cases repeats scale <;> rfl

theorem render_of_wide (hscale : 1 ≤ scale) (h : outOfRange? on off = none)
    (hwide : fitsSigned 64 scale = false) : render d scale on off = .error .wideNumber := by
  obtain ⟨p, -, -, hrender⟩ := render_of_inRange h
  rw [hrender d scale hscale, repeats, hwide]
  rfl

end

theorem Enlarges.pixel_iff {n : Nat} {p : Picture} {d : Display} {on off : Ink} (hp : p.Enlarges d n on off)
    (hn : 0 < n) (hinks : on ≠ off) (x : Fin d.width) (y : Fin d.height) :
    d.pixel x y = true ↔ (p.point? (y * n) (x * n)).map Ink.ofColour = some on := by
  obtain ⟨c, hc, hink⟩ := hp.point x y (y * n) (x * n) (Nat.mul_div_cancel _ hn) (Nat.mul_div_cancel _ hn)
  rw [hc, Option.map_some, hink, Option.some_inj]
  cases d.pixel x y with
  | true => simp
  | false => simpa using hinks.symm

/-- For every display, every scale and all inks it is decided what is wrong, and if nothing is, the picture is the
display enlarged. A picture at a product of scales repeats the points of the one at the first factor, and two inks
that differ tell the pixels that are set from the others. -/
theorem render_enlarges (d : Display) (on off : Ink) :
    let rendered (scale : Int) := render d scale on off
    (∀ scale, scale < 1 → rendered scale = .error (.smallScale scale)) ∧
      (∀ scale n, 1 ≤ scale → outOfRange? on off = some n →
        rendered scale = .error (Colour.componentError n)) ∧
      (outOfRange? on off = none → ∀ scale, 1 ≤ scale →
        (fitsSigned 64 scale = false → rendered scale = .error .wideNumber) ∧
        (d.Fits scale → ∃ p, rendered scale = .ok p ∧ p.Enlarges d scale.toNat on off ∧
          (∀ n, 1 ≤ n → d.Fits (scale * n) → ∃ q, rendered (scale * n) = .ok q ∧ Repeats n.toNat p q) ∧
          (on ≠ off → ∀ (x : Fin d.width) (y : Fin d.height), d.pixel x y = true ↔
            (p.point? (y * scale.toNat) (x * scale.toNat)).map Ink.ofColour = some on))) := by
  refine ⟨fun _ => render_of_small, fun _ _ => render_of_outOfRange, fun hrange scale hscale =>
    ⟨render_of_wide hscale hrange, fun hfits => ?_⟩⟩
  obtain ⟨p, rfl, rfl, hrender⟩ := render_of_inRange hrange
  have hpos : 0 < scale.toNat := by omega
  have hpainted (a : Int) (ha : 1 ≤ a) (hfits : d.Fits a) :
      render d a (Ink.ofColour p.on) (Ink.ofColour p.off) = .ok (paint p a.toNat d.rows) := by
    rw [hrender d a ha, repeats, hfits.1]
    rfl
  have henlarges := enlarges_paint (d := d) (p := p) hpos
  refine ⟨_, hpainted scale hscale hfits, henlarges, fun n hn hmore => ?_,
    fun hinks => henlarges.pixel_iff hpos hinks⟩
  have hproduct : 1 ≤ scale * n := Int.mul_pos (by omega) (by omega)
  have htoNat : (scale * n).toNat = scale.toNat * n.toNat := Int.toNat_mul (by omega) (by omega)
  refine ⟨_, hpainted _ hproduct hmore, ?_⟩
  rw [htoNat]
  exact repeats_paint hpos (by omega)

def dot : Display where
  width := 1
  height := 1
  pixel _ _ := true

/-- A scale that is no word of the host is refused although nothing is wrong with the inks. -/
theorem render_not_enlarges : ¬ ∀ (d : Display) (scale : Int) (on off : Ink), 1 ≤ scale →
    outOfRange? on off = none → ∃ p, render d scale on off = .ok p ∧ p.Enlarges d scale.toNat on off := by
  intro h
  obtain ⟨p, hp, -⟩ := h dot 0x8000000000000000 ⟨232, 121, 249⟩ ⟨0, 0, 0⟩ (by decide) (by decide)
  rw [render_of_wide (by decide) (by decide) (by decide)] at hp
  cases hp

/-- The first of three components that no byte holds is reported, although no pixel is clear. -/
example : render dot 2 ⟨0, 0, 0⟩ ⟨0, 256, -1⟩ = .error (.componentRange 256) := rfl

end Picture
end Chip8
