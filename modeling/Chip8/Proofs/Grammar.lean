import Chip8.Proofs.Digit
import Chip8.Proofs.Execution
import Chip8.Text.Numeral
import Mathlib.Data.List.Forall2

/-! The grammar of instructions. The pattern of a form fixes some of the four digits of a word and leaves the
others to the operands. Decoding looks a word up in tables that are keyed on its first digit, its last digit or
its last two; together the tables accept exactly what the patterns describe, and no word fits two patterns.
Only the low 16 bits of a word count, except that the two forms without operands stand for one word each. -/

namespace Chip8

def hexOf (w : Int) : List Nat :=
  let n := (w % 0x10000).toNat
  [n / 0x1000, n / 0x100 % 0x10, n / 0x10 % 0x10, n % 0x10]

/-- A letter of a pattern stands for any digit, every other character for itself. -/
def Fits (p : Char) (d : Nat) : Prop := p ∈ ['X', 'Y', 'N'] ∨ Text.hexDigits d = [p]

instance (p : Char) (d : Nat) : Decidable (Fits p d) := inferInstanceAs (Decidable (_ ∨ _))

namespace Form

def Matches (f : Form) (w : Int) : Prop := List.Forall₂ Fits f.pattern.toList (hexOf w)

/-- The word matches the pattern and, if the form has no operands, is no wider than the pattern. -/
def Accepts (f : Form) (w : Int) : Prop :=
  f.Matches w ∧ (f = .clear → w = 0x00E0) ∧ (f = .ret → w = 0x00EE)

instance (f : Form) (w : Int) : Decidable (f.Matches w) :=
  inferInstanceAs (Decidable (List.Forall₂ _ _ _))

instance (f : Form) (w : Int) : Decidable (f.Accepts w) := inferInstanceAs (Decidable (_ ∧ _))

end Form

def digitAt (w : Int) (k : Nat) : Nibble := (BitVec.ofInt 16 w).extractLsb' (4 * k) 4

theorem toNat_digitAt (w : Int) (k : Nat) :
    (digitAt w k).toNat = (w % 0x10000).toNat >>> (4 * k) % 0x10 := by
  rw [digitAt, BitVec.extractLsb'_toNat, BitVec.toNat_ofInt]
  rfl

theorem hexOf_eq (w : Int) :
    hexOf w = [digitAt w 3, digitAt w 2, digitAt w 1, digitAt w 0].map BitVec.toNat := by
  have htop : (w % 0x10000).toNat / 0x1000 = (w % 0x10000).toNat / 0x1000 % 0x10 := by omega
  simp only [hexOf, List.map_cons, List.map_nil, toNat_digitAt, Nat.shiftRight_eq_div_pow]
  rw [htop]
  simp

theorem emod_eq_digits (w : Int) : w % 0x10000 = 0x1000 * (digitAt w 3).toNat +
    0x100 * (digitAt w 2).toNat + 0x10 * (digitAt w 1).toNat + (digitAt w 0).toNat := by
  simp only [toNat_digitAt, Nat.shiftRight_eq_div_pow]
  omega

/-! ## What a pattern fixes -/

def Nibble.ofHex? : Char → Option Nibble
  | '0' => some 0x0
  | '1' => some 0x1
  | '2' => some 0x2
  | '3' => some 0x3
  | '4' => some 0x4
  | '5' => some 0x5
  | '6' => some 0x6
  | '7' => some 0x7
  | '8' => some 0x8
  | '9' => some 0x9
  | 'A' => some 0xA
  | 'B' => some 0xB
  | 'C' => some 0xC
  | 'D' => some 0xD
  | 'E' => some 0xE
  | 'F' => some 0xF
  | _ => none

open Nibble

theorem map_ofHex?_hexDigits :
    ∀ d : Nibble, (Text.hexDigits d.toNat).map ofHex? = [some d] := by decide

theorem hexDigits_eq_iff (d : Nibble) (p : Char) :
    Text.hexDigits d.toNat = [p] ↔ ofHex? p = some d := by
  constructor
  · intro h
    have hd := map_ofHex?_hexDigits d
    rw [h] at hd
    exact (List.cons.inj hd).1
  · intro h
    unfold ofHex? at h
    split at h
    all_goals
      cases h
      try rfl

def Agrees (o : Option Nibble) (d : Nibble) : Prop := ∀ e ∈ o, d = e

theorem fits_iff {p : Char} (hp : p ∈ ['X', 'Y', 'N'] ↔ ofHex? p = none) (d : Nibble) :
    Fits p d.toNat ↔ Agrees (ofHex? p) d := by
  rw [Fits, hp, hexDigits_eq_iff, Agrees]
  cases ofHex? p with
  | none => simp
  | some e => simp [eq_comm]

theorem forall₂_fits_iff {ps : List Char}
    (hps : ∀ p ∈ ps, p ∈ ['X', 'Y', 'N'] ↔ ofHex? p = none) (ds : List Nibble) :
    List.Forall₂ Fits ps (ds.map BitVec.toNat) ↔ List.Forall₂ Agrees (ps.map ofHex?) ds := by
  induction ps generalizing ds with
  | nil => cases ds <;> simp
  | cons p ps ih =>
    rw [List.forall_mem_cons] at hps
    cases ds with
    | nil => simp
    | cons d ds => simp only [List.map_cons, List.forall₂_cons, fits_iff hps.1, ih hps.2]

namespace Form

variable {f g : Form} {w : Int} {t d e : Nibble}

def fixed (f : Form) : List (Option Nibble) := f.pattern.toList.map ofHex?

theorem letters_pattern (f : Form) :
    ∀ p ∈ f.pattern.toList, p ∈ ['X', 'Y', 'N'] ↔ ofHex? p = none := by
  have h : f.pattern.toList.all fun p => decide (p ∈ ['X', 'Y', 'N'] ↔ ofHex? p = none) := by
    cases f with
    | skip c => cases c <;> decide
    | arithmetic o => cases o <;> decide
    | _ => decide
  simpa only [List.all_eq_true, decide_eq_true_eq] using h

theorem matches_iff : f.Matches w ↔
    List.Forall₂ Agrees f.fixed [digitAt w 3, digitAt w 2, digitAt w 1, digitAt w 0] := by
  rw [Matches, hexOf_eq, forall₂_fits_iff f.letters_pattern, fixed]

theorem matches_word {c : Nibble} (h : f.fixed = [some t, some c, some d, some e]) :
    f.Matches w ↔ digitAt w 3 = t ∧ digitAt w 2 = c ∧ digitAt w 1 = d ∧ digitAt w 0 = e := by
  simp [matches_iff, h, Agrees]

theorem matches_lead (h : f.fixed = [some t, none, none, none]) :
    f.Matches w ↔ digitAt w 3 = t := by
  simp [matches_iff, h, Agrees]

theorem matches_last (h : f.fixed = [some t, none, none, some e]) :
    f.Matches w ↔ digitAt w 3 = t ∧ digitAt w 0 = e := by
  simp [matches_iff, h, Agrees]

theorem matches_byte (h : f.fixed = [some t, none, some d, some e]) :
    f.Matches w ↔ digitAt w 3 = t ∧ digitAt w 1 = d ∧ digitAt w 0 = e := by
  simp [matches_iff, h, Agrees]

/-- Outside of family 0 the pattern says everything. -/
theorem accepts_of_matches (h : f.Matches w) (htop : digitAt w 3 ≠ 0) : f.Accepts w := by
  refine ⟨h, ?_, ?_⟩
  · rintro rfl
    exact absurd ((matches_word rfl).mp h).1 htop
  · rintro rfl
    exact absurd ((matches_word rfl).mp h).1 htop

theorem accepts_emod (h : f.Matches w) : f.Accepts (w % 0x10000) := by
  have hsame : f.Matches (w % 0x10000) := by
    rwa [Matches, hexOf, Int.emod_emod, ← hexOf]
  refine ⟨hsame, ?_, ?_⟩
  · rintro rfl
    obtain ⟨h3, h2, h1, h0⟩ := (matches_word rfl).mp h
    rw [emod_eq_digits, h3, h2, h1, h0]
    rfl
  · rintro rfl
    obtain ⟨h3, h2, h1, h0⟩ := (matches_word rfl).mp h
    rw [emod_eq_digits, h3, h2, h1, h0]
    rfl

/-! ## Decoding by the patterns -/

theorem top_eq (w : Int) : (BitVec.ofInt 16 w).extractLsb' 12 4 = digitAt w 3 := rfl

theorem last_eq (w : Int) : (BitVec.ofInt 16 w).extractLsb' 0 4 = digitAt w 0 := rfl

theorem byte_eq (w : Int) : (BitVec.ofInt 16 w).extractLsb' 0 8 = digitAt w 1 ++ digitAt w 0 := by
  have h : 4 = 0 + 4 := rfl
  exact (BitVec.extractLsb'_append_extractLsb'_eq_extractLsb' h).symm

theorem digits_of_append_eq {b : Byte} (h : d ++ e = b) :
    d = b.extractLsb' 4 4 ∧ e = b.extractLsb' 0 4 := by
  subst h
  exact ⟨BitVec.extractLsb'_append_eq_left.symm, BitVec.extractLsb'_append_eq_right.symm⟩

theorem matches_of_ofDigit? {o : Operation} (htop : digitAt w 3 = 0x8)
    (h : Operation.ofDigit? (digitAt w 0) = some o) : (arithmetic o).Matches w := by
  unfold Operation.ofDigit? at h
  split at h <;> cases h
  all_goals
    rename_i hlast
    exact (matches_last rfl).mpr ⟨htop, hlast⟩

theorem matches_of_ofKeyByte? (htop : digitAt w 3 = 0xE)
    (h : ofKeyByte? (digitAt w 1 ++ digitAt w 0) = some f) : f.Matches w := by
  unfold ofKeyByte? at h
  split at h <;> cases h
  all_goals
    rename_i hbyte
    exact (matches_byte rfl).mpr ⟨htop, digits_of_append_eq hbyte⟩

theorem matches_of_ofMiscByte? (htop : digitAt w 3 = 0xF)
    (h : ofMiscByte? (digitAt w 1 ++ digitAt w 0) = some f) : f.Matches w := by
  unfold ofMiscByte? at h
  split at h <;> cases h
  all_goals
    rename_i hbyte
    exact (matches_byte rfl).mpr ⟨htop, digits_of_append_eq hbyte⟩

theorem ifZero_eq_some_iff {n : Nibble} : g.ifZero n = some f ↔ n = 0 ∧ g = f := by
  unfold ifZero
  by_cases hn : n = 0
  · simp [hn]
  · rw [if_neg hn]
    exact iff_of_false nofun fun h => hn h.1

theorem accepts_of_ofWord? (h : ofWord? w = some f) : f.Accepts w := by
  simp only [ofWord?, top_eq, last_eq, byte_eq] at h
  -- One case for each first digit; in the families that are not named it decides alone.
  split at h
  case h_1 htop =>
    split_ifs at h with h0 h1
    · cases h
      subst w
      decide
    · cases h
      subst w
      decide
  case h_6 htop | h_10 htop =>
    obtain ⟨hlast, rfl⟩ := ifZero_eq_some_iff.mp h
    exact accepts_of_matches ((matches_last rfl).mpr ⟨htop, hlast⟩) (by rw [htop]; decide)
  case h_9 htop =>
    obtain ⟨o, ho, rfl⟩ := Option.map_eq_some_iff.mp h
    exact accepts_of_matches (matches_of_ofDigit? htop ho) (by rw [htop]; decide)
  case h_15 htop =>
    exact accepts_of_matches (matches_of_ofKeyByte? htop h) (by rw [htop]; decide)
  case h_16 =>
    have htop : digitAt w 3 = 0xF := by
      generalize digitAt w 3 = t at *
      decide +revert
    exact accepts_of_matches (matches_of_ofMiscByte? htop h) (by rw [htop]; decide)
  all_goals
    rename_i htop
    cases h
    exact accepts_of_matches ((matches_lead rfl).mpr htop) (by rw [htop]; decide)

theorem ofWord?_of_accepts (h : f.Accepts w) : ofWord? w = some f := by
  obtain ⟨hmatches, hclear, hret⟩ := h
  cases f with
  | clear =>
    rw [hclear rfl]
    rfl
  | ret =>
    rw [hret rfl]
    rfl
  | skip c =>
    cases c with
    | equalsByte | differsByte =>
      have htop := (matches_lead rfl).mp hmatches
      simp only [ofWord?, top_eq, htop]
      rfl
    | equals | differs =>
      obtain ⟨htop, hlast⟩ := (matches_last rfl).mp hmatches
      simp only [ofWord?, top_eq, last_eq, htop, hlast]
      rfl
    | held | released =>
      obtain ⟨htop, hbyte⟩ := (matches_byte rfl).mp hmatches
      simp only [ofWord?, top_eq, byte_eq, htop, hbyte]
      rfl
  | arithmetic o =>
    cases o
    all_goals
      obtain ⟨htop, hlast⟩ := (matches_last rfl).mp hmatches
      simp only [ofWord?, top_eq, last_eq, htop, hlast]
      rfl
  | jump | call | loadByte | addByte | loadIndex | jumpOffset | random | draw =>
    have htop := (matches_lead rfl).mp hmatches
    simp only [ofWord?, top_eq, htop]
    rfl
  | readDelay | awaitKey | setDelay | setSound | addIndex | glyph | decimal | store | load =>
    obtain ⟨htop, hbyte⟩ := (matches_byte rfl).mp hmatches
    simp only [ofWord?, top_eq, byte_eq, htop, hbyte]
    rfl

theorem matches_unique (hf : f.Matches w) (hg : g.Matches w) : f = g := by
  have hf' := ofWord?_of_accepts (accepts_emod hf)
  rw [ofWord?_of_accepts (accepts_emod hg)] at hf'
  exact (Option.some.inj hf').symm

end Form

namespace Instruction

variable {i : Instruction}

theorem hexOf_word (i : Instruction) :
    hexOf i.word = [(digitAt i.word 3).toNat, i.x.toNat, i.y.toNat, i.n.toNat] := hexOf_eq i.word

theorem toNat_nn (i : Instruction) : i.nn.toNat = 16 * i.y.toNat + i.n.toNat := by
  simp only [nn, y, n, BitVec.extractLsb'_toNat, Nat.shiftRight_eq_div_pow]
  omega

theorem toNat_nnn (i : Instruction) : i.nnn.toNat = 256 * i.x.toNat + i.nn.toNat := by
  simp only [nnn, x, nn, BitVec.extractLsb'_toNat, Nat.shiftRight_eq_div_pow]
  omega

theorem word_emod (i : Instruction) :
    i.word % 0x10000 = 0x1000 * (digitAt i.word 3).toNat + i.nnn.toNat := by
  have hdigits : i.word % 0x10000 = 0x1000 * (digitAt i.word 3).toNat +
      0x100 * i.x.toNat + 0x10 * i.y.toNat + i.n.toNat := emod_eq_digits i.word
  rw [hdigits, toNat_nnn, toNat_nn]
  omega

theorem ofWord?_eq_some_iff {w : Int} :
    Instruction.ofWord? w = some i ↔ i.word = w ∧ i.form.Accepts w := by
  rw [Instruction.ofWord?, Option.map_eq_some_iff]
  constructor
  · rintro ⟨f, hf, rfl⟩
    exact ⟨rfl, Form.accepts_of_ofWord? hf⟩
  · rintro ⟨rfl, hf⟩
    exact ⟨i.form, Form.ofWord?_of_accepts hf, rfl⟩

end Instruction

open Machine in
/-- Decoding finds the one form that accepts the word, and the operands are the digits of the word. A word that
no form accepts is refused as it stands. -/
theorem decode_grammar (w : Int) :
    (∀ f, (∃ i, decode w = .ok i ∧ i.form = f) ↔ f.Accepts w) ∧
    (∀ f g : Form, f.Matches w → g.Matches w → f = g) ∧
    (decode w = .error (.unknownOpcode w none) ↔ ∀ f : Form, ¬ f.Accepts w) ∧
    ∀ i, decode w = .ok i → i.word = w ∧
      (∃ d, hexOf w = [d, i.x.toNat, i.y.toNat, i.n.toNat] ∧
        w % 0x10000 = 0x1000 * d + i.nnn.toNat) ∧
      i.nn.toNat = 16 * i.y.toNat + i.n.toNat ∧ i.nnn.toNat = 256 * i.x.toNat + i.nn.toNat := by
  simp only [decode_eq_ok_iff, decode_eq_error_iff, Instruction.ofWord?_eq_some_iff, and_true]
  refine ⟨fun f => ?_, fun f g => Form.matches_unique, ?_, ?_⟩
  · constructor
    · rintro ⟨i, ⟨-, hi⟩, rfl⟩
      exact hi
    · intro hf
      exact ⟨⟨w, f⟩, ⟨rfl, hf⟩, rfl⟩
  · rw [Option.eq_none_iff_forall_ne_some]
    constructor
    · intro hnone f hf
      exact hnone ⟨w, f⟩ (Instruction.ofWord?_eq_some_iff.mpr ⟨rfl, hf⟩)
    · intro hno i hi
      exact hno i.form (Instruction.ofWord?_eq_some_iff.mp hi).2
  · rintro i ⟨rfl, -⟩
    exact ⟨rfl, ⟨_, i.hexOf_word, i.word_emod⟩, i.toNat_nn, i.toNat_nnn⟩

/-- The low 16 bits match the pattern, but the word is wider than it. -/
example : Form.clear.Matches 0x100E0 ∧
    Machine.decode 0x100E0 = .error (.unknownOpcode 0x100E0 none) := ⟨by decide, rfl⟩

end Chip8
