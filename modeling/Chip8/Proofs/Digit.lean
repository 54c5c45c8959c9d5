import Chip8.Instruction.Decode

/-! Words written as four digits. The fields of an instruction are digits of its word, and a form that fixes some
of the digits is found again when the word is decoded. -/

namespace Chip8

def wordOf (a b c d : Nibble) : Nat :=
  0x1000 * a.toNat + 0x100 * b.toNat + 0x10 * c.toNat + d.toNat

def Operation.digit : Operation → Nibble
  | copy => 0x0
  | or => 0x1
  | and => 0x2
  | xor => 0x3
  | add => 0x4
  | subtract => 0x5
  | shiftRight => 0x6
  | subtractFrom => 0x7
  | shiftLeft => 0xE

def Condition.word (c : Condition) (x y z : Nibble) : Nat :=
  match c with
  | equalsByte => wordOf 0x3 x y z
  | differsByte => wordOf 0x4 x y z
  | equals => wordOf 0x5 x y 0x0
  | differs => wordOf 0x9 x y 0x0
  | held => wordOf 0xE x 0x9 0xE
  | released => wordOf 0xE x 0xA 0x1

theorem extract_ofInt {v : Nat} (hv : v < 0x10000) (s n : Nat) :
    (BitVec.ofInt 16 v).extractLsb' s n = BitVec.ofNat n (v >>> s) := by
  apply BitVec.eq_of_toNat_eq
  rw [BitVec.extractLsb'_toNat, BitVec.ofInt_natCast, BitVec.toNat_ofNat, Nat.mod_eq_of_lt hv,
    BitVec.toNat_ofNat]

variable (a b c d : Nibble)

theorem extract_wordOf (s n : Nat) :
    (BitVec.ofInt 16 (wordOf a b c d)).extractLsb' s n = BitVec.ofNat n (wordOf a b c d >>> s) := by
  have ha := a.isLt
  have hb := b.isLt
  have hc := c.isLt
  have hd := d.isLt
  apply extract_ofInt
  unfold wordOf
  omega

theorem top_wordOf : (BitVec.ofInt 16 (wordOf a b c d)).extractLsb' 12 4 = a := by
  apply BitVec.eq_of_toNat_eq
  rw [extract_wordOf, wordOf, BitVec.toNat_ofNat]
  omega

theorem byte_wordOf : (BitVec.ofInt 16 (wordOf a b c d)).extractLsb' 0 8 = c ++ d := by
  have hd := d.isLt
  apply BitVec.eq_of_toNat_eq
  rw [extract_wordOf, wordOf, BitVec.toNat_ofNat, BitVec.toNat_append,
    ← Nat.shiftLeft_add_eq_or_of_lt hd, Nat.shiftLeft_eq]
  omega

namespace Instruction

variable (f : Form)

theorem x_wordOf : (Instruction.mk (wordOf a b c d) f).x = b := by
  apply BitVec.eq_of_toNat_eq
  rw [x, bits, extract_wordOf, wordOf, BitVec.toNat_ofNat]
  omega

theorem y_wordOf : (Instruction.mk (wordOf a b c d) f).y = c := by
  apply BitVec.eq_of_toNat_eq
  rw [y, bits, extract_wordOf, wordOf, BitVec.toNat_ofNat]
  omega

theorem n_wordOf : (Instruction.mk (wordOf a b c d) f).n = d := by
  apply BitVec.eq_of_toNat_eq
  rw [n, bits, extract_wordOf, wordOf, BitVec.toNat_ofNat]
  omega

theorem nn_wordOf : (Instruction.mk (wordOf a b c d) f).nn = c ++ d := byte_wordOf a b c d

end Instruction

theorem ofWord?_of_form {w : Int} {f : Form} (hf : Form.ofWord? w = some f) :
    Instruction.ofWord? w = some ⟨w, f⟩ := by
  rw [Instruction.ofWord?, hf]
  rfl

theorem ofWord?_draw (x y n : Nibble) :
    Instruction.ofWord? (wordOf 0xD x y n) = some ⟨wordOf 0xD x y n, .draw⟩ := by
  apply ofWord?_of_form
  simp only [Form.ofWord?, top_wordOf]
  rfl

theorem ofWord?_loadIndex (a : Address) :
    Instruction.ofWord? ↑(0xA000 + a.toNat) = some ⟨↑(0xA000 + a.toNat), .loadIndex⟩ := by
  have ha := a.isLt
  have htop : (BitVec.ofInt 16 ↑(0xA000 + a.toNat)).extractLsb' 12 4 = (0xA : Nibble) := by
    apply BitVec.eq_of_toNat_eq
    rw [extract_ofInt (by omega), BitVec.toNat_ofNat]
    change (0xA000 + a.toNat) >>> 12 % 2 ^ 4 = 0xA
    omega
  apply ofWord?_of_form
  simp only [Form.ofWord?, htop]
  rfl

theorem Instruction.nnn_loadIndex (a : Address) (f : Form) :
    (Instruction.mk ↑(0xA000 + a.toNat) f).nnn = a := by
  have ha := a.isLt
  apply BitVec.eq_of_toNat_eq
  rw [nnn, bits, extract_ofInt (by omega), BitVec.toNat_ofNat]
  omega

theorem ofWord?_arithmetic (o : Operation) (x y : Nibble) :
    Instruction.ofWord? (wordOf 0x8 x y o.digit) = some ⟨wordOf 0x8 x y o.digit, .arithmetic o⟩ := by
  have hlast : (BitVec.ofInt 16 (wordOf 0x8 x y o.digit)).extractLsb' 0 4 = o.digit :=
    Instruction.n_wordOf _ _ _ _ (.arithmetic o)
  have hdigit : Operation.ofDigit? o.digit = some o := by cases o <;> rfl
  apply ofWord?_of_form
  simp only [Form.ofWord?, top_wordOf, hlast, hdigit]
  rfl

theorem ofWord?_misc (x c d : Nibble) {f : Form} (hf : Form.ofMiscByte? (c ++ d) = some f) :
    Instruction.ofWord? (wordOf 0xF x c d) = some ⟨wordOf 0xF x c d, f⟩ := by
  apply ofWord?_of_form
  simp only [Form.ofWord?, top_wordOf, byte_wordOf]
  exact hf

theorem ofWord?_skip (c : Condition) (x y z : Nibble) :
    Instruction.ofWord? (c.word x y z) = some ⟨c.word x y z, .skip c⟩ := by
  have hzero (v : Nibble) : (BitVec.ofInt 16 (wordOf v x y 0x0)).extractLsb' 0 4 = 0x0 :=
    Instruction.n_wordOf _ _ _ _ (.skip c)
  apply ofWord?_of_form
  cases c <;> simp only [Condition.word, Form.ofWord?, top_wordOf, hzero, byte_wordOf] <;> rfl

end Chip8
