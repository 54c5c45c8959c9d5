import Chip8.Proofs.Digit
import Chip8.Proofs.Keypad

/-! Where a program goes on. A step moves the program counter past the word that it fetches, and the word may then
send it elsewhere: to the address that it names, to the one on top of the stack, or past one word more if its
condition holds. Of two opposite conditions on the same operands exactly one holds, also where a register that is
looked at as a key names none. -/

namespace Chip8

def Condition.opposite : Condition → Condition
  | equalsByte => differsByte
  | differsByte => equalsByte
  | equals => differs
  | differs => equals
  | held => released
  | released => held

namespace Machine

/-- The register names a key, and the key is held. -/
def HoldsKey (m : Machine) (x : Nibble) : Prop :=
  ∃ k : Nibble, (m.register x).toNat = k.toNat ∧ m.keypad.get k = true

def Holds (m : Machine) (c : Condition) (i : Instruction) : Prop :=
  match c with
  | .equalsByte => (m.register i.x).toNat = i.nn.toNat
  | .differsByte => (m.register i.x).toNat ≠ i.nn.toNat
  | .equals => (m.register i.x).toNat = (m.register i.y).toNat
  | .differs => (m.register i.x).toNat ≠ (m.register i.y).toNat
  | .held => m.HoldsKey i.x
  | .released => ¬ m.HoldsKey i.x

/-- One of the two words skips an instruction, and the other does nothing. -/
def OneSkips (m : Machine) (v w : Int) : Prop :=
  (m.execute v = .ok { m with pc := m.pc + 2 } ∧ m.execute w = .ok m) ∨
    (m.execute v = .ok m ∧ m.execute w = .ok { m with pc := m.pc + 2 })

end Machine

/-- After an instruction at the program counter of `m` the program goes on at `p`. -/
def Instruction.GoesOnAt (i : Instruction) (m : Machine) (p : Nat) : Prop :=
  match i.form with
  | .jump | .call => p = i.nnn.toNat
  | .jumpOffset => p = i.nnn.toNat + (m.register 0).toNat
  | .ret => ∃ a, m.stack.head? = some a ∧ p = a.toNat
  | .skip c => (m.Holds c i → p = (m.pc.toNat + 4) % 0x10000) ∧
      (¬ m.Holds c i → p = (m.pc.toNat + 2) % 0x10000)
  | _ => p = (m.pc.toNat + 2) % 0x10000

namespace Machine

variable {m n : Machine} {i : Instruction}

theorem holdsKey_iff (m : Machine) (x : Nibble) : m.HoldsKey x ↔ m.keyHeld (m.register x).toNat = true := by
  rw [keyHeld_iff]
  constructor
  · rintro ⟨k, hk, hheld⟩
    have hlt := k.isLt
    have hname : (m.register x).setWidth 4 = k := by
      apply BitVec.eq_of_toNat_eq
      rw [BitVec.toNat_setWidth, hk, Nat.mod_eq_of_lt hlt]
    exact ⟨by omega, hname ▸ hheld⟩
  · rintro ⟨hle, hheld⟩
    refine ⟨_, ?_, hheld⟩
    rw [BitVec.toNat_setWidth, Nat.mod_eq_of_lt (Nat.lt_succ_of_le hle)]

theorem holds_iff (m : Machine) (c : Condition) (i : Instruction) : m.Holds c i ↔ m.meets c i = true := by
  cases c with
  | equalsByte => simp [Holds, meets, BitVec.toNat_inj]
  | differsByte => simp [Holds, meets, BitVec.toNat_inj]
  | equals => simp [Holds, meets, BitVec.toNat_inj]
  | differs => simp [Holds, meets, BitVec.toNat_inj]
  | held => exact holdsKey_iff m i.x
  | released => simp [Holds, meets, holdsKey_iff]

theorem toNat_setWidth_address (a : Address) : (a.setWidth 16).toNat = a.toNat :=
  BitVec.toNat_setWidth_of_le (by decide)

theorem goesOnAt_of_perform (h : m.advancePc.perform i = .ok n) : i.GoesOnAt m n.pc.toNat := by
  have hadvance : m.advancePc.pc.toNat = (m.pc.toNat + 2) % 0x10000 := BitVec.toNat_add m.pc 2
  obtain ⟨w, f⟩ := i
  have hstay (hf : ¬ f.Branches) : n.pc.toNat = (m.pc.toNat + 2) % 0x10000 := by
    rw [(perform_footprint h).pc hf, hadvance]
  cases f with
  | jump =>
    cases h
    exact toNat_setWidth_address _
  | call =>
    cases h
    exact toNat_setWidth_address _
  | jumpOffset =>
    cases h
    -- The sum of an address and a byte is too small to wrap around.
    have ha := (Instruction.mk w .jumpOffset).nnn.isLt
    have hv := (m.register 0).isLt
    change (BitVec.setWidth 16 _ + (m.register 0).setWidth 16).toNat = _
    rw [BitVec.toNat_add, toNat_setWidth_address, BitVec.toNat_setWidth]
    omega
  | ret =>
    obtain ⟨a, rest, hs, rfl⟩ := perform_ret_eq_ok rfl h
    have hs' : m.stack = a :: rest := hs
    exact ⟨a, by rw [hs', List.head?_cons], rfl⟩
  | skip c =>
    have hn : n = if m.meets c ⟨w, .skip c⟩ then { m with pc := m.pc + 2 + 2 } else m.advancePc :=
      (Except.ok.inj h).symm
    have hskip : (m.pc + 2 + 2).toNat = (m.pc.toNat + 4) % 0x10000 := by
      rw [BitVec.add_assoc]
      exact BitVec.toNat_add m.pc 4
    constructor
    · intro hc
      rw [hn, if_pos ((holds_iff m c _).mp hc), hskip]
    · intro hc
      rw [hn, if_neg (mt (holds_iff m c _).mpr hc), hadvance]
  | _ => exact hstay id

theorem meets_opposite (m : Machine) (c : Condition) (x y z : Nibble) :
    m.meets c.opposite ⟨c.opposite.word x y z, .skip c.opposite⟩ = !m.meets c ⟨c.word x y z, .skip c⟩ := by
  cases c <;> simp [meets, Condition.opposite, Condition.word, Instruction.x_wordOf, Instruction.y_wordOf,
    Instruction.nn_wordOf]

theorem oneSkips_opposite (m : Machine) (c : Condition) (x y z : Nibble) :
    m.OneSkips (c.word x y z) (c.opposite.word x y z) := by
  have hc : m.SkipsIff (c.word x y z) _ := skipsIff_meets (ofWord?_skip c x y z) rfl
  have ho : m.SkipsIff (c.opposite.word x y z) _ := skipsIff_meets (ofWord?_skip c.opposite x y z) rfl
  rw [meets_opposite] at ho
  cases hm : m.meets c ⟨c.word x y z, .skip c⟩ with
  | true => exact .inl ⟨hc.1 hm, ho.2 (by simp [hm])⟩
  | false => exact .inr ⟨hc.2 (by simp [hm]), ho.1 (by simp [hm])⟩

/-- A step that goes well goes on where the word at the program counter says, and in every machine exactly one of
two opposite skips on the same operands is taken. -/
theorem step_goesOnAt (ha : m.isAwaiting = false) (h : m.step = .ok n) :
    (∃ i, Instruction.ofWord? ↑(256 * (m.memory.get (addressOf m.pc)).toNat +
        (m.memory.get (addressOf (m.pc + 1))).toNat) = some i ∧ i.GoesOnAt m n.pc.toNat) ∧
      ∀ (k : Machine) (c : Condition) (x y z : Nibble),
        k.OneSkips (c.word x y z) (c.opposite.word x y z) := by
  refine ⟨?_, oneSkips_opposite⟩
  rw [step_running ha, current_toNat] at h
  obtain ⟨i, hi, hn⟩ := execute_eq_ok_iff.mp h
  exact ⟨i, hi, goesOnAt_of_perform hn⟩

/-- A skip in the last two cells of memory, on a key that is held, from the last place of the program counter. -/
theorem step_goesOnAt_wrapped :
    let m := { ((powerOn 0 {}).setRegister 5 11).hold 11 true with
      memory := (Table.replicate 12 0).patch 0xFFE [0xE5, 0x9E], pc := 0xFFFE }
    m.isAwaiting = false ∧ m.step = .ok { m with pc := 2 } ∧
      (∃ i, Instruction.ofWord? 0xE59E = some i ∧ i.GoesOnAt m 2) ∧ m.OneSkips 0xE59E 0xE5A1 := by
  intro m
  have hcurrent : m.current = 0xE59E := by decide +kernel
  have hheld : m.advancePc.meets .held ⟨0xE59E, .skip .held⟩ = true := by decide +kernel
  have hskip := (skipsIff_meets (w := 0xE59E) (i := ⟨0xE59E, .skip .held⟩) rfl rfl).1 hheld
  have hpc : m.advancePc.pc + 2 = 2 := by decide +kernel
  have hstep : m.step = .ok { m with pc := 2 } := by
    rw [step_running rfl, hcurrent, ← hpc]
    exact hskip
  obtain ⟨hplace, hskips⟩ := step_goesOnAt (m := m) rfl hstep
  have hword : 256 * (m.memory.get (addressOf m.pc)).toNat +
      (m.memory.get (addressOf (m.pc + 1))).toNat = 0xE59E := by rw [← current_toNat, hcurrent]; rfl
  rw [hword] at hplace
  exact ⟨rfl, hstep, hplace, hskips m .held 5 0 0⟩

end Machine
end Chip8
