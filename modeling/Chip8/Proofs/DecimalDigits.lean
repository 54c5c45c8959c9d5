import Chip8.Proofs.Block

/-! The decimal digits of a register. A byte is written down as hundreds, tens and ones in the three memory cells
from the index on, also where they run over the end of memory. Loading three registers next brings the digits back,
whichever register held the byte. -/

namespace Chip8

/-- The bytes `h`, `t` and `o` are the decimal digits of a number. -/
structure AreDigits (h t o : Byte) (v : Nat) : Prop where
  value : 100 * h.toNat + 10 * t.toNat + o.toNat = v
  hundreds : h.toNat ≤ 2
  tens : t.toNat ≤ 9
  ones : o.toNat ≤ 9

namespace Machine

/-- From `m` to `n` three bytes were stored in the cells from the index on, and nothing else has changed. -/
structure StoresThree (m n : Machine) (h t o : Byte) : Prop where
  first : n.memory.get (m.cell 0) = h
  second : n.memory.get (m.cell 1) = t
  third : n.memory.get (m.cell 2) = o
  outside : ∀ a, a ≠ m.cell 0 → a ≠ m.cell 1 → a ≠ m.cell 2 → n.memory.get a = m.memory.get a
  others : n = { m with memory := n.memory }

variable {m n l : Machine} {h t o : Byte}

theorem areDigits_digits (b : Byte) : AreDigits (b / 100) (b / 10 % 10) (b % 10) b.toNat := by
  have hb := b.isLt
  have hhundreds : (b / 100).toNat = b.toNat / 100 := BitVec.toNat_udiv
  have htens : (b / 10 % 10).toNat = b.toNat / 10 % 10 := by
    rw [BitVec.toNat_umod, BitVec.toNat_udiv]
    rfl
  have hones : (b % 10).toNat = b.toNat % 10 := BitVec.toNat_umod
  constructor <;> omega

theorem storesThree (m : Machine) (h t o : Byte) : m.StoresThree (m.storeBytes [h, t, o]) h t o := by
  have hlength : [h, t, o].length ≤ Nat.pow 2 12 := Nat.le_of_ble_eq_true rfl
  have hinside {k : Nibble} {b : Byte} (hk : [h, t, o][k.toNat]? = some b) :
      (m.storeBytes [h, t, o]).memory.get (m.cell k) = b := by
    rw [cell_eq]
    exact Table.get_patch_of_getElem? m.memory _ hlength hk
  refine ⟨hinside rfl, hinside rfl, hinside rfl, fun a h0 h1 h2 => ?_, rfl⟩
  refine get_storeBytes_of_ne fun k hk => ?_
  match k, hk with
  | 0, _ => exact h0
  | 1, _ => exact h1
  | 2, _ => exact h2

theorem execute_decimal (m : Machine) (x : Nibble) :
    m.execute (wordOf 0xF x 0x3 0x3) = .ok (m.storeBytes (digits (m.register x))) := by
  rw [execute_of_ofWord? (ofWord?_misc x 0x3 0x3 rfl), perform, Instruction.x_wordOf]

theorem registers_of_storesThree (hn : m.StoresThree n h t o) (hl : n.LoadsBlock l 2) :
    l.register 0 = h ∧ l.register 1 = t ∧ l.register 2 = o := by
  have hcell (k : Nibble) : n.cell k = m.cell k := by
    have hindex : n.index = m.index := by rw [hn.others]
    rw [cell, cell, hindex]
  have hload {k : Nibble} (hk : k ≤ 2) : l.register k = n.memory.get (m.cell k) := by
    rw [hl.inside k hk, hcell]
  refine ⟨(hload (by decide)).trans hn.first, (hload (by decide)).trans hn.second, ?_⟩
  exact (hload (by decide)).trans hn.third

/-- In every machine and for every register the digits can be stored, at any index, and the word `F265` executed
next loads them into the first three registers. -/
theorem digits_stored (m : Machine) (x : Nibble) :
    ∃ (n : Machine) (h t o : Byte), m.execute (wordOf 0xF x 0x3 0x3) = .ok n ∧
      AreDigits h t o (m.register x).toNat ∧ m.StoresThree n h t o ∧
      ∃ l, n.execute 0xF265 = .ok l ∧ n.LoadsBlock l 2 ∧
        l.register 0 = h ∧ l.register 1 = t ∧ l.register 2 = o := by
  have hn := storesThree m (m.register x / 100) (m.register x / 10 % 10) (m.register x % 10)
  refine ⟨_, _, _, _, execute_decimal m x, areDigits_digits (m.register x), hn, ?_⟩
  have hl := loadsBlock (m.storeBytes (digits (m.register x))) 2
  exact ⟨_, execute_load _ 2, hl, registers_of_storesThree hn hl⟩

/-- The digits of 255 go over the end of memory, and the register that held the byte is overwritten. -/
example :
    let m := { powerOn 0 {} with index := 0xFFFE }.setRegister 1 255
    ((m.storeBytes (digits (m.register 1))).loadRegisters 2).registers.window 0 4 = [2, 5, 5, 0] := by
  decide +kernel

end Machine
end Chip8
