import Chip8.Proofs.Digit
import Chip8.Proofs.Footprint

/-! Blocks of registers. A block is stored in the memory cells from the index on, one for each register up to a
given one, and loaded from the same cells, also where they run over the end of memory. Both move the index in the
same way. So with the index put back, what was stored is loaded again, and storing what was just loaded changes
nothing in memory. -/

namespace Chip8
namespace Machine

/-- The cell that belongs to a register when a block is stored or loaded. -/
def cell (m : Machine) (k : Nibble) : Address := BitVec.ofNat 12 (m.index.toNat + k.toNat)

def indexBehind (m : Machine) (x : Nibble) : Nat :=
  if m.dialect.advancesIndex then (m.index.toNat + x.toNat + 1) % 0x10000 else m.index.toNat

structure StoresBlock (m n : Machine) (x : Nibble) : Prop where
  inside : ∀ k ≤ x, n.memory.get (m.cell k) = m.register k
  outside : ∀ a, (∀ k ≤ x, a ≠ m.cell k) → n.memory.get a = m.memory.get a
  index : n.index.toNat = m.indexBehind x
  others : n = { m with memory := n.memory, index := n.index }

structure LoadsBlock (m n : Machine) (x : Nibble) : Prop where
  inside : ∀ k ≤ x, n.register k = m.memory.get (m.cell k)
  outside : ∀ k, x < k → n.register k = m.register k
  index : n.index.toNat = m.indexBehind x
  others : n = { m with registers := n.registers, index := n.index }

variable {m n l : Machine} {x k : Nibble}

theorem cell_eq (m : Machine) (k : Nibble) :
    m.cell k = addressOf m.index + BitVec.ofNat 12 k.toNat := by
  rw [cell, addressOf, ← BitVec.ofNat_toNat, BitVec.ofNat_add]

theorem zero_add_ofNat_toNat (k : Nibble) : (0 : Nibble) + BitVec.ofNat 4 k.toNat = k := by
  rw [BitVec.ofNat_toNat, BitVec.setWidth_eq]
  exact BitVec.zero_add k

theorem index_advance (m : Machine) (x : Nibble) : (m.advance x).index.toNat = m.indexBehind x := by
  unfold advance indexBehind
  split
  · have hx : (x.setWidth 16).toNat = x.toNat := BitVec.toNat_setWidth_of_le (by decide)
    simp [hx]
  · rfl

theorem length_block {w : Nat} (t : Table w Byte) (i : BitVec w) (x : Nibble) :
    (t.window i (x.toNat + 1)).length ≤ 16 := by
  rw [Table.window_length]
  exact x.isLt

theorem storesBlock (m : Machine) (x : Nibble) : m.StoresBlock (m.storeRegisters x) x := by
  let block := m.registers.window 0 (x.toNat + 1)
  rw [storeRegisters, advance_eq_index]
  constructor
  · intro k hk
    have hentry : block[k.toNat]? = some (m.register k) := by
      have hget := Table.getElem?_window m.registers 0 (Nat.lt_succ_of_le hk)
      rwa [zero_add_ofNat_toNat] at hget
    rw [cell_eq]
    exact Table.get_patch_of_getElem? _ _ (Nat.le_trans (length_block _ _ x) (by decide)) hentry
  · intro a ha
    refine get_storeBytes_of_ne fun k hk heq => ?_
    rw [Table.window_length] at hk
    have hk16 : k < 16 := Nat.lt_of_lt_of_le hk x.isLt
    have hname : (BitVec.ofNat 4 k).toNat = k := (BitVec.toNat_ofNat _ _).trans (Nat.mod_eq_of_lt hk16)
    refine ha (BitVec.ofNat 4 k) ?_ (by rw [cell, hname, heq])
    rw [BitVec.le_def, hname]
    exact Nat.le_of_lt_succ hk
  · exact index_advance (m.storeBytes _) x
  · rfl

theorem loadsBlock (m : Machine) (x : Nibble) : m.LoadsBlock (m.loadRegisters x) x := by
  let block := m.memory.window (addressOf m.index) (x.toNat + 1)
  rw [loadRegisters, advance_eq_index]
  constructor
  · intro k hk
    have hentry : block[k.toNat]? = some (m.memory.get (m.cell k)) := by
      rw [cell_eq]
      exact Table.getElem?_window m.memory _ (Nat.lt_succ_of_le hk)
    have hget := Table.get_patch_of_getElem? m.registers 0 (length_block _ _ x) hentry
    rwa [zero_add_ofNat_toNat] at hget
  · intro k hk
    apply get_patch_zero_of_le
    rw [Table.window_length]
    exact hk
  · exact index_advance { m with registers := _ } x
  · rfl

theorem execute_store (m : Machine) (x : Nibble) :
    m.execute (wordOf 0xF x 0x5 0x5) = .ok (m.storeRegisters x) := by
  rw [execute_of_ofWord? (ofWord?_misc x 0x5 0x5 rfl), perform, Instruction.x_wordOf]

theorem execute_load (m : Machine) (x : Nibble) :
    m.execute (wordOf 0xF x 0x6 0x5) = .ok (m.loadRegisters x) := by
  rw [execute_of_ofWord? (ofWord?_misc x 0x6 0x5 rfl), perform, Instruction.x_wordOf]

theorem register_of_storesBlock {registers : Table 4 Byte} (hn : m.StoresBlock n x)
    (hl : { n with index := m.index, registers := registers }.LoadsBlock l x) (hk : k ≤ x) :
    l.register k = m.register k :=
  (hl.inside k hk).trans (hn.inside k hk)

theorem memory_of_loadsBlock (hn : m.LoadsBlock n x)
    (hl : { n with index := m.index }.StoresBlock l x) : l.memory = m.memory := by
  have hmemory : n.memory = m.memory := by rw [hn.others]
  ext a : 1
  by_cases ha : ∃ k ≤ x, a = m.cell k
  · obtain ⟨k, hk, rfl⟩ := ha
    exact (hl.inside k hk).trans (hn.inside k hk)
  · rw [hl.outside a fun k hk heq => ha ⟨k, hk, heq⟩, hmemory]

/-- In every machine a block of any length can be stored and loaded, at any index. With the index put back, the
one undoes the other. -/
theorem blocks_inverse (m : Machine) (x : Nibble) :
    (∃ n, m.execute (wordOf 0xF x 0x5 0x5) = .ok n ∧ m.StoresBlock n x ∧
      ∀ registers : Table 4 Byte, ∃ l,
        { n with index := m.index, registers := registers }.execute (wordOf 0xF x 0x6 0x5) = .ok l ∧
          (∀ k ≤ x, l.register k = m.register k) ∧ ∀ k, x < k → l.register k = registers.get k) ∧
      ∃ n, m.execute (wordOf 0xF x 0x6 0x5) = .ok n ∧ m.LoadsBlock n x ∧
        ∃ l, { n with index := m.index }.execute (wordOf 0xF x 0x5 0x5) = .ok l ∧ l.memory = m.memory := by
  constructor
  · have hn := storesBlock m x
    refine ⟨_, execute_store m x, hn, fun registers => ?_⟩
    have hl := loadsBlock { m.storeRegisters x with index := m.index, registers := registers } x
    exact ⟨_, execute_load _ x, fun k hk => register_of_storesBlock hn hl hk, hl.outside⟩
  · have hn := loadsBlock m x
    refine ⟨_, execute_load m x, hn, _, execute_store _ x, ?_⟩
    exact memory_of_loadsBlock hn (storesBlock { m.loadRegisters x with index := m.index } x)

end Machine
end Chip8
