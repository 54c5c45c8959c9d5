import Chip8.Proofs.Commit

/-! Calls and returns. A call puts the address behind it on the stack, where it stays for as long as the
subroutine is open, whatever is called and returned from inside. The depth comes back by one thing alone,
the return that belongs to the call: it leaves the stack as the call found it and goes on right behind the
call. The stack has no limit, so calls nest to any depth. -/

namespace Chip8
namespace Machine

/-- The address behind the two bytes at the program counter, cut to memory. -/
def returnAddress (m : Machine) : Word := BitVec.ofNat 16 ((m.pc.toNat + 2) % memorySize)

variable {m : Machine} {a : Action} {c : Commit} {as : List Action}

theorem setWidth_addressOf_pc_add_two (m : Machine) :
    (addressOf (m.pc + 2)).setWidth 16 = m.returnAddress := by
  have htwo : (2 : Word).toNat = 2 := rfl
  apply BitVec.eq_of_toNat_eq
  simp only [addressOf, returnAddress, memorySize, BitVec.toNat_setWidth, BitVec.toNat_add,
    BitVec.toNat_ofNat, htwo]
  omega

theorem addressOf_returnAddress (m : Machine) : addressOf m.returnAddress = addressOf (m.pc + 2) := by
  rw [← setWidth_addressOf_pc_add_two, addressOf, BitVec.setWidth_setWidth_of_le _ (by decide),
    BitVec.setWidth_eq]

theorem stack_of_call (hc : m.commit? .step = some c) (hi : c.instruction.form = .call) :
    c.after.stack = m.returnAddress :: m.stack := by
  obtain ⟨-, -, hn⟩ := commit?_eq_some_iff.mp hc
  rw [perform_call hi] at hn
  rw [← Except.ok.inj hn, ← setWidth_addressOf_pc_add_two]
  rfl

theorem stack_respond (m : Machine) (a : Action) :
    ((m.respond a).2.stack = m.stack ∧
        ∀ c, m.commit? a = some c → c.instruction.form ≠ .call ∧ c.instruction.form ≠ .ret) ∨
      (∃ c w, m.commit? a = some c ∧ c.instruction.form = .call ∧
        (m.respond a).2.stack = (addressOf w).setWidth 16 :: m.stack) ∨
      ∃ c, m.commit? a = some c ∧ c.instruction.form = .ret ∧
        m.stack = c.after.pc :: c.after.stack := by
  cases hc : m.commit? a with
  | none =>
    refine .inl ⟨(undisturbed_respond hc).stack, fun d hd => ?_⟩
    cases hd
  | some c =>
    obtain ⟨-, -, hn⟩ := commit?_eq_some_iff.mp hc
    have hstack : m.stack = (m.performer a).stack := by rw [performer_eq]
    rw [respond_of_commit? hc, hstack]
    by_cases hcall : c.instruction.form = .call
    · rw [perform_call hcall] at hn
      rw [← Except.ok.inj hn]
      exact .inr (.inl ⟨c, (m.performer a).pc, rfl, hcall, rfl⟩)
    by_cases hret : c.instruction.form = .ret
    · obtain ⟨top, rest, hs, hafter⟩ := perform_ret_eq_ok hret hn
      refine .inr (.inr ⟨c, rfl, hret, ?_⟩)
      rw [hs, hafter]
    · refine .inl ⟨(perform_footprint hn).stack hcall hret, fun d hd => ?_⟩
      obtain rfl := Option.some.inj hd
      exact ⟨hcall, hret⟩

section

variable {ret : Word} {S : List Word}

/-- As long as the stack is deeper than `S`, what lies at its bottom stays there. -/
theorem suffix_respond (h : ret :: S <:+ m.stack)
    (hdeep : S.length < (m.respond a).2.stack.length) : ret :: S <:+ (m.respond a).2.stack := by
  rcases stack_respond m a with ⟨hs, -⟩ | ⟨c, w, -, -, hs⟩ | ⟨c, hc, -, hs⟩
  · rwa [hs]
  · rw [hs]
    exact h.trans (List.suffix_cons _ m.stack)
  · rw [respond_of_commit? hc] at hdeep ⊢
    rw [hs] at h
    rcases List.suffix_cons_iff.mp h with heq | hrest
    · rw [(List.cons.inj heq).2] at hdeep
      exact absurd hdeep (Nat.lt_irrefl _)
    · exact hrest

theorem suffix_after (h : ret :: S <:+ m.stack)
    (hdeep : ∀ r ∈ m.trace as, S.length < r.2.stack.length) : ret :: S <:+ (m.after as).stack := by
  induction as generalizing m with
  | nil => exact h
  | cons a as ih =>
    rw [trace, List.forall_mem_cons] at hdeep
    exact ih (suffix_respond h hdeep.1) hdeep.2

theorem commit?_of_length_le (h : ret :: S <:+ m.stack)
    (hback : (m.respond a).2.stack.length ≤ S.length) :
    ∃ c, m.commit? a = some c ∧ c.instruction.form = .ret ∧ c.after.pc = ret ∧ c.after.stack = S := by
  have hlen : S.length < m.stack.length := h.length_le
  rcases stack_respond m a with ⟨hs, -⟩ | ⟨c, w, -, -, hs⟩ | ⟨c, hc, hi, hs⟩
  · rw [hs] at hback
    exact absurd hlen (Nat.not_lt_of_le hback)
  · rw [hs, List.length_cons] at hback
    omega
  · rw [respond_of_commit? hc] at hback
    rw [hs] at h
    rcases List.suffix_cons_iff.mp h with heq | hrest
    · obtain ⟨hpc, hstack⟩ := List.cons.inj heq
      exact ⟨c, hc, hi, hpc.symm, hstack.symm⟩
    · exact absurd hrest.length_le (Nat.not_le_of_lt (Nat.lt_succ_of_le hback))

end

/-- While the stack stays deeper than at the call, it keeps the return address right above what the call
found. The first action after which it is no deeper commits a return, which restores both the stack and the
place: the next word is that behind the call. -/
theorem call_returns (hcall : m.commit? .step = some c) (hform : c.instruction.form = .call)
    (hdeep : ∀ r ∈ c.after.trace as, m.stack.length < r.2.stack.length) :
    (∃ inner, (c.after.after as).stack = inner ++ m.returnAddress :: m.stack) ∧
      ∀ a, ((c.after.after as).respond a).2.stack.length ≤ m.stack.length →
        ∃ d, (c.after.after as).commit? a = some d ∧ d.instruction.form = .ret ∧
          (c.after.after as).respond a = (none, d.after) ∧
          d.after.stack = m.stack ∧ d.after.pc = m.returnAddress ∧
          d.after.current = d.after.memory.get (addressOf (m.pc + 2)) ++
            d.after.memory.get (addressOf (m.pc + 3)) := by
  have hopen : m.returnAddress :: m.stack <:+ (c.after.after as).stack := by
    have hbase : m.returnAddress :: m.stack <:+ c.after.stack := ⟨[], (stack_of_call hcall hform).symm⟩
    exact suffix_after hbase hdeep
  constructor
  · obtain ⟨inner, hinner⟩ := hopen
    exact ⟨inner, hinner.symm⟩
  · intro a hback
    obtain ⟨d, hd, hret, hpc, hstack⟩ := commit?_of_length_le hopen hback
    refine ⟨d, hd, hret, respond_of_commit? hd, hstack, hpc, ?_⟩
    have hnext : addressOf (m.pc + 3) = addressOf (m.pc + 2) + 1 := by
      have hthree : m.pc + 3 = m.pc + 2 + 1 := (BitVec.add_assoc m.pc 2 1).symm
      exact (congrArg addressOf hthree).trans (addressOf_add _ _)
    rw [current, wordAt, hpc, addressOf_returnAddress, hnext]

def recursing : Machine :=
  { powerOn 0 {} with memory := Table.replicate 12 0x22, pc := 0xFFFF }

/-- A second call inside the first and its return, then a return in place of the next call. -/
theorem call_returns_wrapped :
    ∃ c, recursing.commit? .step = some c ∧ c.instruction.form = .call ∧
      let as : List Action := [.step, .execute 0x00EE, .tick, .load [0x00, 0xEE], .execute 0x1200]
      (∀ r ∈ c.after.trace as, recursing.stack.length < r.2.stack.length) ∧
      (∃ inner, (c.after.after as).stack = inner ++ recursing.returnAddress :: recursing.stack) ∧
      ∀ a, ((c.after.after as).respond a).2.stack.length ≤ recursing.stack.length →
        ∃ d, (c.after.after as).commit? a = some d ∧ d.instruction.form = .ret ∧
          (c.after.after as).respond a = (none, d.after) ∧
          d.after.stack = recursing.stack ∧ d.after.pc = recursing.returnAddress ∧
          d.after.current = d.after.memory.get (addressOf (recursing.pc + 2)) ++
            d.after.memory.get (addressOf (recursing.pc + 3)) := by
  have hcall : recursing.commit? .step = some ⟨recursing, ⟨0x2222, .call⟩,
      { recursing with stack := [1], pc := 0x222 }⟩ := by
    have hi : recursing.instruction? .step = some ⟨0x2222, .call⟩ := by decide +kernel
    exact commit?_eq_some_iff.mpr ⟨rfl, hi, rfl⟩
  have hdeep : ∀ r ∈ ({ recursing with stack := [1], pc := 0x222 } : Machine).trace
      [.step, .execute 0x00EE, .tick, .load [0x00, 0xEE], .execute 0x1200],
      recursing.stack.length < r.2.stack.length := by
    decide +kernel
  exact ⟨_, hcall, rfl, hdeep, call_returns hcall rfl hdeep⟩

end Machine
end Chip8
