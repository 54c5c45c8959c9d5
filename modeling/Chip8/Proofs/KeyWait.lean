import Chip8.Proofs.Decomposition

/-! The protocol of a wait for a key. While the machine waits nothing moves the program, and steps and cycles
do nothing at all. The first key that is pressed or delivered is put into the register that waits for it and
ends the wait; keys that come later change no register until another instruction awaits one. A number that is
no key is refused at any time; the refusal shows the number, which the host has to be able to write. -/

namespace Chip8

theorem Nibble.ofKey_outside {n : Int} (h : ¬ (0 ≤ n ∧ n < keyCount)) (limit : Option Nat) :
    Nibble.ofKey (.int n) limit = .error ((Error.refusal (.invalidKey (.int n))).raised limit) := by
  simp [Nibble.ofKey, Datum.readInt, h]

namespace Error

variable {n : Int} {limit : Option Nat}

end Error

def Machine.answered (m : Machine) (x k : Nibble) : Machine :=
  { m with
    registers := m.registers.set x (k.setWidth 8)
    awaiting := none }

theorem Machine.deliver_of_some {m : Machine} {x : Nibble} (h : m.awaiting = some x) (k : Nibble) :
    m.deliver k = m.answered x k := by
  rw [deliver, h]
  rfl

namespace Exchange

end Exchange

namespace Session

variable {s : Session} {x : Nibble} {r : Request}

theorem advance_awaiting (h : s.isAwaiting = true) (n : Nat) : advance n s = (s, none) := by
  cases n with
  | zero => rfl
  | succ n => rw [advance, if_pos h]

theorem deliverKey_of_some (hx : s.machine.awaiting = some x) (k : Nibble) :
    s.deliverKey (.int k.toNat) =
      ({ s.log .debug (.keyDelivered k.toNat x) with machine := s.machine.answered x k }, none) := by
  rw [deliverKey, hx, Machine.deliverKey_toNat, Machine.deliver_of_some hx]
  rfl

theorem releaseKey_refused {key : Datum} {e : Error} (h : Nibble.ofKey key s.digitLimit = .error e) :
    s.releaseKey key = (s, some e) := by
  have hm : s.machine.setKey key false s.digitLimit = .error e := map_eq_error_iff.mpr h
  rw [releaseKey, hm]
  rfl

end Session
end Chip8
