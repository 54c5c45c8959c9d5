import Chip8.Machine.Keypad
import Chip8.Machine.Program
import Chip8.Proofs.Execution
import Mathlib.Data.List.Forall2

/-! What can be done to a machine from outside, as data. A refused action leaves the machine as it was,
and the trace of a list of actions holds the refusals and the machines after each of them. A relation
between machines that every single action keeps is kept along whole traces. -/

namespace Chip8

inductive Action where
  | step
  | execute (word : Int)
  | tick
  | deliver (key : Datum)
  | hold (key : Datum) (pressed : Bool)
  | load (program : List Byte)
  | loadData (program : List Datum)
  | loadFile (contents : Except FileError (List Byte))

/-- Both fail in the same way, or both succeed with related results. -/
inductive SameOutcome {ε α : Type} (R : α → α → Prop) : Except ε α → Except ε α → Prop
  | ok {a b : α} (h : R a b) : SameOutcome R (.ok a) (.ok b)
  | error (e : ε) : SameOutcome R (.error e) (.error e)

theorem SameOutcome.map {ε α β : Type} {R : α → α → Prop} {S : β → β → Prop}
    {x y : Except ε α} (h : SameOutcome R x y) {f g : α → β}
    (hf : ∀ a b, R a b → S (f a) (g b)) : SameOutcome S (x.map f) (y.map g) := by
  cases h with
  | ok h => exact .ok (hf _ _ h)
  | error e => exact .error e

theorem SameOutcome.mapError {ε ε' α : Type} {R : α → α → Prop} {x y : Except ε α}
    (h : SameOutcome R x y) (f : ε → ε') : SameOutcome R (x.mapError f) (y.mapError f) := by
  cases h with
  | ok h => exact .ok h
  | error e => exact .error (f e)

theorem Error.raised_cases (e : Error) (limit : Option Nat) :
    e.raised limit = e ∨ e.raised limit = unwritten limit := by
  unfold raised
  split
  · exact .inl rfl
  · exact .inr rfl

theorem Nibble.ofKey_toNat (k : Nibble) (limit : Option Nat) :
    Nibble.ofKey (.int k.toNat) limit = .ok k := by
  have hlt : (k.toNat : Int) < keyCount := Int.ofNat_lt.mpr k.isLt
  simp [Nibble.ofKey, Datum.readInt, hlt]

def Error.ofFault (f : Fault) : Error := .refusal (.fault f)

namespace Machine

def apply (m : Machine) : Action → Except Error Machine
  | .step => m.step.mapError Error.ofFault
  | .execute w => (m.execute w).mapError Error.ofFault
  | .tick => .ok m.tick
  | .deliver key => m.deliverKey key
  | .hold key pressed => m.setKey key pressed
  | .load program => m.load program
  | .loadData program => m.loadData program
  | .loadFile contents => m.loadFile contents

/-- The refusal of an action, if there is one, and the machine after it. -/
def respond (m : Machine) (a : Action) : Option Error × Machine :=
  match m.apply a with
  | .ok n => (none, n)
  | .error e => (some e, m)

def trace (m : Machine) : List Action → List (Option Error × Machine)
  | [] => []
  | a :: as => m.respond a :: (m.respond a).2.trace as

def Succeeds (m : Machine) (as : List Action) : Prop := ∀ r ∈ m.trace as, r.1 = none

theorem succeeds_cons {m : Machine} {a : Action} {as : List Action} :
    m.Succeeds (a :: as) ↔ (m.respond a).1 = none ∧ (m.respond a).2.Succeeds as :=
  List.forall_mem_cons

section

variable {m n : Machine} {key : Datum} {pressed : Bool} {limit : Option Nat} {e : Error}

theorem setKey_eq_ok (h : m.setKey key pressed limit = .ok n) :
    ∃ k, Nibble.ofKey key limit = .ok k ∧ n = m.hold k pressed :=
  map_eq_ok_iff.mp h

theorem deliverKey_eq_ok (h : m.deliverKey key limit = .ok n) :
    ∃ k, Nibble.ofKey key limit = .ok k ∧ n = m.deliver k :=
  map_eq_ok_iff.mp h

theorem deliverKey_eq_error (h : m.deliverKey key limit = .error e) :
    Nibble.ofKey key limit = .error e :=
  map_eq_error_iff.mp h

end

theorem deliverKey_toNat (m : Machine) (k : Nibble) (limit : Option Nat) :
    m.deliverKey (.int k.toNat) limit = .ok (m.deliver k) := by
  rw [deliverKey, Nibble.ofKey_toNat]
  rfl

theorem setKey_toNat (m : Machine) (k : Nibble) (pressed : Bool) (limit : Option Nat) :
    m.setKey (.int k.toNat) pressed limit = .ok (m.hold k pressed) := by
  rw [setKey, Nibble.ofKey_toNat]
  rfl

theorem deliver_of_none {m : Machine} (h : m.awaiting = none) (k : Nibble) : m.deliver k = m := by
  rw [deliver, h]

def loaded (m : Machine) (program : List Byte) : Machine :=
  { m with memory := m.memory.patch (BitVec.ofNat 12 programStart) program }

theorem load_eq_ok {m n : Machine} {program : List Byte} (h : m.load program = .ok n) :
    n = m.loaded program := by
  unfold load at h
  split at h
  · cases h
  · exact (Except.ok.inj h).symm

theorem loadData_eq_ok {m n : Machine} {program : List Datum} (h : m.loadData program = .ok n) :
    ∃ bytes, m.load bytes = .ok n := by
  unfold loadData at h
  cases hb : Byte.ofData program with
  | error e => simp [hb] at h
  | ok bytes =>
    rw [hb] at h
    exact ⟨bytes, h⟩

theorem loadUnsized_eq_ok {m n : Machine} {program : Unsized} (h : m.loadUnsized program = .ok n) :
    ∃ bytes, program.bytes = .ok bytes ∧ m.load bytes = .ok n := by
  unfold loadUnsized at h
  cases hb : program.bytes with
  | error e => simp [hb] at h
  | ok bytes =>
    rw [hb] at h
    exact ⟨bytes, rfl, h⟩

theorem loadFile_eq_ok {m n : Machine} {contents : Except FileError (List Byte)}
    (h : m.loadFile contents = .ok n) : ∃ bytes, m.load bytes = .ok n := by
  cases contents with
  | error e => cases h
  | ok bytes => exact ⟨bytes, h⟩

theorem respond_related {R : Machine → Machine → Prop} {m n : Machine} {a : Action} (h : R m n)
    (ha : SameOutcome R (m.apply a) (n.apply a)) :
    (m.respond a).1 = (n.respond a).1 ∧ R (m.respond a).2 (n.respond a).2 := by
  unfold respond
  generalize m.apply a = x at ha
  generalize n.apply a = y at ha
  cases ha with
  | ok h' => exact ⟨rfl, h'⟩
  | error e => exact ⟨rfl, h⟩

theorem trace_related {R : Machine → Machine → Prop}
    (hR : ∀ m n a, R m n → SameOutcome R (m.apply a) (n.apply a)) {m n : Machine} (h : R m n)
    (as : List Action) :
    List.Forall₂ (fun p q => p.1 = q.1 ∧ R p.2 q.2) (m.trace as) (n.trace as) := by
  induction as generalizing m n with
  | nil => exact .nil
  | cons a as ih =>
    have hstep := respond_related h (hR m n a h)
    exact .cons hstep (ih hstep.2)

end Machine
end Chip8
