import Chip8.Error
import Chip8.Machine

/-! Keys. A key may be offered as any datum; it is one of the sixteen if it reads as a number from 0
to 15 and is no boolean. The check comes first, whether something waits for the key or not. -/

namespace Chip8

def Nibble.ofKey (key : Datum) (limit : Option Nat := some Text.digitLimit) : Except Error Nibble :=
  match key with
  | .bool _ => .error (.refusal (.invalidKey key))
  | _ =>
    match key.readInt limit with
    | .error e => .error (.number e)
    | .ok n =>
      if 0 ≤ n && n < keyCount then .ok (BitVec.ofInt 4 n)
      else .error ((Error.refusal (.invalidKey key)).raised limit)

namespace Machine

/-- A key answers a pending wait and goes unnoticed otherwise. -/
def deliver (m : Machine) (k : Nibble) : Machine :=
  match m.awaiting with
  | none => m
  | some x => { m.setRegister x (k.setWidth 8) with awaiting := none }

def hold (m : Machine) (k : Nibble) (pressed : Bool) : Machine :=
  { m with keypad := m.keypad.set k pressed }

def deliverKey (m : Machine) (key : Datum) (limit : Option Nat := some Text.digitLimit) :
    Except Error Machine :=
  (Nibble.ofKey key limit).map m.deliver

def setKey (m : Machine) (key : Datum) (pressed : Bool)
    (limit : Option Nat := some Text.digitLimit) : Except Error Machine :=
  (Nibble.ofKey key limit).map (m.hold · pressed)

end Machine
end Chip8
