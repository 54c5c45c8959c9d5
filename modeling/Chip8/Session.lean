import Chip8.Instruction.Form
import Chip8.Journal
import Chip8.Machine.Execute
import Chip8.Machine.Keypad
import Chip8.Machine.Program
import Chip8.Settings

/-! A session drives one machine under fixed settings and keeps a journal of what it does. A step that
faults leaves the machine as it was; the fault is written down and handed back with the address of the
instruction. The host of the session may limit the digits of the numbers that it reads and writes. -/

namespace Chip8

structure Session where
  settings : Settings
  machine : Machine
  steps : Nat
  journal : Journal
  notifiesClear : Bool
  clears : Nat
  digitLimit : Option Nat := some Text.digitLimit

namespace Session

def create (settings : Settings) (journal : Journal) (notifiesClear : Bool)
    (digitLimit : Option Nat := some Text.digitLimit) : Except Error Session := do
  let machine ← Machine.create settings.seed settings.dialect
  return { settings, machine, steps := 0, journal, notifiesClear, clears := 0, digitLimit }

def log (s : Session) (level : Level) (message : Message) : Session :=
  { s with journal := s.journal.log level message }

def isAwaiting (s : Session) : Bool := s.machine.isAwaiting

def soundActive (s : Session) : Bool := s.machine.sound ≠ 0

def reset (s : Session) : Session :=
  { s with
    machine := Machine.powerOn s.settings.seed s.settings.dialect
    steps := 0 }.log .debug .powerOn

/-- A loaded machine takes the place of the old one, a failed load changes nothing. -/
def install (s : Session) (size : Nat) : Except Error Machine → Session × Option Error
  | .error e => (s, some e)
  | .ok m => ({ s with machine := m }.log .debug (.programLoaded size), none)

def load (s : Session) (program : List Byte) : Session × Option Error :=
  s.install program.length (s.machine.load program)

def loadData (s : Session) (program : List Datum) : Session × Option Error :=
  s.install program.length (s.machine.loadData program)

/-- The length of a program is asked for when it is in memory already. -/
def loadUnsized (s : Session) (program : Unsized) : Session × Option Error :=
  match s.machine.loadUnsized program with
  | .error e => (s, some e)
  | .ok m => ({ s with machine := m }, some (.noLength program.kind))

def loadFile (s : Session) (contents : Except FileError (List Byte)) : Session × Option Error :=
  s.install (contents.toOption.getD []).length (s.machine.loadFile contents)

def dump (m : Machine) : Message :=
  .registers (m.registers.toList.map fun b => (b.toNat : Int)) m.index.toNat m.pc.toNat

def fail (s : Session) (f : Fault) : Session × Option Fault :=
  let f := f.tag s.machine.pc.toNat
  ((s.log .error (.refused (.fault f))).log .error (dump s.machine), some f)

def commit (s : Session) (m : Machine) (i : Instruction) : Session :=
  let s := { s with machine := m, steps := s.steps + 1 }
  match i.form with
  | .clear => if s.notifiesClear then { s with clears := s.clears + 1 } else s
  | .awaitKey => s.log .debug (.keyAwaited i.x)
  | _ => s

def step (s : Session) : Session × Option Fault :=
  if s.isAwaiting then (s, none)
  else
    let (w, m) := s.machine.fetch
    match Instruction.ofWord? w.toNat with
    | none => s.fail (.unknownOpcode w.toNat none)
    | some i =>
      let s := s.log .debug (.trace s.machine.pc.toNat w.toNat i.form.mnemonic)
      match m.perform i with
      | .error f => s.fail f
      | .ok m => (s.commit m i, none)

def tick (s : Session) : Session := { s with machine := s.machine.tick }

def advance : Nat → Session → Session × Option Fault
  | 0, s => (s, none)
  | n + 1, s =>
    if s.isAwaiting then (s, none)
    else
      match s.step with
      | (s, some f) => (s, some f)
      | (s, none) => advance n s

/-- As many steps as the speed says, then one tick of the timers unless a key is awaited. -/
def cycle (s : Session) : Session × Option Fault :=
  match advance s.settings.speed s with
  | (s, some f) => (s, some f)
  | (s, none) => (if s.isAwaiting then s else s.tick, none)

def stepMany (done : Nat) : Nat → Session → Session × Nat × Option Fault
  | 0, s => (s, done, none)
  | n + 1, s =>
    match s.step with
    | (s, some f) => (s, done, some f)
    | (s, none) => stepMany (done + 1) n s

def keyLabel : Datum → Except Error Int
  | .int n => .ok n
  | .bool b => .ok (if b then 1 else 0)
  | d => .error (.unlabelledKey d.kind)

def settle (s : Session) : Except Error Machine → Session × Option Error
  | .error e => (s, some e)
  | .ok m => ({ s with machine := m }, none)

/-- A key that answers a wait is written down before it is checked. -/
def deliverKey (s : Session) (key : Datum) : Session × Option Error :=
  match s.machine.awaiting with
  | none => s.settle (s.machine.deliverKey key s.digitLimit)
  | some x =>
    match keyLabel key with
    | .error e => (s, some e)
    | .ok n => (s.log .debug (.keyDelivered n x)).settle (s.machine.deliverKey key s.digitLimit)

def releaseKey (s : Session) (key : Datum) : Session × Option Error :=
  s.settle (s.machine.setKey key false s.digitLimit)

/-- The key is held first and delivered then, and stays held if the delivery fails. -/
def pressKey (s : Session) (key : Datum) : Session × Option Error :=
  match s.machine.setKey key true s.digitLimit with
  | .error e => (s, some e)
  | .ok m => { s with machine := m }.deliverKey key

def clampIndex (n i : Int) : Int :=
  let j := if i < 0 then i + n else i
  max 0 (min (n - 1) j)

def pixel (s : Session) (x y : Int) : Bool :=
  s.machine.screen.pixel (BitVec.ofInt 6 (clampIndex screenWidth x))
    (BitVec.ofInt 5 (clampIndex screenHeight y))

end Session
end Chip8
