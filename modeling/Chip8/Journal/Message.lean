import Chip8.Decimal
import Chip8.Fault
import Chip8.Word

/-! What a journal says, as data, and the text of each message. -/

namespace Chip8

inductive Message where
  | text (s : String)
  | rule
  | runStarted
  | runFinished (elapsed : Float)
  | setting (name : String) (value : Datum)
  | trace (address word : Int) (mnemonic : String)
  | registers (values : List Int) (index pc : Int)
  | refused (r : Refusal)
  | powerOn
  | programLoaded (size : Nat)
  | keyAwaited (register : Nibble)
  | keyDelivered (key : Int) (register : Nibble)
  | parked (address : Word)
  | screenSaved (file : String)
deriving Repr

namespace Message

def ruleText : String := String.ofList (List.replicate 60 '=')

def registerTexts (i : Nat) : List Int → List String
  | [] => []
  | v :: vs => ("V" ++ Text.hex 1 i ++ "=" ++ Text.hex 2 v) :: registerTexts (i + 1) vs

def render : Message → String
  | text s => s
  | rule => ruleText
  | runStarted => "Starting run with configuration:"
  | runFinished elapsed => "Run finished in " ++ String.ofList (Decimal.fixed 1 elapsed) ++ "s"
  | setting name value => "  " ++ name ++ ": " ++ value.plain
  | trace address word mnemonic =>
    "0x" ++ Text.hex 3 address ++ ": " ++ Text.hex 4 word ++ "  " ++ mnemonic
  | registers values index pc =>
    "PC=" ++ Text.hex 3 pc ++ " I=" ++ Text.hex 4 index ++ " " ++
      " ".intercalate (registerTexts 0 values)
  | refused r => r.title ++ ": " ++ r.message
  | powerOn => "Engine reset"
  | programLoaded size => "Loaded " ++ toString size ++ " byte program"
  | keyAwaited register => "Waiting for key into V" ++ Text.hex 1 register.toNat
  | keyDelivered key register =>
    "Key " ++ Text.hex 1 key ++ " delivered to V" ++ Text.hex 1 register.toNat
  | parked address => "Program waiting for a key after 0x" ++ Text.hex 3 address.toNat
  | screenSaved file => "Screen saved: " ++ file

end Message
end Chip8
