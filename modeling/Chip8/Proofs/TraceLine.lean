import Chip8.Journal.Message
import Chip8.Proofs.Delivery
import Chip8.Proofs.Grammar
import Chip8.Text.Numeral

/-! Reading a line of the trace. The address and the word of an instruction are written in hexadecimal digits, at
least three of them and at least four, and can be read back from the line. No other line of a session begins as
those of the trace do. -/

namespace Chip8
namespace Text

def hexValue? (c : Char) : Option Nat := (Nibble.ofHex? c).map BitVec.toNat

def isHex (c : Char) : Bool := (hexValue? c).isSome

def readHex (cs : List Char) : Nat := ofDigits 16 (cs.map fun c => (hexValue? c).getD 0)

theorem hexDigits_nibble (d : Nibble) : ∃ c, hexDigits d.toNat = [c] ∧ hexValue? c = some d.toNat := by
  have hd := map_ofHex?_hexDigits d
  obtain ⟨c, hc, hvalue⟩ := List.map_eq_singleton_iff.mp hd
  exact ⟨c, hc, by rw [hexValue?, hvalue, Option.map_some]⟩

theorem hexDigits_of_lt {n : Nat} (h : n < 16) : ∃ c, hexDigits n = [c] ∧ hexValue? c = some n := by
  have hn : (BitVec.ofNat 4 n).toNat = n := by rw [BitVec.toNat_ofNat, Nat.mod_eq_of_lt h]
  rw [← hn]
  exact hexDigits_nibble _

theorem hexDigits_of_le {n : Nat} (h : 16 ≤ n) :
    hexDigits n = hexDigits (n / 16) ++ hexDigits (n % 16) := by
  have hlast : n % 16 < 16 := Nat.mod_lt n (by decide)
  unfold hexDigits
  rw [Nat.toDigits_of_base_le (by decide) h, Nat.toDigits_of_lt_base hlast, List.map_append]

theorem isHex_of_mem_hexDigits (n : Nat) : ∀ c ∈ hexDigits n, isHex c = true := by
  induction n using Nat.strongRecOn with
  | ind n ih =>
    rcases Nat.lt_or_ge n 16 with hn | hn
    · obtain ⟨c, hc, hvalue⟩ := hexDigits_of_lt hn
      simp [hc, isHex, hvalue]
    · have hfirst := ih (n / 16) (by omega)
      have hlast := ih (n % 16) (by omega)
      rw [hexDigits_of_le hn, List.forall_mem_append]
      exact ⟨hfirst, hlast⟩

theorem readHex_append_singleton {c : Char} {d : Nat} (h : hexValue? c = some d) (cs : List Char) :
    readHex (cs ++ [c]) = readHex cs * 16 + d := by
  simp [readHex, ofDigits, h]

theorem readHex_hexDigits (n : Nat) : readHex (hexDigits n) = n := by
  induction n using Nat.strongRecOn with
  | ind n ih =>
    rcases Nat.lt_or_ge n 16 with hn | hn
    · obtain ⟨c, hc, hvalue⟩ := hexDigits_of_lt hn
      simp [hc, readHex, ofDigits, hvalue]
    · obtain ⟨c, hc, hvalue⟩ := hexDigits_of_lt (Nat.mod_lt n (show 0 < 16 by decide))
      have hfirst := ih (n / 16) (by omega)
      rw [hexDigits_of_le hn, hc, readHex_append_singleton hvalue, hfirst]
      omega

theorem readHex_zeros (k : Nat) (cs : List Char) : readHex (List.replicate k '0' ++ cs) = readHex cs := by
  induction k with
  | zero => rfl
  | succ k ih =>
    have hzero : hexValue? '0' = some 0 := rfl
    rw [← ih]
    simp [readHex, ofDigits, List.replicate_succ, hzero]

theorem toList_hex (width n : Nat) :
    (hex width n).toList = List.replicate (width - (hexDigits n).length) '0' ++ hexDigits n := by
  have hsign : signOf (n : Int) = [] := by simp [signOf]
  simp [hex, hsign, padLeft]

theorem isHex_of_mem_hex (width n : Nat) : ∀ c ∈ (hex width n).toList, isHex c = true := by
  rw [toList_hex, List.forall_mem_append]
  refine ⟨fun c hc => ?_, isHex_of_mem_hexDigits n⟩
  rw [List.eq_of_mem_replicate hc]
  rfl

theorem readHex_hex (width n : Nat) : readHex (hex width n).toList = n := by
  rw [toList_hex, readHex_zeros, readHex_hexDigits]

end Text

/-- The address and the word of a line of the trace. -/
def readTrace (line : String) : Option (Nat × Nat) :=
  match line.toList with
  | '0' :: 'x' :: cs =>
    let rest := (cs.dropWhile Text.isHex).drop 2
    some (Text.readHex (cs.takeWhile Text.isHex), Text.readHex (rest.takeWhile Text.isHex))
  | _ => none

theorem readTrace_trace (address word : Nat) (mnemonic : String) :
    readTrace (Message.render (.trace address word mnemonic)) = some (address, word) := by
  have hline : (Message.render (.trace address word mnemonic)).toList =
      '0' :: 'x' :: ((Text.hex 3 address).toList ++
        ':' :: ' ' :: ((Text.hex 4 word).toList ++ ' ' :: ' ' :: mnemonic.toList)) := by
    have hrender : Message.render (.trace address word mnemonic) =
        "0x" ++ Text.hex 3 address ++ ": " ++ Text.hex 4 word ++ "  " ++ mnemonic := rfl
    simp [hrender]
  have haddress := Text.isHex_of_mem_hex 3 address
  have hword := Text.isHex_of_mem_hex 4 word
  have hcolon : Text.isHex ':' = false := rfl
  have hblank : Text.isHex ' ' = false := rfl
  simp [readTrace, hline, List.takeWhile_append_of_pos haddress, List.dropWhile_append_of_pos haddress,
    List.takeWhile_append_of_pos hword, hcolon, hblank, Text.readHex_hex]

theorem readTrace_of_head? {line : String} {c : Char} (h : line.toList.head? = some c) (hc : c ≠ '0') :
    readTrace line = none := by
  unfold readTrace
  split
  · next hline =>
    rw [hline] at h
    exact absurd (Option.some.inj h).symm hc
  · rfl

end Chip8
