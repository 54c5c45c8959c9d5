import Chip8.Proofs.Decomposition
import Chip8.Proofs.Setup
import Mathlib.Logic.Function.Iterate

/-! The stream of random bytes. A draw takes its byte from the key that it finds and leaves the next key behind,
and nothing else uses or replaces the key. So the key counts the draws since the machine was at power-on, and
the byte of a draw depends on the seed and on the number of draws before it. -/

namespace Chip8

open Threefry

def Commit.isDraw (c : Commit) : Bool := c.instruction.form = .random

/-- The masked byte of key `k` is in the register. -/
def Commit.Draws (c : Commit) (k : Key) : Prop :=
  c.after.register c.instruction.x = draw k &&& c.instruction.nn

namespace Machine

variable {m n : Machine} {a : Action} {c : Commit}

def draws (m : Machine) (as : List Action) : List Commit := (m.commits as).filter Commit.isDraw

theorem random_respond_of_none (h : m.commit? a = none) : (m.respond a).2.random = m.random :=
  (undisturbed_respond h).random

theorem random_respond_of_ne (h : m.commit? a = some c) (hc : c.instruction.form ≠ .random) :
    (m.respond a).2.random = m.random := by
  obtain ⟨-, -, hn⟩ := commit?_eq_some_iff.mp h
  rw [respond_of_commit? h, (perform_footprint hn).random hc, performer_eq]

theorem random_respond_of_draw (h : m.commit? a = some c) (hc : c.instruction.form = .random) :
    (m.respond a).2.random = next m.random ∧ c.Draws m.random := by
  obtain ⟨-, -, hn⟩ := commit?_eq_some_iff.mp h
  rw [perform, hc] at hn
  have hafter := (Except.ok.inj hn).symm
  rw [respond_of_commit? h, Commit.Draws, hafter, drawRandom, performer_eq]
  exact ⟨rfl, register_setRegister _ _ _⟩

theorem draws_cons (m : Machine) (a : Action) (as : List Action) :
    (m.draws (a :: as) = (m.respond a).2.draws as ∧ (m.respond a).2.random = m.random) ∨
      ∃ c, m.draws (a :: as) = c :: (m.respond a).2.draws as ∧
        (m.respond a).2.random = next m.random ∧ c.Draws m.random := by
  cases h : m.commit? a with
  | none =>
    left
    refine ⟨?_, random_respond_of_none h⟩
    rw [draws, commits, h]
    rfl
  | some c =>
    by_cases hc : c.instruction.form = .random
    · right
      refine ⟨c, ?_, random_respond_of_draw h hc⟩
      simp [draws, commits, h, Commit.isDraw, hc]
    · left
      refine ⟨?_, random_respond_of_ne h hc⟩
      simp [draws, commits, h, Commit.isDraw, hc]

theorem draws_spec (m : Machine) (as : List Action) :
    (m.after as).random = next^[(m.draws as).length] m.random ∧
      ∀ j (hj : j < (m.draws as).length), (m.draws as)[j].Draws (next^[j] m.random) := by
  induction as generalizing m with
  | nil => exact ⟨rfl, nofun⟩
  | cons a as ih =>
    obtain ⟨hlast, hdraws⟩ := ih (m.respond a).2
    rcases draws_cons m a as with ⟨hsame, hkey⟩ | ⟨c, hcons, hkey, hc⟩
    · rw [hkey] at hlast hdraws
      simp only [hsame]
      exact ⟨hlast, hdraws⟩
    · rw [hkey] at hlast hdraws
      simp only [hcons]
      refine ⟨hlast, fun j hj => ?_⟩
      cases j with
      | zero => exact hc
      | succ j => exact hdraws j (Nat.lt_of_succ_lt_succ hj)

end Machine

namespace Session

def draws (s : Session) (rs : List Request) : List Commit := (s.commits rs).filter Commit.isDraw

variable {settings : Settings} {journal : Journal} {notifies : Bool} {limit : Option Nat} {s : Session}
  {past rs : List Request}

theorem after_append (s : Session) (past rs : List Request) :
    s.after (past ++ rs) = (s.after past).after rs := List.foldl_append

theorem machine_of_fresh (hs : create settings journal notifies limit = .ok s)
    (hpast : past = [] ∨ past.getLast? = some .reset) :
    (s.after past).machine = Machine.powerOn settings.seed settings.dialect := by
  obtain ⟨hmachine, hsettings⟩ := create_eq_ok hs
  rcases hpast with rfl | hlast
  · exact hmachine
  · obtain ⟨before, rfl⟩ := List.getLast?_eq_some_iff.mp hlast
    have hsame := (sameSetup_after s before).settings.trans hsettings
    rw [after_append, ← hsame]
    rfl

/-- Since its creation or the last reset a session has moved the key once for each draw, and the draws have
stored the masked bytes of the keys in order. -/
theorem random_stream (hs : create settings journal notifies limit = .ok s)
    (hpast : past = [] ∨ past.getLast? = some .reset) (hrs : .reset ∉ rs) :
    let key := ofSeed settings.seed
    let draws := (s.after past).draws rs
    ((s.after past).after rs).machine.random = next^[draws.length] key ∧
      ∀ j (hj : j < draws.length), draws[j].after.register draws[j].instruction.x =
        draw (next^[j] key) &&& draws[j].instruction.nn := by
  intro key draws
  obtain ⟨as, has, hcommits⟩ := exists_actions (s := s.after past) hrs
  have hdraws : draws = (s.after past).machine.draws as := by
    rw [Machine.draws, ← hcommits]
    rfl
  have hkey : (s.after past).machine.random = key := by rw [machine_of_fresh hs hpast]; rfl
  have hspec := (s.after past).machine.draws_spec as
  rw [hkey, ← hdraws, ← has.machine] at hspec
  exact hspec

/-- A draw before the reset does not count, and the second draw after it masks its byte with zero. -/
theorem random_stream_reset :
    let s := around (Machine.powerOn 0 {})
    let past : List Request := [.call (.load [0xC0, 0x0F]), .call .step, .reset]
    let rs : List Request := [.call (.load [0xC1, 0xFF, 0xC2, 0x00]), .call .step, .tick, .cycle]
    let draws := (s.after past).draws rs
    create {} s.journal false = .ok s ∧ (past = [] ∨ past.getLast? = some .reset) ∧
      .reset ∉ rs ∧ draws.length = 2 ∧
      ((s.after past).after rs).machine.random = next^[draws.length] (ofSeed 0) ∧
      ∀ j (hj : j < draws.length), draws[j].after.register draws[j].instruction.x =
        draw (next^[j] (ofSeed 0)) &&& draws[j].instruction.nn := by
  intro s past rs draws
  have hs : create {} s.journal false = .ok s := rfl
  have hpast : past = [] ∨ past.getLast? = some .reset := .inr rfl
  have hrs : .reset ∉ rs := by simp [rs]
  have hlength : draws.length = 2 := by decide +kernel
  exact ⟨hs, hpast, hrs, hlength, random_stream hs hpast hrs⟩

end Session
end Chip8
