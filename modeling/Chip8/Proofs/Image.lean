import Chip8.Proofs.Action
import Chip8.Session

/-! Program images. An image that fits is copied to the place where programs start, and nothing else is touched; one
that is too long, and a list in which something is no byte, is refused before anything is written. A second image
is laid over the first and leaves what sticks out of it. Two bytes of an image are fetched as one word, the first
of them high. -/

namespace Chip8

def Datum.IsByte : Datum → Prop
  | .int n => 0 ≤ n ∧ n ≤ 255
  | .bool _ => True
  | _ => False

def Error.NoByte (e : Error) : Prop := e = .byteRange ∨ ∃ kind, e = .byteKind kind

namespace Byte

variable {d : Datum} {ds : List Datum}

theorem ofDatum_of_isByte (h : d.IsByte) :
    ∃ b : Byte, Byte.ofDatum d = .ok b ∧ d.toInt = .ok b.toNat := by
  cases d with
  | int n =>
    obtain ⟨h0, h255⟩ := h
    have hrange : (0 ≤ n && n < 256) = true := by simp; omega
    have hvalue : ((BitVec.ofInt 8 n).toNat : Int) = n := by
      rw [BitVec.toNat_ofInt]
      omega
    refine ⟨BitVec.ofInt 8 n, ?_, by rw [hvalue]; rfl⟩
    rw [Byte.ofDatum, Byte.ofInt, if_pos hrange]
  | bool b => cases b <;> exact ⟨_, rfl, rfl⟩
  | _ => exact h.elim

theorem ofDatum_of_not_isByte (h : ¬ d.IsByte) : ∃ e, Byte.ofDatum d = .error e ∧ e.NoByte := by
  cases d with
  | int n =>
    have hrange : ¬ (0 ≤ n && n < 256) = true := by
      intro hn
      simp only [Bool.and_eq_true, decide_eq_true_eq] at hn
      exact h ⟨hn.1, Int.le_of_lt_add_one hn.2⟩
    refine ⟨.byteRange, ?_, .inl rfl⟩
    rw [Byte.ofDatum, Byte.ofInt, if_neg hrange]
  | bool b => exact absurd trivial h
  | _ => exact ⟨_, rfl, .inr ⟨_, rfl⟩⟩

theorem ofData_of_isByte (h : ∀ d ∈ ds, d.IsByte) :
    ∃ bytes, Byte.ofData ds = .ok bytes ∧ ds.map Datum.toInt = bytes.map fun b => .ok b.toNat := by
  induction ds with
  | nil => exact ⟨[], rfl, rfl⟩
  | cons d ds ih =>
    obtain ⟨hd, hds⟩ := List.forall_mem_cons.mp h
    obtain ⟨b, hb, hvalue⟩ := ofDatum_of_isByte hd
    obtain ⟨bytes, hbytes, hvalues⟩ := ih hds
    refine ⟨b :: bytes, ?_, ?_⟩
    · rw [Byte.ofData, hb, hbytes]
      rfl
    · rw [List.map_cons, List.map_cons, hvalue, hvalues]

theorem ofData_of_not_isByte (h : ∃ d ∈ ds, ¬ d.IsByte) : ∃ e, Byte.ofData ds = .error e ∧ e.NoByte := by
  induction ds with
  | nil => simp at h
  | cons d ds ih =>
    by_cases hd : d.IsByte
    · obtain ⟨b, hb, -⟩ := ofDatum_of_isByte hd
      obtain ⟨c, hmem, hc⟩ := h
      have hrest : c ∈ ds := (List.mem_cons.mp hmem).resolve_left fun heq => hc (heq ▸ hd)
      obtain ⟨e, he, hno⟩ := ih ⟨c, hrest, hc⟩
      refine ⟨e, ?_, hno⟩
      rw [Byte.ofData, hb, he]
      rfl
    · obtain ⟨e, he, hno⟩ := ofDatum_of_not_isByte hd
      exact ⟨e, by rw [Byte.ofData, he], hno⟩

end Byte

namespace Machine

structure Installs (m n : Machine) (p : List Byte) : Prop where
  inside : ∀ i (hi : i < p.length), n.memory.get (BitVec.ofNat 12 (0x200 + i)) = p[i]
  outside : ∀ a : Address, a.toNat < 0x200 ∨ 0x200 + p.length ≤ a.toNat →
    n.memory.get a = m.memory.get a
  others : n = { m with memory := n.memory }

variable {m n k : Machine} {p q : List Byte}

theorem load_of_fits (h : p.length ≤ programCapacity) (m : Machine) : m.load p = .ok (m.loaded p) := by
  rw [load, if_neg (Nat.not_lt_of_le h)]
  rfl

theorem load_of_oversized (h : programCapacity < p.length) (m : Machine) :
    m.load p = .error (.refusal (.oversized p.length programCapacity)) := by
  rw [load, if_pos h]

theorem length_le_of_load (h : m.load p = .ok n) : p.length ≤ programCapacity := by
  by_contra hlong
  rw [load_of_oversized (Nat.lt_of_not_le hlong)] at h
  cases h

theorem installs_loaded (h : p.length ≤ programCapacity) (m : Machine) : m.Installs (m.loaded p) p where
  inside i hi := by
    rw [BitVec.ofNat_add]
    exact Table.get_patch_of_getElem? m.memory _ (Nat.le_trans h (by decide)) (List.getElem?_eq_getElem hi)
  outside a ha := by
    refine Table.get_patch_of_ne fun i hi heq => ?_
    have hcapacity : programCapacity = 3584 := rfl
    have hplace : a.toNat = 0x200 + i := by
      rw [heq, programStart, ← BitVec.ofNat_add, BitVec.toNat_ofNat]
      omega
    omega
  others := rfl

theorem fetch_of_installs (h : m.Installs n p) (hk : k.memory = n.memory) {i : Nat} (hi : 2 * i + 1 < p.length)
    (hpc : k.pc.toNat % 4096 = 0x200 + 2 * i) :
    k.fetch.1.toNat = 256 * p[2 * i].toNat + p[2 * i + 1].toNat := by
  have hfirst : addressOf k.pc = BitVec.ofNat 12 (0x200 + 2 * i) := by
    apply BitVec.eq_of_toNat_eq
    rw [addressOf, BitVec.toNat_setWidth, BitVec.toNat_ofNat, ← hpc]
    exact (Nat.mod_mod _ _).symm
  have hsecond : addressOf (k.pc + 1) = BitVec.ofNat 12 (0x200 + (2 * i + 1)) := by
    rw [addressOf_add, hfirst, ← Nat.add_assoc, BitVec.ofNat_add _ 1]
    rfl
  change k.current.toNat = _
  rw [current_toNat, hk, hfirst, hsecond, h.inside _ (Nat.lt_of_succ_lt hi), h.inside _ hi]

theorem loaded_loaded (hp : p.length ≤ programCapacity) (hq : q.length ≤ programCapacity) (m : Machine) :
    (m.loaded p).loaded q = m.loaded (q ++ p.drop q.length) := by
  have hpatch := Table.patch_patch m.memory (BitVec.ofNat 12 programStart)
    (Nat.le_trans hp (by decide)) (Nat.le_trans hq (by decide))
  exact congrArg (fun memory => { m with memory := memory }) hpatch

theorem length_overlay_le (hp : p.length ≤ programCapacity) (hq : q.length ≤ programCapacity) :
    (q ++ p.drop q.length).length ≤ programCapacity := by
  rw [List.length_append, List.length_drop]
  omega

theorem getElem?_overlay (p q : List Byte) (i : Nat) :
    (q ++ p.drop q.length)[i]? = if i < q.length then q[i]? else p[i]? := by
  rw [List.getElem?_append]
  split
  · rfl
  · next hi => rw [List.getElem?_drop, Nat.add_sub_cancel' (Nat.le_of_not_lt hi)]

theorem loadData_of_isByte {ds : List Datum} (h : ∀ d ∈ ds, d.IsByte) (m : Machine) :
    ∃ bytes, m.loadData ds = m.load bytes ∧ ds.map Datum.toInt = bytes.map fun b => .ok b.toNat := by
  obtain ⟨bytes, hbytes, hvalues⟩ := Byte.ofData_of_isByte h
  exact ⟨bytes, by rw [loadData, hbytes], hvalues⟩

theorem loadData_of_not_isByte {ds : List Datum} (h : ∃ d ∈ ds, ¬ d.IsByte) (m : Machine) :
    ∃ e, m.loadData ds = .error e ∧ e.NoByte := by
  obtain ⟨e, he, hno⟩ := Byte.ofData_of_not_isByte h
  exact ⟨e, by rw [loadData, he], hno⟩

/-- In every machine a load installs the whole image, or refuses it and leaves a session as it is. Two loads in a row
are one load of the second image over the first, and the words of an image are fetched from where it was
installed. -/
theorem load_whole_or_nothing (m : Machine) (p q : List Byte) (ds : List Datum) :
    (p.length ≤ 3584 → ∃ n, m.load p = .ok n ∧ m.Installs n p ∧
      ∀ (k : Machine) (i : Nat) (hi : 2 * i + 1 < p.length), k.memory = n.memory →
        k.pc.toNat % 4096 = 0x200 + 2 * i →
          k.fetch.1.toNat = 256 * p[2 * i].toNat + p[2 * i + 1].toNat) ∧
    (3584 < p.length → m.load p = .error (.refusal (.oversized p.length 3584)) ∧
      ∀ s : Session, s.machine = m → s.load p = (s, some (.refusal (.oversized p.length 3584)))) ∧
    ((∀ d ∈ ds, d.IsByte) → ∃ bytes, m.loadData ds = m.load bytes ∧
      ds.map Datum.toInt = bytes.map fun b => .ok b.toNat) ∧
    ((∃ d ∈ ds, ¬ d.IsByte) → ∃ e, m.loadData ds = .error e ∧ e.NoByte ∧
      ∀ s : Session, s.machine = m → s.loadData ds = (s, some e)) ∧
    (p.length ≤ 3584 → q.length ≤ 3584 → ∃ k l image, m.load p = .ok k ∧ k.load q = .ok l ∧
      m.load image = .ok l ∧ ∀ i, image[i]? = if i < q.length then q[i]? else p[i]?) := by
  refine ⟨fun hp => ?_, fun hp => ?_, fun hds => loadData_of_isByte hds m, fun hds => ?_, fun hp hq => ?_⟩
  · have hn := installs_loaded hp m
    exact ⟨_, load_of_fits hp m, hn, fun k i hi hk hpc => fetch_of_installs hn hk hi hpc⟩
  · have hload := load_of_oversized hp m
    refine ⟨hload, fun s hs => ?_⟩
    rw [Session.load, hs, hload]
    rfl
  · obtain ⟨e, he, hno⟩ := loadData_of_not_isByte hds m
    refine ⟨e, he, hno, fun s hs => ?_⟩
    rw [Session.loadData, hs, he]
    rfl
  · have hboth := loaded_loaded hp hq m
    refine ⟨_, _, q ++ p.drop q.length, load_of_fits hp m, load_of_fits hq _, ?_, getElem?_overlay p q⟩
    rw [hboth]
    exact load_of_fits (length_overlay_le hp hq) m

/-- In a machine that waits, with a program counter beyond the end of memory, one image is laid over another of odd
length; a list with the number 256 in it, and an image of one byte too many, are refused. -/
theorem load_whole_or_nothing_waiting :
    let m := { powerOn 0 {} with awaiting := some 3, pc := 0xF202 }
    let p : List Byte := [0x12, 0x34, 0x56, 0x78, 0x9A]
    let q : List Byte := [0xAB, 0xCD, 0xEF]
    let large : List Byte := List.replicate 3585 0xAB
    let ds : List Datum := [.int 255, .bool true, .int 256]
    (∃ n, m.load p = .ok n ∧ m.Installs n p ∧ n.fetch.1.toNat = 0x5678) ∧
      m.load large = .error (.refusal (.oversized 3585 3584)) ∧
      (∃ e, m.loadData ds = .error e ∧ e.NoByte) ∧
      ∃ k l image, m.load p = .ok k ∧ k.load q = .ok l ∧ m.load image = .ok l ∧
        image[2]? = some 0xEF ∧ image[4]? = some 0x9A := by
  intro m p q large ds
  have hlong : 3584 < large.length := by rw [List.length_replicate]; decide
  have hds : ∃ d ∈ ds, ¬ d.IsByte := ⟨.int 256, by simp [ds], by simp [Datum.IsByte]⟩
  obtain ⟨hfits, -, -, hlist, htwice⟩ := load_whole_or_nothing m p q ds
  obtain ⟨-, hrefused, -⟩ := load_whole_or_nothing m large [] []
  obtain ⟨n, hn, hinstalls, hfetch⟩ := hfits (by decide)
  obtain ⟨e, he, hno, -⟩ := hlist hds
  obtain ⟨k, l, image, hk, hl, himage, hbytes⟩ := htwice (by decide) (by decide)
  have hpc : n.pc = 0xF202 := by rw [hinstalls.others]
  have hword : n.fetch.1.toNat = 0x5678 := hfetch n 1 (by decide) rfl (by rw [hpc]; rfl)
  have herror : m.load large = .error (.refusal (.oversized 3585 3584)) := by
    rw [(hrefused hlong).1, List.length_replicate]
    rfl
  exact ⟨⟨n, hn, hinstalls, hword⟩, herror, ⟨e, he, hno⟩, k, l, image, hk, hl, himage, hbytes 2, hbytes 4⟩

end Machine
end Chip8
