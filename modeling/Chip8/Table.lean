/-! Tables with one entry for every word of a fixed width. Memory, the registers, the keypad and the
rows of the screen are tables, so an index is in range by its type, and a window of consecutive
entries wraps around at the end. Two tables with the same entries are equal (`ext`), an entry after an
update is `get_set`, and one after a patch of consecutive entries is `get_patch`. -/

namespace Chip8

structure Table (w : Nat) (α : Type) where
  entries : Vector α (Nat.pow 2 w)
deriving DecidableEq

namespace Table

variable {w : Nat} {α : Type}

def replicate (w : Nat) (a : α) : Table w α := ⟨Vector.replicate (Nat.pow 2 w) a⟩

def ofFn (f : BitVec w → α) : Table w α := ⟨Vector.ofFn fun i => f (BitVec.ofFin i)⟩

def get (t : Table w α) (i : BitVec w) : α :=
  have := i.isLt
  t.entries[i.toNat]

def set (t : Table w α) (i : BitVec w) (a : α) : Table w α :=
  ⟨t.entries.set i.toNat a i.isLt⟩

def toList (t : Table w α) : List α := t.entries.toList

def window (t : Table w α) (i : BitVec w) : Nat → List α
  | 0 => []
  | n + 1 => t.get i :: t.window (i + 1) n

/-- Consecutive entries replaced from `i` on. -/
def patch (t : Table w α) (i : BitVec w) : List α → Table w α
  | [] => t
  | a :: as => (t.set i a).patch (i + 1) as

@[ext] theorem ext {t u : Table w α} (h : ∀ i, t.get i = u.get i) : t = u := by
  obtain ⟨x⟩ := t
  obtain ⟨y⟩ := u
  congr 1
  ext k hk
  exact h ⟨⟨k, hk⟩⟩

@[simp] theorem get_replicate (a : α) (i : BitVec w) : (replicate w a).get i = a := by
  simp [get, replicate]

@[simp] theorem get_ofFn (f : BitVec w → α) (i : BitVec w) : (ofFn f).get i = f i := by
  simp [get, ofFn]

@[simp] theorem length_toList (t : Table w α) : t.toList.length = Nat.pow 2 w := by
  simp [toList]

theorem get_set (t : Table w α) (i j : BitVec w) (a : α) :
    (t.set i a).get j = if i = j then a else t.get j := by
  simp only [get, set, Vector.getElem_set, BitVec.toNat_inj]

@[simp] theorem set_set (t : Table w α) (i : BitVec w) (a b : α) : (t.set i a).set i b = t.set i b := by
  ext j
  simp only [get_set]
  split <;> rfl

theorem add_one_add_ofNat (i : BitVec w) (k : Nat) :
    i + 1 + BitVec.ofNat w k = i + BitVec.ofNat w (k + 1) := by
  rw [BitVec.ofNat_add, BitVec.add_comm (BitVec.ofNat w k), ← BitVec.add_assoc]
  rfl

theorem get_patch_of_ne {t : Table w α} {i j : BitVec w} {as : List α}
    (h : ∀ k < as.length, j ≠ i + BitVec.ofNat w k) : (t.patch i as).get j = t.get j := by
  induction as generalizing t i with
  | nil => rfl
  | cons a as ih =>
    have hi : i ≠ j := by simpa using (h 0 (Nat.succ_pos _)).symm
    have hrest : ∀ k < as.length, j ≠ i + 1 + BitVec.ofNat w k := by
      intro k hk
      rw [add_one_add_ofNat]
      exact h (k + 1) (Nat.succ_lt_succ hk)
    rw [patch, ih hrest, get_set, if_neg hi]

theorem window_patch {as : List α} (t : Table w α) (i : BitVec w) (h : as.length ≤ Nat.pow 2 w) :
    (t.patch i as).window i as.length = as := by
  induction as generalizing t i with
  | nil => rfl
  | cons a as ih =>
    have hne : ∀ k < as.length, i ≠ i + 1 + BitVec.ofNat w k := by
      intro k hk heq
      have hzero : BitVec.ofNat w (k + 1) = 0 := by
        rwa [add_one_add_ofNat, BitVec.self_eq_add_right] at heq
      have hlt : k + 1 < Nat.pow 2 w := Nat.lt_of_le_of_lt (Nat.succ_le_of_lt hk) h
      have hmod : (k + 1) % Nat.pow 2 w = 0 := (BitVec.toNat_ofNat _ _).symm.trans
        ((congrArg BitVec.toNat hzero).trans BitVec.toNat_zero)
      exact Nat.succ_ne_zero k ((Nat.mod_eq_of_lt hlt).symm.trans hmod)
    rw [List.length_cons, window, patch, ih (t.set i a) (i + 1) (Nat.le_of_succ_le h),
      get_patch_of_ne hne, get_set, if_pos rfl]

@[simp] theorem window_length (t : Table w α) (i : BitVec w) (n : Nat) :
    (t.window i n).length = n := by
  induction n generalizing i with
  | zero => rfl
  | succ n ih => simp [window, ih]

theorem getElem?_window (t : Table w α) (i : BitVec w) {k n : Nat} (h : k < n) :
    (t.window i n)[k]? = some (t.get (i + BitVec.ofNat w k)) := by
  induction n generalizing i k with
  | zero => exact absurd h (Nat.not_lt_zero k)
  | succ n ih =>
    cases k with
    | zero => simp [window]
    | succ k =>
      rw [window, List.getElem?_cons_succ, ih (i + 1) (Nat.lt_of_succ_lt_succ h), add_one_add_ofNat]

theorem window_congr {t u : Table w α} {i : BitVec w} {n : Nat}
    (h : ∀ k < n, t.get (i + BitVec.ofNat w k) = u.get (i + BitVec.ofNat w k)) :
    t.window i n = u.window i n := by
  induction n generalizing i with
  | zero => rfl
  | succ n ih =>
    have hfirst : t.get i = u.get i := by simpa using h 0 (Nat.succ_pos n)
    rw [window, window, hfirst, ih]
    intro k hk
    rw [add_one_add_ofNat]
    exact h (k + 1) (Nat.succ_lt_succ hk)

theorem get_patch_of_getElem? {as : List α} {a : α} {k : Nat} (t : Table w α) (i : BitVec w)
    (h : as.length ≤ Nat.pow 2 w) (hk : as[k]? = some a) :
    (t.patch i as).get (i + BitVec.ofNat w k) = a := by
  obtain ⟨hlt, -⟩ := List.getElem?_eq_some_iff.mp hk
  have hwindow := getElem?_window (t.patch i as) i hlt
  rw [window_patch t i h, hk] at hwindow
  exact (Option.some.inj hwindow).symm

/-- Each entry of a patched table is that of the patch at its distance from the start, or the old one. -/
theorem get_patch (t : Table w α) (i j : BitVec w) {as : List α} (h : as.length ≤ Nat.pow 2 w) :
    (t.patch i as).get j = as[(j - i).toNat]?.getD (t.get j) := by
  have hj : i + BitVec.ofNat w (j - i).toNat = j := by
    rw [BitVec.ofNat_toNat, BitVec.setWidth_eq, BitVec.add_comm, BitVec.sub_add_cancel]
  cases hk : as[(j - i).toNat]? with
  | some a =>
    have hget := get_patch_of_getElem? t i h hk
    rwa [hj] at hget
  | none =>
    refine get_patch_of_ne fun k hlt heq => ?_
    have hdist : (j - i).toNat = k := by
      rw [heq, BitVec.add_comm, BitVec.add_sub_cancel, BitVec.toNat_ofNat]
      exact Nat.mod_eq_of_lt (Nat.lt_of_lt_of_le hlt h)
    rw [hdist, List.getElem?_eq_none_iff] at hk
    exact absurd hlt (Nat.not_lt_of_le hk)

theorem patch_patch (t : Table w α) (i : BitVec w) {as bs : List α} (has : as.length ≤ Nat.pow 2 w)
    (hbs : bs.length ≤ Nat.pow 2 w) :
    (t.patch i as).patch i bs = t.patch i (bs ++ as.drop bs.length) := by
  have hlength : (bs ++ as.drop bs.length).length ≤ Nat.pow 2 w := by
    rw [List.length_append, List.length_drop]
    omega
  ext j
  rw [get_patch _ i j hbs, get_patch t i j has, get_patch t i j hlength, List.getElem?_append]
  split
  · next hlt => rw [List.getElem?_eq_getElem hlt]; rfl
  · next hlt =>
    rw [List.getElem?_eq_none (Nat.le_of_not_lt hlt), List.getElem?_drop,
      Nat.add_sub_cancel' (Nat.le_of_not_lt hlt)]
    rfl

end Table
end Chip8
