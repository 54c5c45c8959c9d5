import Chip8.Proofs.KeyWait
import Chip8.Proofs.Utterance

/-! The lines about delivered keys beside the keys that are delivered. A key that is offered to a wait is
written down before it is checked, so the two lists agree exactly as long as nobody delivers a boolean, or a
number that is no key, to a session that waits. A press checks its key first and is not concerned. -/

namespace Chip8

def Message.delivery? : Message → Option (Int × Nibble)
  | .keyDelivered key register => some (key, register)
  | _ => none

def Utterance.delivery? : Utterance → Option (Int × Nibble) := pick fun _ m => m.delivery?

def Journal.deliveries (j : Journal) : List (Int × Nibble) := j.pick fun _ m => m.delivery?

/-- What can be written down as a key and is none: a boolean, or a number that is out of range. -/
def Datum.IsFalseKey (d : Datum) : Prop :=
  (∃ b, d = .bool b) ∨ ∃ n, d = .int n ∧ ¬ (0 ≤ n ∧ n < keyCount)

def Request.offered? : Request → Option Datum
  | .call (.press key) | .call (.deliver key) => some key
  | _ => none

namespace Exchange

/-- The deliveries that are written down in the course of the exchange. -/
def announced (e : Exchange) : List (Int × Nibble) :=
  e.after.journal.deliveries.drop e.before.journal.deliveries.length

/-- The wait that a press or a delivery has ended, if any: what is in the register now, and the register. -/
def resolved (e : Exchange) : List (Int × Nibble) :=
  match e.request.offered?, e.before.machine.awaiting, e.after.machine.awaiting with
  | some _, some x, none => [((e.after.machine.register x).toNat, x)]
  | _, _, _ => []

/-- A session that waits is delivered a false key. -/
def Misreports (e : Exchange) : Prop :=
  ∃ key, e.request = .call (.deliver key) ∧ e.before.isAwaiting = true ∧ key.IsFalseKey

structure Faithful (e : Exchange) : Prop where
  announced : e.announced = e.resolved
  refused (x : Error) : e.reply = .refused x → e.announced = []

/-- A delivery is written down that has not happened, and the call is refused. -/
def AnnouncesInVain (e : Exchange) : Prop :=
  ∃ delivery x, e.announced = [delivery] ∧ e.resolved = [] ∧ e.reply = .refused x

/-- A call that misreports its key announces it in vain, and every other exchange is faithful. -/
structure Accounted (e : Exchange) : Prop where
  vain : e.Misreports → e.AnnouncesInVain
  faithful : ¬ e.Misreports → e.Faithful

variable {e : Exchange}

theorem resolved_of_still (h : e.after.machine.awaiting = e.before.machine.awaiting) :
    e.resolved = [] := by
  unfold resolved
  rw [h]
  cases e.request.offered? <;> cases e.before.machine.awaiting <;> rfl

theorem resolved_of_unoffered (h : e.request.offered? = none) : e.resolved = [] := by
  rw [resolved, h]

theorem register_answered (m : Machine) (x k : Nibble) :
    ((m.answered x k).register x).toNat = k.toNat := by
  have hk : k.toNat < 256 := Nat.lt_trans k.isLt (by decide)
  rw [Machine.register, Machine.answered, Table.get_set, if_pos rfl, BitVec.toNat_setWidth,
    Nat.mod_eq_of_lt hk]

theorem resolved_of_answered {key : Datum} {m : Machine} {x k : Nibble}
    (hr : e.request.offered? = some key) (hx : e.before.machine.awaiting = some x)
    (hm : e.after.machine = m.answered x k) : e.resolved = [((k.toNat : Int), x)] := by
  have ha : (m.answered x k).awaiting = none := rfl
  simp only [resolved, hr, hx, hm, ha, register_answered]

end Exchange

namespace Session

def announces (s : Session) (r : Request) : List (Int × Nibble) :=
  (s.notes r).filterMap Utterance.delivery?

variable {s : Session} {r : Request} {key : Datum} {k : Nibble} {limit : Option Nat}

theorem deliveries_serve (h : s.journal.Open) (r : Request) :
    (s.serve r).1.journal.Open ∧
      (s.serve r).1.journal.deliveries = s.journal.deliveries ++ s.announces r := by
  rw [journal_serve]
  exact h.hearAll ⟨rfl, fun _ => rfl, fun _ _ => rfl⟩ (s.notes r)

theorem announced_exchange (h : s.journal.Open) (r : Request) :
    (s.exchange r).announced = s.announces r := by
  have hafter := (deliveries_serve h r).2
  simp only [Exchange.announced, exchange, hafter, List.drop_left]

-- Nothing but a press or a delivery speaks of delivered keys.

theorem announces_stepNotes (s : Session) : s.stepNotes.filterMap Utterance.delivery? = [] := by
  unfold stepNotes
  split
  · rfl
  · split
    · rfl
    · rename_i i _
      rw [List.filterMap_cons_none rfl]
      split
      · rfl
      · unfold commitNotes
        split <;> rfl

theorem announces_advanceNotes (n : Nat) (s : Session) :
    (advanceNotes n s).filterMap Utterance.delivery? = [] := by
  induction n generalizing s with
  | zero => rfl
  | succ n ih =>
    rw [advanceNotes]
    split
    · rfl
    · rw [List.filterMap_append, announces_stepNotes]
      rcases s.step with ⟨t, f | f⟩
      · exact ih t
      · rfl

theorem announces_runFromNotes (n : Nat) (s : Session) :
    (runFromNotes n s).filterMap Utterance.delivery? = [] := by
  induction n generalizing s with
  | zero => rfl
  | succ n ih =>
    rw [runFromNotes, List.filterMap_append, cycleNotes, announces_advanceNotes]
    rcases s.cycle with ⟨t, f | f⟩
    · dsimp only
      split
      · rfl
      · exact ih t
    · rfl

theorem announces_installNotes (size : Nat) (x : Except Error Machine) :
    (installNotes size x).filterMap Utterance.delivery? = [] := by
  cases x <;> rfl

theorem announces_of_unoffered (h : r.offered? = none) : s.announces r = [] := by
  unfold announces
  cases r with
  | call c =>
    cases c with
    | load program => exact announces_installNotes _ _
    | loadData program => exact announces_installNotes _ _
    | loadFile contents => exact announces_installNotes _ _
    | loadUnsized program => rfl
    | press key => exact nomatch h
    | release key => rfl
    | deliver key => exact nomatch h
    | step => exact announces_stepNotes s
  | tick => rfl
  | cycle => exact announces_advanceNotes _ s
  | run frames description =>
    rw [notes, runNotes]
    split
    · rw [List.filterMap_append, announces_runFromNotes]
      rfl
    · rfl
  | reset => rfl

theorem faithful_of_silent (h : s.journal.Open) (hr : s.announces r = [])
    (hresolved : (s.exchange r).resolved = []) : (s.exchange r).Faithful where
  announced := by rw [announced_exchange h, hr, hresolved]
  refused _ _ := by rw [announced_exchange h, hr]

theorem keyLabel_eq_ok {n : Int} (hk : Nibble.ofKey key limit = .ok k) (hl : keyLabel key = .ok n) :
    key = .int k.toNat ∧ n = k.toNat := by
  cases key with
  | int i =>
    obtain rfl : i = n := Except.ok.inj hl
    simp only [Nibble.ofKey, Datum.readInt, Bool.and_eq_true, decide_eq_true_eq] at hk
    split at hk
    · rename_i hi
      obtain rfl := Except.ok.inj hk
      have hnat : ((BitVec.ofInt 4 i).toNat : Int) = i := by
        rw [BitVec.toNat_ofInt]
        simp only [keyCount] at hi
        omega
      rw [hnat]
      exact ⟨rfl, rfl⟩
    · cases hk
  | bool b => cases hk
  | _ => cases hl

theorem isFalseKey_of_refused {n : Int} {e : Error} (hl : keyLabel key = .ok n)
    (hk : Nibble.ofKey key limit = .error e) : key.IsFalseKey := by
  cases key with
  | int i =>
    refine .inr ⟨i, rfl, fun hi => ?_⟩
    simp [Nibble.ofKey, Datum.readInt, hi] at hk
  | bool b => exact .inl ⟨b, rfl⟩
  | _ => cases hl

theorem ofError_raised_invalidKey (key : Datum) (limit : Option Nat) :
    let e := (Error.refusal (.invalidKey key)).raised limit
    Reply.ofError (some e) = .refused e := by
  rcases Error.raised_cases (.refusal (.invalidKey key)) limit with he | he
  · rw [he]
    rfl
  · rw [he]
    rfl

theorem refused_of_isFalseKey (h : key.IsFalseKey) (limit : Option Nat) :
    (∃ n, keyLabel key = .ok n) ∧
      ∃ e, Nibble.ofKey key limit = .error e ∧ Reply.ofError (some e) = .refused e := by
  rcases h with ⟨b, rfl⟩ | ⟨n, rfl, hn⟩
  · exact ⟨⟨_, rfl⟩, _, rfl, rfl⟩
  · exact ⟨⟨n, rfl⟩, _, Nibble.ofKey_outside hn limit, ofError_raised_invalidKey _ limit⟩

/-- A key that passes the check either ends a wait, and is written down with its number, or changes nothing
about the wait and is not written down. -/
theorem deliverKey_reports (t : Session) (hk : Nibble.ofKey key limit = .ok k) :
    ((t.deliveryNotes key).filterMap Utterance.delivery? = [] ∧
        (t.deliverKey key).1.machine.awaiting = t.machine.awaiting) ∨
      ∃ x, t.machine.awaiting = some x ∧
        (t.deliveryNotes key).filterMap Utterance.delivery? = [((k.toNat : Int), x)] ∧
        (t.deliverKey key).2 = none ∧ (t.deliverKey key).1.machine = t.machine.answered x k := by
  cases hx : t.machine.awaiting with
  | none =>
    left
    rw [deliveryNotes, hx, deliverKey_of_none hx]
    exact ⟨rfl, hx⟩
  | some x =>
    cases hl : keyLabel key with
    | error e =>
      left
      simp only [deliveryNotes, deliverKey, hx, hl]
      exact ⟨rfl, trivial⟩
    | ok n =>
      right
      obtain ⟨rfl, rfl⟩ := keyLabel_eq_ok hk hl
      refine ⟨x, rfl, ?_, ?_⟩
      · simp only [deliveryNotes, hx, hl]
        rfl
      · rw [deliverKey_of_some hx]
        exact ⟨rfl, rfl⟩

theorem faithful_delivery (h : s.journal.Open) {t : Session}
    (ht : t.machine.awaiting = s.machine.awaiting) (hr : r.offered? = some key)
    (hk : Nibble.ofKey key limit = .ok k)
    (hserve : s.serve r = ((t.deliverKey key).1, .ofError (t.deliverKey key).2))
    (hnotes : s.announces r = (t.deliveryNotes key).filterMap Utterance.delivery?) :
    (s.exchange r).Faithful := by
  rcases deliverKey_reports t hk with ⟨hsilent, hwait⟩ | ⟨x, hx, hd, hdone, hm⟩
  · apply faithful_of_silent h (hnotes.trans hsilent)
    apply Exchange.resolved_of_still
    simp only [exchange, hserve, hwait, ht]
  · constructor
    · have hafter : (s.exchange r).after.machine = t.machine.answered x k := by
        simp only [exchange, hserve, hm]
      rw [announced_exchange h, hnotes, hd]
      exact (Exchange.resolved_of_answered hr (ht.symm.trans hx) hafter).symm
    · intro e he
      simp [exchange, hserve, hdone, Reply.ofError] at he

theorem faithful_press (h : s.journal.Open) (key : Datum) :
    (s.exchange (.call (.press key))).Faithful := by
  cases hk : Nibble.ofKey key s.digitLimit with
  | error e =>
    have hcall : s.call (.press key) = (s, some e) := pressKey_refused hk
    apply faithful_of_silent h
    · rw [announces, notes, pressNotes, hk]
      rfl
    · apply Exchange.resolved_of_still
      simp only [exchange, serve, hcall]
  | ok k =>
    refine faithful_delivery h (t := { s with machine := s.machine.hold k true }) rfl rfl hk ?_ ?_
    · have hm : s.machine.setKey key true s.digitLimit = .ok (s.machine.hold k true) :=
        map_eq_ok_iff.mpr ⟨k, hk, rfl⟩
      rw [serve, call, pressKey, hm]
    · rw [announces, notes, pressNotes, hk]
      rfl

theorem faithful_deliver (h : s.journal.Open) (key : Datum)
    (hno : ¬ (s.exchange (.call (.deliver key))).Misreports) :
    (s.exchange (.call (.deliver key))).Faithful := by
  cases hk : Nibble.ofKey key s.digitLimit with
  | ok k => exact faithful_delivery h rfl rfl hk rfl rfl
  | error e =>
    apply faithful_of_silent h
    · rw [announces, notes, deliveryNotes]
      cases hx : s.machine.awaiting with
      | none => rfl
      | some x =>
        cases hl : keyLabel key with
        | error e' => rfl
        | ok n => exact absurd ⟨key, rfl, isAwaiting_of_some hx, isFalseKey_of_refused hl hk⟩ hno
    · apply Exchange.resolved_of_still
      exact congrArg Machine.awaiting (quiet_deliverKey hk).keeps.1

theorem faithful_exchange (h : s.journal.Open) (hno : ¬ (s.exchange r).Misreports) :
    (s.exchange r).Faithful := by
  have hunoffered (hr : r.offered? = none) : (s.exchange r).Faithful :=
    faithful_of_silent h (announces_of_unoffered hr) (Exchange.resolved_of_unoffered hr)
  cases r with
  | call c =>
    cases c with
    | press key => exact faithful_press h key
    | deliver key => exact faithful_deliver h key hno
    | _ => exact hunoffered rfl
  | _ => exact hunoffered rfl

theorem announcesInVain (h : s.journal.Open) (hm : (s.exchange r).Misreports) :
    (s.exchange r).AnnouncesInVain := by
  obtain ⟨key, hr, ha, hkey⟩ := hm
  obtain rfl : r = .call (.deliver key) := hr
  obtain ⟨⟨n, hl⟩, e, hk, he⟩ := refused_of_isFalseKey hkey s.digitLimit
  obtain ⟨x, hx⟩ : ∃ x, s.machine.awaiting = some x := Option.isSome_iff_exists.mp ha
  refine ⟨(n, x), e, ?_, ?_, ?_⟩
  · rw [announced_exchange h, announces, notes, deliveryNotes, hx, hl]
    rfl
  · apply Exchange.resolved_of_still
    exact congrArg Machine.awaiting (quiet_deliverKey hk).keeps.1
  · simp only [exchange, serve, call, deliverKey, hx, hl, Machine.deliverKey, hk]
    exact he

theorem deliveries_after (h : s.journal.Open) (rs : List Request) :
    (s.after rs).journal.deliveries =
      s.journal.deliveries ++ (s.history rs).flatMap Exchange.announced := by
  induction rs generalizing s with
  | nil => exact (List.append_nil _).symm
  | cons r rs ih =>
    obtain ⟨hopen, hr⟩ := deliveries_serve h r
    refine (ih hopen).trans ?_
    rw [hr, history, List.flatMap_cons, announced_exchange h, List.append_assoc]

end Session

namespace Exchange

variable {es : List Exchange} (hes : ∀ e ∈ es, e.Accounted)

include hes in
theorem length_resolved_le :
    (es.flatMap resolved).length ≤ (es.flatMap announced).length := by
  induction es with
  | nil => exact Nat.le_refl 0
  | cons e es ih =>
    rw [List.forall_mem_cons] at hes
    have he : e.resolved.length ≤ e.announced.length := by
      by_cases hm : e.Misreports
      · obtain ⟨d, x, -, hnone, -⟩ := hes.1.vain hm
        rw [hnone]
        exact Nat.zero_le _
      · exact Nat.le_of_eq (congrArg List.length (hes.1.faithful hm).announced.symm)
    rw [List.flatMap_cons, List.flatMap_cons, List.length_append, List.length_append]
    exact Nat.add_le_add he (ih hes.2)

include hes in
theorem flatMap_announced_eq_iff :
    es.flatMap announced = es.flatMap resolved ↔ ∀ e ∈ es, ¬ e.Misreports := by
  induction es with
  | nil => exact iff_of_true rfl (List.forall_mem_nil _)
  | cons e es ih =>
    rw [List.forall_mem_cons] at hes
    rw [List.forall_mem_cons, List.flatMap_cons, List.flatMap_cons]
    by_cases hm : e.Misreports
    · obtain ⟨d, x, hone, hnone, -⟩ := hes.1.vain hm
      refine iff_of_false (fun heq => ?_) fun hno => hno.1 hm
      have hlength := congrArg List.length heq
      have hle := length_resolved_le hes.2
      rw [hone, hnone, List.nil_append, List.length_append, List.length_singleton] at hlength
      omega
    · rw [(hes.1.faithful hm).announced, List.append_right_inj, ih hes.2]
      exact (and_iff_right hm).symm

end Exchange

namespace Session

variable {s : Session}

/-- The lines about deliveries are the waits that were ended, in order, if and only if no call has misreported
its key. -/
theorem deliveries_resolved_iff (h : s.journal.threshold = .debug) (rs : List Request) :
    ((s.after rs).journal.deliveries =
        s.journal.deliveries ++ (s.history rs).flatMap Exchange.resolved ↔
      ∀ e ∈ s.history rs, ¬ e.Misreports) ∧
    ∀ e ∈ s.history rs, e.Accounted := by
  have hrs : ∀ r ∈ rs, True := fun _ _ => trivial
  obtain ⟨-, hes⟩ := history_induction (I := fun s => s.journal.Open)
    (Q := Exchange.Accounted)
    (fun t r ht _ => ⟨(deliveries_serve ht r).1, announcesInVain ht, faithful_exchange ht⟩) h hrs
  refine ⟨?_, hes⟩
  rw [deliveries_after h, List.append_right_inj]
  exact Exchange.flatMap_announced_eq_iff hes

def watched : Session := parked.withJournal (.start "Engine" .debug false false ⟨[]⟩)

/-- Two lines, one of them about a key that was refused, and one wait that was ended. -/
theorem deliveries_resolved_watched :
    let rs : List Request := [.call (.deliver (.int 16)), .call (.press (.int 7))]
    watched.journal.threshold = .debug ∧
      (watched.after rs).journal.lines =
        ["[   DEBUG][Engine] Key 10 delivered to V0", "[   DEBUG][Engine] Key 7 delivered to V0"] ∧
      (watched.history rs).flatMap Exchange.resolved = [(7, 0)] ∧
      ((watched.after rs).journal.deliveries =
          watched.journal.deliveries ++ (watched.history rs).flatMap Exchange.resolved ↔
        ∀ e ∈ watched.history rs, ¬ e.Misreports) ∧
      ∀ e ∈ watched.history rs, e.Accounted := by
  intro rs
  exact ⟨rfl, rfl, by decide, deliveries_resolved_iff rfl rs⟩

theorem deliveries_not_resolved :
    ¬ ∀ (s : Session) (rs : List Request), s.journal.threshold = .debug →
      (s.after rs).journal.deliveries =
        s.journal.deliveries ++ (s.history rs).flatMap Exchange.resolved := by
  intro h
  have hlines := h watched [.call (.deliver (.int 16))] rfl
  exact absurd hlines (by decide)

end Session
end Chip8
