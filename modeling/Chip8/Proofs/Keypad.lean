import Chip8.Proofs.Draws
import Chip8.Proofs.KeyWait

/-! The keypad and the keys that are held. A key is held if the last that was said about it, in a call that was not
refused, was a press. Nothing else changes the keypad, and the two skips that look at a key see no other keys than
the sixteen. -/

namespace Chip8

def Request.hold? : Request → Option (Datum × Bool)
  | .call (.press key) => some (key, true)
  | .call (.release key) => some (key, false)
  | _ => none

/-- What an exchange says about key `k`: that it is held, or that it is let go. -/
def Exchange.keyEvent? (e : Exchange) (k : Nibble) : Option Bool :=
  match e.request.hold?, e.reply with
  | some (key, pressed), .done =>
    if (Nibble.ofKey key e.before.digitLimit).toOption = some k then some pressed else none
  | _, _ => none

def lastEvent (es : List Exchange) (k : Nibble) : Option Bool :=
  es.reverse.findSome? (·.keyEvent? k)

/-- The word skips an instruction if `p` holds, and does nothing if not. -/
def Machine.SkipsIff (m : Machine) (w : Int) (p : Prop) : Prop :=
  (p → m.execute w = .ok { m with pc := m.pc + 2 }) ∧ (¬ p → m.execute w = .ok m)

theorem request_of_hold? {r : Request} {key : Datum} (h : r.hold? = some (key, true)) :
    r = .call (.press key) := by
  cases r with
  | call c =>
    cases c with
    | press d =>
      cases h
      rfl
    | _ => cases h
  | _ => cases h

theorem lastEvent_cons (e : Exchange) (es : List Exchange) (k : Nibble) :
    lastEvent (e :: es) k = (lastEvent es k).or (e.keyEvent? k) := by
  rw [lastEvent, List.reverse_cons, List.findSome?_append, List.findSome?_singleton]
  rfl

namespace Exchange

variable {e : Exchange} {key : Datum} {pressed : Bool} {j : Nibble} {x : Error}

theorem keyEvent?_eq_none (h : e.request.hold? = none ∨ e.reply ≠ .done) (k : Nibble) :
    e.keyEvent? k = none := by
  unfold keyEvent?
  rcases h with h | h
  · rw [h]
  · split
    · rename_i hreply
      exact absurd hreply h
    · rfl

theorem keyEvent?_of_ok (h : e.request.hold? = some (key, pressed)) (hreply : e.reply = .done)
    (hkey : Nibble.ofKey key e.before.digitLimit = .ok j) (k : Nibble) :
    e.keyEvent? k = if j = k then some pressed else none := by
  have hsome : (Nibble.ofKey key e.before.digitLimit).toOption = some j := congrArg Except.toOption hkey
  rw [keyEvent?, h, hreply]
  simp only [hsome, Option.some.injEq]

theorem keyEvent?_of_error (h : e.request.hold? = some (key, pressed))
    (hkey : Nibble.ofKey key e.before.digitLimit = .error x) (k : Nibble) : e.keyEvent? k = none := by
  have hnone : (Nibble.ofKey key e.before.digitLimit).toOption = none := congrArg Except.toOption hkey
  rw [keyEvent?, h]
  cases e.reply with
  | done => simp only [hnone, reduceCtorEq, if_false]
  | _ => rfl

end Exchange

namespace Machine

variable {m : Machine} {w : Int} {i : Instruction} {p q : Prop}

theorem keypad_deliver (m : Machine) (k : Nibble) : (m.deliver k).keypad = m.keypad := by
  unfold deliver
  cases m.awaiting <;> rfl

theorem SkipsIff.congr (h : m.SkipsIff w p) (hpq : p ↔ q) : m.SkipsIff w q :=
  ⟨fun hq => h.1 (hpq.mpr hq), fun hq => h.2 fun hp => hq (hpq.mp hp)⟩

theorem skipsIff_meets {c : Condition} (hi : Instruction.ofWord? w = some i) (hf : i.form = .skip c) :
    m.SkipsIff w (m.meets c i = true) := by
  have hperform : m.perform i = .ok (if m.meets c i then { m with pc := m.pc + 2 } else m) := by
    rw [perform, hf]
  constructor
  · intro hc
    rw [if_pos hc] at hperform
    exact execute_eq_ok_iff.mpr ⟨i, hi, hperform⟩
  · intro hc
    rw [if_neg hc] at hperform
    exact execute_eq_ok_iff.mpr ⟨i, hi, hperform⟩

theorem keyHeld_iff (m : Machine) (v : Byte) :
    m.keyHeld v.toNat = true ↔ v.toNat ≤ 15 ∧ m.keypad.get (v.setWidth 4) = true := by
  have hkey : BitVec.ofInt 4 v.toNat = v.setWidth 4 := by rw [BitVec.ofInt_natCast, BitVec.ofNat_toNat]
  have hrange : (decide (0 ≤ (v.toNat : Int)) && decide ((v.toNat : Int) < 16)) = true ↔ v.toNat ≤ 15 := by
    rw [Bool.and_eq_true, decide_eq_true_eq, decide_eq_true_eq]
    omega
  rw [keyHeld, Bool.and_eq_true, hrange, hkey]

end Machine

namespace Session

variable {s t : Session} {r : Request} {rs : List Request} {key : Datum} {k : Nibble}

def SameKeypad (s t : Session) : Prop := t.machine.keypad = s.machine.keypad

theorem sameKeypad_of_quiet (h : s.Quiet t) : s.SameKeypad t := by
  rw [h]
  rfl

theorem sameKeypad_step (s : Session) : s.SameKeypad s.step.1 := by
  cases ha : s.isAwaiting with
  | true =>
    rw [step_awaiting ha]
    rfl
  | false =>
    cases hm : s.machine.step with
    | error f => exact sameKeypad_of_quiet (step_fault_quiet hm).2
    | ok m =>
      have hmachine := (step_ok ha hm).2.1
      rw [Machine.step_running ha] at hm
      obtain ⟨i, -, hi⟩ := Machine.execute_eq_ok_iff.mp hm
      exact (congrArg Machine.keypad hmachine).trans (Machine.perform_footprint hi).keypad

theorem spreads_sameKeypad : Spreads SameKeypad where
  trans h h' := h'.trans h
  quiet := sameKeypad_of_quiet
  step := sameKeypad_step
  tick _ := rfl

theorem sameKeypad_deliverKey (s : Session) (key : Datum) : s.SameKeypad (s.deliverKey key).1 := by
  rcases deliverKey_cases s key with ⟨u, hu, hd⟩ | ⟨e, -, -, hd⟩
  · rw [hd]
    cases hm : s.machine.deliverKey key s.digitLimit with
    | error e => exact sameKeypad_of_quiet hu
    | ok m =>
      obtain ⟨k, -, rfl⟩ := Machine.deliverKey_eq_ok hm
      exact Machine.keypad_deliver s.machine k
  · rw [hd]
    rfl

theorem sameKeypad_serve (hr : r ≠ .reset) (hhold : r.hold? = none) : s.SameKeypad (s.serve r).1 := by
  cases r with
  | call c =>
    cases c with
    | load program => exact (idle_loads (r := .call (.load program)) trivial s).keypad nofun
    | loadData program => exact (idle_loads (r := .call (.loadData program)) trivial s).keypad nofun
    | loadFile contents => exact (idle_loads (r := .call (.loadFile contents)) trivial s).keypad nofun
    | loadUnsized program => exact (idle_loadUnsized s program).keypad nofun
    | press key => cases hhold
    | release key => cases hhold
    | deliver key => exact sameKeypad_deliverKey s key
    | step => exact sameKeypad_step s
  | tick => rfl
  | cycle => exact spreads_sameKeypad.cycle s
  | run frames description => exact spreads_sameKeypad.run s frames description
  | reset => exact absurd rfl hr

theorem pressKey_accepted (hk : Nibble.ofKey key s.digitLimit = .ok k) (hkey : ¬ key.IsSpelled) :
    (s.pressKey key).2 = none ∧ (s.pressKey key).1.machine.keypad = s.machine.keypad.set k true := by
  constructor
  · cases hreply : (s.pressKey key).2 with
    | none => rfl
    | some e =>
      rcases pressKey_failed (Prod.ext rfl hreply) with ⟨e', he, -⟩ | ⟨-, -, -, hspelled, -⟩
      · rw [hk] at he
        cases he
      · exact absurd hspelled hkey
  · have hm : s.machine.setKey key true s.digitLimit = .ok (s.machine.hold k true) :=
      map_eq_ok_iff.mpr ⟨k, hk, rfl⟩
    rw [pressKey, hm]
    exact sameKeypad_deliverKey { s with machine := s.machine.hold k true } key

/-- A request about a key changes that entry of the keypad if the key is one of the sixteen, and none if not. -/
theorem serve_hold {pressed : Bool} (hhold : r.hold? = some (key, pressed))
    (hkey : pressed = true → ¬ key.IsSpelled) :
    (∃ k, Nibble.ofKey key s.digitLimit = .ok k ∧ (s.serve r).2 = .done ∧
      (s.serve r).1.machine.keypad = s.machine.keypad.set k pressed) ∨
    ∃ e, Nibble.ofKey key s.digitLimit = .error e ∧ s.SameKeypad (s.serve r).1 := by
  cases r with
  | call c =>
    cases c with
    | press d =>
      cases hhold
      cases hk : Nibble.ofKey key s.digitLimit with
      | error e =>
        refine .inr ⟨e, rfl, ?_⟩
        rw [serve, call, pressKey_refused hk]
        rfl
      | ok k =>
        obtain ⟨hreply, hpad⟩ := pressKey_accepted (s := s) hk (hkey rfl)
        exact .inl ⟨k, rfl, congrArg Reply.ofError hreply, hpad⟩
    | release d =>
      cases hhold
      cases hk : Nibble.ofKey key s.digitLimit with
      | error e =>
        refine .inr ⟨e, rfl, ?_⟩
        rw [serve, call, releaseKey_refused hk]
        rfl
      | ok k =>
        have hm : s.machine.setKey key false s.digitLimit = .ok (s.machine.hold k false) :=
          map_eq_ok_iff.mpr ⟨k, hk, rfl⟩
        rw [serve, call, releaseKey, hm]
        exact .inl ⟨k, rfl, rfl, rfl⟩
    | _ => cases hhold
  | _ => cases hhold

theorem keypad_serve (hr : r ≠ .reset) (hkey : ∀ key, r = .call (.press key) → ¬ key.IsSpelled)
    (k : Nibble) : (s.serve r).1.machine.keypad.get k =
      ((s.exchange r).keyEvent? k).getD (s.machine.keypad.get k) := by
  cases hhold : r.hold? with
  | none =>
    rw [Exchange.keyEvent?_eq_none (.inl hhold)]
    exact congrArg (Table.get · k) (sameKeypad_serve hr hhold)
  | some p =>
    obtain ⟨key, pressed⟩ := p
    have hspelled (hpressed : pressed = true) : ¬ key.IsSpelled := by
      subst hpressed
      exact hkey key (request_of_hold? hhold)
    rcases serve_hold (s := s) hhold hspelled with ⟨j, hj, hreply, hpad⟩ | ⟨e, he, hsame⟩
    · rw [Exchange.keyEvent?_of_ok hhold hreply hj, hpad, Table.get_set]
      split <;> rfl
    · rw [Exchange.keyEvent?_of_error hhold he]
      exact congrArg (Table.get · k) hsame

theorem keypad_after (hrs : .reset ∉ rs) (hkeys : ∀ key, .call (.press key) ∈ rs → ¬ key.IsSpelled)
    (k : Nibble) : (s.after rs).machine.keypad.get k =
      (lastEvent (s.history rs) k).getD (s.machine.keypad.get k) := by
  induction rs generalizing s with
  | nil => rfl
  | cons r rs ih =>
    rw [List.mem_cons, not_or] at hrs
    have hfirst := keypad_serve (s := s) (r := r) (Ne.symm hrs.1)
      (fun key hr => hkeys key (List.mem_cons.mpr (.inl hr.symm))) k
    have hrest := ih (s := (s.serve r).1) hrs.2 fun key hmem => hkeys key (List.mem_cons_of_mem r hmem)
    have hafter : s.after (r :: rs) = (s.serve r).1.after rs := rfl
    rw [hafter, hrest, history, lastEvent_cons, Option.getD_or, hfirst]

variable {settings : Settings} {journal : Journal} {notifies : Bool} {limit : Option Nat} {past : List Request}

theorem exchange_keypad (hr : r ≠ .reset) (hkey : ∀ key, r = .call (.press key) → ¬ key.IsSpelled)
    (h : r.hold? = none ∨ (s.serve r).2 ≠ .done) : s.SameKeypad (s.serve r).1 := by
  refine Table.ext fun k => ?_
  rw [keypad_serve hr hkey, Exchange.keyEvent?_eq_none h]
  rfl

/-- Since its creation or the last reset a session holds the keys of which a press was the last that was said, and
only an accepted press or release changes its keypad. Whatever the registers are, a skip looks at the key that its
register names, and a register above 15 names none. -/
theorem keypad_of_events (hs : create settings journal notifies limit = .ok s)
    (hpast : past = [] ∨ past.getLast? = some .reset) (hrs : .reset ∉ rs)
    (hkeys : ∀ key, .call (.press key) ∈ rs → ¬ key.IsSpelled) :
    let t := s.after (past ++ rs)
    let recent := (s.after past).history rs
    let held (v : Byte) : Prop := v.toNat ≤ 15 ∧ lastEvent recent (v.setWidth 4) = some true
    (∀ k, t.machine.keypad.get k = true ↔ lastEvent recent k = some true) ∧
      (∀ e ∈ recent, e.request.hold? = none ∨ e.reply ≠ .done →
        e.after.machine.keypad = e.before.machine.keypad) ∧
      ∀ m : Machine, m.keypad = t.machine.keypad → ∀ w i, Instruction.ofWord? w = some i →
        (i.form = .skip .held → m.SkipsIff w (held (m.register i.x))) ∧
        (i.form = .skip .released → m.SkipsIff w (¬ held (m.register i.x))) := by
  intro t recent held
  have ht : t = (s.after past).after rs := after_append s past rs
  have hpad (k : Nibble) : t.machine.keypad.get k = true ↔ lastEvent recent k = some true := by
    have hempty : (s.after past).machine.keypad.get k = false := by
      rw [machine_of_fresh hs hpast]
      exact Table.get_replicate false k
    rw [ht, keypad_after hrs hkeys, hempty]
    cases lastEvent recent k with
    | none => simp
    | some b => simp
  refine ⟨hpad, ?_, fun m hm w i hi => ?_⟩
  · have hplain : ∀ r ∈ rs, r ≠ .reset ∧ ∀ key, r = .call (.press key) → ¬ key.IsSpelled := by
      intro r hr
      refine ⟨fun h => hrs (h ▸ hr), fun key h => hkeys key (h ▸ hr)⟩
    exact (history_induction (I := fun _ => True)
      (fun u r _ hr => ⟨trivial, exchange_keypad hr.1 hr.2⟩) trivial hplain).2
  · have hheld : m.keyHeld (m.register i.x).toNat = true ↔ held (m.register i.x) := by
      rw [Machine.keyHeld_iff, hm, hpad]
    constructor
    · intro hf
      exact (Machine.skipsIff_meets hi hf).congr hheld
    · intro hf
      refine (Machine.skipsIff_meets hi hf).congr ?_
      rw [Machine.meets, Bool.not_eq_true', ← Bool.not_eq_true, hheld]

/-- Key 3 ends a wait and is let go of, key 7 stays held, and 16 and -1 are refused; key 5 is delivered only, and the
program runs into a fault. -/
theorem keypad_of_events_mixed :
    let journal := Journal.start "Engine" .warning false false ⟨[]⟩
    let past : List Request := [.call (.press (.int 2)), .reset]
    let rs : List Request := [.call (.load [0xF0, 0x0A, 0x00, 0x00]), .cycle, .call (.press (.int 3)),
      .call (.press (.int 16)), .call (.press (.int 7)), .call (.release (.int 3)),
      .call (.release (.int (-1))), .call (.deliver (.int 5)), .call .step, .tick, .run 1]
    ∃ s, create {} journal false = .ok s ∧
      let t := s.after (past ++ rs)
      let recent := (s.after past).history rs
      let held (v : Byte) : Prop := v.toNat ≤ 15 ∧ lastEvent recent (v.setWidth 4) = some true
      (lastEvent recent 3 = some false ∧ lastEvent recent 7 = some true ∧ lastEvent recent 5 = none) ∧
        (∀ k, t.machine.keypad.get k = true ↔ lastEvent recent k = some true) ∧
        (∀ e ∈ recent, e.request.hold? = none ∨ e.reply ≠ .done →
          e.after.machine.keypad = e.before.machine.keypad) ∧
        ∀ m : Machine, m.keypad = t.machine.keypad → ∀ w i, Instruction.ofWord? w = some i →
          (i.form = .skip .held → m.SkipsIff w (held (m.register i.x))) ∧
          (i.form = .skip .released → m.SkipsIff w (¬ held (m.register i.x))) := by
  intro journal past rs
  obtain ⟨s, hs⟩ : ∃ s, create {} journal false = .ok s := ⟨_, rfl⟩
  have hpast : past.getLast? = some .reset := rfl
  have hrs : .reset ∉ rs := by simp [rs]
  have hkeys : ∀ key, .call (.press key) ∈ rs → ¬ key.IsSpelled := by
    simp [rs, Datum.IsSpelled]
  have hkeypad := keypad_of_events hs (.inr hpast) hrs hkeys
  obtain ⟨-, rfl⟩ := create_eq_ok_iff.mp hs
  refine ⟨_, hs, ?_, hkeypad⟩
  decide +kernel

end Session
end Chip8
