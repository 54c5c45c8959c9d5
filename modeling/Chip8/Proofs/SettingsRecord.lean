import Chip8.Proofs.Execution
import Chip8.Proofs.Record
import Chip8.Settings

/-! Settings from records. Whatever a record holds, exactly one verdict is passed on it: unknown names, unknown
behaviours, the speed and the seed are looked at in this order, and the first of them that is wrong is reported, with
all names that are. The order of the entries does not matter, and settings that were read are read again from the
record that they make. -/

namespace Chip8

def Dialect.names : List String := [shiftName, indexName]

def Settings.names : List String := [speedName, seedName, dialectName]

def Datum.toIntOr (default : Int) : Option Datum → Except NumberError Int
  | none => .ok default
  | some d => d.toInt

theorem Settings.readNumber_eq (name : String) (default : Int) (entries : List (Datum × Datum)) :
    readNumber name default entries =
      (Datum.toIntOr default (Datum.lookup name entries)).mapError .number := by
  unfold readNumber
  cases Datum.lookup name entries with
  | none => rfl
  | some d =>
    simp only [Datum.toIntOr]
    cases d.toInt <;> rfl

namespace Record

def number (r : Record) (name : String) (default : Int) : Except NumberError Int :=
  Datum.toIntOr default (r.get? name)

def isOn (r : Record) (name : String) : Bool :=
  match r.get? name with
  | none => false
  | some d => d.truthy

/-- What a record of behaviours says: which of the two are on, if it names no other. -/
def dialect (q : Record) : Except Error Dialect :=
  if q.others Dialect.names = [] then .ok ⟨q.isOn Dialect.shiftName, q.isOn Dialect.indexName⟩
  else .error (.refusal (.unknownBehaviours (q.others Dialect.names)))

inductive HasDialect (r : Record) : Record → Prop
  | absent : r.get? Settings.dialectName = none → HasDialect r empty
  | falsy {d : Datum} : r.get? Settings.dialectName = some d → d.truthy = false → HasDialect r empty
  | given {q : Record} : r.get? Settings.dialectName = some q.datum → HasDialect r q

structure IsKnown (r q : Record) : Prop where
  settings : ∀ s ∈ r.names, s ∈ Settings.names
  behaviours : ∀ s ∈ q.names, s ∈ Dialect.names

/-- The same settings in any order, and the same behaviours in any order. -/
structure Reorders (r q r' q' : Record) : Prop where
  settings : (r.entries.filter (·.1 ≠ Settings.dialectName)).Perm
    (r'.entries.filter (·.1 ≠ Settings.dialectName))
  behaviours : q.entries.Perm q'.entries

/-- What becomes of a record `r` of settings with a record `q` of behaviours. -/
inductive Verdict (r q : Record) : Except Error Settings → Prop
  | unknownSettings {names : List String} :
    names ≠ [] → Lists names (fun s => s ∈ r.names ∧ s ∉ Settings.names) →
      Verdict r q (.error (.unknownSettings (names.map .text)))
  | unknownBehaviours {names : List String} :
    (∀ s ∈ r.names, s ∈ Settings.names) → names ≠ [] →
      Lists names (fun s => s ∈ q.names ∧ s ∉ Dialect.names) →
        Verdict r q (.error (.refusal (.unknownBehaviours names)))
  | noSpeed {e : NumberError} :
    r.IsKnown q → r.number Settings.speedName 8 = .error e → Verdict r q (.error (.number e))
  | slow {n : Int} :
    r.IsKnown q → r.number Settings.speedName 8 = .ok n → n < 1 → Verdict r q (.error (.slowSpeed n))
  | noSeed {speed : Nat} {e : NumberError} :
    r.IsKnown q → r.number Settings.speedName 8 = .ok speed → 1 ≤ speed →
      r.number Settings.seedName 0 = .error e → Verdict r q (.error (.number e))
  | accepted {speed : Nat} {seed : Int} :
    r.IsKnown q → r.number Settings.speedName 8 = .ok speed → 1 ≤ speed →
      r.number Settings.seedName 0 = .ok seed →
        Verdict r q (.ok ⟨speed, seed, ⟨q.isOn Dialect.shiftName, q.isOn Dialect.indexName⟩⟩)

variable {r q r' q' : Record} {x : Except Error Settings}

theorem filter_isKnown {ss known : List String} {isKnown : Datum → Bool}
    (h : ∀ s, isKnown (.text s) = decide (s ∈ known)) :
    (ss.map Datum.text).filter (fun n => !isKnown n) = (ss.filter fun s => s ∉ known).map .text := by
  rw [List.filter_map]
  congr 1
  refine List.filter_congr fun s _ => ?_
  simp [h]

theorem isKnown_setting (s : String) : Settings.isKnown (.text s) = decide (s ∈ Settings.names) := by
  simp [Settings.isKnown, Settings.names, Datum.isText, Bool.or_assoc]

theorem isKnown_behaviour (s : String) : Dialect.isKnown (.text s) = decide (s ∈ Dialect.names) := by
  simp [Dialect.isKnown, Dialect.names, Datum.isText]

theorem checkNames_data (r : Record) : Settings.checkNames r.data =
    if r.others Settings.names = [] then .ok ()
    else .error (.unknownSettings ((r.others Settings.names).map .text)) := by
  have hnil : r.others Settings.names = [] ↔ r.names.filter (fun s => s ∉ Settings.names) = [] := by
    rw [others_eq_nil_iff, List.filter_eq_nil_iff]
    simp
  rw [Settings.checkNames, names_data, filter_isKnown isKnown_setting]
  split
  · rename_i h
    rw [if_pos (hnil.mpr (List.map_eq_nil_iff.mp h))]
  · rename_i h
    have hne : ¬ r.others Settings.names = [] := fun h' => h (List.map_eq_nil_iff.mpr (hnil.mp h'))
    rw [sortNames_map_text, if_neg hne]
    rfl

theorem lookup_setting (q : Record) (name : String) : Dialect.setting name q.data = q.isOn name := by
  rw [Dialect.setting, lookup_data, isOn]
  cases q.get? name <;> rfl

theorem ofDatum_datum (q : Record) : Dialect.ofDatum q.datum = q.dialect := by
  let unknown := q.names.filter fun s => s ∉ Dialect.names
  have hparts : q.datum.parts = .ok (q.names.map .text) := congrArg Except.ok (names_data q)
  have hnames : (q.names.map Datum.text).mapM Datum.asName = .ok (q.names.map .text) := by
    rw [mapM_eq_ok_map (g := id), List.map_id]
    intro d hd
    obtain ⟨s, -, rfl⟩ := List.mem_map.mp hd
    rfl
  have hdistinct : Datum.distinct (unknown.map .text) = unknown.map .text :=
    distinct_map_text (q.nodup.filter fun s => s ∉ Dialect.names)
  have hnil : (unknown.map Datum.text).isEmpty = true ↔ q.others Dialect.names = [] := by
    rw [others_eq_nil_iff, List.isEmpty_iff, List.map_eq_nil_iff, List.filter_eq_nil_iff]
    simp
  have hentries : Dialect.ofEntries q.data = ⟨q.isOn Dialect.shiftName, q.isOn Dialect.indexName⟩ := by
    rw [Dialect.ofEntries, lookup_setting, lookup_setting]
  have hrefuse : Dialect.refuse (unknown.map .text) = .refusal (.unknownBehaviours (q.others Dialect.names)) := by
    rw [Dialect.refuse, texts?_map_text]
    rfl
  unfold Dialect.ofDatum
  rw [hparts, ok_bind, hnames, ok_bind]
  simp only [filter_isKnown isKnown_behaviour]
  rw [hdistinct, hrefuse, dialect]
  by_cases h : q.others Dialect.names = []
  · rw [if_pos (hnil.mpr h), if_pos h, ← hentries]
    rfl
  · rw [if_neg fun h' => h (hnil.mp h'), if_neg h]

theorem dialect_of_entries_eq_nil (h : q.entries = []) : q.dialect = .ok {} := by
  have hnames : q.names = [] := by rw [names, h, List.map_nil]
  have hothers : q.others Dialect.names = [] := others_eq_nil_iff.mpr (by simp [hnames])
  have hoff (name : String) : q.isOn name = false := by rw [isOn, get?, h, List.lookup_nil]
  rw [dialect, if_pos hothers, hoff, hoff]

theorem readDialect_data (hq : r.HasDialect q) : Settings.readDialect r.data = q.dialect := by
  rw [Settings.readDialect, lookup_data]
  cases hq with
  | absent h =>
    rw [h, dialect_of_entries_eq_nil rfl]
  | falsy h hd =>
    rw [h, dialect_of_entries_eq_nil rfl]
    simp only [hd]
    rfl
  | given h =>
    rw [h]
    simp only [ofDatum_datum]
    -- An empty record counts as false, but says the same.
    split
    · rfl
    · rename_i hfalsy
      have hempty : q.entries = [] := by simpa [datum, data, Datum.truthy] using hfalsy
      rw [dialect_of_entries_eq_nil hempty]

theorem readNumber_data (r : Record) (name : String) (default : Int) :
    Settings.readNumber name default r.data = (r.number name default).mapError .number := by
  rw [Settings.readNumber_eq, lookup_data, number]

/-- What is wrong with the names, or what the numbers say. -/
theorem ofDatum_eq (hq : r.HasDialect q) : Settings.ofDatum r.datum = (do
    Settings.checkNames r.data
    let dialect ← q.dialect
    let speed ← Settings.readSpeed r.data
    let seed ← Settings.readNumber Settings.seedName 0 r.data
    return { speed, seed, dialect }) := by
  have hentries : r.datum.entries = .ok r.data := rfl
  rw [Settings.ofDatum, hentries, ok_bind, Settings.ofEntries, readDialect_data hq]

theorem ofDatum_of_isKnown (hq : r.HasDialect q) (hknown : r.IsKnown q) : Settings.ofDatum r.datum = (do
    let speed ← Settings.readSpeed r.data
    let seed ← Settings.readNumber Settings.seedName 0 r.data
    return { speed, seed, dialect := ⟨q.isOn Dialect.shiftName, q.isOn Dialect.indexName⟩ }) := by
  rw [ofDatum_eq hq, checkNames_data, if_pos (others_eq_nil_iff.mpr hknown.settings), dialect,
    if_pos (others_eq_nil_iff.mpr hknown.behaviours)]
  rfl

theorem readSpeed_data {n : Int} (h : r.number Settings.speedName 8 = .ok n) : Settings.readSpeed r.data =
    if n < 1 then .error (.slowSpeed n) else .ok n.toNat := by
  rw [Settings.readSpeed, readNumber_data, h]
  rfl

theorem Verdict.eq (hq : r.HasDialect q) (h : Verdict r q x) : Settings.ofDatum r.datum = x := by
  have hspeed {speed : Nat} (hn : r.number Settings.speedName 8 = .ok speed) (hone : 1 ≤ speed) :
      Settings.readSpeed r.data = .ok speed := by
    rw [readSpeed_data hn, if_neg (by omega)]
    rfl
  cases h with
  | unknownSettings hne hlists =>
    rw [hlists.unique (r.lists_others _)] at hne ⊢
    rw [ofDatum_eq hq, checkNames_data, if_neg hne]
    rfl
  | unknownBehaviours hknown hne hlists =>
    rw [hlists.unique (q.lists_others _)] at hne ⊢
    rw [ofDatum_eq hq, checkNames_data, if_pos (others_eq_nil_iff.mpr hknown), dialect, if_neg hne]
    rfl
  | noSpeed hknown hn =>
    rw [ofDatum_of_isKnown hq hknown, Settings.readSpeed, readNumber_data, hn]
    rfl
  | slow hknown hn hslow =>
    rw [ofDatum_of_isKnown hq hknown, readSpeed_data hn, if_pos hslow]
    rfl
  | noSeed hknown hn hone hk =>
    rw [ofDatum_of_isKnown hq hknown, hspeed hn hone, readNumber_data, hk]
    rfl
  | accepted hknown hn hone hk =>
    rw [ofDatum_of_isKnown hq hknown, hspeed hn hone, readNumber_data, hk]
    rfl

theorem exists_verdict (r q : Record) : ∃ x, Verdict r q x := by
  by_cases hr : r.others Settings.names = []
  case neg => exact ⟨_, .unknownSettings hr (r.lists_others _)⟩
  have hsettings := others_eq_nil_iff.mp hr
  by_cases hq : q.others Dialect.names = []
  case neg => exact ⟨_, .unknownBehaviours hsettings hq (q.lists_others _)⟩
  have hknown : r.IsKnown q := ⟨hsettings, others_eq_nil_iff.mp hq⟩
  cases hspeed : r.number Settings.speedName 8 with
  | error e => exact ⟨_, .noSpeed hknown hspeed⟩
  | ok n =>
    by_cases hslow : n < 1
    · exact ⟨_, .slow hknown hspeed hslow⟩
    obtain ⟨speed, rfl⟩ := Int.eq_ofNat_of_zero_le (show 0 ≤ n by omega)
    have hone : 1 ≤ speed := by omega
    cases hseed : r.number Settings.seedName 0 with
    | error e => exact ⟨_, .noSeed hknown hspeed hone hseed⟩
    | ok k => exact ⟨_, .accepted hknown hspeed hone hseed⟩

theorem ofDatum_eq_iff (hq : r.HasDialect q) : Settings.ofDatum r.datum = x ↔ Verdict r q x := by
  constructor
  · rintro rfl
    obtain ⟨y, hy⟩ := exists_verdict r q
    rwa [hy.eq hq]
  · exact Verdict.eq hq

/-! The order of the entries -/

theorem Reorders.get? (h : Reorders r q r' q') {name : String} (hname : name ≠ Settings.dialectName) :
    r.get? name = r'.get? name := by
  refine get?_eq_of_mem_iff fun d => ?_
  have hmem := h.settings.mem_iff (a := (name, d))
  simpa [List.mem_filter, hname] using hmem

theorem Reorders.mem_names_iff (h : Reorders r q r' q') {name : String} (hname : name ≠ Settings.dialectName) :
    name ∈ r.names ↔ name ∈ r'.names := by
  simp only [Record.mem_names_iff, mem_entries_iff, h.get? hname]

theorem Reorders.isOn (h : Reorders r q r' q') (name : String) : q.isOn name = q'.isOn name := by
  have hget : q.get? name = q'.get? name := get?_eq_of_mem_iff fun d => h.behaviours.mem_iff
  rw [Record.isOn, hget, Record.isOn]

theorem Reorders.number (h : Reorders r q r' q') {name : String} (hname : name ≠ Settings.dialectName)
    (default : Int) : r.number name default = r'.number name default := by
  rw [Record.number, h.get? hname, Record.number]

theorem Reorders.unknown_iff (h : Reorders r q r' q') (s : String) :
    (s ∈ r.names ∧ s ∉ Settings.names) ↔ (s ∈ r'.names ∧ s ∉ Settings.names) := by
  by_cases hs : s = Settings.dialectName
  · have hmem : s ∈ Settings.names := by simp [hs, Settings.names]
    simp [hmem]
  · rw [h.mem_names_iff hs]

theorem Reorders.settings_known (h : Reorders r q r' q') (hr : ∀ s ∈ r.names, s ∈ Settings.names) :
    ∀ s ∈ r'.names, s ∈ Settings.names := by
  intro s hs
  by_contra hunknown
  exact hunknown (hr s ((h.unknown_iff s).mpr ⟨hs, hunknown⟩).1)

theorem Reorders.behaviour_iff (h : Reorders r q r' q') (s : String) : s ∈ q.names ↔ s ∈ q'.names :=
  (h.behaviours.map Prod.fst).mem_iff

theorem Reorders.isKnown (h : Reorders r q r' q') (hknown : r.IsKnown q) : r'.IsKnown q' :=
  ⟨h.settings_known hknown.settings, fun s hs => hknown.behaviours s ((h.behaviour_iff s).mpr hs)⟩

theorem speedName_ne : Settings.speedName ≠ Settings.dialectName := by decide

theorem seedName_ne : Settings.seedName ≠ Settings.dialectName := by decide

theorem Verdict.of_reorders (h : Reorders r q r' q') (hx : Verdict r q x) : Verdict r' q' x := by
  have hspeed := h.number speedName_ne 8
  have hseed := h.number seedName_ne 0
  cases hx with
  | unknownSettings hne hlists => exact .unknownSettings hne (hlists.congr h.unknown_iff)
  | unknownBehaviours hknown hne hlists =>
    refine .unknownBehaviours (h.settings_known hknown) hne (hlists.congr fun s => ?_)
    rw [h.behaviour_iff]
  | noSpeed hknown hn => exact .noSpeed (h.isKnown hknown) (hspeed ▸ hn)
  | slow hknown hn hslow => exact .slow (h.isKnown hknown) (hspeed ▸ hn) hslow
  | noSeed hknown hn hone hk => exact .noSeed (h.isKnown hknown) (hspeed ▸ hn) hone (hseed ▸ hk)
  | accepted hknown hn hone hk =>
    rw [h.isOn, h.isOn]
    exact .accepted (h.isKnown hknown) (hspeed ▸ hn) hone (hseed ▸ hk)

end Record

/-! Settings as records -/

def Dialect.toRecord (d : Dialect) : Record where
  entries := d.toEntries.map fun (name, b) => (name, .bool b)
  nodup := by
    change names.Nodup
    decide

def Settings.toRecord (s : Settings) : Record where
  entries := [(speedName, .int s.speed), (seedName, .int s.seed), (dialectName, s.dialect.toRecord.datum)]
  nodup := by
    change names.Nodup
    decide

namespace Record

variable {r q : Record}

theorem hasDialect_toRecord (s : Settings) : s.toRecord.HasDialect s.dialect.toRecord := .given rfl

theorem verdict_toRecord {s : Settings} (h : 1 ≤ s.speed) :
    Verdict s.toRecord s.dialect.toRecord (.ok s) :=
  .accepted ⟨fun _ hs => hs, fun _ hs => hs⟩ rfl h rfl

theorem Verdict.one_le_speed {s : Settings} (h : Verdict r q (.ok s)) : 1 ≤ s.speed := by
  cases h with
  | accepted _ _ hone _ => exact hone

/-- One verdict is passed on every record, and it is what becomes of the record. The same entries in another order
become the same, and settings that were read are read again from their own record. -/
theorem settings_decided (hq : r.HasDialect q) :
    (∀ x, Settings.ofDatum r.datum = x ↔ Verdict r q x) ∧
      (∀ r' q' : Record, r'.HasDialect q' → Reorders r q r' q' →
        Settings.ofDatum r'.datum = Settings.ofDatum r.datum) ∧
      ∀ s, Settings.ofDatum r.datum = .ok s → Settings.ofDatum s.toRecord.datum = .ok s := by
  refine ⟨fun x => ofDatum_eq_iff hq, fun r' q' hq' h => ?_, fun s hs => ?_⟩
  · exact (((ofDatum_eq_iff hq).mp rfl).of_reorders h).eq hq'
  · exact (verdict_toRecord ((ofDatum_eq_iff hq).mp hs).one_le_speed).eq (hasDialect_toRecord s)

/-- A speed that is a text, a behaviour that is a number, and no seed. -/
theorem settings_decided_text :
    let q : Record := ⟨[("incrementIndex", .int 1)], by decide⟩
    let r : Record := ⟨[("quirks", q.datum), ("speed", .text "12")], by decide⟩
    r.HasDialect q ∧ Settings.ofDatum r.datum = .ok ⟨12, 0, ⟨false, true⟩⟩ ∧
      (∀ x, Settings.ofDatum r.datum = x ↔ Verdict r q x) ∧
      (∀ r' q' : Record, r'.HasDialect q' → Reorders r q r' q' →
        Settings.ofDatum r'.datum = Settings.ofDatum r.datum) ∧
      ∀ s, Settings.ofDatum r.datum = .ok s → Settings.ofDatum s.toRecord.datum = .ok s := by
  intro q r
  have hq : r.HasDialect q := .given rfl
  exact ⟨hq, rfl, settings_decided hq⟩

/-- Of two numbers that are wrong the speed is reported, wherever it stands. -/
example : Settings.ofDatum (.map [(.text "seed", .text "x"), (.text "speed", .int 0)]) =
    .error (.slowSpeed 0) := rfl

end Record
end Chip8
