import Chip8.CommandLine.Run
import Chip8.Proofs.Plain
import Chip8.Proofs.SettingsRecord

/-! The precedence of settings. A number on the command line goes before the one of the settings file, and this
before the default; a behaviour is on if its switch is given or the file turns it on. The names in the file are
checked whatever the command line says. -/

namespace Chip8

variable {f : List (Datum × Datum)} {name : String}

/-- The record for the dialect in a settings file turns a behaviour on. -/
def TurnsOn (f : List (Datum × Datum)) (name : String) : Prop :=
  ∃ q d, Datum.lookup Settings.dialectName f = some (.map q) ∧ Datum.lookup name q = some d ∧ d.truthy = true

/-- A name in a settings file is not known, be it one for a setting or one for a behaviour. -/
def NamesUnknown (f : List (Datum × Datum)) : Prop :=
  (∃ k ∈ f.map Prod.fst, Settings.isKnown k = false) ∨
    ∃ d ks, Datum.lookup Settings.dialectName f = some d ∧ d.parts? = some ks ∧
      ∃ k ∈ ks, Dialect.isKnown k = false

theorem Datum.asName_eq_ok {d k : Datum} (h : d.asName = .ok k) : k = d := by
  cases d with
  | list items => cases h
  | map entries => cases h
  | _ => exact (Except.ok.inj h).symm

theorem Datum.mapM_asName_eq_ok {ds names : List Datum} (h : ds.mapM asName = .ok names) : names = ds := by
  induction ds generalizing names with
  | nil => exact (Except.ok.inj h).symm
  | cons d ds ih =>
    rw [List.mapM_cons, bind_eq_ok_iff] at h
    obtain ⟨k, hk, h⟩ := h
    obtain ⟨ks, hks, h⟩ := bind_eq_ok_iff.mp h
    rw [← Except.ok.inj h, asName_eq_ok hk, ih hks]

theorem Datum.foldl_ne_nil {p : List Datum → Datum → Bool} (ds : List Datum) {seen : List Datum} (h : seen ≠ []) :
    ds.foldl (fun seen d => if p seen d then seen else seen ++ [d]) seen ≠ [] := by
  induction ds generalizing seen with
  | nil => exact h
  | cons d ds ih =>
    rw [List.foldl_cons]
    split
    · exact ih h
    · exact ih (List.append_ne_nil_of_right_ne_nil _ (List.cons_ne_nil d []))

theorem Datum.eq_nil_of_distinct {ds : List Datum} (h : distinct ds = []) : ds = [] := by
  cases ds with
  | nil => rfl
  | cons d ds => exact absurd h (foldl_ne_nil ds (List.cons_ne_nil d []))

theorem Datum.parts?_of_falsy {d : Datum} {ks : List Datum} (hd : d.truthy = false) (h : d.parts? = some ks) :
    ks = [] := by
  cases d with
  | text s =>
    cases h
    simp_all [truthy, characters]
  | list items =>
    cases h
    simpa [truthy] using hd
  | map entries =>
    cases h
    simpa [truthy] using hd
  | _ => cases h

namespace Dialect

variable {d : Datum} {t : Dialect}

theorem ofDatum_eq_ok (h : ofDatum d = .ok t) :
    ∃ q, d = .map q ∧ t = ofEntries q ∧ ∀ k ∈ q.map Prod.fst, isKnown k = true := by
  obtain ⟨parts, hparts, hrest⟩ := bind_eq_ok_iff.mp h
  obtain ⟨names, hnames, hread⟩ := bind_eq_ok_iff.mp hrest
  obtain rfl := Datum.mapM_asName_eq_ok hnames
  clear h hrest
  by_cases hunknown : (Datum.distinct (names.filter fun n => !isKnown n)).isEmpty = true
  · simp only [hunknown, if_true] at hread
    cases d with
    | map q =>
      obtain rfl : q.map Prod.fst = names := Except.ok.inj hparts
      refine ⟨q, rfl, (Except.ok.inj hread).symm, fun k hk => ?_⟩
      have hnil := Datum.eq_nil_of_distinct (List.isEmpty_iff.mp hunknown)
      simpa using List.filter_eq_nil_iff.mp hnil k hk
    | _ => cases hread
  · simp only [hunknown] at hread
    cases hread

end Dialect

namespace Settings

variable {s : Settings}

theorem checkNames_eq_ok (h : checkNames f = .ok ()) : ∀ k ∈ f.map Prod.fst, isKnown k = true := by
  intro k hk
  by_contra hunknown
  have hmem : k ∈ (f.map Prod.fst).filter fun n => !isKnown n :=
    List.mem_filter.mpr ⟨hk, by simpa using hunknown⟩
  unfold checkNames at h
  split at h
  · rename_i hnil
    rw [hnil] at hmem
    cases hmem
  · split at h <;> cases h

theorem ofEntries_eq_ok_iff : ofEntries f = .ok s ↔ checkNames f = .ok () ∧ readDialect f = .ok s.dialect ∧
    readSpeed f = .ok s.speed ∧ readNumber seedName 0 f = .ok s.seed := by
  constructor
  · intro h
    obtain ⟨_, hnames, h⟩ := bind_eq_ok_iff.mp h
    obtain ⟨dialect, hdialect, h⟩ := bind_eq_ok_iff.mp h
    obtain ⟨speed, hspeed, h⟩ := bind_eq_ok_iff.mp h
    obtain ⟨seed, hseed, h⟩ := bind_eq_ok_iff.mp h
    cases h
    exact ⟨hnames, hdialect, hspeed, hseed⟩
  · rintro ⟨hnames, hdialect, hspeed, hseed⟩
    rw [ofEntries, hnames, hdialect, hspeed, hseed]
    rfl

theorem readSpeed_eq_ok {n : Nat} (h : readSpeed f = .ok n) : readNumber speedName 8 f = .ok n := by
  obtain ⟨k, hk, h⟩ := bind_eq_ok_iff.mp h
  split at h
  · cases h
  · rw [hk, ← Except.ok.inj h, Int.toNat_of_nonneg (by omega)]

theorem readNumber_eq_ok_iff {n default : Int} :
    readNumber name default f = .ok n ↔ Datum.toIntOr default (Datum.lookup name f) = .ok n := by
  rw [readNumber_eq, mapError_eq_ok_iff]

theorem turnsOn_iff {q : List (Datum × Datum)} (h : Datum.lookup dialectName f = some (.map q)) (name : String) :
    TurnsOn f name ↔ Dialect.setting name q = true := by
  have hsetting : Dialect.setting name q = true ↔ ∃ d, Datum.lookup name q = some d ∧ d.truthy = true := by
    rw [Dialect.setting]
    cases Datum.lookup name q <;> simp
  rw [hsetting]
  constructor
  · rintro ⟨q', d, hq', hd⟩
    cases hq'.symm.trans h
    exact ⟨d, hd⟩
  · rintro ⟨d, hd⟩
    exact ⟨q, d, h, hd⟩

theorem not_turnsOn (h : ∀ q, Datum.lookup dialectName f = some (.map q) → q = []) (name : String) :
    ¬ TurnsOn f name := by
  rintro ⟨q, d, hq, hd, -⟩
  rw [h q hq] at hd
  cases hd

structure ReadsDialect (f : List (Datum × Datum)) (t : Dialect) : Prop where
  shiftsSecond : t.shiftsSecond = true ↔ TurnsOn f Dialect.shiftName
  advancesIndex : t.advancesIndex = true ↔ TurnsOn f Dialect.indexName
  known : ∀ d ks, Datum.lookup dialectName f = some d → d.parts? = some ks →
    ∀ k ∈ ks, Dialect.isKnown k = true

theorem readsDialect_default (h : ∀ d ks, Datum.lookup dialectName f = some d → d.parts? = some ks → ks = []) :
    ReadsDialect f {} := by
  have hempty (q : List (Datum × Datum)) (hq : Datum.lookup dialectName f = some (.map q)) : q = [] :=
    List.map_eq_nil_iff.mp (h _ _ hq rfl)
  refine ⟨iff_of_false nofun (not_turnsOn hempty _), iff_of_false nofun (not_turnsOn hempty _), ?_⟩
  intro d ks hd hks k hk
  rw [h d ks hd hks] at hk
  cases hk

theorem readDialect_eq_ok {t : Dialect} (h : readDialect f = .ok t) : ReadsDialect f t := by
  unfold readDialect at h
  cases hd : Datum.lookup dialectName f with
  | none =>
    rw [hd] at h
    cases h
    exact readsDialect_default fun d' ks hd' => by cases hd.symm.trans hd'
  | some d =>
    simp only [hd] at h
    split at h
    · obtain ⟨q, rfl, rfl, hknown⟩ := Dialect.ofDatum_eq_ok h
      refine ⟨(turnsOn_iff hd _).symm, (turnsOn_iff hd _).symm, fun d' ks hd' hks => ?_⟩
      cases hd.symm.trans hd'
      cases hks
      exact hknown
    · rename_i hfalsy
      cases h
      refine readsDialect_default fun d' ks hd' hks => ?_
      cases hd.symm.trans hd'
      exact Datum.parts?_of_falsy (Bool.eq_false_iff.mpr hfalsy) hks

end Settings

namespace CommandLine

variable {o : Options} {s : Settings}

def putNumber (name : String) (given : Option (Given Int)) (f : List (Datum × Datum)) : List (Datum × Datum) :=
  match given with
  | none => f
  | some n => Datum.put (.text name) (n.toDatum .int) f

def layered (given : Option (Given Int)) (f : List (Datum × Datum)) (name : String) (default : Int) :
    Except NumberError Int :=
  Datum.toIntOr default ((given.map (Given.toDatum .int)).or (Datum.lookup name f))

theorem lookup_putNumber (name name' : String) (given : Option (Given Int)) (f : List (Datum × Datum)) :
    Datum.lookup name' (putNumber name given f) =
      (if name = name' then given.map (Given.toDatum .int) else none).or (Datum.lookup name' f) := by
  cases given with
  | none => simp [putNumber]
  | some n =>
    rw [putNumber, Datum.lookup_put]
    split <;> rfl

theorem isPlain_putNumber {given : Option (Given Int)} (hf : (Datum.map f).IsPlain) :
    (Datum.map (putNumber name given f)).IsPlain := by
  cases given with
  | none => exact hf
  | some n =>
    refine hf.put fun s hs => ?_
    cases n <;> cases hs

theorem mem_names_putNumber {given : Option (Given Int)} {k : Datum} (h : k ∈ f.map Prod.fst) :
    k ∈ (putNumber name given f).map Prod.fst := by
  cases given with
  | none => exact h
  | some n => exact Datum.mem_names_put h

theorem overlayEntries_number {given : Option (Given Int)} {es : List (Datum × Datum)}
    (hf : (Datum.map f).IsPlain) :
    Document.overlayEntries (.map f) [] (Options.number name given ++ es) =
        Document.overlayEntries (.map (putNumber name given f)) [] es ∨
      given = some .nothing ∧
        Document.overlayEntries (.map f) [] (Options.number name given ++ es) = .error .mismatched := by
  cases given with
  | none => exact .inl rfl
  | some n =>
    cases n with
    | value n => exact .inl (Document.overlayEntries_int hf n)
    | nothing => exact (Document.overlayEntries_list hf).imp_right fun h => ⟨rfl, h⟩

namespace Options

/-- The entries of a settings file with the numbers of the command line in their places. -/
def laidOver (o : Options) (f : List (Datum × Datum)) : List (Datum × Datum) :=
  putNumber Settings.seedName o.seed (putNumber Settings.speedName o.speed f)

/-- Settings that come from the command line, from a settings file and from the defaults, in this order. -/
structure Layers (o : Options) (f : List (Datum × Datum)) (s : Settings) : Prop where
  speed : layered o.speed f Settings.speedName 8 = .ok s.speed
  seed : layered o.seed f Settings.seedName 0 = .ok s.seed
  shiftsSecond : s.dialect.shiftsSecond = true ↔ o.secondShift = true ∨ TurnsOn f Dialect.shiftName
  advancesIndex : s.dialect.advancesIndex = true ↔ o.indexAdvance = true ∨ TurnsOn f Dialect.indexName

theorem lookup_speed_laidOver (o : Options) (f : List (Datum × Datum)) :
    Datum.lookup Settings.speedName (o.laidOver f) =
      (o.speed.map (Given.toDatum .int)).or (Datum.lookup Settings.speedName f) := by
  rw [laidOver, lookup_putNumber, lookup_putNumber, if_neg (by decide), if_pos rfl, Option.none_or]

theorem lookup_seed_laidOver (o : Options) (f : List (Datum × Datum)) :
    Datum.lookup Settings.seedName (o.laidOver f) =
      (o.seed.map (Given.toDatum .int)).or (Datum.lookup Settings.seedName f) := by
  rw [laidOver, lookup_putNumber, lookup_putNumber, if_pos rfl, if_neg (by decide), Option.none_or]

theorem lookup_dialect_laidOver (o : Options) (f : List (Datum × Datum)) :
    Datum.lookup Settings.dialectName (o.laidOver f) = Datum.lookup Settings.dialectName f := by
  rw [laidOver, lookup_putNumber, lookup_putNumber, if_neg (by decide), if_neg (by decide), Option.none_or,
    Option.none_or]

theorem layered_overlay (o : Options) (f : List (Datum × Datum)) :
    Document.layered (.map f) o.overlay = Document.overlayEntries (.map f) [] o.overlay := by
  have hcheck : Document.checkData (.map o.overlay) = .ok () := by
    unfold overlay
    rcases o.speed with _ | _ | _ <;> rcases o.seed with _ | _ | _ <;> rfl
  unfold Document.layered
  split
  · rename_i hempty
    rw [List.isEmpty_iff.mp hempty, Document.overlayEntries]
    rfl
  · simp only [hcheck]
    change Document.overlay (.map f) [] (.map o.overlay) = _
    rw [Document.overlay]
    rfl

theorem layered_cases (hf : (Datum.map f).IsPlain) :
    Document.layered (.map f) o.overlay = .ok (.map (o.laidOver f)) ∨
      (o.speed = some .nothing ∨ o.seed = some .nothing) ∧
        Document.layered (.map f) o.overlay = .error .mismatched := by
  rw [layered_overlay, overlay]
  rcases overlayEntries_number hf with h | ⟨hnothing, h⟩
  case inr => exact .inr ⟨.inl hnothing, h⟩
  rw [h, ← List.append_nil (number Settings.seedName o.seed)]
  rcases overlayEntries_number (isPlain_putNumber hf) with h' | ⟨hnothing, h'⟩
  case inr => exact .inr ⟨.inr hnothing, h'⟩
  rw [h', Document.overlayEntries]
  exact .inl rfl

theorem settingsOver_eq (o : Options) (base : Datum) :
    o.settingsOver base =
      (Settings.ofLayers base o.overlay).map fun s => { s with dialect := o.addTo s.dialect } := by
  rw [settingsOver]
  cases Settings.ofLayers base o.overlay <;> rfl

theorem settingsOver_of_layered {g : List (Datum × Datum)} (hg : (Datum.map g).IsPlain)
    (h : Document.layered (.map f) o.overlay = .ok (.map g)) :
    o.settingsOver (.map f) = (Settings.ofEntries g).map fun s => { s with dialect := o.addTo s.dialect } := by
  rw [settingsOver_eq, Settings.ofLayers, h, ok_bind, Document.resolveReferences_of_isPlain hg]
  rfl

theorem speed_of_accepted (h : Settings.ofEntries (o.laidOver f) = .ok s) :
    layered o.speed f Settings.speedName 8 = .ok s.speed := by
  have hspeed := Settings.readSpeed_eq_ok (Settings.ofEntries_eq_ok_iff.mp h).2.2.1
  rwa [Settings.readNumber_eq_ok_iff, lookup_speed_laidOver] at hspeed

theorem seed_of_accepted (h : Settings.ofEntries (o.laidOver f) = .ok s) :
    layered o.seed f Settings.seedName 0 = .ok s.seed := by
  have hseed := (Settings.ofEntries_eq_ok_iff.mp h).2.2.2
  rwa [Settings.readNumber_eq_ok_iff, lookup_seed_laidOver] at hseed

theorem dialect_of_accepted (h : Settings.ofEntries (o.laidOver f) = .ok s) :
    Settings.ReadsDialect f s.dialect := by
  have hdialect := (Settings.ofEntries_eq_ok_iff.mp h).2.1
  rw [Settings.readDialect, lookup_dialect_laidOver] at hdialect
  exact Settings.readDialect_eq_ok hdialect

theorem names_of_accepted (h : Settings.ofEntries (o.laidOver f) = .ok s) :
    ∀ k ∈ f.map Prod.fst, Settings.isKnown k = true := fun k hk =>
  Settings.checkNames_eq_ok (Settings.ofEntries_eq_ok_iff.mp h).1 k (mem_names_putNumber (mem_names_putNumber hk))

/-- The settings are those of the laid entries, with the behaviours switched on. -/
theorem settingsOver_eq_ok_iff (hf : (Datum.map f).IsPlain) :
    o.settingsOver (.map f) = .ok s ↔
      ∃ t, Settings.ofEntries (o.laidOver f) = .ok t ∧ s = { t with dialect := o.addTo t.dialect } := by
  rcases layered_cases hf with h | ⟨hnothing, h⟩
  · have hplain : (Datum.map (o.laidOver f)).IsPlain := isPlain_putNumber (isPlain_putNumber hf)
    rw [settingsOver_of_layered hplain h, map_eq_ok_iff]
  · -- Nothing is no number, so the laid entries are refused too.
    refine iff_of_false (fun hs => ?_) fun ⟨t, ht, _⟩ => ?_
    · rw [settingsOver, Settings.ofLayers, h] at hs
      cases hs
    · rcases hnothing with hnothing | hnothing
      · have hspeed := speed_of_accepted ht
        rw [hnothing] at hspeed
        cases hspeed
      · have hseed := seed_of_accepted ht
        rw [hnothing] at hseed
        cases hseed

theorem layers_of_settingsOver (hf : (Datum.map f).IsPlain) (h : o.settingsOver (.map f) = .ok s) :
    o.Layers f s := by
  obtain ⟨t, ht, rfl⟩ := (settingsOver_eq_ok_iff hf).mp h
  have hspeed := speed_of_accepted ht
  have hseed := seed_of_accepted ht
  have hdialect := dialect_of_accepted ht
  refine ⟨hspeed, hseed, ?_, ?_⟩
  · rw [addTo, Bool.or_eq_true, hdialect.shiftsSecond]
  · rw [addTo, Bool.or_eq_true, hdialect.advancesIndex]

theorem error_of_namesUnknown (hf : (Datum.map f).IsPlain) (h : NamesUnknown f) (o : Options) :
    ∃ e, o.settingsOver (.map f) = .error e := by
  cases hs : o.settingsOver (.map f) with
  | error e => exact ⟨e, rfl⟩
  | ok s =>
    obtain ⟨t, ht, -⟩ := (settingsOver_eq_ok_iff hf).mp hs
    rcases h with ⟨k, hk, hunknown⟩ | ⟨d, ks, hd, hks, k, hk, hunknown⟩
    · cases hunknown.symm.trans (names_of_accepted ht k hk)
    · cases hunknown.symm.trans ((dialect_of_accepted ht).known d ks hd hks k hk)

theorem settingsOver_put_speed {n : Int} {d : Datum} (hf : (Datum.map f).IsPlain) (hd : d.IsPlain)
    (h : o.speed = some (.value n)) :
    o.settingsOver (.map (Datum.put (.text Settings.speedName) d f)) = o.settingsOver (.map f) := by
  have hoverlay : o.overlay = (.text Settings.speedName, .int n) :: number Settings.seedName o.seed := by
    rw [overlay, h]
    rfl
  have hlayered : Document.layered (.map (Datum.put (.text Settings.speedName) d f)) o.overlay =
      Document.layered (.map f) o.overlay := by
    rw [layered_overlay, layered_overlay, hoverlay, Document.overlayEntries_int (hf.put hd),
      Document.overlayEntries_int hf, Datum.put_put]
  rw [settingsOver, settingsOver, Settings.ofLayers, Settings.ofLayers, hlayered]

theorem settingsOver_eq_map {o' : Options} {g : Dialect → Dialect} (hoverlay : o'.overlay = o.overlay)
    (hadd : ∀ d, o'.addTo d = g (o.addTo d)) (base : Datum) :
    o'.settingsOver base = (o.settingsOver base).map fun s => { s with dialect := g s.dialect } := by
  rw [settingsOver_eq, settingsOver_eq, hoverlay]
  cases Settings.ofLayers base o.overlay with
  | error e => rfl
  | ok s => simp only [Except.map, hadd]

theorem settings_of_base {folder : Folder} {base : Datum} (h : o.base folder = .ok base) :
    o.settings folder = o.settingsOver base := by
  rw [settings, h, ok_bind]

theorem base_of_noPath (h : o.config = none ∨ o.config = some (.value "") ∨ o.config = some .nothing)
    (folder : Folder) : o.base folder = .ok (.map []) := by
  have hpath : o.configPath? = none := by
    rcases h with h | h | h <;> rw [configPath?, h] <;> rfl
  rw [base, hpath]

/-- What the command line and a settings file with some entries say together. -/
structure Precedence (o : Options) (f : List (Datum × Datum)) : Prop where
  /-- The settings of a run are those over its settings file. -/
  file (folder : Folder) : o.base folder = .ok (.map f) → o.settings folder = o.settingsOver (.map f)
  /-- Without a path the settings are those over an empty file. -/
  noFile (folder : Folder) : o.config = none ∨ o.config = some (.value "") ∨ o.config = some .nothing →
    o.settings folder = o.settingsOver (.map [])
  /-- There are settings if the file with the numbers of the command line in it is accepted. -/
  accepted : (∃ s, o.settingsOver (.map f) = .ok s) ↔ ∃ s, Settings.ofDatum (.map (o.laidOver f)) = .ok s
  layers (s : Settings) : o.settingsOver (.map f) = .ok s → o.Layers f s
  /-- The switch for one behaviour adds it and changes nothing else. -/
  shift : settingsOver { o with secondShift := true } (.map f) =
    (settingsOver { o with secondShift := false } (.map f)).map fun s =>
      { s with dialect := { s.dialect with shiftsSecond := true } }
  index : settingsOver { o with indexAdvance := true } (.map f) =
    (settingsOver { o with indexAdvance := false } (.map f)).map fun s =>
      { s with dialect := { s.dialect with advancesIndex := true } }
  /-- Any other speed in the file makes no difference to a speed on the command line. -/
  masked (n : Int) (d : Datum) : o.speed = some (.value n) → d.IsPlain →
    o.settingsOver (.map (Datum.put (.text Settings.speedName) d f)) = o.settingsOver (.map f)
  /-- A name that is not known is refused. -/
  refused : NamesUnknown f → ∃ e, o.settingsOver (.map f) = .error e

/-- What is said on the command line goes before what the settings file says, and this before the defaults. -/
theorem settings_precedence (o : Options) (hf : (Datum.map f).IsPlain) : o.Precedence f where
  file folder h := settings_of_base h
  noFile folder h := settings_of_base (base_of_noPath h folder)
  accepted := by
    constructor
    · rintro ⟨s, hs⟩
      obtain ⟨t, ht, -⟩ := (settingsOver_eq_ok_iff hf).mp hs
      exact ⟨t, ht⟩
    · rintro ⟨t, ht⟩
      exact ⟨_, (settingsOver_eq_ok_iff hf).mpr ⟨t, ht, rfl⟩⟩
  layers s h := layers_of_settingsOver hf h
  shift := by
    refine settingsOver_eq_map (g := fun d => { d with shiftsSecond := true }) ?_ (fun d => ?_) (.map f)
    · rfl
    · rfl
  index := by
    refine settingsOver_eq_map (g := fun d => { d with advancesIndex := true }) ?_ (fun d => ?_) (.map f)
    · rfl
    · rfl
  masked n d h hd := settingsOver_put_speed hf hd h
  refused h := error_of_namesUnknown hf h o

/-- A speed on the command line over one that is no number, and one behaviour from each of the two. -/
theorem settings_precedence_speed :
    let o : Options := { program := "pong.ch8", speed := some (.value 5), secondShift := true }
    let f : List (Datum × Datum) :=
      [(.text "speed", .text "fast"), (.text "quirks", .map [(.text "incrementIndex", .bool true)])]
    (Datum.map f).IsPlain ∧ o.settingsOver (.map f) = .ok ⟨5, 0, ⟨true, true⟩⟩ ∧ o.Precedence f := by
  intro o f
  have hf : (Datum.map f).IsPlain := by
    intro s hs
    obtain rfl : s = "fast" := by simpa [f, Datum.texts, Datum.entryTexts] using hs
    decide
  exact ⟨hf, rfl, settings_precedence o hf⟩

end Options
end CommandLine
end Chip8
