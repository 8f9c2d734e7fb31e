import SqlTidy.Proofs.Precedence
import SqlTidy.Proofs.ReportGrammar
import SqlTidy.Report.Checked

/-!
# The life of settings

Settings are made from a table and then given new values, field by field. An assignment that is refused
leaves them as they are (`Settings.after`), one that is accepted changes its own field and no other
(`Settings.changes_of_assign`). What holds of every value that a reader yields therefore holds of the
fields at any time (`Settings.Sound`).

The parts of the library that see settings through a view check once more what they are given. Sound
settings pass: each view is the record that the stored values give.
-/

namespace SqlTidy

open Entries

section Fields

variable {ε α : Type} {v : Value}

theorem ofFault_eq_ok_iff {read : Value → Except Fault α} {a : α} :
    Reader.ofFault read v = .ok a ↔ read v = .ok a := by
  rw [Reader.ofFault, mapError_eq_ok_iff]

/-- What holds of the default and of everything that is read holds of a field. -/
theorem Yields.of_read {read : Value → Except ε α} {default x : α} {P : α → Prop} {o : Option Value}
    (h : Yields read default o x) (hdefault : P default) (hread : ∀ v x, read v = .ok x → P x) : P x := by
  cases o with
  | none =>
    cases h
    exact hdefault
  | some v => exact hread v x h

end Fields

/-! ## What readers yield -/

section Readers

variable {read : Value → Except Fault Int} {v : Value} {lo hi n : Nat}

theorem readPositive_eq_ok_iff : readPositive read v = .ok n ↔ read v = .ok (n : Int) ∧ 0 < n := by
  rw [readPositive, bind_eq_ok_iff]
  constructor
  · rintro ⟨m, hm, h⟩
    split at h
    · next hpos =>
      cases h
      rw [Int.toNat_of_nonneg (by omega)]
      exact ⟨hm, by omega⟩
    · cases h
  · rintro ⟨hn, hpos⟩
    exact ⟨n, hn, if_pos (by omega)⟩

theorem readBetween_eq_ok_iff :
    readBetween lo hi read v = .ok n ↔ read v = .ok (n : Int) ∧ lo ≤ n ∧ n ≤ hi := by
  rw [readBetween, bind_eq_ok_iff]
  constructor
  · rintro ⟨m, hm, h⟩
    split at h
    · cases h
    split at h
    · cases h
    · cases h
      rw [Int.toNat_of_nonneg (by omega)]
      exact ⟨hm, by omega, by omega⟩
  · rintro ⟨hn, hlo, hhi⟩
    exact ⟨n, hn, (if_neg (by omega)).trans (if_neg (by omega))⟩

theorem readPositive_pos (h : readPositive read v = .ok n) : 1 ≤ n := (readPositive_eq_ok_iff.1 h).2

theorem readBetween_bounds (h : readBetween lo hi read v = .ok n) : lo ≤ n ∧ n ≤ hi :=
  (readBetween_eq_ok_iff.1 h).2

/-- A name for a release: it says something, and no blank stands behind it. -/
structure IsVersion (version : String) : Prop where
  ne_empty : version ≠ ""
  last : ∀ c, version.toList.getLast? = some c → isBlank c = false

theorem getLast?_bareVersion {text : String} {c : Char}
    (h : (bareVersion text).toList.getLast? = some c) : isBlank c = false := by
  have hlast := (stripped_stripChars text.toList).last
  rw [bareVersion, strip, String.toList_ofList] at h
  split at h
  · next rest hrest =>
    rw [hrest] at hlast
    refine hlast c ?_
    rw [String.toList_ofList] at h
    rw [List.getLast?_cons, h]
    rfl
  · rw [String.toList_ofList] at h
    exact hlast c h

theorem readVersion_isVersion {version : String} (h : readVersion v = .ok version) : IsVersion version := by
  obtain ⟨text, -, htext⟩ := bind_eq_ok_iff.1 h
  dsimp only at htext
  split at htext
  · cases htext
  · next hne =>
    cases htext
    exact ⟨hne, fun c => getLast?_bareVersion⟩

theorem isVersion_default : IsVersion defaultVersion := by
  refine ⟨by decide, fun c hc => ?_⟩
  have hlast : defaultVersion.toList.getLast? = some '0' := by decide +kernel
  rw [hlast] at hc
  cases hc
  decide +kernel

/-- Switches by category, each category once, in front those that are always mentioned. -/
structure HasDefaults (categories : Entries Bool) : Prop where
  front : [unusedVariable, duplicateVariable] <+: names categories
  nodup : (names categories).Nodup

theorem hasDefaults_putAll (new : Entries Bool) : HasDefaults (putAll defaultCategories new) :=
  ⟨prefix_names_putAll defaultCategories new, nodup_putAll (by decide) new⟩

theorem readCategories_hasDefaults {categories : Entries Bool} (h : readCategories v = .ok categories) :
    HasDefaults categories := by
  obtain ⟨new, -, rfl⟩ := map_eq_ok_iff.1 h
  exact hasDefaults_putAll new

end Readers

namespace Settings

variable {s s' : Settings} {name : String} {v : Value}

structure Sound (s : Settings) : Prop where
  lineWidth : 1 ≤ s.lineWidth
  indent : 2 ≤ s.indent ∧ s.indent ≤ 4
  version : IsVersion s.version
  diagnostics : HasDefaults s.diagnostics

theorem sound_of_ofTable {t : Table} (h : ofTable t = .ok s) : s.Sound := by
  obtain ⟨-, hscalars, hcategories⟩ := ofTable_eq_ok_iff.1 h
  simp only [scalarFields, List.forall_mem_cons] at hscalars
  obtain ⟨-, hwidth, hindent, -, -, -, hversion, -⟩ := hscalars
  exact {
    lineWidth := hwidth.of_read (by decide) fun _ _ => readPositive_pos
    indent := hindent.of_read (P := fun n => 2 ≤ n ∧ n ≤ 4) (by decide) fun _ _ => readBetween_bounds
    version := hversion.of_read isVersion_default fun _ _ => readVersion_isVersion
    diagnostics := hcategories.of_read (hasDefaults_putAll []) fun _ _ => readCategories_hasDefaults }

/-! ## Assignments -/

/-- One field has taken a value, as far as the name is one of a field; the others are as they were. -/
structure Changes (s : Settings) (name : String) (v : Value) (s' : Settings) : Prop where
  scalar : ∀ f ∈ scalarFields,
    (f.name = name → f.read v = .ok (f.get s')) ∧ (f.name ≠ name → f.get s' = f.get s)
  diagnostics : (diagnosticsKey = name → readCategories v = .ok s'.diagnostics) ∧
    (diagnosticsKey ≠ name → s'.diagnostics = s.diagnostics)

theorem changes_of_assignField (h : s.assignField name v = .ok s') : s.Changes name v s' := by
  unfold assignField at h
  rw [mapError_eq_ok_iff] at h
  split at h
  case h_8 =>
    obtain ⟨x, hx, rfl⟩ := map_eq_ok_iff.1 h
    exact ⟨by simp [scalarFields], by simp [diagnosticsKey, hx]⟩
  case h_9 => cases h
  all_goals
    obtain ⟨x, hx, rfl⟩ := map_eq_ok_iff.1 h
    rw [ofFault_eq_ok_iff] at hx
    exact ⟨by simp [scalarFields, hx], by simp [diagnosticsKey]⟩

/-- A note is taken under a name that no field has. -/
theorem changes_of_note (h : isNoteName name = true) : s.Changes name v s := by
  have hne : ∀ {field : String}, isNoteName field = false → field ≠ name := by
    rintro field hfield rfl
    rw [h] at hfield
    cases hfield
  refine ⟨fun f hf => ⟨fun hname => absurd hname (hne ?_), fun _ => rfl⟩,
    fun hname => absurd hname (hne (by decide)), fun _ => rfl⟩
  simp only [scalarFields, List.mem_cons, List.not_mem_nil, or_false] at hf
  rcases hf with rfl | rfl | rfl | rfl | rfl | rfl | rfl <;> decide

theorem changes_of_assign (h : s.assign name v = .ok s') : s.Changes name v s' := by
  unfold assign at h
  split at h
  · next hnote =>
    obtain ⟨-, -, rfl⟩ := map_eq_ok_iff.1 h
    exact changes_of_note hnote
  split at h
  · cases h
  · exact changes_of_assignField (mapError_eq_ok_iff.1 h)

/-- What holds of all that a field can be read as, and held of the field, holds of it after a change. -/
theorem Changes.of_read (h : s.Changes name v s') {f : ScalarField} (hf : f ∈ scalarFields)
    {P : f.type → Prop} (hbefore : P (f.get s)) (hread : ∀ v x, f.read v = .ok x → P x) : P (f.get s') := by
  by_cases hname : f.name = name
  · exact hread v _ ((h.scalar f hf).1 hname)
  · rw [(h.scalar f hf).2 hname]
    exact hbefore

theorem Changes.sound (h : s.Changes name v s') (hs : s.Sound) : s'.Sound where
  lineWidth := h.of_read (f := ⟨Nat, "line_width", readPositive readInt, lineWidth⟩) (by simp [scalarFields])
    hs.lineWidth fun _ _ => readPositive_pos
  indent := h.of_read (f := ⟨Nat, "indent", readBetween 2 4 readInt, indent⟩) (by simp [scalarFields])
    (P := fun n => 2 ≤ n ∧ n ≤ 4) hs.indent fun _ _ => readBetween_bounds
  version := h.of_read (f := ⟨String, "version", readVersion, version⟩) (by simp [scalarFields])
    hs.version fun _ _ => readVersion_isVersion
  diagnostics := by
    by_cases hname : diagnosticsKey = name
    · exact readCategories_hasDefaults (h.diagnostics.1 hname)
    · rw [h.diagnostics.2 hname]
      exact hs.diagnostics

/-- The settings after one assignment, which are the same if it is refused. -/
def assigned (s : Settings) (step : String × Value) : Settings := (s.assign step.1 step.2).toOption.getD s

/-- The settings after several assignments. -/
def after (s : Settings) (steps : List (String × Value)) : Settings := steps.foldl assigned s

theorem assigned_of_ok {step : String × Value} (h : s.assign step.1 step.2 = .ok s') :
    s.assigned step = s' := by
  rw [assigned, h]
  rfl

theorem assigned_of_error {step : String × Value} {e : AssignError}
    (h : s.assign step.1 step.2 = .error e) : s.assigned step = s := by
  rw [assigned, h]
  rfl

theorem Sound.assigned (hs : s.Sound) (step : String × Value) : (s.assigned step).Sound := by
  cases h : s.assign step.1 step.2 with
  | ok s' =>
    rw [assigned_of_ok h]
    exact (changes_of_assign h).sound hs
  | error e => rwa [assigned_of_error h]

theorem Sound.after (hs : s.Sound) (steps : List (String × Value)) : (s.after steps).Sound := by
  induction steps generalizing s with
  | nil => exact hs
  | cons step steps ih => exact ih (hs.assigned step)

/-! ## Views -/

/-- What a layout is made from. -/
def layoutTable (s : Settings) : Table :=
  [("line_width", .int s.lineWidth), ("indent", .int s.indent), ("uppercase_keywords", .bool s.uppercaseKeywords)]

/-- What the options of a search are made from. A path that is empty is none. -/
def resolutionTable (s : Settings) : Table :=
  [("custom_path", if s.path = "" then .null else .text s.path), ("auto_build", .bool s.autoBuild),
    ("auto_download", .bool s.autoDownload), ("version", .text s.version)]

/-- What a filter is made from. -/
def policyTable (s : Settings) : Table :=
  [("categories", .table (s.diagnostics.map fun e => (e.1, .bool e.2)))]

theorem readSwitches_bools (bs : Entries Bool) :
    readSwitches (.table (bs.map fun e => (e.1, .bool e.2))) = .ok bs := by
  induction bs with
  | nil => rfl
  | cons e bs ih => exact readSwitches_cons_eq_ok_iff.2 ⟨e.2, bs, rfl, ih, rfl⟩

theorem Sound.ofTable_layoutTable (hs : s.Sound) : Layout.ofTable s.layoutTable = .ok s.layout := by
  have hwidth : readPositive readPlainInt (.int s.lineWidth) = .ok s.lineWidth :=
    readPositive_eq_ok_iff.2 ⟨rfl, hs.lineWidth⟩
  have hindent : readBetween 2 4 readPlainInt (.int s.indent) = .ok s.indent :=
    readBetween_eq_ok_iff.2 ⟨rfl, hs.indent⟩
  simp only [Layout.ofTable, Checked.app_eq_ok_iff, field_eq_ok_iff, yields_ofFault_iff]
  exact ⟨_, _, ⟨_, _, ⟨_, _, rfl, hwidth, rfl⟩, hindent, rfl⟩, rfl, rfl⟩

theorem ofTable_resolutionTable (s : Settings) :
    ResolutionOptions.ofTable s.resolutionTable = .ok s.resolution := by
  have hpath : readOptionalText (if s.path = "" then .null else .text s.path) =
      .ok (if s.path = "" then none else some s.path) := by
    split <;> rfl
  simp only [ResolutionOptions.ofTable, Checked.app_eq_ok_iff, field_eq_ok_iff, yields_ofFault_iff]
  exact ⟨_, _, ⟨_, _, ⟨_, _, ⟨_, _, rfl, hpath, rfl⟩, rfl, rfl⟩, rfl, rfl⟩, rfl, rfl⟩

theorem ofTable_policyTable (s : Settings) : FilterPolicy.ofTable s.policyTable = .ok s.filterPolicy := by
  simp only [FilterPolicy.ofTable, Checked.app_eq_ok_iff, field_eq_ok_iff]
  exact ⟨_, _, rfl, readSwitches_bools s.diagnostics, rfl⟩

theorem decimalText_eq_ok_iff {n : Nat} {text : String} :
    decimalText n = .ok text ↔ n < 10 ^ digitLimit ∧ toString n = text := by
  rw [decimalText]
  split
  · next h => simp only [Except.ok.injEq, h, true_and]
  · next h => simp only [reduceCtorEq, h, false_and]

/-- The arguments for a layout can be written down unless its lines are too wide for that. -/
theorem Sound.arguments_isOk_iff (hs : s.Sound) :
    (∃ arguments, s.layout.arguments = .ok arguments) ↔ (Nat.toDigits 10 s.lineWidth).length ≤ 4300 := by
  have hindent : s.indent < 10 ^ digitLimit :=
    calc s.indent ≤ 4 := hs.indent.2
      _ < digitLimit := by decide
      _ < 10 ^ digitLimit := Nat.lt_pow_self (by decide)
  have hlength : (Nat.toDigits 10 s.lineWidth).length ≤ digitLimit ↔ s.lineWidth < 10 ^ digitLimit :=
    Nat.length_toDigits_le_iff (by decide) (by decide)
  refine Iff.trans ?_ hlength.symm
  constructor
  · rintro ⟨arguments, h⟩
    obtain ⟨width, hwidth, -⟩ := bind_eq_ok_iff.1 h
    exact (decimalText_eq_ok_iff.1 hwidth).1
  · intro hwidth
    have hwidthText : decimalText s.layout.lineWidth = .ok (toString s.lineWidth) :=
      decimalText_eq_ok_iff.2 ⟨hwidth, rfl⟩
    have hindentText : decimalText s.layout.indent = .ok (toString s.indent) :=
      decimalText_eq_ok_iff.2 ⟨hindent, rfl⟩
    rw [Layout.arguments, hwidthText, hindentText]
    exact ⟨_, rfl⟩

/-- The views of settings, each as its own check makes it from the values that are stored. -/
structure Viewed (s : Settings) : Prop where
  layout : Layout.ofTable s.layoutTable = .ok s.layout
  layout_eq : s.layout = ⟨s.lineWidth, s.indent, s.uppercaseKeywords⟩
  resolution : ResolutionOptions.ofTable s.resolutionTable = .ok s.resolution
  resolution_eq : s.resolution =
    ⟨if s.path = "" then none else some s.path, s.autoBuild, s.autoDownload, s.version⟩
  policy : FilterPolicy.ofTable s.policyTable = .ok s.filterPolicy
  policy_eq : s.filterPolicy = ⟨s.diagnostics⟩
  arguments : (∃ arguments, s.layout.arguments = .ok arguments) ↔
    (Nat.toDigits 10 s.lineWidth).length ≤ 4300

theorem Sound.viewed (hs : s.Sound) : s.Viewed where
  layout := hs.ofTable_layoutTable
  layout_eq := rfl
  resolution := s.ofTable_resolutionTable
  resolution_eq := rfl
  policy := s.ofTable_policyTable
  policy_eq := rfl
  arguments := hs.arguments_isOk_iff

/-- Settings are sound from the table they are made from through all assignments. At any time a further
assignment changes nothing or one field, and every view can be had. -/
theorem sound_throughout {t : Table} {made : Settings} (hmade : ofTable t = .ok made)
    {steps : List (String × Value)} (hs : made.after steps = s) :
    s.Sound ∧ s.Viewed ∧ ∀ step : String × Value,
      (∀ e, s.assign step.1 step.2 = .error e → made.after (steps ++ [step]) = s) ∧
      ∀ s', s.assign step.1 step.2 = .ok s' →
        made.after (steps ++ [step]) = s' ∧ s.Changes step.1 step.2 s' := by
  have hsound : s.Sound := hs ▸ (sound_of_ofTable hmade).after steps
  have hlast : ∀ step, made.after (steps ++ [step]) = s.assigned step := by
    intro step
    rw [← hs, after, List.foldl_append]
    rfl
  refine ⟨hsound, hsound.viewed, fun step => ⟨fun e he => ?_, fun s' hs' => ⟨?_, changes_of_assign hs'⟩⟩⟩
  · rw [hlast, assigned_of_error he]
  · rw [hlast, assigned_of_ok hs']

/-- A life with two assignments that are refused. -/
theorem sound_throughout_refused :
    ofTable [("version", .text " v2 "), ("line_width", .bool true)] =
      .ok { default with version := "2", lineWidth := 1 } ∧
    after { default with version := "2", lineWidth := 1 }
        [("indent", .int 9), ("version", .text "v"), ("_note", .null), ("line_width", .text " +90.0 "),
          ("diagnostics", .table [("x", .text "Off"), ("duplicate-variable", .int 0)])] =
      { default with
        version := "2", lineWidth := 90
        diagnostics := [("unused-variable", true), ("duplicate-variable", false), ("x", false)] } ∧
    Sound { default with
      version := "2", lineWidth := 90
      diagnostics := [("unused-variable", true), ("duplicate-variable", false), ("x", false)] } := by
  have hmade : ofTable [("version", .text " v2 "), ("line_width", .bool true)] =
      .ok { default with version := "2", lineWidth := 1 } := by decide +kernel
  have hafter : after { default with version := "2", lineWidth := 1 }
        [("indent", .int 9), ("version", .text "v"), ("_note", .null), ("line_width", .text " +90.0 "),
          ("diagnostics", .table [("x", .text "Off"), ("duplicate-variable", .int 0)])] =
      { default with
        version := "2", lineWidth := 90
        diagnostics := [("unused-variable", true), ("duplicate-variable", false), ("x", false)] } := by
    decide +kernel
  exact ⟨hmade, hafter, (sound_throughout hmade hafter).1⟩

end Settings

end SqlTidy
