import SqlTidy.Proofs.Layers

/-!
# Precedence of layers

Settings come from what the highest layer sets, field by field, and from the defaults where no layer sets
anything. Whether settings can be loaded is decided by the same values: a value that a higher layer
replaces is never looked at (`loadSettings_layered`).

The seven fields that are no tables are alike, so they are listed (`scalarFields`) with the name, the
reader and the place of each.
-/

namespace SqlTidy

open Entries

/-! ## Fields -/

/-- A field of settings that is read from one value. -/
structure ScalarField where
  type : Type
  name : String
  read : Value → Except Fault type
  get : Settings → type

/-- All fields but the categories of findings. -/
def scalarFields : List ScalarField :=
  [⟨String, "path", readText, Settings.path⟩,
    ⟨Nat, "line_width", readPositive readInt, Settings.lineWidth⟩,
    ⟨Nat, "indent", readBetween 2 4 readInt, Settings.indent⟩,
    ⟨Bool, "uppercase_keywords", readBool, Settings.uppercaseKeywords⟩,
    ⟨Bool, "auto_build", readBool, Settings.autoBuild⟩,
    ⟨Bool, "auto_download", readBool, Settings.autoDownload⟩,
    ⟨String, "version", readVersion, Settings.version⟩]

/-- What a setting comes to: the value as it is read, or the default where none is set. -/
def Yields {ε α : Type} (read : Value → Except ε α) (default : α) : Option Value → α → Prop
  | some v, x => read v = .ok x
  | none, x => x = default

section Yields

variable {ε α : Type} {read : Value → Except ε α} {default x : α} {o o' : Option Value}

theorem exists_yields_iff :
    (∃ x, Yields read default o x) ↔ ∀ v, o = some v → ∃ x, read v = .ok x := by
  cases o with
  | none => exact iff_of_true ⟨default, rfl⟩ (by simp)
  | some v => simp [Yields]

/-- A reader that tells no two tables apart does not tell merged tables from others. -/
theorem read_of_alike (h : ∀ es es', read (.table es) = read (.table es')) {v w : Value} (hv : v.Alike w) :
    read v = read w := by
  cases hv with
  | refl => rfl
  | table es es' => exact h es es'

theorem yields_congr (h : ∀ es es', read (.table es) = read (.table es')) (ho : Option.Rel Value.Alike o o') :
    Yields read default o x ↔ Yields read default o' x := by
  cases ho with
  | none => rfl
  | some hv => rw [Yields, Yields, read_of_alike h hv]

theorem yields_of_rel {o' : Option α} (h : Option.Rel (fun v x => read v = .ok x) o o') :
    Yields read default o (o'.getD default) := by
  cases h with
  | none => rfl
  | some hx => exact hx

end Yields

theorem ScalarField.read_table {f : ScalarField} (hf : f ∈ scalarFields) (es es' : Entries Value) :
    f.read (.table es) = f.read (.table es') := by
  simp only [scalarFields, List.mem_cons, List.not_mem_nil, or_false] at hf
  rcases hf with rfl | rfl | rfl | rfl | rfl | rfl | rfl <;> rfl

theorem ScalarField.name_ne {f : ScalarField} (hf : f ∈ scalarFields) :
    f.name ≠ diagnosticsKey ∧ f.name ≠ formerUnusedKey := by
  simp only [scalarFields, List.mem_cons, List.not_mem_nil, or_false] at hf
  rcases hf with rfl | rfl | rfl | rfl | rfl | rfl | rfl <;> decide

/-! ## Checked tables -/

section Checked

variable {α β : Type} {t : Table} {name : String}

theorem Checked.app_eq_ok_iff {f : Checked (α → β)} {x : Checked α} {b : β} :
    Checked.app f x = .ok b ↔ ∃ g a, f = .ok g ∧ x = .ok a ∧ g a = b := by
  cases f <;> cases x <;> simp [Checked.app]

theorem Checked.also_eq_ok_iff {x : Checked α} {more : List FieldError} {a : α} :
    Checked.also x more = .ok a ↔ x = .ok a ∧ more = [] := by
  cases x <;> cases more <;> simp [Checked.also]

theorem field_eq_ok_iff {read : Reader α} {default x : α} :
    field t name read default = .ok x ↔ Yields read default (get? t name) x := by
  rw [field]
  cases get? t name with
  | none => simp [Yields, eq_comm]
  | some v => cases hv : read v <;> simp [Yields, hv]

theorem yields_ofFault_iff {read : Value → Except Fault α} {default x : α} {o : Option Value} :
    Yields (Reader.ofFault read) default o x ↔ Yields read default o x := by
  cases o with
  | none => rfl
  | some v => cases hv : read v <;> simp [Yields, Reader.ofFault, hv]

theorem extraFields_eq_nil_iff {fields : List String} :
    extraFields t fields = [] ↔ ∀ name ∈ names t, name ∈ fields := by
  simp only [extraFields, List.filterMap_eq_nil_iff]
  refine forall_congr' fun name => forall_congr' fun _ => ?_
  by_cases h : name ∈ fields <;> simp [h]

end Checked

/-- A table is taken for settings if it has no other keys than fields and each of its fields is. -/
theorem Settings.ofTable_eq_ok_iff {t : Table} {s : Settings} : Settings.ofTable t = .ok s ↔
    (∀ name ∈ names t, name ∈ Settings.fieldNames) ∧
      (∀ f ∈ scalarFields, Yields f.read (f.get Settings.default) (get? t f.name) (f.get s)) ∧
      Yields readCategories Settings.default.diagnostics (get? t diagnosticsKey) s.diagnostics := by
  simp only [Settings.ofTable, Checked.also_eq_ok_iff, Checked.app_eq_ok_iff, field_eq_ok_iff,
    yields_ofFault_iff, extraFields_eq_nil_iff, scalarFields, List.forall_mem_cons]
  constructor
  · rintro ⟨⟨_, _, ⟨_, _, ⟨_, _, ⟨_, _, ⟨_, _, ⟨_, _, ⟨_, _, ⟨_, _, ⟨⟩, h₁, rfl⟩, h₂, rfl⟩, h₃, rfl⟩, h₄,
      rfl⟩, h₅, rfl⟩, h₆, rfl⟩, h₇, rfl⟩, h₈, rfl⟩, hnames⟩
    exact ⟨hnames, ⟨h₁, h₂, h₃, h₄, h₅, h₆, h₇, by simp⟩, h₈⟩
  · rintro ⟨hnames, ⟨h₁, h₂, h₃, h₄, h₅, h₆, h₇, -⟩, h₈⟩
    exact ⟨⟨_, _, ⟨_, _, ⟨_, _, ⟨_, _, ⟨_, _, ⟨_, _, ⟨_, _, ⟨_, _, rfl, h₁, rfl⟩, h₂, rfl⟩, h₃, rfl⟩, h₄,
      rfl⟩, h₅, rfl⟩, h₆, rfl⟩, h₇, rfl⟩, h₈, rfl⟩, hnames⟩

/-! ## Switches -/

section Switches

variable {es : Entries Value} {bs : Entries Bool} {n : String} {v : Value}

theorem readSwitches_cons_eq_ok_iff : readSwitches (.table ((n, v) :: es)) = .ok bs ↔
    ∃ b bs', readBool v = .ok b ∧ readSwitches (.table es) = .ok bs' ∧ (n, b) :: bs' = bs := by
  have hcons : readSwitches (.table ((n, v) :: es)) =
      Checked.app (Checked.app (.ok fun b bs => (n, b) :: bs)
        ((readBool v).mapError fun e => [⟨[n], e⟩])) (readSwitches (.table es)) := rfl
  rw [hcons]
  simp only [Checked.app_eq_ok_iff]
  constructor
  · rintro ⟨_, bs', ⟨_, b, ⟨⟩, hb, rfl⟩, hbs, rfl⟩
    refine ⟨b, bs', ?_, hbs, rfl⟩
    cases hv : readBool v <;> simp_all
  · rintro ⟨b, bs', hb, hbs, rfl⟩
    exact ⟨_, bs', ⟨_, b, rfl, by rw [hb]; rfl, rfl⟩, hbs, rfl⟩

/-- Switches keep their names, and each is read on its own. -/
theorem names_readSwitches (h : readSwitches (.table es) = .ok bs) : names bs = names es := by
  induction es generalizing bs with
  | nil =>
    cases h
    rfl
  | cons e es ih =>
    obtain ⟨b, bs', -, hbs, rfl⟩ := readSwitches_cons_eq_ok_iff.1 h
    rw [names_cons, names_cons, ih hbs]

theorem get?_readSwitches (h : readSwitches (.table es) = .ok bs) (code : String) :
    Option.Rel (fun v b => readBool v = .ok b) (get? es code) (get? bs code) := by
  induction es generalizing bs with
  | nil =>
    cases h
    exact .none
  | cons e es ih =>
    obtain ⟨b, bs', hb, hbs, rfl⟩ := readSwitches_cons_eq_ok_iff.1 h
    rw [get?_cons, get?_cons]
    by_cases hc : code = e.1
    · rw [if_pos hc, if_pos hc]
      exact .some hb
    · rw [if_neg hc, if_neg hc]
      exact ih hbs

theorem readSwitches_isOk_iff :
    (∃ bs, readSwitches (.table es) = .ok bs) ↔ ∀ e ∈ es, ∃ b, readBool e.2 = .ok b := by
  induction es with
  | nil => exact iff_of_true ⟨[], rfl⟩ (by simp)
  | cons e es ih =>
    rw [List.forall_mem_cons, ← ih]
    constructor
    · rintro ⟨bs, h⟩
      obtain ⟨b, bs', hb, hbs, -⟩ := readSwitches_cons_eq_ok_iff.1 h
      exact ⟨⟨b, hb⟩, bs', hbs⟩
    · rintro ⟨⟨b, hb⟩, bs', hbs⟩
      exact ⟨_, readSwitches_cons_eq_ok_iff.2 ⟨b, bs', hb, hbs, rfl⟩⟩

theorem readCategories_table_eq_ok_iff {x : Entries Bool} : readCategories (.table es) = .ok x ↔
    ∃ bs, readSwitches (.table es) = .ok bs ∧ putAll defaultCategories bs = x := by
  rw [readCategories]
  cases readSwitches (.table es) <;> simp [Except.map]

/-- Every category starts switched on. -/
theorem getD_defaultCategories (code : String) : (get? defaultCategories code).getD true = true := by
  simp only [defaultCategories, get?_cons, get?_nil]
  split
  · rfl
  · split <;> rfl

theorem exists_readCategories_iff (h : (names es).Nodup) : (∃ x, readCategories (.table es) = .ok x) ↔
    ∀ code v, get? es code = some v → ∃ b, readBool v = .ok b := by
  have hread : (∃ x, readCategories (.table es) = .ok x) ↔ ∃ bs, readSwitches (.table es) = .ok bs := by
    simp only [readCategories_table_eq_ok_iff]
    exact ⟨fun ⟨_, bs, hbs, _⟩ => ⟨bs, hbs⟩, fun ⟨bs, hbs⟩ => ⟨_, bs, hbs, rfl⟩⟩
  rw [hread, readSwitches_isOk_iff]
  exact ⟨fun hes code v hv => hes (code, v) (mem_of_get? hv), fun hes e he => hes _ _ (get?_of_mem h he)⟩

/-- A category is on as its switch says, or because nothing is said of it. -/
theorem yields_readCategories (h : (names es).Nodup) {x : Entries Bool}
    (hx : readCategories (.table es) = .ok x) (code : String) :
    Yields readBool true (get? es code) ((get? x code).getD true) := by
  obtain ⟨bs, hbs, rfl⟩ := readCategories_table_eq_ok_iff.1 hx
  have hnodup : (names bs).Nodup := by rwa [names_readSwitches hbs]
  rw [get?_putAll, last?_eq_get? hnodup, Option.getD_or, getD_defaultCategories]
  exact yields_of_rel (get?_readSwitches hbs code)

end Switches

namespace Merged

variable {layers : List Table} {m : Table}

/-- A field of merged layers comes to what the highest layer sets. -/
theorem yields_iff (h : Merged layers m) {f : ScalarField} (hf : f ∈ scalarFields) {x : f.type}
    {default : f.type} :
    Yields f.read default (get? m f.name) x ↔ Yields f.read default (effective layers f.name) x := by
  obtain ⟨hd, hformer⟩ := ScalarField.name_ne hf
  exact yields_congr (ScalarField.read_table hf) (h.setting f.name hd hformer)

/-- The categories of merged layers can be read if every switch that counts can be. -/
theorem exists_categories_iff (h : Merged layers m) :
    (∃ x, Yields readCategories Settings.default.diagnostics (get? m diagnosticsKey) x) ↔
      ∀ code v, effectiveFlag layers code = some v → ∃ b, readBool v = .ok b := by
  cases hm : get? m diagnosticsKey with
  | none =>
    refine iff_of_true ⟨_, rfl⟩ fun code v hv => ?_
    rw [h.silent hm code] at hv
    cases hv
  | some v =>
    obtain ⟨d, rfl, hnodup, hflag⟩ := h.table v hm
    refine (exists_readCategories_iff hnodup).trans (forall_congr' fun code => ?_)
    rw [← @exists_yields_iff _ _ readBool true, ← @exists_yields_iff _ _ readBool true]
    exact exists_congr fun b => yields_congr (fun _ _ => rfl) (hflag code)

theorem yields_flag (h : Merged layers m) {x : Entries Bool}
    (hx : Yields readCategories Settings.default.diagnostics (get? m diagnosticsKey) x) (code : String) :
    Yields readBool true (effectiveFlag layers code) ((get? x code).getD true) := by
  cases hm : get? m diagnosticsKey with
  | none =>
    rw [hm] at hx
    rw [h.silent hm code, show x = defaultCategories from hx]
    exact getD_defaultCategories code
  | some v =>
    obtain ⟨d, rfl, hnodup, hflag⟩ := h.table v hm
    rw [hm] at hx
    exact (yields_congr (fun _ _ => rfl) (hflag code)).1 (yields_readCategories hnodup hx code)

theorem not_mem_names_iff (h : Merged layers m) {key : String} (hd : key ≠ diagnosticsKey)
    (hf : key ≠ formerUnusedKey) : key ∉ names m ↔ ∀ t ∈ layers, ∀ e ∈ t, snakeCase e.1 ≠ key := by
  rw [← get?_eq_none_iff, ← effective_eq_none_iff]
  exact rel_eq_none_iff (h.setting key hd hf)

/-- A key stays in merged layers, but for the former switch, which becomes one of the categories. -/
theorem names_subset_iff (h : Merged layers m) :
    (∀ name ∈ names m, name ∈ Settings.fieldNames) ↔ ∀ t ∈ layers, ∀ e ∈ t,
      snakeCase e.1 ∈ Settings.fieldNames ∨ snakeCase e.1 = formerUnusedKey := by
  have hdiag : diagnosticsKey ∈ Settings.fieldNames := by decide
  constructor
  · intro hm t ht e he
    by_cases hf : snakeCase e.1 = formerUnusedKey
    · exact .inr hf
    by_cases hd : snakeCase e.1 = diagnosticsKey
    · exact .inl (hd ▸ hdiag)
    by_cases hmem : snakeCase e.1 ∈ names m
    · exact .inl (hm _ hmem)
    · exact absurd rfl ((h.not_mem_names_iff hd hf).1 hmem t ht e he)
  · intro hl name hname
    by_cases hd : name = diagnosticsKey
    · exact hd ▸ hdiag
    have hf : name ≠ formerUnusedKey := by
      rintro rfl
      exact get?_eq_none_iff.1 h.former hname
    refine Decidable.byContradiction fun hnot => (h.not_mem_names_iff hd hf).2 (fun t ht e he hkey => ?_) hname
    rcases hl t ht e he with hfield | hformer
    · exact hnot (hkey ▸ hfield)
    · exact hf (hkey.symm.trans hformer)

end Merged

/-! ## Loading -/

/-- Layers, the highest first, that settings can be loaded from. Of the values, only those of the highest
layers are looked at. -/
structure Acceptable (layers : List Table) : Prop where
  keys : ∀ t ∈ layers, ∀ e ∈ t, snakeCase e.1 ∈ Settings.fieldNames ∨ snakeCase e.1 = formerUnusedKey
  tables : ∀ t ∈ layers, t.TablesOnly
  flags : ∀ code v, effectiveFlag layers code = some v → ∃ b, readBool v = .ok b
  fields : ∀ f ∈ scalarFields, ∀ v, effective layers f.name = some v → ∃ x, f.read v = .ok x

/-- The tables that the two files of a project give, variables replaced. -/
structure ProjectFiles (t : FileTree) (env : Environment) (root : Path) (own project : Table) : Prop where
  own : (ConfigSource.whole (root / ".aspenfmt.toml")).load t env = .ok own
  project : (ConfigSource.projectSection (root / "pyproject.toml")).load t env = .ok project

section Loading

variable {t : FileTree} {env : Environment} {root : Path} {own project overrides m : Table}

theorem ConfigSource.layer_of_load {source : ConfigSource} {table : Table}
    (h : source.load t env = .ok table) :
    source.layer t env = (normaliseKeys source.describe table).mapError .config := by
  rw [layer, h]
  rfl

/-- Layers are merged if each of them has its keys in one spelling. -/
theorem mergedLayers_eq_ok_iff (hf : ProjectFiles t env root own project) :
    mergedLayers t env root overrides = .ok m ↔ ∃ n₁ n₂ n₃,
      normaliseKeys (ConfigSource.whole (root / ".aspenfmt.toml")).describe own = .ok n₁ ∧
      normaliseKeys (ConfigSource.projectSection (root / "pyproject.toml")).describe project = .ok n₂ ∧
      normaliseKeys "overrides" overrides = .ok n₃ ∧
      overlayEntries (overlayEntries (overlayEntries [] n₁) n₂) n₃ = m := by
  simp only [mergedLayers, configSources, List.foldlM_cons, List.foldlM_nil,
    ConfigSource.layer_of_load hf.own, ConfigSource.layer_of_load hf.project]
  cases normaliseKeys (ConfigSource.whole (root / ".aspenfmt.toml")).describe own with
  | error e => exact iff_of_false (by simp [bind, Except.bind]) (by simp)
  | ok n₁ =>
    cases normaliseKeys (ConfigSource.projectSection (root / "pyproject.toml")).describe project with
    | error e => exact iff_of_false (by simp [bind, Except.bind, pure, Except.pure]) (by simp)
    | ok n₂ =>
      cases normaliseKeys "overrides" overrides with
      | error e => exact iff_of_false (by simp [bind, Except.bind, pure, Except.pure]) (by simp)
      | ok n₃ => simp [bind, Except.bind, pure, Except.pure]

theorem merged_of_mergedLayers (hf : ProjectFiles t env root own project)
    (h : mergedLayers t env root overrides = .ok m) : Merged [overrides, project, own] m := by
  obtain ⟨n₁, n₂, n₃, h₁, h₂, h₃, rfl⟩ := (mergedLayers_eq_ok_iff hf).1 h
  have hbase := merged_nil.overlay (normalised_of_normaliseKeys h₁)
  exact (hbase.overlay (normalised_of_normaliseKeys h₂)).overlay (normalised_of_normaliseKeys h₃)

theorem mergedLayers_isOk_iff (hf : ProjectFiles t env root own project) :
    (∃ m, mergedLayers t env root overrides = .ok m) ↔ ∀ t ∈ [overrides, project, own], t.TablesOnly := by
  simp only [mergedLayers_eq_ok_iff hf, List.forall_mem_cons]
  constructor
  · rintro ⟨_, n₁, n₂, n₃, h₁, h₂, h₃, -⟩
    exact ⟨normaliseKeys_isOk_iff.1 ⟨n₃, h₃⟩, normaliseKeys_isOk_iff.1 ⟨n₂, h₂⟩,
      normaliseKeys_isOk_iff.1 ⟨n₁, h₁⟩, by simp⟩
  · rintro ⟨h₃, h₂, h₁, -⟩
    obtain ⟨n₁, h₁⟩ := normaliseKeys_isOk_iff.2 h₁
    obtain ⟨n₂, h₂⟩ := normaliseKeys_isOk_iff.2 h₂
    obtain ⟨n₃, h₃⟩ := normaliseKeys_isOk_iff.2 h₃
    exact ⟨_, n₁, n₂, n₃, h₁, h₂, h₃, rfl⟩

theorem loadSettings_eq_ok_iff {s : Settings} : loadSettings t env root overrides = .ok s ↔
    ∃ m, mergedLayers t env root overrides = .ok m ∧ Settings.ofTable m = .ok s := by
  rw [loadSettings]
  cases mergedLayers t env root overrides with
  | error e => exact iff_of_false (by simp [bind, Except.bind]) (by simp)
  | ok m => cases hm : Settings.ofTable m <;> simp [bind, Except.bind, hm]

/-- Merged layers are taken for settings if every value that counts can be read. -/
theorem Merged.exists_settings_iff {layers : List Table} (h : Merged layers m) :
    (∃ s, Settings.ofTable m = .ok s) ↔
      (∀ t ∈ layers, ∀ e ∈ t, snakeCase e.1 ∈ Settings.fieldNames ∨ snakeCase e.1 = formerUnusedKey) ∧
      (∀ code v, effectiveFlag layers code = some v → ∃ b, readBool v = .ok b) ∧
      ∀ f ∈ scalarFields, ∀ v, effective layers f.name = some v → ∃ x, f.read v = .ok x := by
  have hfields : ∀ f ∈ scalarFields, ∀ default,
      (∃ x, Yields f.read default (get? m f.name) x) ↔
        ∀ v, effective layers f.name = some v → ∃ x, f.read v = .ok x := fun f hf default =>
    (exists_congr fun x => h.yields_iff hf).trans exists_yields_iff
  rw [← h.names_subset_iff, ← h.exists_categories_iff]
  simp only [Settings.ofTable_eq_ok_iff]
  constructor
  · rintro ⟨s, hnames, hscalars, hcategories⟩
    exact ⟨hnames, ⟨_, hcategories⟩, fun f hf => (hfields f hf _).1 ⟨_, hscalars f hf⟩⟩
  · rintro ⟨hnames, ⟨categories, hcategories⟩, hscalars⟩
    have hread := fun f hf => (hfields f hf (f.get Settings.default)).2 (hscalars f hf)
    simp only [scalarFields, List.forall_mem_cons] at hread
    obtain ⟨⟨x₁, h₁⟩, ⟨x₂, h₂⟩, ⟨x₃, h₃⟩, ⟨x₄, h₄⟩, ⟨x₅, h₅⟩, ⟨x₆, h₆⟩, ⟨x₇, h₇⟩, -⟩ := hread
    refine ⟨⟨x₁, x₂, x₃, x₄, x₅, x₆, x₇, categories⟩, hnames, ?_, hcategories⟩
    simp only [scalarFields, List.forall_mem_cons]
    exact ⟨h₁, h₂, h₃, h₄, h₅, h₆, h₇, by simp⟩

/-- Settings are what the highest layer sets, field by field, and can be loaded just if every value that
counts can be read: a value that a higher layer replaces is never looked at. -/
theorem loadSettings_layered (hf : ProjectFiles t env root own project) :
    (∀ s, loadSettings t env root overrides = .ok s → ∀ f ∈ scalarFields,
      Yields f.read (f.get Settings.default) (effective [overrides, project, own] f.name) (f.get s)) ∧
    ((∃ s, loadSettings t env root overrides = .ok s) ↔ Acceptable [overrides, project, own]) := by
  refine ⟨fun s hs f hfield => ?_, ?_⟩
  · obtain ⟨m, hm, htable⟩ := loadSettings_eq_ok_iff.1 hs
    have hscalars := (Settings.ofTable_eq_ok_iff.1 htable).2.1
    exact ((merged_of_mergedLayers hf hm).yields_iff hfield).1 (hscalars f hfield)
  · simp only [loadSettings_eq_ok_iff]
    constructor
    · rintro ⟨s, m, hm, hs⟩
      obtain ⟨hkeys, hflags, hfields⟩ := (merged_of_mergedLayers hf hm).exists_settings_iff.1 ⟨s, hs⟩
      exact ⟨hkeys, (mergedLayers_isOk_iff hf).1 ⟨m, hm⟩, hflags, hfields⟩
    · intro h
      obtain ⟨m, hm⟩ := (mergedLayers_isOk_iff hf).2 h.tables
      obtain ⟨s, hs⟩ :=
        (merged_of_mergedLayers hf hm).exists_settings_iff.2 ⟨h.keys, h.flags, h.fields⟩
      exact ⟨s, m, hm, hs⟩

/-- A project of which both files say how wide lines are. -/
def twoWidths : FileTree where
  entries := [
    ([".aspenfmt.toml"], .file (utf8Encode "lineWidth = 'wide'\nindent = 3\n") 0o644),
    (["pyproject.toml"], .file (utf8Encode "[tool.aspenfmt]\nline-width = 100\n") 0o644)]
  here := []

theorem exists_projectFiles
    (hown : ((ConfigSource.whole (root / ".aspenfmt.toml")).load t env).isOk = true)
    (hproject : ((ConfigSource.projectSection (root / "pyproject.toml")).load t env).isOk = true) :
    ∃ own project, ProjectFiles t env root own project := by
  obtain ⟨own, hown⟩ := exists_of_isOk hown
  obtain ⟨project, hproject⟩ := exists_of_isOk hproject
  exact ⟨own, project, hown, hproject⟩

/-- A width that cannot be read does no harm where a higher layer sets the width. -/
theorem loadSettings_layered_replaced : ∃ own project, ProjectFiles twoWidths [] ⟨.root, []⟩ own project ∧
    (own.setting? "line_width").map (fun v => (readPositive readInt v).isOk) = some false ∧
    loadSettings twoWidths [] ⟨.root, []⟩ [("indent", .int 4)] =
      .ok { Settings.default with lineWidth := 100, indent := 4 } ∧
    Acceptable [[("indent", .int 4)], project, own] ∧
    Yields (readPositive readInt) 88 (effective [[("indent", .int 4)], project, own] "line_width") 100 := by
  have hload : loadSettings twoWidths [] ⟨.root, []⟩ [("indent", .int 4)] =
      .ok { Settings.default with lineWidth := 100, indent := 4 } := by decide +kernel
  have hwide : ((ConfigSource.whole ((⟨.root, []⟩ : Path) / ".aspenfmt.toml")).load twoWidths []).toOption.bind
      (fun own => (own.setting? "line_width").map fun v => (readPositive readInt v).isOk) = some false := by
    decide +kernel
  obtain ⟨own, project, hf⟩ : ∃ own project, ProjectFiles twoWidths [] ⟨.root, []⟩ own project :=
    exists_projectFiles (by decide +kernel) (by decide +kernel)
  obtain ⟨hfields, hiff⟩ := @loadSettings_layered _ _ _ _ _ [("indent", .int 4)] hf
  rw [hf.own] at hwide
  exact ⟨own, project, hf, hwide, hload, hiff.1 ⟨_, hload⟩,
    hfields _ hload ⟨Nat, "line_width", readPositive readInt, Settings.lineWidth⟩ (by simp [scalarFields])⟩

end Loading

end SqlTidy
