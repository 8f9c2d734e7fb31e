import SqlTidy.Proofs.Precedence
import SqlTidy.Proofs.TomlScanning

/-!
# How loading settings ends

What is wrong with a configuration should be a complaint about it. Two things are not: a file that is no
text, and a number in it that has too many digits to be read. Both end the run (`Ruins`), and nothing else
does where the files can be looked for (`loadSettings_crash_iff`). The file of the project is not reached
where there is a complaint about the first one.
-/

namespace SqlTidy

theorem FileTree.read_of_probe {t : FileTree} {path : String} {octets : Octets} {mode : Nat}
    (h : t.probe path = .ok (some (.file octets mode))) : t.read path = .ok octets := by
  unfold probe at h
  split at h
  · cases h
  split at h
  · next p entry hfind =>
    cases h
    rw [read, hfind]
    rfl
  · split at h <;> cases h

/-- What stands at a path and makes loading crash. -/
inductive Ruins : Option Entry → Crash → Prop
  | notText {octets : Octets} {mode : Nat} {e : Utf8Error} (h : utf8Decode octets = .error e) :
      Ruins (some (.file octets mode)) (.notText e)
  | number {octets : Octets} {mode : Nat} {text : String} {limit : DigitLimitExceeded}
      (h : utf8Decode octets = .ok text) (hlimit : Toml.parse text = .error (.tooLong limit)) :
      Ruins (some (.file octets mode)) (.digits limit)

/-- A file, if there is one, that holds a text without long runs of digits. -/
def Plain (entry : Option Entry) : Prop :=
  ∀ octets mode, entry = some (.file octets mode) →
    ∃ text, utf8Decode octets = .ok text ∧ ∀ n, digitLimit < n → ¬ Toml.HoldsDigits n text.toList

theorem plain_of_length {octets : Octets} {mode : Nat} {text : String}
    (htext : utf8Decode octets = .ok text) (hlength : text.toList.length ≤ digitLimit) :
    Plain (some (.file octets mode)) := by
  intro octets' mode' h
  cases h
  refine ⟨text, htext, fun n hn hdigits => ?_⟩
  obtain ⟨run, hrun, -, hcount⟩ := hdigits
  have hrunLength := hrun.length_le
  have hcountLength := run.countP_le_length (p := Toml.isDecDigit)
  omega

theorem Plain.not_ruins {entry : Option Entry} {c : Crash} (h : Plain entry) : ¬ Ruins entry c := by
  intro hruins
  cases hruins with
  | notText he =>
    obtain ⟨text, htext, -⟩ := h _ _ rfl
    rw [he] at htext
    cases htext
  | @number _ _ _ limit htext hlimit =>
    obtain ⟨text, htext', hshort⟩ := h _ _ rfl
    rw [htext] at htext'
    cases htext'
    have hoverlong := Toml.overlong_of_parse hlimit
    cases limit with
    | writing => exact hoverlong
    | reading n => exact hshort n hoverlong.1 hoverlong.2

namespace ConfigSource

variable {t : FileTree} {env : Environment} {source : ConfigSource} {entry : Option Entry} {c : Crash}

theorem document_crash_iff (h : t.probe source.path.text = .ok entry) :
    source.document t = .error (.crash c) ↔ Ruins entry c := by
  unfold document
  dsimp only
  rw [h]
  match entry with
  | none | some .directory | some (.link _) => exact iff_of_false nofun nofun
  | some (.file octets mode) =>
    rw [FileTree.read_of_probe h]
    dsimp only
    constructor
    · intro hcrash
      split at hcrash
      · next e he =>
        cases hcrash
        exact .notText he
      · next text htext =>
        split at hcrash
        · cases hcrash
        · cases hcrash
        · next limit hlimit =>
          cases hcrash
          exact .number htext hlimit
    · intro hruins
      cases hruins with
      | notText he => rw [he]
      | number htext hlimit => rw [htext]; dsimp only; rw [hlimit]

theorem load_crash_iff (h : t.probe source.path.text = .ok entry) :
    source.load t env = .error (.crash c) ↔ Ruins entry c := by
  rw [← document_crash_iff h]
  unfold load
  cases source.document t with
  | error e => simp [bind, Except.bind]
  | ok table => cases source <;> simp [bind, Except.bind, pure, Except.pure]

/-- Bringing keys to one spelling complains, but does not crash. -/
theorem layer_crash_iff (h : t.probe source.path.text = .ok entry) :
    source.layer t env = .error (.crash c) ↔ Ruins entry c := by
  rw [← @load_crash_iff t env _ _ c h]
  cases hload : source.load t env with
  | error e =>
    rw [layer, hload]
    rfl
  | ok table =>
    rw [layer_of_load hload]
    cases normaliseKeys source.describe table <;> simp

theorem layer_isOk_iff : (∃ n, source.layer t env = .ok n) ↔
    ∃ table, source.load t env = .ok table ∧ table.TablesOnly := by
  cases hload : source.load t env with
  | error e =>
    rw [layer, hload]
    simp [bind, Except.bind]
  | ok table =>
    simp only [layer_of_load hload, mapError_eq_ok_iff, normaliseKeys_isOk_iff]
    simp

end ConfigSource

section Loading

variable {t : FileTree} {env : Environment} {root : Path} {overrides : Table} {c : Crash}

theorem mergedLayers_crash_iff : mergedLayers t env root overrides = .error (.crash c) ↔
    (ConfigSource.whole (root / ".aspenfmt.toml")).layer t env = .error (.crash c) ∨
    (∃ n, (ConfigSource.whole (root / ".aspenfmt.toml")).layer t env = .ok n) ∧
      (ConfigSource.projectSection (root / "pyproject.toml")).layer t env = .error (.crash c) := by
  simp only [mergedLayers, configSources, List.foldlM_cons, List.foldlM_nil]
  cases (ConfigSource.whole (root / ".aspenfmt.toml")).layer t env with
  | error e => simp [bind, Except.bind]
  | ok n₁ =>
    cases (ConfigSource.projectSection (root / "pyproject.toml")).layer t env with
    | error e => simp [bind, Except.bind, pure, Except.pure]
    | ok n₂ =>
      cases normaliseKeys "overrides" overrides with
      | error e => simp [bind, Except.bind, pure, Except.pure]
      | ok n₃ => simp [bind, Except.bind, pure, Except.pure]

/-- The check of the merged layers complains, but does not crash. -/
theorem loadSettings_crash_iff_mergedLayers : loadSettings t env root overrides = .error (.crash c) ↔
    mergedLayers t env root overrides = .error (.crash c) := by
  unfold loadSettings
  cases mergedLayers t env root overrides with
  | error e => simp [bind, Except.bind]
  | ok m => cases hm : Settings.ofTable m <;> simp [bind, Except.bind, hm]

/-- Loading the settings crashes exactly if one of the two files is ruined: it is no text, or a number in it is too
long. The second file is read only if the first gives settings. From two plain files it yields settings or
complains about them. Documents may be nested as deeply as they like here, since no limit on the depth of calls is
modelled. -/
theorem loadSettings_crash_iff {own project : Option Entry}
    (hown : t.probe (root / ".aspenfmt.toml").text = .ok own)
    (hproject : t.probe (root / "pyproject.toml").text = .ok project) :
    (∀ c, loadSettings t env root overrides = .error (.crash c) ↔ Ruins own c ∨
      (∃ table, (ConfigSource.whole (root / ".aspenfmt.toml")).load t env = .ok table ∧ table.TablesOnly) ∧
        Ruins project c) ∧
    (Plain own → Plain project →
      (∃ s, loadSettings t env root overrides = .ok s) ∨
      ∃ e, loadSettings t env root overrides = .error (.config e)) := by
  have hcrash : ∀ c, loadSettings t env root overrides = .error (.crash c) ↔ Ruins own c ∨
      (∃ table, (ConfigSource.whole (root / ".aspenfmt.toml")).load t env = .ok table ∧ table.TablesOnly) ∧
        Ruins project c := by
    intro c
    have hfirst : (ConfigSource.whole (root / ".aspenfmt.toml")).layer t env = .error (.crash c) ↔
        Ruins own c := ConfigSource.layer_crash_iff hown
    have hsecond : (ConfigSource.projectSection (root / "pyproject.toml")).layer t env =
        .error (.crash c) ↔ Ruins project c := ConfigSource.layer_crash_iff hproject
    rw [loadSettings_crash_iff_mergedLayers, mergedLayers_crash_iff, ConfigSource.layer_isOk_iff,
      hfirst, hsecond]
  refine ⟨hcrash, fun hplain hplain' => ?_⟩
  cases hload : loadSettings t env root overrides with
  | ok s => exact .inl ⟨s, rfl⟩
  | error e =>
    cases e with
    | config e => exact .inr ⟨e, rfl⟩
    | crash c =>
      rcases (hcrash c).1 hload with h | ⟨-, h⟩
      · exact (hplain.not_ruins h).elim
      · exact (hplain'.not_ruins h).elim

/-- A project with settings of its own, and a file in it that holds the octets. -/
def besideOwn (octets : Octets) : FileTree where
  entries := [
    ([".aspenfmt.toml"], .file (utf8Encode "indent = 3\n") 0o644),
    (["pyproject.toml"], .file octets 0o644)]
  here := []

/-- A stray octet ends the run, an unfinished table is complained about. -/
theorem loadSettings_crash_stray :
    loadSettings (besideOwn [0x0a, 0xff]) [] ⟨.root, []⟩ [] = .error (.crash (.notText ⟨0xff, 1, 1, .start⟩)) ∧
    ((∃ s, loadSettings (besideOwn (utf8Encode "[tool")) [] ⟨.root, []⟩ [] = .ok s) ∨
      ∃ e, loadSettings (besideOwn (utf8Encode "[tool")) [] ⟨.root, []⟩ [] = .error (.config e)) := by
  have hlayer : ((ConfigSource.whole ((⟨.root, []⟩ : Path) / ".aspenfmt.toml")).layer
      (besideOwn [0x0a, 0xff]) []).isOk = true := by decide +kernel
  have htext : utf8Decode (utf8Encode "[tool") = .ok "[tool" := by decide +kernel
  have htext' : utf8Decode (utf8Encode "indent = 3\n") = .ok "indent = 3\n" := by decide +kernel
  constructor
  · have hown : (besideOwn [0x0a, 0xff]).probe ((⟨.root, []⟩ : Path) / ".aspenfmt.toml").text =
        .ok (some (.file (utf8Encode "indent = 3\n") 0o644)) := by decide +kernel
    have hproject : (besideOwn [0x0a, 0xff]).probe ((⟨.root, []⟩ : Path) / "pyproject.toml").text =
        .ok (some (.file [0x0a, 0xff] 0o644)) := by decide +kernel
    refine ((loadSettings_crash_iff hown hproject).1 _).2 (.inr ⟨?_, .notText (by decide +kernel)⟩)
    exact ConfigSource.layer_isOk_iff.1 (exists_of_isOk hlayer)
  · have hown : (besideOwn (utf8Encode "[tool")).probe ((⟨.root, []⟩ : Path) / ".aspenfmt.toml").text =
        .ok (some (.file (utf8Encode "indent = 3\n") 0o644)) := by decide +kernel
    have hproject : (besideOwn (utf8Encode "[tool")).probe ((⟨.root, []⟩ : Path) / "pyproject.toml").text =
        .ok (some (.file (utf8Encode "[tool") 0o644)) := by decide +kernel
    exact (loadSettings_crash_iff hown hproject).2 (plain_of_length htext' (by decide +kernel))
      (plain_of_length htext (by decide +kernel))

end Loading

end SqlTidy
