import SqlTidy.Proofs.Precedence
import SqlTidy.Service

/-!
# Served documents

A document is served if the formatter is found, can be run and keeps to its mode
(`serve_result_eq_ok_iff`). What a check shows then is the report of the formatter without the findings
whose category is switched off by the highest layer of settings that speaks of it
(`checkDocument_shows`).
-/

namespace SqlTidy

open Entries

section Serve

variable (mode : Mode) (arguments : Except DigitLimitExceeded (List String)) (find : Finder) (run : Runner)
  (s : Settings) (text : String) (t : FileTree)

/-- Serving stops before a run is made, at a run that yields no result, or with the result of a run. -/
theorem serve_cases :
    (∃ error, serve mode arguments find run s text t =
      ⟨.error error, find s.resolution t, none, (find s.resolution t).tree⟩) ∨
    ∃ executable as, (find s.resolution t).location = .ok executable ∧ arguments = .ok as ∧
      ((∃ e t₁ error, run executable as text (find s.resolution t).tree = (.error e, t₁) ∧
        serve mode arguments find run s text t =
          ⟨.error error, find s.resolution t, some ⟨executable, as, text⟩, t₁⟩) ∨
      ∃ r t₁, run executable as text (find s.resolution t).tree = (.ok r, t₁) ∧
        serve mode arguments find run s text t =
          ⟨(r.interpret toolName mode).mapError .protocol, find s.resolution t,
            some ⟨executable, as, text⟩, t₁⟩) := by
  cases hexe : (find s.resolution t).location with
  | error crash => exact .inl ⟨.crash crash, by simp only [serve, hexe]⟩
  | ok executable =>
    cases arguments with
    | error limit => exact .inl ⟨.crash (.digits limit), by simp only [serve, hexe]⟩
    | ok as =>
      refine .inr ⟨executable, as, rfl, rfl, ?_⟩
      rcases hrun : run executable as text (find s.resolution t).tree with ⟨(error | crash) | r, t₁⟩
      · exact .inl ⟨_, t₁, .spawn error, rfl, by simp only [serve, hexe, hrun]⟩
      · exact .inl ⟨_, t₁, .crash crash, rfl, by simp only [serve, hexe, hrun]⟩
      · exact .inr ⟨r, t₁, rfl, by simp only [serve, hexe, hrun]⟩

variable {mode arguments find run s text t}

theorem serve_result_eq_ok_iff {out : String} :
    (serve mode arguments find run s text t).result = .ok out ↔
      ∃ executable as r t₁, (find s.resolution t).location = .ok executable ∧ arguments = .ok as ∧
        run executable as text (find s.resolution t).tree = (.ok r, t₁) ∧
        r.interpret toolName mode = .ok out := by
  constructor
  · intro hout
    rcases serve_cases mode arguments find run s text t with
      ⟨error, h⟩ | ⟨executable, as, hexe, hargs, ⟨e, t₁, error, hrun, h⟩ | ⟨r, t₁, hrun, h⟩⟩
    · rw [h] at hout
      cases hout
    · rw [h] at hout
      cases hout
    · rw [h] at hout
      exact ⟨executable, as, r, t₁, hexe, hargs, hrun, mapError_eq_ok_iff.1 hout⟩
  · rintro ⟨executable, as, r, t₁, hexe, rfl, hrun, hr⟩
    simp only [serve, hexe, hrun, hr, mapError_ok]

/-- A check that keeps to its mode yields its report, the error stream before the output. -/
theorem RunResult.interpret_check_eq_ok_iff {tool : String} {r : RunResult} {report : String} :
    r.interpret tool .check = .ok report ↔
      (r.exitCode = 0 ∨ r.exitCode = 1) ∧ report = orElse r.stderr r.stdout := by
  simp only [RunResult.interpret]
  split
  · next h => simp [h, eq_comm]
  · next h => simp [h]

end Serve

/-! ## Findings that are shown -/

section Check

variable {t : FileTree} {env : Environment} {root : Path} {own project overrides : Table} {s : Settings}

/-- Settings have every category on or off as the highest layer says that speaks of it. -/
theorem yields_isEnabled (hf : ProjectFiles t env root own project)
    (hs : loadSettings t env root overrides = .ok s) (code : String) :
    Yields readBool true (effectiveFlag [overrides, project, own] code) (s.filterPolicy.isEnabled code) := by
  obtain ⟨m, hm, htable⟩ := loadSettings_eq_ok_iff.1 hs
  have hcategories := (Settings.ofTable_eq_ok_iff.1 htable).2.2
  exact (merged_of_mergedLayers hf hm).yields_flag hcategories code

/-- A check shows the findings of the report, in their order, whose category is not switched off by the
highest layer that speaks of it. -/
theorem checkDocument_shows (hf : ProjectFiles t env root own project)
    (hs : loadSettings t env root overrides = .ok s) :
    ∃ flag : String → Bool,
      (∀ code, Yields readBool true (effectiveFlag [overrides, project, own] code) (flag code)) ∧
      ∀ (find : Finder) (run : Runner) (text : String) (t₀ : FileTree) (shown : List Finding),
        (checkDocument find run s text t₀).result = .ok shown ↔
          ∃ executable r t₁, (find s.resolution t₀).location = .ok executable ∧
            run executable ["--check"] text (find s.resolution t₀).tree = (.ok r, t₁) ∧
            (r.exitCode = 0 ∨ r.exitCode = 1) ∧
            shown = (parseReport (orElse r.stderr r.stdout)).filter fun f => flag f.code := by
  refine ⟨s.filterPolicy.isEnabled, yields_isEnabled hf hs, fun find run text t₀ shown => ?_⟩
  have hresult : (checkDocument find run s text t₀).result = .ok shown ↔ ∃ report,
      (serve .check (.ok ["--check"]) find run s text t₀).result = .ok report ∧
        s.filterPolicy.apply (parseReport report) = shown := by
    rw [checkDocument]
    cases (serve .check (.ok ["--check"]) find run s text t₀).result <;> simp [Except.map]
  simp only [hresult, serve_result_eq_ok_iff, RunResult.interpret_check_eq_ok_iff]
  constructor
  · rintro ⟨_, ⟨executable, _, r, t₁, hexe, ⟨⟩, hrun, hcode, rfl⟩, rfl⟩
    exact ⟨executable, r, t₁, hexe, hrun, hcode, rfl⟩
  · rintro ⟨executable, r, t₁, hexe, hrun, hcode, rfl⟩
    exact ⟨_, ⟨executable, _, r, t₁, hexe, rfl, hrun, hcode, rfl⟩, rfl⟩

/-- A project that switches a category off in each of its files. -/
def twoSwitches : FileTree where
  entries := [
    ([".aspenfmt.toml"], .file (utf8Encode "[diagnostics]\nunused-variable=false\n") 0o644),
    (["pyproject.toml"], .file (utf8Encode "[tool.aspenfmt.Diagnostics]\nx=0\n") 0o644)]
  here := []

/-- A report with a finding of either category. -/
def twoFindings : RunResult where
  exitCode := 1
  stdout := "1:1:1: error: a [unused-variable]\n2:1:1: info: b [x]\n"
  stderr := ""

/-- The former switch among the overrides counts before the table in a file. -/
theorem checkDocument_shows_former : ∃ own project, ProjectFiles twoSwitches [] ⟨.root, []⟩ own project ∧
    loadSettings twoSwitches [] ⟨.root, []⟩ [("enable-unused-variable-diagnostics", .bool true)] =
      .ok { Settings.default with diagnostics := defaultCategories ++ [("x", false)] } ∧
    ∃ flag : String → Bool,
      (∀ code, Yields readBool true
        (effectiveFlag [[("enable-unused-variable-diagnostics", .bool true)], project, own] code) (flag code)) ∧
      (parseReport twoFindings.stdout).filter (fun f => flag f.code) =
        [⟨0, 0, 0, .error, "a", "unused-variable", by decide⟩] := by
  have hs : loadSettings twoSwitches [] ⟨.root, []⟩ [("enable-unused-variable-diagnostics", .bool true)] =
      .ok { Settings.default with diagnostics := defaultCategories ++ [("x", false)] } := by
    decide +kernel
  obtain ⟨own, project, hf⟩ : ∃ own project, ProjectFiles twoSwitches [] ⟨.root, []⟩ own project :=
    exists_projectFiles (by decide +kernel) (by decide +kernel)
  obtain ⟨flag, hflag, hshown⟩ := checkDocument_shows hf hs
  refine ⟨own, project, hf, hs, flag, hflag, ?_⟩
  obtain ⟨_, _, _, -, ⟨⟩, -, h⟩ := (hshown (fun _ t => .found "/f" t) (fun _ _ _ t => (.ok twoFindings, t)) ""
    twoSwitches [⟨0, 0, 0, .error, "a", "unused-variable", by decide⟩]).1 (by decide +kernel)
  exact h.symm

end Check

end SqlTidy
