import SqlTidy.CommandLine.Run
import SqlTidy.Proofs.Serving
import SqlTidy.Proofs.Sparing

/-!
# Writing a document back

`WriteRun` lists the ways that a run goes which formats a document and writes it back, each with all that
it leaves. A run goes one of these ways (`runFormat_writeRun`), and only one of them writes: the
formatter was started, ended with 0, what it printed differs from the document, and the document can be opened
for writing. So a document is never damaged (`write_keeps_source`), given that the download, the build and the
formatter themselves spare it.
-/

namespace SqlTidy

/-! ## Runs of the formatter -/

section Invoke

variable {i : Invoker} {executable input : String} {arguments : List String} {t t₁ : FileTree} {r : RunResult}

/-- How an invoker starts a program. -/
def Invoker.launch (i : Invoker) : Launch := ⟨i.programs, i.directory, i.environment.getD i.current⟩

theorem Invoker.invoke_eq_ok_iff : i.invoke executable arguments input t = (.ok r, t₁) ↔
    ∃ file ended, i.resolve t executable = some file ∧
      i.launch.run file arguments (utf8Encode input) t = .ok ended ∧
      r = ⟨ended.exitCode, outputText ended.stdout, outputText ended.stderr⟩ ∧ t₁ = ended.tree := by
  rw [invoke, launch]
  cases i.resolve t executable with
  | none => simp
  | some file =>
    simp only [Option.some.injEq]
    cases hrun : (Launch.mk i.programs i.directory (i.environment.getD i.current)).run file arguments
        (utf8Encode input) t with
    | error e => cases e <;> simp [hrun]
    | ok ended => simp [hrun, eq_comm]

/-- A run that yields no result leaves the tree alone. -/
theorem Invoker.tree_of_invoke_error {e : InvokeError}
    (h : i.invoke executable arguments input t = (.error e, t₁)) : t₁ = t := by
  rw [invoke] at h
  split at h
  · cases h
    rfl
  · dsimp only at h
    split at h <;> cases h <;> rfl

end Invoke

namespace CommandLine

open FileTree

namespace Surroundings

/-- What a run looks for. -/
def search (s : Surroundings) (settings : Settings) (roots : Roots) : Search :=
  ⟨s.machine.platform, releaseBase, roots, settings.resolution⟩

/-- Where a run downloads from and how it builds. -/
def suppliers (s : Surroundings) : Suppliers :=
  .real { server := s.server, draw := s.draw } ⟨s.programs, s.machine.environment, "cargo"⟩

def invoker (s : Surroundings) : Invoker := ⟨s.programs, s.machine.environment, none, none⟩

/-- What comes of the search of a run. -/
def resolved (s : Surroundings) (settings : Settings) (roots : Roots) (t : FileTree) : Resolved :=
  (s.search settings roots).resolve s.suppliers t

/-- What comes of a document. -/
def served (s : Surroundings) (settings : Settings) (roots : Roots) (text : String) (t : FileTree) :
    Served String :=
  formatDocument (s.finder roots) s.runner settings text t

/-- The formatter is found and started on a text, and comes to an end. -/
inductive Ran (s : Surroundings) (settings : Settings) (roots : Roots) (text : String) (t : FileTree) :
    Ended → Prop
  | intro {executable file : String} {arguments : List String} {ended : Ended} :
      (s.resolved settings roots t).location = .ok executable → settings.layout.arguments = .ok arguments →
      s.invoker.resolve (s.resolved settings roots t).tree executable = some file →
      s.invoker.launch.run file arguments (utf8Encode text) (s.resolved settings roots t).tree = .ok ended →
      Ran s settings roots text t ended

variable {s : Surroundings} {settings : Settings} {roots : Roots} {text formatted : String}
  {t t₁ : FileTree} {ended ended' : Ended} {c : Choice} {path : Path} {content : Octets}

theorem Ran.unique (h : s.Ran settings roots text t ended) (h' : s.Ran settings roots text t ended') :
    ended = ended' := by
  obtain ⟨hexe, hargs, hfile, hended⟩ := h
  obtain ⟨hexe', hargs', hfile', hended'⟩ := h'
  cases hexe.symm.trans hexe'
  cases hargs.symm.trans hargs'
  cases hfile.symm.trans hfile'
  cases hended.symm.trans hended'
  rfl

/-- A document is not served before the formatter has ended, or is with what it printed. -/
theorem served_cases (s : Surroundings) (settings : Settings) (roots : Roots) (text : String) (t : FileTree) :
    ((s.served settings roots text t).tree = (s.resolved settings roots t).tree ∧
      ∃ error, (s.served settings roots text t).result = .error error) ∨
    ∃ ended, s.Ran settings roots text t ended ∧ (s.served settings roots text t).tree = ended.tree ∧
      (s.served settings roots text t).result =
        if ended.exitCode = 0 then .ok (outputText ended.stdout)
        else .error (.protocol ⟨RunResult.failureDetail toolName
          ⟨ended.exitCode, outputText ended.stdout, outputText ended.stderr⟩, ended.exitCode⟩) := by
  rcases serve_cases .format settings.layout.arguments (s.finder roots) s.runner settings text t with
    ⟨error, h⟩ | ⟨executable, arguments, hexe, hargs, ⟨e, t₁, error, hrun, h⟩ | ⟨r, t₁, hrun, h⟩⟩
  · refine .inl ?_
    rw [served, formatDocument, h]
    exact ⟨rfl, error, rfl⟩
  · refine .inl ?_
    rw [served, formatDocument, h]
    exact ⟨Invoker.tree_of_invoke_error hrun, error, rfl⟩
  · obtain ⟨file, ended, hfile, hended, rfl, rfl⟩ := Invoker.invoke_eq_ok_iff.1 hrun
    refine .inr ⟨ended, ⟨hexe, hargs, hfile, hended⟩, ?_⟩
    rw [served, formatDocument, h]
    refine ⟨rfl, ?_⟩
    dsimp only [RunResult.interpret]
    split <;> rfl

/-- A formatter that ends with 0 has formatted the document. -/
theorem Ran.served_eq (h : s.Ran settings roots text t ended) (hcode : ended.exitCode = 0) :
    (s.served settings roots text t).result = .ok (outputText ended.stdout) ∧
      (s.served settings roots text t).tree = ended.tree := by
  have hresult : (s.served settings roots text t).result = .ok (outputText ended.stdout) := by
    obtain ⟨hexe, hargs, hfile, hended⟩ := h
    refine serve_result_eq_ok_iff.2 ⟨_, _, _, _, hexe, hargs,
      Invoker.invoke_eq_ok_iff.2 ⟨_, _, hfile, hended, rfl, rfl⟩, ?_⟩
    simp [RunResult.interpret, hcode]
  refine ⟨hresult, ?_⟩
  rcases s.served_cases settings roots text t with ⟨-, error, herror⟩ | ⟨ended', h', htree, -⟩
  · rw [hresult] at herror
    cases herror
  · rw [htree, h.unique h']

theorem exists_ran (h : (s.served settings roots text t).result = .ok formatted) :
    ∃ ended, s.Ran settings roots text t ended ∧ ended.exitCode = 0 ∧ formatted = outputText ended.stdout := by
  rcases s.served_cases settings roots text t with ⟨-, error, herror⟩ | ⟨ended, hran, -, hresult⟩
  · rw [h] at herror
    cases herror
  · rw [h] at hresult
    split at hresult
    · next hcode =>
      cases hresult
      exact ⟨ended, hran, hcode, rfl⟩
    · cases hresult

/-! ## Ways of a run -/

/-- A run that writes back stops before it looks for the formatter: there is no file to write to, or no
settings, or no document. -/
def Halts (s : Surroundings) (c : Choice) (t : FileTree) : Prop :=
  sourceFile? c = none ∨ (∃ stop, openSession s c t = .error stop) ∨ ∃ stop, readSource s c t = .error stop

/-- The ways of a run that writes a document back to a path. -/
inductive WriteRun (s : Surroundings) (c : Choice) (path : Path) (t : FileTree) : Report → Prop
  | unopened {stop : Stop} : openSession s c t = .error stop → WriteRun s c path t (s.stopped c t stop)
  | unread {stop : Stop} {settings : Settings} {roots : Roots} :
      openSession s c t = .ok (settings, roots) → readSource s c t = .error stop →
      WriteRun s c path t (s.stopped c t stop)
  | failed {settings : Settings} {roots : Roots} {text : String} {error : ServiceError} :
      openSession s c t = .ok (settings, roots) → readSource s c t = .ok text →
      (s.served settings roots text t).result = .error error →
      WriteRun s c path t (s.failed c "formatter" (s.served settings roots text t) error)
  | same {settings : Settings} {roots : Roots} {text : String} :
      openSession s c t = .ok (settings, roots) → readSource s c t = .ok text →
      (s.served settings roots text t).result = .ok text →
      WriteRun s c path t ⟨.exit 0, "",
        s.warnings c (s.served settings roots text t).resolved ++
          s.say c .info (path.text ++ " already formatted"),
        (s.served settings roots text t).resolved.requests, (s.served settings roots text t).tree⟩
  | refused {settings : Settings} {roots : Roots} {text formatted : String} {cause : Cause} :
      openSession s c t = .ok (settings, roots) → readSource s c t = .ok text →
      (s.served settings roots text t).result = .ok formatted → formatted ≠ text →
      (s.served settings roots text t).tree.write path.text (utf8Encode formatted) = .error cause →
      WriteRun s c path t ⟨.exit 2, "",
        s.warnings c (s.served settings roots text t).resolved ++
          s.say c .fail ("Unable to write " ++ path.text ++ ": " ++
            (IoError.mk cause (some path.text)).message),
        (s.served settings roots text t).resolved.requests, (s.served settings roots text t).tree⟩
  | written {settings : Settings} {roots : Roots} {text formatted : String} {t₁ : FileTree} :
      openSession s c t = .ok (settings, roots) → readSource s c t = .ok text →
      (s.served settings roots text t).result = .ok formatted → formatted ≠ text →
      (s.served settings roots text t).tree.write path.text (utf8Encode formatted) = .ok t₁ →
      WriteRun s c path t ⟨.exit 0, "",
        s.warnings c (s.served settings roots text t).resolved ++ s.say c .ok ("Formatted " ++ path.text),
        (s.served settings roots text t).resolved.requests, t₁⟩

/-- Once the document is formatted, all that is left is to write it back. -/
theorem runFormat_of_formatted (hw : c.write = true) (hp : sourceFile? c = some path)
    (hopen : openSession s c t = .ok (settings, roots)) (hread : readSource s c t = .ok text)
    (hresult : (s.served settings roots text t).result = .ok formatted) :
    s.runFormat c t =
      ⟨.exit (s.writeBack c path text formatted (s.served settings roots text t).tree).1, "",
        s.warnings c (s.served settings roots text t).resolved ++
          (s.writeBack c path text formatted (s.served settings roots text t).tree).2.1,
        (s.served settings roots text t).resolved.requests,
        (s.writeBack c path text formatted (s.served settings roots text t).tree).2.2⟩ := by
  have hserved : formatDocument (s.finder roots) s.runner settings text t = s.served settings roots text t := rfl
  rw [runFormat, hw, hp, if_neg (by simp), hopen]
  dsimp only
  rw [hread]
  dsimp only
  rw [hserved, hresult]

theorem runFormat_writeRun (hw : c.write = true) (hp : sourceFile? c = some path) :
    s.WriteRun c path t (s.runFormat c t) := by
  rcases hopen : openSession s c t with stop | ⟨settings, roots⟩
  · rw [runFormat, hw, hp, if_neg (by simp), hopen]
    exact .unopened hopen
  rcases hread : readSource s c t with stop | text
  · rw [runFormat, hw, hp, if_neg (by simp), hopen, hread]
    exact .unread hopen hread
  have hserved : formatDocument (s.finder roots) s.runner settings text t = s.served settings roots text t := rfl
  rcases hresult : (s.served settings roots text t).result with error | formatted
  · rw [runFormat, hw, hp, if_neg (by simp), hopen, hread]
    dsimp only
    rw [hserved, hresult]
    exact .failed hopen hread hresult
  rw [runFormat_of_formatted hw hp hopen hread hresult, writeBack]
  by_cases hsame : formatted = text
  · rw [if_pos hsame]
    exact .same hopen hread (hsame ▸ hresult)
  rw [if_neg hsame]
  rcases hwrite : (s.served settings roots text t).tree.write path.text (utf8Encode formatted) with cause | t₁
  · exact .refused hopen hread hresult hsame hwrite
  · exact .written hopen hread hresult hsame hwrite

@[simp]
theorem tree_stopped (s : Surroundings) (c : Choice) (t : FileTree) (stop : Stop) :
    (s.stopped c t stop).tree = t := by
  cases stop <;> rfl

@[simp]
theorem tree_failed {α : Type} (s : Surroundings) (c : Choice) (role : String) (served : Served α)
    (error : ServiceError) : (s.failed c role served error).tree = served.tree := by
  cases error <;> rfl

/-- A run that halts depends on nothing that could be downloaded, built or started. -/
theorem runFormat_of_halts (hw : c.write = true) (h : s.Halts c t) : ∃ stop, ∀ server programs,
    runFormat { s with server, programs } c t = s.stopped c t stop := by
  rcases hp : sourceFile? c with _ | path
  · refine ⟨.message "--write requires a SOURCE file.", fun server programs => ?_⟩
    rw [runFormat, hw, hp]
    rfl
  rcases hopen : openSession s c t with stop | ⟨settings, roots⟩
  · refine ⟨stop, fun server programs => ?_⟩
    have hopen' : openSession { s with server, programs } c t = .error stop := hopen
    rw [runFormat, hw, hp, hopen']
    rfl
  rcases hread : readSource s c t with stop | text
  · refine ⟨stop, fun server programs => ?_⟩
    have hopen' : openSession { s with server, programs } c t = .ok (settings, roots) := hopen
    have hread' : readSource { s with server, programs } c t = .error stop := hread
    rw [runFormat, hw, hp, hopen', hread']
    rfl
  · exfalso
    simp [Halts, hp, hopen, hread] at h

/-! ## The document -/

/-- The octets of a file as text, with one kind of line boundary. -/
def documentText (content : Octets) : Except Utf8Error String :=
  (utf8Decode content).map fun text => String.ofList (unifyNewlines text.toList)

theorem readSource_eq_ok_iff (hp : sourceFile? c = some path) (hc : t.read path.text = .ok content) :
    readSource s c t = .ok text ↔ hasNul path.text = false ∧ documentText content = .ok text := by
  rw [readSource, hp]
  dsimp only
  cases hasNul path.text with
  | true => simp
  | false =>
    rw [hc, documentText]
    cases hd : utf8Decode content <;> simp [hd, Except.map]

/-- The download, the build and the formatter of a run spare a file. -/
structure Sparing (s : Surroundings) (c : Choice) (path : Path) (t : FileTree) : Prop where
  search : ∀ {settings roots}, openSession s c t = .ok (settings, roots) →
    (s.search settings roots).Sparing s.suppliers path.text t
  formatter : ∀ {settings roots text ended}, openSession s c t = .ok (settings, roots) →
    readSource s c t = .ok text → s.Ran settings roots text t ended →
    Spares path.text (s.resolved settings roots t).tree ended.tree

theorem Sparing.served (h : s.Sparing c path t) (hopen : openSession s c t = .ok (settings, roots))
    (hread : readSource s c t = .ok text) : Spares path.text t (s.served settings roots text t).tree := by
  have hsearch : Spares path.text t (s.resolved settings roots t).tree := (h.search hopen).resolve
  rcases s.served_cases settings roots text t with ⟨htree, -⟩ | ⟨ended, hran, htree, -⟩
  · rw [htree]
    exact hsearch
  · rw [htree]
    exact hsearch.trans (h.formatter hopen hread hran)

/-- The formatter was started on the text of a file, ended with 0, and printed something else. -/
inductive Rewrites (s : Surroundings) (c : Choice) (content : Octets) (t : FileTree) : Ended → Prop
  | intro {settings : Settings} {roots : Roots} {text : String} {ended : Ended} :
      openSession s c t = .ok (settings, roots) → readSource s c t = .ok text →
      documentText content = .ok text → s.Ran settings roots text t ended → ended.exitCode = 0 →
      outputText ended.stdout ≠ text → Rewrites s c content t ended

variable {r : Report}

/-- A run leaves the document as it is, or writes what the formatter printed and ends with 0. -/
theorem WriteRun.kept_or_written (h : s.WriteRun c path t r) (hp : sourceFile? c = some path)
    (hc : t.read path.text = .ok content) (hs : s.Sparing c path t) :
    r.tree.read path.text = .ok content ∨ ∃ ended, s.Rewrites c content t ended ∧ r.ending = .exit 0 := by
  cases h with
  | unopened hopen => exact .inl (by rwa [tree_stopped])
  | unread hopen hread => exact .inl (by rwa [tree_stopped])
  | failed hopen hread hresult =>
    rw [tree_failed]
    exact .inl (hs.served hopen hread content hc)
  | same hopen hread hresult => exact .inl (hs.served hopen hread content hc)
  | refused hopen hread hresult hne hwrite => exact .inl (hs.served hopen hread content hc)
  | written hopen hread hresult hne hwrite =>
    obtain ⟨ended, hran, hcode, rfl⟩ := exists_ran hresult
    have htext := ((readSource_eq_ok_iff hp hc).1 hread).2
    exact .inr ⟨ended, ⟨hopen, hread, htext, hran, hcode, hne⟩, rfl⟩

/-- A run reports that the document cannot be opened for writing, and leaves it as it is. -/
structure CannotWrite (s : Surroundings) (c : Choice) (path : Path) (cause : Cause) (t : FileTree) (r : Report) :
    Prop where
  kept : Spares path.text t r.tree
  ending : r.ending = .exit 2
  stdout : r.stdout = ""
  stderr : ∃ resolved, r.stderr = s.warnings c resolved ++
    s.say c .fail ("Unable to write " ++ path.text ++ ": " ++ (IoError.mk cause (some path.text)).message)

/-- What the formatter printed is written, unless the tree that it leaves refuses that. -/
theorem runFormat_of_rewrites (hw : c.write = true) (hp : sourceFile? c = some path)
    (hc : t.read path.text = .ok content) (hs : s.Sparing c path t) (hrw : s.Rewrites c content t ended) :
    (∃ cause, ended.tree.refusal? path.text = some cause ∧ (s.runFormat c t).tree = ended.tree ∧
      s.CannotWrite c path cause t (s.runFormat c t)) ∨
    (ended.tree.refusal? path.text = none ∧ (s.runFormat c t).tree.refusal? path.text = none ∧
      (s.runFormat c t).tree.read path.text = .ok (utf8Encode (outputText ended.stdout)) ∧
      (s.runFormat c t).ending = .exit 0) := by
  obtain ⟨hopen, hread, -, hran, hcode, hne⟩ := hrw
  obtain ⟨hresult, htree⟩ := hran.served_eq hcode
  have hserved := hs.served hopen hread
  rw [htree] at hserved
  rw [runFormat_of_formatted hw hp hopen hread hresult, writeBack, if_neg hne, htree]
  rcases write_cases (hserved content hc) (utf8Encode (outputText ended.stdout)) with
    ⟨cause, hrefusal, hwrite⟩ | ⟨t', hnone, hwrite⟩
  · rw [hwrite]
    exact .inl ⟨cause, hrefusal, rfl, hserved, rfl, rfl, _, rfl⟩
  · obtain ⟨hcontent, hagain⟩ := read_write (hserved content hc) hwrite
    rw [hwrite]
    exact .inr ⟨hnone, hagain, hcontent, rfl⟩

/-- Writing back never damages a document. It keeps its octets unless the formatter ended with 0 and
printed something else than its text. Then it has the octets of that and the run ends with 0, or the document
cannot be opened for writing, keeps its own and the run ends with 2. A run that does not end with 0 leaves it as
it is, and one that halts leaves everything as it is. -/
theorem write_keeps_source {arguments : List String} (hparse : parse arguments = .ok (.run c))
    (hformat : c.command = .format) (hwrite : c.write = true) :
    (∀ path content, sourceFile? c = some path → t.read path.text = .ok content → s.Sparing c path t →
      ((¬∃ ended, s.Rewrites c content t ended) → (s.run arguments t).tree.read path.text = .ok content) ∧
      (∀ ended, s.Rewrites c content t ended →
        (ended.tree.refusal? path.text = none →
          (s.run arguments t).tree.read path.text = .ok (utf8Encode (outputText ended.stdout)) ∧
            (s.run arguments t).ending = .exit 0) ∧
        (∀ cause, ended.tree.refusal? path.text = some cause →
          (s.run arguments t).tree.read path.text = .ok content ∧ (s.run arguments t).ending = .exit 2)) ∧
      ((s.run arguments t).ending ≠ .exit 0 → (s.run arguments t).tree.read path.text = .ok content)) ∧
    (s.Halts c t → (s.run arguments t).tree = t ∧ (s.run arguments t).requests = [] ∧
      ∀ server programs, run { s with server, programs } arguments t = s.run arguments t) := by
  have hrun : ∀ s : Surroundings, s.run arguments t = s.runFormat c t := by
    intro s
    rw [run, hparse]
    dsimp only
    rw [hformat]
  refine ⟨fun path content hp hc hs => ?_, fun h => ?_⟩
  · rw [hrun]
    have hway : s.WriteRun c path t (s.runFormat c t) := runFormat_writeRun hwrite hp
    have hkept := hway.kept_or_written hp hc hs
    refine ⟨fun hnone => ?_, fun ended hrw => ?_, fun hend => ?_⟩
    · exact hkept.resolve_right fun ⟨ended, hrw, _⟩ => hnone ⟨ended, hrw⟩
    · rcases runFormat_of_rewrites hwrite hp hc hs hrw with ⟨cause, hrefusal, -, hcannot⟩ | ⟨hnone, -, hwritten⟩
      · simp only [hrefusal, Option.some.injEq, reduceCtorEq, false_implies, true_and]
        exact fun _ _ => ⟨hcannot.kept content hc, hcannot.ending⟩
      · simp only [hnone, reduceCtorEq, false_implies, implies_true, and_true, forall_const]
        exact hwritten
    · exact hkept.resolve_right fun ⟨_, _, hexit⟩ => hend hexit
  · obtain ⟨stop, hstop⟩ := runFormat_of_halts hwrite h
    have hself : s.runFormat c t = s.stopped c t stop := hstop s.server s.programs
    rw [hrun, hself]
    refine ⟨tree_stopped s c t stop, by cases stop <;> rfl, fun server programs => ?_⟩
    rw [hrun, hstop]

/-- A formatter at `/f` that prints a statement in capitals. -/
def capitals : Surroundings where
  machine := ⟨[], ⟨"/", []⟩, ⟨"linux", "x64"⟩, ⟨.root, []⟩⟩
  server _ t := (.error "offline", t)
  programs p := if p = ["f"] then some fun q => ⟨0, utf8Encode "SELECT 1\n", [], q.tree⟩ else none
  terminal := ⟨false, []⟩
  input := ""

/-- A tree with the formatter and a document, which may be closed to writing. -/
def treeWithDocument (closed : Bool) : FileTree :=
  ⟨[(["f"], .file [] 0o755), (["d"], .file (utf8Encode "select 1\r\n") 0o644)], [],
    if closed then [(["d"], .denied)] else []⟩

def writeArguments : List String :=
  ["format", "/d", "--write", "--executable=/f", "--root=/", "--storage=/s", "--extension-root=/e"]

def writeChoice : Choice where
  command := .format
  source := some ⟨.root, ["d"]⟩
  write := true
  lineWidth := none
  indent := none
  uppercaseKeywords := none
  root := ⟨.root, []⟩
  storage := some ⟨.root, ["s"]⟩
  extensionRoot := some ⟨.root, ["e"]⟩
  executable := some "/f"
  releaseVersion := none
  autoDownload := none
  autoBuild := none
  emoji := true

/-- The settings and the roots of that run. -/
def writeSession : Settings × Roots :=
  ({ Settings.default with path := "/f" }, ⟨⟨.root, ["e"]⟩, ⟨.root, ["s"]⟩, some ⟨.root, []⟩⟩)

section Capitals

variable (closed : Bool)

theorem openSession_capitals : openSession capitals writeChoice (treeWithDocument closed) = .ok writeSession := by
  refine eq_ok_of_toOption ?_
  cases closed <;> decide +kernel

theorem readSource_capitals : readSource capitals writeChoice (treeWithDocument closed) = .ok "select 1\n" := by
  refine eq_ok_of_toOption ?_
  cases closed <;> decide +kernel

theorem read_treeWithDocument : (treeWithDocument closed).read "/d" = .ok (utf8Encode "select 1\r\n") := by
  cases closed <;> decide +kernel

def writeLayout : List String := ["--line-width", "88", "--indent", "2", "--uppercase-keywords", "true"]

theorem ran_capitals : ∃ ended,
    capitals.Ran writeSession.1 writeSession.2 "select 1\n" (treeWithDocument closed) ended ∧
      ended.exitCode = 0 ∧ outputText ended.stdout = "SELECT 1\n" ∧
      ended.tree.refusal? "/d" = (if closed then some .denied else none) ∧
      Spares "/d" (capitals.resolved writeSession.1 writeSession.2 (treeWithDocument closed)).tree ended.tree := by
  have hexe : (capitals.resolved writeSession.1 writeSession.2 (treeWithDocument closed)).location = .ok "/f" := by
    refine eq_ok_of_toOption ?_
    cases closed <;> decide +kernel
  have harguments : writeSession.1.layout.arguments = .ok writeLayout := by decide +kernel
  have hfile : capitals.invoker.resolve
      (capitals.resolved writeSession.1 writeSession.2 (treeWithDocument closed)).tree "/f" = some "/f" := by
    cases closed <;> decide +kernel
  have hbefore : (capitals.resolved writeSession.1 writeSession.2 (treeWithDocument closed)).tree.read "/d" =
      .ok (utf8Encode "select 1\r\n") := by cases closed <;> decide +kernel
  have hrun : ((capitals.invoker.launch.run "/f" writeLayout (utf8Encode "select 1\n")
      (capitals.resolved writeSession.1 writeSession.2 (treeWithDocument closed)).tree).toOption.map
        fun ended => (ended.exitCode, outputText ended.stdout, ended.tree.refusal? "/d", ended.tree.read "/d")) =
      some (0, "SELECT 1\n", if closed then some .denied else none, .ok (utf8Encode "select 1\r\n")) := by
    cases closed <;> decide +kernel
  obtain ⟨ended, hended, h⟩ := Option.map_eq_some_iff.1 hrun
  simp only [Prod.mk.injEq] at h
  obtain ⟨hcode, hout, hrefusal, hafter⟩ := h
  refine ⟨ended, ⟨hexe, harguments, hfile, eq_ok_of_toOption hended⟩, hcode, hout, hrefusal, fun content hc => ?_⟩
  rw [← hc, hbefore, hafter]

theorem sparing_capitals : capitals.Sparing writeChoice ⟨.root, ["d"]⟩ (treeWithDocument closed) where
  search {settings roots} hopen := by
    cases (openSession_capitals closed).symm.trans hopen
    exact Search.sparing_of_custom (show _ = some "/f" by decide +kernel)
  formatter {settings roots text ended} hopen hread hran := by
    cases (openSession_capitals closed).symm.trans hopen
    cases (readSource_capitals closed).symm.trans hread
    obtain ⟨ended', hran', -, -, -, hspares⟩ := ran_capitals closed
    rwa [hran.unique hran']

theorem exists_rewrites_capitals : ∃ ended,
    capitals.Rewrites writeChoice (utf8Encode "select 1\r\n") (treeWithDocument closed) ended ∧
      outputText ended.stdout = "SELECT 1\n" ∧
      ended.tree.refusal? "/d" = if closed then some .denied else none := by
  obtain ⟨ended, hran, hcode, hout, hrefusal, -⟩ := ran_capitals closed
  exact ⟨ended, ⟨openSession_capitals closed, readSource_capitals closed, by decide +kernel, hran, hcode,
    by rw [hout]; decide⟩, hout, hrefusal⟩

end Capitals

/-- A statement is written in capitals, and with the line boundary of the formatter. If it is closed to writing it
stays as it is. -/
theorem write_keeps_source_capitals : parse writeArguments = .ok (.run writeChoice) ∧
    (∀ closed, capitals.Sparing writeChoice ⟨.root, ["d"]⟩ (treeWithDocument closed) ∧
      (treeWithDocument closed).read "/d" = .ok (utf8Encode "select 1\r\n") ∧
      ∃ ended, capitals.Rewrites writeChoice (utf8Encode "select 1\r\n") (treeWithDocument closed) ended) ∧
    ((capitals.run writeArguments (treeWithDocument false)).tree.read "/d" = .ok (utf8Encode "SELECT 1\n") ∧
      (capitals.run writeArguments (treeWithDocument false)).ending = .exit 0) ∧
    ((capitals.run writeArguments (treeWithDocument true)).tree.read "/d" = .ok (utf8Encode "select 1\r\n") ∧
      (capitals.run writeArguments (treeWithDocument true)).ending = .exit 2) := by
  have hparse : parse writeArguments = .ok (.run writeChoice) := by decide +kernel
  have hmain := fun closed => (@write_keeps_source capitals (treeWithDocument closed) writeChoice writeArguments
    hparse rfl rfl).1 ⟨.root, ["d"]⟩ _ (by decide +kernel) (read_treeWithDocument closed) (sparing_capitals closed)
  refine ⟨hparse, fun closed => ⟨sparing_capitals closed, read_treeWithDocument closed, ?_⟩, ?_, ?_⟩
  · obtain ⟨ended, hrewrites, -⟩ := exists_rewrites_capitals closed
    exact ⟨ended, hrewrites⟩
  · obtain ⟨ended, hrewrites, hout, hrefusal⟩ := exists_rewrites_capitals false
    have hwritten := ((hmain false).2.1 ended hrewrites).1 hrefusal
    rwa [hout] at hwritten
  · obtain ⟨ended, hrewrites, -, hrefusal⟩ := exists_rewrites_capitals true
    exact ((hmain true).2.1 ended hrewrites).2 .denied hrefusal

end Surroundings

end CommandLine

end SqlTidy
