import SqlTidy.Proofs.Delivery
import SqlTidy.Proofs.Spawning
import SqlTidy.Proofs.TextOctets
import SqlTidy.Proofs.WriteBack

/-!
# Formatting a document twice

A formatter that leaves its own output alone has nothing to do the second time: a run that writes a document
back leaves octets which read as the text that the formatter printed, so the next run finds the document
formatted and does not touch it (`second_write_changes_nothing`). A formatter that echoes its input has nothing
to do even the first time, whatever line boundaries the document has.

Two things can come between. A document that can be read but not written stays as it is, and every run says so.
And a download may bring a file that takes the place of the document. The run does not notice, since it has read
the document before.
-/

namespace SqlTidy

/-! ## Starting a program -/

/-- A file with a slash in its name is started as the program that it comes to. -/
theorem Launch.run_of_image {l : Launch} {file : String} {arguments arguments' : List String} {t : FileTree}
    {position : Position} {program : Program} {input : Octets} {ended : Ended} (hslash : hasSlash file = true)
    (hdirectory : l.directory = none) (hobstacle : l.obstacle? file arguments = none)
    (himage : imageOf (fun q => (l.programs q).isSome) t interpreterLimit file (file :: arguments) =
      .ok (position, arguments')) (hprogram : l.programs position = some program)
    (hended : program ⟨arguments', l.environment, input, t⟩ = ended) :
    l.run file arguments input t = .ok { ended with tree := { ended.tree with here := t.here } } := by
  have henter : enter t l.directory = .ok t := by rw [hdirectory, enter]
  have hfiles : candidates l.environment file = [] ++ file :: [] := by rw [candidates, if_pos hslash, List.nil_append]
  have hspawns : l.Spawns file arguments input t program ⟨arguments', l.environment, input, t⟩ :=
    ⟨hobstacle, henter, hfiles, by simp, himage, hprogram⟩
  exact run_eq_ok_iff.2 ⟨program, _, hspawns, by rw [hended]⟩

/-! ## Runs that format -/

namespace CommandLine.Surroundings

open FileTree

variable {s : Surroundings} {c : Choice} {path : Path} {g : String → String} {t : FileTree} {text : String}
  {content : Octets}

theorem unified_of_documentText (h : documentText content = .ok text) : Unified text := by
  obtain ⟨decoded, -, rfl⟩ := map_eq_ok_iff.1 h
  rw [Unified, String.toList_ofList]
  exact not_mem_unifyNewlines _

/-- A text that is written to a file is read from it again. -/
theorem documentText_utf8Encode (h : Unified text) : documentText (utf8Encode text) = .ok text := by
  rw [documentText, utf8Decode_utf8Encode, Except.map, unifyNewlines_of_not_mem h, String.ofList_toList]

/-- A run comes to a formatter that ends with 0 on every text, prints what `g` makes of it, and does not touch
the document. -/
def Formats (s : Surroundings) (c : Choice) (path : Path) (g : String → String) (t : FileTree) : Prop :=
  ∃ settings roots, openSession s c t = .ok (settings, roots) ∧ ∀ text, ∃ ended,
    s.Ran settings roots text t ended ∧ ended.exitCode = 0 ∧ outputText ended.stdout = g text ∧
      Spares path.text (s.resolved settings roots t).tree ended.tree

/-- The download and the build of a run do not touch the document. -/
def SupplySpares (s : Surroundings) (c : Choice) (path : Path) (t : FileTree) : Prop :=
  ∀ {settings roots}, openSession s c t = .ok (settings, roots) →
    (s.search settings roots).Sparing s.suppliers path.text t

/-- A run reports that the document is formatted, and leaves it as it is. -/
structure FindsFormatted (s : Surroundings) (c : Choice) (path : Path) (t : FileTree) (r : Report) : Prop where
  kept : Spares path.text t r.tree
  ending : r.ending = .exit 0
  stdout : r.stdout = ""
  stderr : ∃ resolved, r.stderr = s.warnings c resolved ++ s.say c .info (path.text ++ " already formatted")

namespace Formats

theorem sparing (hf : s.Formats c path g t) (hs : s.SupplySpares c path t) : s.Sparing c path t where
  search := hs
  formatter {settings roots text ended} hopen _ hran := by
    obtain ⟨settings', roots', hopen', hformats⟩ := hf
    cases hopen.symm.trans hopen'
    obtain ⟨ended', hran', -, -, hspares⟩ := hformats text
    rwa [hran.unique hran']

/-- A document that the formatter has nothing to do for is left as it is. -/
theorem findsFormatted (hf : s.Formats c path g t) (hs : s.SupplySpares c path t) (hw : c.write = true)
    (hp : sourceFile? c = some path) (hread : readSource s c t = .ok text) (hfix : g text = text) :
    s.FindsFormatted c path t (s.runFormat c t) := by
  have hsparing := hf.sparing hs
  obtain ⟨settings, roots, hopen, hformats⟩ := hf
  obtain ⟨ended, hran, hcode, hout, -⟩ := hformats text
  have hresult : (s.served settings roots text t).result = .ok text := by
    rw [(hran.served_eq hcode).1, hout, hfix]
  rw [runFormat_of_formatted hw hp hopen hread hresult, writeBack, if_pos rfl]
  exact ⟨hsparing.served hopen hread, rfl, rfl, _, rfl⟩

/-- A document that is not as the formatter prints it gets the octets of what it prints, or cannot be written. -/
theorem changed_cases (hf : s.Formats c path g t) (hs : s.SupplySpares c path t) (hw : c.write = true)
    (hp : sourceFile? c = some path) (hc : t.read path.text = .ok content) (hread : readSource s c t = .ok text)
    (hne : g text ≠ text) :
    (∃ cause, (s.runFormat c t).tree.refusal? path.text = some cause ∧
      s.CannotWrite c path cause t (s.runFormat c t)) ∨
    ((s.runFormat c t).tree.refusal? path.text = none ∧
      (s.runFormat c t).tree.read path.text = .ok (utf8Encode (g text))) := by
  have hsparing := hf.sparing hs
  obtain ⟨settings, roots, hopen, hformats⟩ := hf
  obtain ⟨ended, hran, hcode, hout, -⟩ := hformats text
  have htext := ((readSource_eq_ok_iff hp hc).1 hread).2
  have hrewrites : s.Rewrites c content t ended := ⟨hopen, hread, htext, hran, hcode, hout ▸ hne⟩
  rcases runFormat_of_rewrites hw hp hc hsparing hrewrites with
    ⟨cause, hrefusal, htree, hcannot⟩ | ⟨-, hnone, hwritten, -⟩
  · exact .inl ⟨cause, htree ▸ hrefusal, hcannot⟩
  · rw [hout] at hwritten
    exact .inr ⟨hnone, hwritten⟩

theorem cannotWrite {cause : Cause} (hf : s.Formats c path g t) (hs : s.SupplySpares c path t)
    (hw : c.write = true) (hp : sourceFile? c = some path) (hc : t.read path.text = .ok content)
    (hread : readSource s c t = .ok text) (hne : g text ≠ text)
    (hrefusal : (s.runFormat c t).tree.refusal? path.text = some cause) :
    s.CannotWrite c path cause t (s.runFormat c t) := by
  rcases hf.changed_cases hs hw hp hc hread hne with ⟨cause', hrefusal', hcannot⟩ | ⟨hnone, -⟩
  · cases hrefusal.symm.trans hrefusal'
    exact hcannot
  · cases hrefusal.symm.trans hnone

section Settled

variable (hf : s.Formats c path g t) (hs : s.SupplySpares c path t) (hw : c.write = true)
  (hp : sourceFile? c = some path) (hc : t.read path.text = .ok content) (hread : readSource s c t = .ok text)
  (hok : g text = text ∨ (s.runFormat c t).tree.refusal? path.text = none)

include hf hs hw hp hc hread hok

theorem read_eq : (s.runFormat c t).tree.read path.text =
    .ok (if g text = text then content else utf8Encode (g text)) := by
  split
  · next hfix => exact (hf.findsFormatted hs hw hp hread hfix).kept content hc
  · next hne =>
    rcases hf.changed_cases hs hw hp hc hread hne with ⟨cause, hrefusal, -⟩ | ⟨-, hwritten⟩
    · rw [hok.resolve_left hne] at hrefusal
      cases hrefusal
    · exact hwritten

/-- What a run leaves in the place of a document reads as a text that the formatter leaves alone. -/
theorem exists_settled (hg : ∀ text, g (g text) = g text) :
    ∃ text', readSource s c (s.runFormat c t).tree = .ok text' ∧ g text' = text' := by
  obtain ⟨hnul, hdocument⟩ := (readSource_eq_ok_iff hp hc).1 hread
  -- What is left is the document itself, or the octets of the formatter's own output.
  have hleft := hf.read_eq hs hw hp hc hread hok
  by_cases hfix : g text = text
  · rw [if_pos hfix] at hleft
    exact ⟨text, (readSource_eq_ok_iff hp hleft).2 ⟨hnul, hdocument⟩, hfix⟩
  · rw [if_neg hfix] at hleft
    have hunified : Unified (g text) := by
      obtain ⟨settings, roots, -, hformats⟩ := hf
      obtain ⟨ended, -, -, hout, -⟩ := hformats text
      rw [← hout]
      exact unified_outputText _
    exact ⟨g text, (readSource_eq_ok_iff hp hleft).2 ⟨hnul, documentText_utf8Encode hunified⟩, hg text⟩

end Settled

end Formats

/-- Formatting a document twice. The first run leaves the document if the formatter has nothing to do for it, and
else writes what the formatter prints, unless the document cannot be opened for writing. With a formatter that
leaves its own output alone, the second run finds the document formatted and does not touch it, if neither run
downloads or builds anything in its place. A document that cannot be opened for writing is left as it is by each
run, and reported as such. With a formatter that echoes its input the first run finds the document formatted
already. -/
theorem second_write_changes_nothing {arguments : List String} (hparse : parse arguments = .ok (.run c))
    (hformat : c.command = .format) (hwrite : c.write = true) (hp : sourceFile? c = some path)
    (hnul : hasNul path.text = false) (hc : t.read path.text = .ok content)
    (hd : documentText content = .ok text) :
    (∀ g : String → String, (∀ text, g (g text) = g text) → s.Formats c path g t → s.SupplySpares c path t →
      (g text = text ∨ (s.run arguments t).tree.refusal? path.text = none →
        (s.run arguments t).tree.read path.text =
          .ok (if g text = text then content else utf8Encode (g text)) ∧
        (s.Formats c path g (s.run arguments t).tree → s.SupplySpares c path (s.run arguments t).tree →
          s.FindsFormatted c path (s.run arguments t).tree (s.run arguments (s.run arguments t).tree))) ∧
      (∀ cause, g text ≠ text → (s.run arguments t).tree.refusal? path.text = some cause →
        s.CannotWrite c path cause t (s.run arguments t) ∧
        (s.Formats c path g (s.run arguments t).tree → s.SupplySpares c path (s.run arguments t).tree →
          ∀ cause', (s.run arguments (s.run arguments t).tree).tree.refusal? path.text = some cause' →
            s.CannotWrite c path cause' (s.run arguments t).tree
              (s.run arguments (s.run arguments t).tree)))) ∧
    (s.Formats c path (fun text => outputText (utf8Encode text)) t → s.SupplySpares c path t →
      s.FindsFormatted c path t (s.run arguments t)) := by
  have hrun : ∀ t, s.run arguments t = s.runFormat c t := by
    intro t
    rw [run, hparse]
    dsimp only
    rw [hformat]
  have hread : readSource s c t = .ok text := (readSource_eq_ok_iff hp hc).2 ⟨hnul, hd⟩
  simp only [hrun]
  refine ⟨fun g hg hf hs => ⟨fun hok => ⟨hf.read_eq hs hwrite hp hc hread hok, fun hf' hs' => ?_⟩,
    fun cause hne hrefusal => ?_⟩, fun hf hs => ?_⟩
  · obtain ⟨text', hread', hfix⟩ := hf.exists_settled hs hwrite hp hc hread hok hg
    exact hf'.findsFormatted hs' hwrite hp hread' hfix
  · have hcannot := hf.cannotWrite hs hwrite hp hc hread hne hrefusal
    refine ⟨hcannot, fun hf' hs' cause' hrefusal' => ?_⟩
    -- The second run reads what the first has read.
    have hc' := hcannot.kept content hc
    exact hf'.cannotWrite hs' hwrite hp hc' ((readSource_eq_ok_iff hp hc').2 ⟨hnul, hd⟩) hne hrefusal'
  · have hecho := outputText_utf8Encode (unified_of_documentText hd)
    exact hf.findsFormatted hs hwrite hp hread hecho

/-! ## Some formatters -/

section Reaches

variable {settings : Settings} {roots : Roots} {file custom : String} {layout : List String} {position : Position}
  {program : Program}

/-- A run starts the program at a position with some arguments. -/
def Reaches (s : Surroundings) (c : Choice) (settings : Settings) (roots : Roots) (file : String)
    (layout : List String) (position : Position) (t : FileTree) : Prop :=
  (openSession s c t).toOption = some (settings, roots) ∧
    (s.resolved settings roots t).location.toOption = some file ∧ settings.layout.arguments = .ok layout ∧
    s.invoker.resolve (s.resolved settings roots t).tree file = some file ∧ hasSlash file = true ∧
    s.invoker.launch.obstacle? file layout = none ∧
    imageOf (fun q => (s.programs q).isSome) (s.resolved settings roots t).tree interpreterLimit file
      (file :: layout) = .ok (position, file :: layout)

instance : Decidable (s.Reaches c settings roots file layout position t) :=
  inferInstanceAs (Decidable (_ ∧ _))

/-- A program formats if it ends with 0 and leaves the tree alone. -/
theorem Reaches.formats (h : s.Reaches c settings roots file layout position t)
    (hprogram : s.programs position = some program)
    (hprints : ∀ text t, ∃ stdout, outputText stdout = g text ∧
      program ⟨file :: layout, s.machine.environment, utf8Encode text, t⟩ = ⟨0, stdout, [], t⟩) :
    s.Formats c path g t := by
  obtain ⟨hopen, hexe, hargs, hfile, hslash, hobstacle, himage⟩ := h
  refine ⟨settings, roots, eq_ok_of_toOption hopen, fun text => ?_⟩
  obtain ⟨stdout, hout, hended⟩ := hprints text (s.resolved settings roots t).tree
  have hrun := @Launch.run_of_image s.invoker.launch file layout _ _ _ _ _ _ hslash rfl hobstacle himage hprogram
    hended
  exact ⟨_, ⟨eq_ok_of_toOption hexe, hargs, hfile, hrun⟩, rfl, hout, .refl _ _⟩

theorem Reaches.supplySpares (h : s.Reaches c settings roots file layout position t)
    (hcustom : settings.resolution.trimmedCustomPath = some custom) :
    s.SupplySpares c path t := by
  intro settings' roots' hopen
  cases (eq_ok_of_toOption h.1).symm.trans hopen
  exact Search.sparing_of_custom hcustom

end Reaches

theorem exists_stdout (h : Unified text) (t : FileTree) :
    ∃ stdout, outputText stdout = text ∧ Ended.mk 0 (utf8Encode text) [] t = ⟨0, stdout, [], t⟩ :=
  ⟨_, outputText_utf8Encode h, rfl⟩

/-- A formatter at `/f` that prints what it is given. -/
def echoing : Surroundings :=
  { capitals with programs := fun p => if p = ["f"] then some fun q => ⟨0, q.input, [], q.tree⟩ else none }

theorem custom_capitals : writeSession.1.resolution.trimmedCustomPath = some "/f" := by decide +kernel

section Capitals

variable (closed : Bool)

theorem reaches_capitals :
    capitals.Reaches writeChoice writeSession.1 writeSession.2 "/f" writeLayout ["f"] (treeWithDocument closed) ∧
      capitals.Reaches writeChoice writeSession.1 writeSession.2 "/f" writeLayout ["f"]
        (capitals.run writeArguments (treeWithDocument closed)).tree := by
  cases closed <;> decide +kernel

theorem formats_capitals :
    capitals.Formats writeChoice ⟨.root, ["d"]⟩ (fun _ => "SELECT 1\n") (treeWithDocument closed) ∧
      capitals.Formats writeChoice ⟨.root, ["d"]⟩ (fun _ => "SELECT 1\n")
        (capitals.run writeArguments (treeWithDocument closed)).tree := by
  have hprints : ∀ (_ : String) t, ∃ stdout, outputText stdout = "SELECT 1\n" ∧
      Ended.mk 0 (utf8Encode "SELECT 1\n") [] t = ⟨0, stdout, [], t⟩ :=
    fun _ => exists_stdout (by simp [Unified])
  obtain ⟨hfirst, hsecond⟩ := reaches_capitals closed
  exact ⟨hfirst.formats rfl hprints, hsecond.formats rfl hprints⟩

theorem supplySpares_capitals : capitals.SupplySpares writeChoice ⟨.root, ["d"]⟩ (treeWithDocument closed) ∧
    capitals.SupplySpares writeChoice ⟨.root, ["d"]⟩
      (capitals.run writeArguments (treeWithDocument closed)).tree := by
  obtain ⟨hfirst, hsecond⟩ := reaches_capitals closed
  exact ⟨hfirst.supplySpares custom_capitals, hsecond.supplySpares custom_capitals⟩

end Capitals

/-- A statement in capitals stays as the first run has written it, one that is closed to writing stays as it is
both times, and one that is echoed keeps its line boundary from the start. -/
theorem second_write_changes_nothing_capitals :
    (capitals.FindsFormatted writeChoice ⟨.root, ["d"]⟩ (capitals.run writeArguments (treeWithDocument false)).tree
      (capitals.run writeArguments (capitals.run writeArguments (treeWithDocument false)).tree) ∧
    (capitals.run writeArguments (treeWithDocument false)).tree.read "/d" = .ok (utf8Encode "SELECT 1\n")) ∧
    (capitals.CannotWrite writeChoice ⟨.root, ["d"]⟩ .denied (treeWithDocument true)
      (capitals.run writeArguments (treeWithDocument true)) ∧
    capitals.CannotWrite writeChoice ⟨.root, ["d"]⟩ .denied
      (capitals.run writeArguments (treeWithDocument true)).tree
      (capitals.run writeArguments (capitals.run writeArguments (treeWithDocument true)).tree)) ∧
    echoing.FindsFormatted writeChoice ⟨.root, ["d"]⟩ (treeWithDocument false)
      (echoing.run writeArguments (treeWithDocument false)) ∧
    (treeWithDocument false).read "/d" = .ok (utf8Encode "select 1\r\n") := by
  have hmain := fun s closed => @second_write_changes_nothing s writeChoice ⟨.root, ["d"]⟩
    (treeWithDocument closed) "select 1\n" _ writeArguments (by decide +kernel) rfl rfl (by decide +kernel)
    (by decide +kernel) (read_treeWithDocument closed) (by decide +kernel)
  have hcapitals := fun closed => (hmain capitals closed).1 (fun _ => "SELECT 1\n") (fun _ => rfl)
    (formats_capitals closed).1 (supplySpares_capitals closed).1
  have hecho : echoing.Reaches writeChoice writeSession.1 writeSession.2 "/f" writeLayout ["f"]
      (treeWithDocument false) := by decide +kernel
  refine ⟨?_, ?_, ?_, read_treeWithDocument false⟩
  · obtain ⟨hwritten, hfound⟩ := (hcapitals false).1 (.inr (by decide +kernel))
    rw [if_neg (by decide)] at hwritten
    exact ⟨hfound (formats_capitals false).2 (supplySpares_capitals false).2, hwritten⟩
  · obtain ⟨hcannot, hcannot'⟩ := (hcapitals true).2 .denied (by decide) (by decide +kernel)
    exact ⟨hcannot, hcannot' (formats_capitals true).2 (supplySpares_capitals true).2 .denied (by decide +kernel)⟩
  · exact (hmain echoing false).2 (hecho.formats rfl fun _ _ => ⟨_, rfl, rfl⟩) (hecho.supplySpares custom_capitals)

/-! ## A download in the place of the document -/

/-- The archive of the formatter also brings a document. -/
def overwriting : Surroundings :=
  { capitals with
    server := fun _ t => (.ok ⟨200, fun _ => [.octets (Zip.stored
      [(utf8Encode "aspensqlplus-fmt", []), (utf8Encode "d", utf8Encode "b")])]⟩, t)
    programs := fun p =>
      if p = ["aspensqlplus-fmt", "linux-x64", "bin", "s"] then some fun q => ⟨0, utf8Encode "A", [], q.tree⟩
      else none }

/-- A tree with a document where the formatter will be. -/
def treeWithCache : FileTree :=
  ⟨[(["s"], .directory), (["bin", "s"], .directory), (["linux-x64", "bin", "s"], .directory),
    (["d", "linux-x64", "bin", "s"], .file (utf8Encode "A") 0o644)], [], []⟩

/-- The same tree with the formatter and the document that it brings. -/
def treeWithDownload : FileTree :=
  ⟨[(["s"], .directory), (["bin", "s"], .directory), (["linux-x64", "bin", "s"], .directory),
    (["d", "linux-x64", "bin", "s"], .file (utf8Encode "b") 0o644),
    (["aspensqlplus-fmt", "linux-x64", "bin", "s"], .file [] 0o755)], [], []⟩

def downloadArguments : List String :=
  ["format", "/s/bin/linux-x64/d", "--write", "--auto-download", "--root=/", "--storage=/s",
    "--extension-root=/e"]

def cachedDocument : Path := ⟨.root, ["s", "bin", "linux-x64", "d"]⟩

def downloadChoice : Choice :=
  { writeChoice with source := some cachedDocument, executable := none, autoDownload := some true }

def downloadSettings : Settings := { Settings.default with autoDownload := true }

theorem tree_overwriting : (overwriting.run downloadArguments treeWithCache).tree = treeWithDownload := by
  have h : ((overwriting.run downloadArguments treeWithCache).tree.entries,
      (overwriting.run downloadArguments treeWithCache).tree.here,
      (overwriting.run downloadArguments treeWithCache).tree.refusals) =
      (treeWithDownload.entries, treeWithDownload.here, treeWithDownload.refusals) := by decide +kernel
  generalize (overwriting.run downloadArguments treeWithCache).tree = t at h
  obtain ⟨entries, here, refusals⟩ := t
  cases h
  rfl

/-- A second run need not find the document formatted. In the first case both runs start the formatter that was
downloaded, which always prints the same; still the second run rewrites the document, since the download of the
first has put another in its place. In the second case nothing touches the document, and no run can write it. -/
theorem second_write_not_settled :
    (parse downloadArguments = .ok (.run downloadChoice) ∧
      treeWithCache.read cachedDocument.text = .ok (utf8Encode "A") ∧
      overwriting.Formats downloadChoice cachedDocument (fun _ => "A") treeWithCache ∧
      overwriting.Formats downloadChoice cachedDocument (fun _ => "A")
        (overwriting.run downloadArguments treeWithCache).tree ∧
      ¬overwriting.FindsFormatted downloadChoice cachedDocument
        (overwriting.run downloadArguments treeWithCache).tree
        (overwriting.run downloadArguments (overwriting.run downloadArguments treeWithCache).tree)) ∧
    (parse writeArguments = .ok (.run writeChoice) ∧
      (treeWithDocument true).read "/d" = .ok (utf8Encode "select 1\r\n") ∧
      capitals.Formats writeChoice ⟨.root, ["d"]⟩ (fun _ => "SELECT 1\n") (treeWithDocument true) ∧
      capitals.SupplySpares writeChoice ⟨.root, ["d"]⟩ (treeWithDocument true) ∧
      capitals.Formats writeChoice ⟨.root, ["d"]⟩ (fun _ => "SELECT 1\n")
        (capitals.run writeArguments (treeWithDocument true)).tree ∧
      capitals.SupplySpares writeChoice ⟨.root, ["d"]⟩ (capitals.run writeArguments (treeWithDocument true)).tree ∧
      ¬capitals.FindsFormatted writeChoice ⟨.root, ["d"]⟩
        (capitals.run writeArguments (treeWithDocument true)).tree
        (capitals.run writeArguments (capitals.run writeArguments (treeWithDocument true)).tree)) := by
  refine ⟨?_, by decide +kernel, read_treeWithDocument true, (formats_capitals true).1,
    (supplySpares_capitals true).1, (formats_capitals true).2, (supplySpares_capitals true).2, fun h => ?_⟩
  · have hfirst : overwriting.Reaches downloadChoice downloadSettings writeSession.2
        "/s/bin/linux-x64/aspensqlplus-fmt" writeLayout ["aspensqlplus-fmt", "linux-x64", "bin", "s"]
        treeWithCache := by decide +kernel
    have hsecond : overwriting.Reaches downloadChoice downloadSettings writeSession.2
        "/s/bin/linux-x64/aspensqlplus-fmt" writeLayout ["aspensqlplus-fmt", "linux-x64", "bin", "s"]
        treeWithDownload := by decide +kernel
    have hprints : ∀ (_ : String) t, ∃ stdout, outputText stdout = "A" ∧
        Ended.mk 0 (utf8Encode "A") [] t = ⟨0, stdout, [], t⟩ :=
      fun _ => exists_stdout (by simp [Unified])
    have hbefore : treeWithDownload.read cachedDocument.text = .ok (utf8Encode "b") := by decide +kernel
    have hafter : (overwriting.run downloadArguments treeWithDownload).tree.read cachedDocument.text =
        .ok (utf8Encode "A") := by decide +kernel
    rw [tree_overwriting]
    refine ⟨by decide +kernel, by decide +kernel, hfirst.formats rfl hprints, hsecond.formats rfl hprints,
      fun h => ?_⟩
    have hkept := (h.kept _ hbefore).symm.trans hafter
    revert hkept
    decide
  · have hending : (capitals.run writeArguments (capitals.run writeArguments (treeWithDocument true)).tree).ending =
        .exit 2 := by decide +kernel
    cases h.ending.symm.trans hending

end CommandLine.Surroundings

end SqlTidy
