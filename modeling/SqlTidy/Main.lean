import SqlTidy.CommandLine.Run
import SqlTidy.Shell.Programs

/-!
# The command line program

A run of `CommandLine` is a function of a file tree. This module reads the part of the disk that a run can
look at into such a tree, runs, prints, and writes the document back if it has changed. Formatters run in
`Shell`, so they are scripts; nothing is downloaded, since every request fails.
-/

namespace SqlTidy.CommandLine

/-- The text for a wish for help. -/
def helpText : String :=
  "Usage: aspenfmt COMMAND [OPTIONS] [SOURCE]\n\n" ++
    "Acquire and run the AspenTech SQLplus formatter.\n\n" ++
    "Commands:\n" ++
    "  format  Format SQL text and print it, or write it back with --write.\n" ++
    "  check   Print diagnostics for SQL text; exits 1 when any are reported.\n" ++
    "  which   Print the formatter executable that would be used.\n"

def UsageError.message : UsageError → String
  | .noSuchOption => "No such option."
  | .badOptionUsage => "An option lacks a value, or has one that it does not take."
  | .badParameter => "An option has a value that is no valid integer."
  | .other => "No such command, or too many arguments."

/-- The variables that a run looks at in any case. -/
def fixedVariables : List String :=
  ["PATH", "HOME", "TERM", "COLORTERM", "ASPENFMT_STORAGE", "XDG_CACHE_HOME", "ASPENFMT_EXTENSION_ROOT"]

/-- The variables that a text refers to. -/
def namedVariables (text : String) : List String :=
  (segments text.toList).filterMap fun
    | .reference name _ => some (String.ofList name)
    | .plain _ => none

/-- The files that settings and the document are read from. -/
def inputFiles (c : Choice) : List String :=
  ((configSources c.root).map fun source => source.path.text) ++ ((sourceFile? c).map Path.text).toList

/-- The files that a search for the formatter and its start look at. -/
def searchedFiles (m : Machine) (settings : Settings) (roots : Roots) : List String :=
  let search : Search := ⟨m.platform, releaseBase, roots, settings.resolution⟩
  let own := settings.resolution.trimmedCustomPath.toList
  let project := search.project?.toList
  [search.bundled.text, search.cached.text] ++
    project.flatMap (fun p => (p / "Cargo.toml").text :: (search.built p).map Path.text) ++
    (search.executable :: "cargo" :: own).flatMap (candidates m.environment) ++
    ["/bin/sh", "/bin/cat", "/bin/pwd", "/bin/mkdir", "/bin/rm", "/usr/bin/tr"]

/-- A tree with a directory in it. -/
def withDirectory (t : FileTree) (path : Path) : FileTree := ((Act.makeDirectories path).outcome t).2

/-- A tree with a file in it that may be started. -/
def withFile (t : FileTree) (path : String) (content : Octets) : FileTree :=
  let t := withDirectory t (Path.ofText path).parent
  let written := (t.write path content).toOption.getD t
  (written.permit path FileTree.executeBits).toOption.getD written

end SqlTidy.CommandLine

namespace SqlTidy.Program

open SqlTidy.CommandLine

/-- All that is left on a stream. -/
partial def drain (stream : IO.FS.Stream) (before : ByteArray) : IO ByteArray := do
  let more ← stream.read 65536
  if more.isEmpty then return before else drain stream (before ++ more)

/-- A tree with what the disk holds at a path. -/
def load (t : FileTree) (path : String) : IO FileTree := do
  match ← (IO.FS.readBinFile path).toBaseIO with
  | .ok content => return withFile t path content.toList
  | .error _ =>
    match ← (IO.FS.realPath path).toBaseIO with
    | .ok real => return if ← real.isDir then withDirectory t (Path.ofText path) else t
    | .error _ => return t

/-- The values of variables that are set. -/
def environment (names : List String) : IO Environment :=
  names.foldlM (fun env name => do
    match ← IO.getEnv name with
    | some v => return Entries.put env name v
    | none => return env) []

/-- The variables that a run needs: fixed ones, and those that files refer to. -/
def environmentFor (t : FileTree) (files : List String) : IO Environment :=
  environment (fixedVariables ++ files.flatMap fun path =>
    ((t.read path).toOption.map fun content => namedVariables (utf8DecodeLenient content)).getD [])

/-- Runs with a choice made. -/
def runChoice (arguments : List String) (c : Choice) : IO Report := do
  let here := (← IO.currentDir).toString
  let start := withDirectory ⟨[], [], []⟩ (Path.ofText here)
  let t ← (inputFiles c).foldlM load { start with here := (namesOf here).reverse }
  let env ← environmentFor t (inputFiles c)
  let home := (Entries.get? env "HOME").getD "/"
  let platform := ((Platform.current "linux" "x86_64").run none).1
  let machine : Machine := ⟨env, ⟨home, []⟩, platform, Path.ofText here⟩
  let input ←
    if c.command = .which ∨ (sourceFile? c).isSome then pure ByteArray.empty
    else drain (← IO.getStdin) ByteArray.empty
  let outlet : Outlet := if ← (← IO.getStdout).isTty then .terminal else .pipe
  let surroundings : Surroundings := {
    machine
    server := fun _ t => (.error "offline", t)
    programs := Shell.programs
    terminal := ⟨outlet.isTerminal, env⟩
    input := utf8DecodeLenient input.toList }
  let t ←
    match openSession surroundings c t with
    | .ok (settings, roots) => (searchedFiles machine settings roots).foldlM load t
    | .error _ => pure t
  let report := surroundings.run arguments t
  match sourceFile? c with
  | some path =>
    match t.read path.text, report.tree.read path.text with
    | .ok before, .ok after =>
      if before ≠ after then IO.FS.writeBinFile path.text ⟨after.toArray⟩
    | _, _ => pure ()
  | none => pure ()
  return report

/-- Prints what a run has to say and yields its exit code. -/
def conclude (report : Report) : IO UInt32 := do
  IO.print report.stdout
  IO.eprint report.stderr
  match report.ending with
  | .exit code => return UInt32.ofNat code
  | .crash crash =>
    IO.eprintln crash.message
    return 1
  | .help => return 0
  | .usage _ => return 2

end SqlTidy.Program

def main (arguments : List String) : IO UInt32 := do
  match SqlTidy.CommandLine.parse arguments with
  | .ok .help =>
    IO.print SqlTidy.CommandLine.helpText
    return 0
  | .error error =>
    IO.eprintln error.message
    return 2
  | .ok (.run choice) => SqlTidy.Program.conclude (← SqlTidy.Program.runChoice arguments choice)
