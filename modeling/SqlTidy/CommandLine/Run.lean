import SqlTidy.CommandLine.Arguments
import SqlTidy.Console
import SqlTidy.Machine
import SqlTidy.Service
import SqlTidy.Settings.Load

/-!
# The command line

`format` prints a document in its layout or writes it back, `check` prints findings, `which` prints the
program that would be used. Results go to the output stream, messages to the error stream. The exit code
is 0, 1 if there are findings, or 2 for a failure.
-/

namespace SqlTidy.CommandLine

/-- What a run of the command line finds around it. -/
structure Surroundings where
  machine : Machine
  server : Server
  programs : Programs
  terminal : Terminal
  /-- The text on the input stream. -/
  input : String
  /-- How temporary files get their names. -/
  draw : Draw := firstUnspoken

/-- How a run ends. -/
inductive Ending where
  | help
  | usage (error : UsageError)
  | exit (code : Nat)
  | crash (crash : Crash)
deriving DecidableEq, Repr

/-- What a run leaves: its end, what it printed, the requests it sent, the tree. -/
structure Report where
  ending : Ending
  stdout : String
  stderr : String
  requests : List Request
  tree : FileTree

/-- A text without sequences that control a terminal. The first argument bounds the number of
characters. -/
def withoutControls : Nat → List Char → List Char
  | 0, _ => []
  | _, [] => []
  | steps + 1, '\x1b' :: '[' :: rest =>
    let isParameter (c : Char) : Bool := c == ';' || c == '?' || ('0' ≤ c && c ≤ '9')
    match rest.dropWhile isParameter with
    | c :: after =>
      if ('a' ≤ c && c ≤ 'z') || ('A' ≤ c && c ≤ 'Z') then withoutControls steps after
      else '\x1b' :: withoutControls steps ('[' :: rest)
    | [] => '\x1b' :: withoutControls steps ('[' :: rest)
  | steps + 1, c :: rest => c :: withoutControls steps rest

/-- A text without control sequences. -/
def plainOutput (s : String) : String :=
  String.ofList (withoutControls (s.toList.length + 1) s.toList)

/-- The settings that options override. -/
def overrides (c : Choice) : Table :=
  let text (name : String) (v : Option String) : Table := (v.map fun s => (name, Value.text s)).toList
  let bool (name : String) (v : Option Bool) : Table := (v.map fun b => (name, Value.bool b)).toList
  let int (name : String) (v : Option Int) : Table := (v.map fun n => (name, Value.int n)).toList
  text "path" c.executable ++ text "version" c.releaseVersion ++ bool "auto_download" c.autoDownload ++
    bool "auto_build" c.autoBuild ++ int "line_width" c.lineWidth ++ int "indent" c.indent ++
    bool "uppercase_keywords" c.uppercaseKeywords

/-- No source, or a hyphen for one, is the input stream. -/
def sourceFile? (c : Choice) : Option Path := c.source.filter fun p => p.text ≠ "-"

/-- Why a run stops before its work is done: with a message, or with a crash. -/
inductive Stop where
  | message (text : String)
  | crash (crash : Crash)

/-- The settings and the roots of a run. -/
def openSession (s : Surroundings) (c : Choice) (t : FileTree) : Except Stop (Settings × Roots) := do
  let root ← (Machine.real t c.root).mapError .crash
  let settings ←
    match loadSettings t s.machine.environment root (overrides c) with
    | .ok settings => .ok settings
    | .error (.config error) => .error (.message error.message)
    | .error (.crash crash) => .error (.crash crash)
  let roots ← (s.machine.roots t (some root) c.storage c.extensionRoot).mapError .crash
  return (settings, roots)

/-- The document that a run is about. -/
def readSource (s : Surroundings) (c : Choice) (t : FileTree) : Except Stop String :=
  match sourceFile? c with
  | none => .ok (String.ofList (unifyNewlines s.input.toList))
  | some path =>
    if hasNul path.text then .error (.crash .nul)
    else
      match t.read path.text with
      | .error cause =>
        .error (.message
          ("Unable to read " ++ path.text ++ ": " ++ (IoError.mk cause (some path.text)).message))
      | .ok octets =>
        match utf8Decode octets with
        | .error error => .error (.crash (.notText error))
        | .ok text => .ok (String.ofList (unifyNewlines text.toList))

namespace Surroundings

/-- A text as it appears on the output stream: only a terminal gets control sequences. -/
def echo (s : Surroundings) (text : String) : String :=
  if s.terminal.isTerminal then text else plainOutput text

/-- A message on the error stream. -/
def say (s : Surroundings) (c : Choice) (tone : Tone) (text : String) : String :=
  tone.print s.terminal c.emoji none text

/-- The way the formatter is found. -/
def finder (s : Surroundings) (roots : Roots) : Finder := fun options t =>
  let downloader : Downloader := { server := s.server, draw := s.draw }
  let suppliers := Suppliers.real downloader ⟨s.programs, s.machine.environment, "cargo"⟩
  (Search.mk s.machine.platform releaseBase roots options).resolve suppliers t

/-- The way the formatter is run. -/
def runner (s : Surroundings) : Runner :=
  (Invoker.mk s.programs s.machine.environment none none).invoke

/-- The warnings of a search. -/
def warnings (s : Surroundings) (c : Choice) (r : Resolved) : String :=
  String.join (r.warnings.map fun w => s.say c .warn w.message)

/-- The report of a run that stopped. -/
def stopped (s : Surroundings) (c : Choice) (t : FileTree) : Stop → Report
  | .message text => ⟨.exit 2, "", s.say c .fail text, [], t⟩
  | .crash crash => ⟨.crash crash, "", "", [], t⟩

/-- The report of a service that failed; `role` says what the formatter was asked to be. -/
def failed {α : Type} (s : Surroundings) (c : Choice) (role : String) (served : Served α)
    (error : ServiceError) : Report :=
  let said := s.warnings c served.resolved
  let requests := served.resolved.requests
  match error with
  | .spawn e =>
    ⟨.exit 2, "", said ++ s.say c .fail ("Aspen SQLplus " ++ role ++ " error: " ++ e.message), requests,
      served.tree⟩
  | .protocol e =>
    ⟨.exit 2, "", said ++ s.say c .fail ("Aspen SQLplus " ++ role ++ " error: " ++ e.detail), requests,
      served.tree⟩
  | .crash crash => ⟨.crash crash, "", said, requests, served.tree⟩

/-- Writes a formatted document back, unless nothing has changed. -/
def writeBack (s : Surroundings) (c : Choice) (path : Path) (text formatted : String)
    (t : FileTree) : Nat × String × FileTree :=
  if formatted = text then (0, s.say c .info (path.text ++ " already formatted"), t)
  else
    match t.write path.text (utf8Encode formatted) with
    | .error cause =>
      (2, s.say c .fail ("Unable to write " ++ path.text ++ ": " ++
        (IoError.mk cause (some path.text)).message), t)
    | .ok t => (0, s.say c .ok ("Formatted " ++ path.text), t)

def runFormat (s : Surroundings) (c : Choice) (t : FileTree) : Report :=
  if c.write && (sourceFile? c).isNone then s.stopped c t (.message "--write requires a SOURCE file.")
  else
    match openSession s c t with
    | .error stop => s.stopped c t stop
    | .ok (settings, roots) =>
      match readSource s c t with
      | .error stop => s.stopped c t stop
      | .ok text =>
        let served := formatDocument (s.finder roots) s.runner settings text t
        match served.result with
        | .error error => s.failed c "formatter" served error
        | .ok formatted =>
          let said := s.warnings c served.resolved
          let requests := served.resolved.requests
          match c.write, sourceFile? c with
          | true, some path =>
            let (code, message, t) := s.writeBack c path text formatted served.tree
            ⟨.exit code, "", said ++ message, requests, t⟩
          | _, _ => ⟨.exit 0, s.echo formatted, said, requests, served.tree⟩

def runCheck (s : Surroundings) (c : Choice) (t : FileTree) : Report :=
  match openSession s c t with
  | .error stop => s.stopped c t stop
  | .ok (settings, roots) =>
    match readSource s c t with
    | .error stop => s.stopped c t stop
    | .ok text =>
      let served := checkDocument (s.finder roots) s.runner settings text t
      match served.result with
      | .error error => s.failed c "checker" served error
      | .ok findings =>
        let said := s.warnings c served.resolved
        let requests := served.resolved.requests
        match findings.mapM Finding.render with
        | .error limit => ⟨.crash (.digits limit), "", said, requests, served.tree⟩
        | .ok [] => ⟨.exit 0, "", said ++ s.say c .ok "No diagnostics reported.", requests, served.tree⟩
        | .ok lines =>
          ⟨.exit 1, String.join (lines.map fun line => s.echo (line ++ "\n")), said, requests, served.tree⟩

def runWhich (s : Surroundings) (c : Choice) (t : FileTree) : Report :=
  match openSession s c t with
  | .error stop => s.stopped c t stop
  | .ok (settings, roots) =>
    let resolved := s.finder roots settings.resolution t
    let said := s.warnings c resolved
    match resolved.location with
    | .error crash => ⟨.crash crash, "", said, resolved.requests, resolved.tree⟩
    | .ok location => ⟨.exit 0, s.echo (location ++ "\n"), said, resolved.requests, resolved.tree⟩

/-- Runs the command line. -/
def run (s : Surroundings) (arguments : List String) (t : FileTree) : Report :=
  match parse arguments with
  | .error error => ⟨.usage error, "", "", [], t⟩
  | .ok .help => ⟨.help, "", "", [], t⟩
  | .ok (.run c) =>
    match c.command with
    | .format => s.runFormat c t
    | .check => s.runCheck c t
    | .which => s.runWhich c t

end Surroundings

end SqlTidy.CommandLine
