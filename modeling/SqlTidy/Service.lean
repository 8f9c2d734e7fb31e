import SqlTidy.Resolver
import SqlTidy.Settings.Basic

/-!
# Formatting and checking documents

The formatter is found anew for every document, run on it, and its result is interpreted by the mode.
Both the search and the run are up to the caller.
-/

namespace SqlTidy

/-- Finding a program, given the wishes of the settings. -/
abbrev Finder := ResolutionOptions → FileTree → Resolved

/-- Running a program with arguments on a text. -/
abbrev Runner := String → List String → String → FileTree → Except InvokeError RunResult × FileTree

/-- A run that was made. -/
structure Invocation where
  executable : String
  arguments : List String
  input : String
deriving DecidableEq, Repr

inductive ServiceError where
  | spawn (error : SpawnError)
  | protocol (error : ProtocolError)
  | crash (crash : Crash)
deriving DecidableEq, Repr

/-- The outcome for a document: the result, how the formatter was found, the run that was made if it
came to one, and the tree it leaves. -/
structure Served (α : Type) where
  result : Except ServiceError α
  resolved : Resolved
  invocation : Option Invocation
  tree : FileTree

/-- Finds the formatter, runs it on a document and interprets its result by a mode. -/
def serve (mode : Mode) (arguments : Except DigitLimitExceeded (List String)) (find : Finder)
    (run : Runner) (settings : Settings) (text : String) (t : FileTree) : Served String :=
  let resolved := find settings.resolution t
  match resolved.location, arguments with
  | .error crash, _ => ⟨.error (.crash crash), resolved, none, resolved.tree⟩
  | .ok _, .error limit => ⟨.error (.crash (.digits limit)), resolved, none, resolved.tree⟩
  | .ok executable, .ok arguments =>
    let invocation : Invocation := ⟨executable, arguments, text⟩
    let (r, t) := run executable arguments text resolved.tree
    match r with
    | .error (.spawn error) => ⟨.error (.spawn error), resolved, some invocation, t⟩
    | .error (.crash crash) => ⟨.error (.crash crash), resolved, some invocation, t⟩
    | .ok r => ⟨(r.interpret toolName mode).mapError .protocol, resolved, some invocation, t⟩

/-- A document in the layout of the settings. -/
def formatDocument (find : Finder) (run : Runner) (settings : Settings) (text : String)
    (t : FileTree) : Served String :=
  serve .format settings.layout.arguments find run settings text t

/-- The findings about a document that the settings let through. -/
def checkDocument (find : Finder) (run : Runner) (settings : Settings) (text : String)
    (t : FileTree) : Served (List Finding) :=
  let served := serve .check (.ok ["--check"]) find run settings text t
  { served with
    result := served.result.map fun report => settings.filterPolicy.apply (parseReport report) }

end SqlTidy
