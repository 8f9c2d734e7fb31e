import SqlTidy.Layout
import SqlTidy.Report.Basic
import SqlTidy.Resolution

/-!
# Settings

All that a user can set. Settings are read from a table as a whole (`Settings.ofTable`) or changed one
field at a time (`Settings.assign`); both check values alike. The other parts of the library see
settings through views: a layout, resolution options and a filter policy.
-/

namespace SqlTidy

structure Settings where
  path : String
  lineWidth : Nat
  indent : Nat
  uppercaseKeywords : Bool
  autoBuild : Bool
  autoDownload : Bool
  version : String
  diagnostics : Entries Bool
deriving DecidableEq, Repr

/-- The code of findings about variables that are never read. -/
def unusedVariable : String := "unused-variable"

/-- The code of findings about variables declared twice. -/
def duplicateVariable : String := "duplicate-variable"

/-- The categories that are always mentioned. -/
def defaultCategories : Entries Bool := [(unusedVariable, true), (duplicateVariable, true)]

/-- A version without blanks around it and without a leading v. -/
def bareVersion (s : String) : String :=
  match (strip s).toList with
  | 'v' :: rest => String.ofList rest
  | cs => String.ofList cs

def readVersion (v : Value) : Except Fault String := do
  let version := bareVersion (← readText v)
  if version = "" then .error (.refused "version must not be empty") else return version

def readCategories : Reader (Entries Bool) := fun v =>
  (readSwitches v).map (Entries.putAll defaultCategories)

namespace Settings

def default : Settings where
  path := ""
  lineWidth := 88
  indent := 2
  uppercaseKeywords := true
  autoBuild := true
  autoDownload := true
  version := defaultVersion
  diagnostics := defaultCategories

def fieldNames : List String :=
  ["path", "line_width", "indent", "uppercase_keywords", "auto_build", "auto_download", "version",
    "diagnostics"]

/-- The settings that a table gives, the defaults for what it leaves out. -/
def ofTable (t : Table) : Checked Settings :=
  Checked.also
    (Checked.app (Checked.app (Checked.app (Checked.app (Checked.app (Checked.app (Checked.app
      (Checked.app (.ok Settings.mk)
      (field t "path" (.ofFault readText) default.path))
      (field t "line_width" (.ofFault (readPositive readInt)) default.lineWidth))
      (field t "indent" (.ofFault (readBetween 2 4 readInt)) default.indent))
      (field t "uppercase_keywords" (.ofFault readBool) default.uppercaseKeywords))
      (field t "auto_build" (.ofFault readBool) default.autoBuild))
      (field t "auto_download" (.ofFault readBool) default.autoDownload))
      (field t "version" (.ofFault readVersion) default.version))
      (field t "diagnostics" readCategories default.diagnostics))
    (extraFields t fieldNames)

/-- Gives one field a new value. -/
def assignField (s : Settings) (name : String) (v : Value) : Checked Settings :=
  Except.mapError (within name) <|
    match name with
    | "path" => (Reader.ofFault readText v).map fun x => { s with path := x }
    | "line_width" => (Reader.ofFault (readPositive readInt) v).map fun x => { s with lineWidth := x }
    | "indent" => (Reader.ofFault (readBetween 2 4 readInt) v).map fun x => { s with indent := x }
    | "uppercase_keywords" => (Reader.ofFault readBool v).map fun x => { s with uppercaseKeywords := x }
    | "auto_build" => (Reader.ofFault readBool v).map fun x => { s with autoBuild := x }
    | "auto_download" => (Reader.ofFault readBool v).map fun x => { s with autoDownload := x }
    | "version" => (Reader.ofFault readVersion v).map fun x => { s with version := x }
    | "diagnostics" => (readCategories v).map fun x => { s with diagnostics := x }
    | name => .error [⟨[], .noAttribute name⟩]

/-- Views that every record has beside its fields. -/
def viewNames : List String := ["model_extra", "model_fields_set"]

/-- Gives a name a new value: a field, or a note that leaves the fields as they are. -/
def assign (s : Settings) (name : String) (v : Value) : Except AssignError Settings :=
  if isNoteName name then (assignNote "FormatterSettings" name).map fun _ => s
  else if name ∈ viewNames then .error (.readOnly "FormatterSettings" name)
  else (s.assignField name v).mapError .invalid

def layout (s : Settings) : Layout := ⟨s.lineWidth, s.indent, s.uppercaseKeywords⟩

def resolution (s : Settings) : ResolutionOptions where
  customPath := if s.path = "" then none else some s.path
  autoBuild := s.autoBuild
  autoDownload := s.autoDownload
  version := s.version

def filterPolicy (s : Settings) : FilterPolicy := ⟨s.diagnostics⟩

end Settings

end SqlTidy
