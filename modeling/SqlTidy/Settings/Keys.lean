import SqlTidy.Settings.Error
import SqlTidy.Text.Lowercase

/-!
# Keys of settings

Keys may be written with underscores, with hyphens or with capitals inside; `snakeCase` brings them to
one spelling. The table of category switches collects all tables that are given for it. A former
switch for unused variables is kept as their category unless that is set itself.
-/

namespace SqlTidy

def isAsciiUpper (c : Char) : Bool := 'A' ≤ c && c ≤ 'Z'

def isAsciiLowerOrDigit (c : Char) : Bool := ('a' ≤ c && c ≤ 'z') || ('0' ≤ c && c ≤ '9')

/-- Puts an underscore before every capital that follows a small letter or a digit. -/
def splitCamel : List Char → List Char
  | [] => []
  | [c] => [c]
  | c :: d :: rest =>
    if isAsciiLowerOrDigit c && isAsciiUpper d then c :: '_' :: splitCamel (d :: rest)
    else c :: splitCamel (d :: rest)

/-- The one spelling of a key. -/
def snakeCase (key : String) : String :=
  lower (String.ofList ((splitCamel key.toList).map fun c => if c = '-' then '_' else c))

def diagnosticsKey : String := "diagnostics"

/-- The former switch for findings about unused variables. -/
def formerUnusedKey : String := "enable_unused_variable_diagnostics"

/-- A table with keys in one spelling, in the making. -/
structure KeyFold where
  table : Table
  former : Option Value

/-- The table under a key, empty if there is none. -/
def tableAt (t : Table) (key : String) : Table :=
  match Entries.get? t key with
  | some (.table entries) => entries
  | _ => []

/-- Takes in one entry. -/
def KeyFold.add (origin : String) (acc : KeyFold) (entry : String × Value) :
    Except ConfigError KeyFold :=
  let key := snakeCase entry.1
  if key = formerUnusedKey then .ok { acc with former := some entry.2 }
  else if key = diagnosticsKey then
    match entry.2 with
    | .table switches =>
      .ok { acc with
        table := Entries.put acc.table key (.table (Entries.putAll (tableAt acc.table key) switches)) }
    | _ => .error (.diagnosticsNotTable origin)
  else .ok { acc with table := Entries.put acc.table key entry.2 }

/-- Adds the former switch at the end, where nothing is set for its category. -/
def KeyFold.finish (acc : KeyFold) : Table :=
  match acc.former with
  | none => acc.table
  | some v =>
    Entries.put acc.table diagnosticsKey
      (.table (Entries.putNew (tableAt acc.table diagnosticsKey) unusedVariable v))

/-- A table with its keys in one spelling; `origin` is named in complaints. -/
def normaliseKeys (origin : String) (t : Table) : Except ConfigError Table :=
  (t.foldlM (KeyFold.add origin) ⟨[], none⟩).map KeyFold.finish

end SqlTidy
