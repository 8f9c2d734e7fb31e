import SqlTidy.Disk.Error
import SqlTidy.Settings.Basic
import SqlTidy.Toml.Error

/-!
# What can be wrong with a configuration
-/

namespace SqlTidy

inductive ConfigError where
  | invalidToml (path : Path) (flaw : Toml.Malformed)
  | unreadable (path : Path) (error : IoError)
  | diagnosticsNotTable (origin : String)
  | invalid (faults : List FieldError)
deriving DecidableEq, Repr

def ConfigError.message : ConfigError → String
  | .invalidToml path flaw => "Invalid TOML in " ++ path.text ++ ": " ++ flaw.message
  | .unreadable path error => "Unable to read " ++ path.text ++ ": " ++ error.message
  | .diagnosticsNotTable origin => origin ++ ": 'diagnostics' must be a table of code = bool"
  | .invalid faults =>
    "Invalid aspenfmt configuration: " ++ toString faults.length ++ " validation error" ++
      (if faults.length = 1 then "" else "s") ++ " for FormatterSettings"

end SqlTidy
