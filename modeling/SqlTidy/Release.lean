import SqlTidy.Platform

/-!
# Releases

Every version of the formatter is published as one archive per platform, all below one address.
-/

namespace SqlTidy

/-- The address below which releases are published. -/
def releaseBase : String := "https://github.com/GermanHeim/aspensqlplus-fmt/releases/download"

/-- The version that is fetched when none is asked for. -/
def defaultVersion : String := "0.1.0"

/-- An address without the slashes at its end. -/
def dropFinalSlashes (address : String) : String :=
  String.ofList (address.toList.reverse.dropWhile (· == '/')).reverse

/-- The file name of a release archive. -/
def archiveName (version : String) (platform : Platform) : String :=
  toolName ++ "-" ++ version ++ "-" ++ platform.text ++ ".zip"

/-- Where the archive of a version for a platform is published. -/
def releaseUrl (base version : String) (platform : Platform) : String :=
  dropFinalSlashes base ++ "/v" ++ version ++ "/" ++ archiveName version platform

end SqlTidy
