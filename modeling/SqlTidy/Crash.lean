import SqlTidy.Disk.Error
import SqlTidy.Number.Limit
import SqlTidy.Path
import SqlTidy.Text.Utf8

/-!
# Failures that nothing handles

Most failures are expected somewhere and turned into a message or a fallback. The ones here are not:
they end the run.
-/

namespace SqlTidy

inductive Crash where
  /-- A number too long to be written or read. -/
  | digits (limit : DigitLimitExceeded)
  /-- Octets that are no text. -/
  | notText (error : Utf8Error)
  /-- A home directory that is not known. -/
  | noHome
  /-- A text with a NUL where the system wants one without. -/
  | nul
  /-- A name that no variable can have. -/
  | variableName
  /-- Links that go in a circle. -/
  | linkCircle (path : Path)
  /-- Compressed data that cannot be expanded. -/
  | corruptData
  /-- Data in lzma form that cannot be expanded. -/
  | lzma (text : String)
  /-- Data that ends too early. -/
  | dataEnded (text : String)
  /-- An archive member without a name. -/
  | namelessMember
  /-- A field that is not there. -/
  | indexOutOfRange
  /-- A length that is no number of octets. -/
  | lengthTooLarge
  | outOfMemory
  /-- A body that should come in chunks of no size. -/
  | chunkSize
  /-- A sound tar archive, which cannot be unpacked. -/
  | tarUnsupported
  /-- A refusal of the file system. -/
  | io (error : IoError)
  /-- A failure of some other part, by its own words. -/
  | other (text : String)
deriving DecidableEq, Repr

def Crash.message : Crash → String
  | .digits limit => limit.message
  | .notText error => error.message
  | .noHome => "Could not determine home directory."
  | .nul => "embedded null byte"
  | .variableName => "illegal environment variable name"
  | .linkCircle path => "Symlink loop from " ++ quoted path.text
  | .corruptData => "invalid compressed data"
  | .lzma text => text
  | .dataEnded text => text
  | .indexOutOfRange => "index out of range"
  | .lengthTooLarge => "cannot fit 'int' into an index-sized integer"
  | .outOfMemory => ""
  | .chunkSize => "range() arg 3 must not be zero"
  | .namelessMember => "string index out of range"
  | .tarUnsupported => "TarFile.extractall() got an unexpected keyword argument 'filter'"
  | .io error => error.message
  | .other text => text

end SqlTidy
