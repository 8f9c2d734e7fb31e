import SqlTidy.Text.Quoted

/-!
# Refusals of the file system
-/

namespace SqlTidy

/-- Why the system refuses a call. -/
inductive Cause where
  | noEntry
  | badFormat
  | denied
  | alreadyThere
  | notDirectory
  | isDirectory
  | invalidArgument
  | noSpace
  | nameTooLong
  | tooManyLinks
  | badDescriptor
  | noDevice
  | notEmpty
deriving DecidableEq, Repr

namespace Cause

/-- The number under which the system reports a cause. -/
def number : Cause → Nat
  | .noEntry => 2
  | .badFormat => 8
  | .denied => 13
  | .alreadyThere => 17
  | .notDirectory => 20
  | .isDirectory => 21
  | .invalidArgument => 22
  | .noSpace => 28
  | .nameTooLong => 36
  | .tooManyLinks => 40
  | .badDescriptor => 9
  | .noDevice => 6
  | .notEmpty => 39

def text : Cause → String
  | .noEntry => "No such file or directory"
  | .badFormat => "Exec format error"
  | .denied => "Permission denied"
  | .alreadyThere => "File exists"
  | .notDirectory => "Not a directory"
  | .isDirectory => "Is a directory"
  | .invalidArgument => "Invalid argument"
  | .noSpace => "No space left on device"
  | .nameTooLong => "File name too long"
  | .tooManyLinks => "Too many levels of symbolic links"
  | .badDescriptor => "Bad file descriptor"
  | .noDevice => "No such device or address"
  | .notEmpty => "Directory not empty"

end Cause

/-- A refused call, with the path that it was about if it was about one. -/
structure IoError where
  cause : Cause
  path : Option String
deriving DecidableEq, Repr

def IoError.message (e : IoError) : String :=
  "[Errno " ++ toString e.cause.number ++ "] " ++ e.cause.text ++
    ((e.path.map fun p => ": " ++ quoted p).getD "")

end SqlTidy
