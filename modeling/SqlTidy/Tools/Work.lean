import SqlTidy.Shell.System
import SqlTidy.Tools.Options

/-!
# A tool at work

A tool writes, complains, and ends with the exit code 1 if it has complained.
-/

namespace SqlTidy.Tools

open Shell

/-- A tool at work: its process, and whether all went well so far. -/
structure Work where
  task : Task
  isFine : Bool := true
  /-- Why something could not be written to the output, if so. -/
  outputCause : Option Cause := none

namespace Work

/-- The name that a tool was started by. -/
def name (w : Work) : List Char := ofText (w.task.arguments.headD "")

/-- Writes to the output. -/
def put (w : Work) (bs : Octets) : Work :=
  if bs.isEmpty then w
  else
    match w.task.system.write (w.task.fileOf 1) bs with
    | .ok system => { w with task := { w.task with system } }
    | .error cause => { w with outputCause := some cause }

/-- Writes to the error output. -/
def tell (w : Work) (text : List Char) : Work := { w with task := w.task.emit 2 (toOctets text) }

/-- Warns under the tool's name. -/
def warn (w : Work) (text : List Char) : Work := w.tell (w.name ++ ": ".toList ++ text ++ ['\n'])

/-- Complains. -/
def complain (w : Work) (text : List Char) : Work := { w.warn text with isFine := false }

/-- Complains about a name. -/
def refuse (w : Work) (before name : List Char) (cause : Cause) : Work :=
  w.complain (before ++ name ++ ": ".toList ++ cause.text.toList)

/-- Ends a tool that was not used right. -/
def misuse (w : Work) : Work :=
  { w.tell ("Try '".toList ++ w.name ++ " --help' for more information.\n".toList) with isFine := false }

/-- The end of the work. -/
def halted (w : Work) : Halted :=
  let w :=
    match w.outputCause with
    | some cause => w.complain ("write error: ".toList ++ cause.text.toList)
    | none => w
  ⟨if w.isFine then 0 else 1, w.task.system⟩

end Work

/-- A tool with a table of options. -/
def toolWith (table : OptionTable) (isOrdered : Bool) (run : Given → Work → Work) : Tool := fun t =>
  let w : Work := { task := t }
  let isOrdered := isOrdered || (Entries.get? t.environment "POSIXLY_CORRECT").isSome
  (match table.read isOrdered (t.arguments.tail.map ofText) with
  | .ok given => run given w
  | .error flaw => (w.complain flaw.text).misuse).halted

end SqlTidy.Tools
