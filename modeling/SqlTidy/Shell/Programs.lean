import SqlTidy.Shell.Startup
import SqlTidy.Tools.Cat
import SqlTidy.Tools.Directories
import SqlTidy.Tools.Exchange
import SqlTidy.Tools.Removal

/-!
# The programs of a plain machine

The shell and the standard tools. Scripts may start scripts, to a limited depth.
-/

namespace SqlTidy.Shell

/-- The tools by name. -/
def toolNamed? (name : String) : Option Tool :=
  match name with
  | "cat" => some Tools.cat
  | "pwd" => some Tools.pwd
  | "mkdir" => some Tools.mkdir
  | "rm" => some Tools.rm
  | "tr" => some Tools.tr
  | _ => none

/-- The tools by where they are. -/
def tools : Toolbox := fun position =>
  match position with
  | [name, "bin", "usr"] => toolNamed? name
  | [name, "bin"] => toolNamed? name
  | _ => none

/-- Starts the file at a path as one of several programs. -/
def launchFrom (box : Toolbox) (path : String) (t : Task) : Except Cause Halted := do
  let (position, arguments) ←
    imageOf (fun q => (box q).isSome) t.system.tree interpreterLimit path t.arguments
  match box position with
  | some tool => return tool { t with arguments }
  | none => .error .badFormat

/-- The shell and the tools, scripts nested at most so deep. -/
def toolboxTo : Nat → Toolbox
  | 0 => tools
  | depth + 1 => fun position =>
    if position = ["sh", "bin", "usr"] ∨ position = ["sh", "bin"] then
      some (shell (launchFrom (toolboxTo depth)))
    else tools position

/-- The programs of a plain machine. -/
def programs : Programs := fun position => (toolboxTo 100 position).map Tool.program

end SqlTidy.Shell
