import SqlTidy.Disk.Calls
import SqlTidy.Entries

/-!
# Programs

A program is given its arguments, an environment, its input and the file tree with its working
directory, and ends with an exit code, what it has written and the tree it leaves. Which files are
programs of their own is up to the machine (`Programs`); any other executable file has to name its
interpreter in its first line.
-/

namespace SqlTidy

structure Process where
  /-- The name that the program was started by, then its arguments. -/
  arguments : List String
  environment : Entries String
  input : Octets
  tree : FileTree

structure Ended where
  exitCode : Int
  stdout : Octets
  stderr : Octets
  tree : FileTree

abbrev Program := Process → Ended

/-- The programs of a machine, by where they are. -/
abbrev Programs := Position → Option Program

/-- Starting the file at a path. -/
abbrev Starter := String → Process → Except Cause Ended

def isBlankOctet (b : UInt8) : Bool := b == 0x20 || b == 0x09

/-- The number of octets at the start of a file that tell how it is run. -/
def headSize : Nat := 256

/-- The first place from `start` to `stop`, both included, whose octet has a property. -/
def placeFrom (head : Octets) (has : UInt8 → Bool) (start stop : Nat) : Option Nat :=
  (List.range' start (stop + 1 - start)).find? fun i => has (head[i]?.getD 0)

/-- The octets from one place up to another or to a NUL. -/
def headText (head : Octets) (start stop : Nat) : String :=
  utf8DecodeLenient (((head.take stop).drop start).takeWhile (· != 0))

/-- Where the line ends that names the interpreter. Without the end of a line a blank or a NUL has to
show that the name is complete. -/
def headEnd? (head : Octets) : Option Nat :=
  match placeFrom head (fun b => b == 0x0A || b == 0) 0 (headSize - 1) with
  | some i => if head[i]? = some 0x0A then some i else nameEnd?
  | none => nameEnd?
where
  /-- The end of all, if the name ends before. -/
  nameEnd? : Option Nat := do
    let start ← placeFrom head (fun b => !isBlankOctet b) 2 (headSize - 1)
    let _ ← placeFrom head (fun b => isBlankOctet b || b == 0) start (headSize - 1)
    return headSize - 1

/-- The interpreter that a file names in its first line, and the argument for it. -/
def interpreter? (content : Octets) : Option (String × Option String) := do
  let head := (content ++ List.replicate headSize 0).take headSize
  if head.take 2 ≠ [0x23, 0x21] then none
  else
    let stop := (← headEnd? head)
    let stop := stop - (((head.take stop).drop 2).reverse.takeWhile isBlankOctet).length
    let start ← placeFrom head (fun b => !isBlankOctet b) 2 stop
    if start = stop then none
    else
      let separator? := placeFrom head (fun b => isBlankOctet b || b == 0) start stop
      let argument? := do
        let separator ← separator?
        if head[separator]? = some 0 then none
        else placeFrom head (fun b => !isBlankOctet b) separator stop
      return (headText head start (separator?.getD stop), argument?.map fun i => headText head i stop)

/-- The program that a start of the file at a path comes to, through at most so many interpreters, and
its arguments. -/
def imageOf (isProgram : Position → Bool) (t : FileTree) :
    Nat → String → List String → Except Cause (Position × List String)
  | 0, _, _ => .error .tooManyLinks
  | depth + 1, path, arguments => do
    match ← t.find path with
    | (position, .file content mode) =>
      if mode &&& FileTree.executeBits = 0 then .error .denied
      else if isProgram position then return (position, arguments)
      else
        match interpreter? content with
        | none => .error .badFormat
        | some (name, argument) =>
          imageOf isProgram t depth name (name :: argument.toList ++ path :: arguments.tail)
    | _ => .error .denied

/-- The number of interpreters that one start may go through. -/
def interpreterLimit : Nat := 5

/-- Starts the file at a path. -/
def start (programs : Programs) : Starter := fun path p => do
  let (position, arguments) ← imageOf (fun q => (programs q).isSome) p.tree interpreterLimit path p.arguments
  match programs position with
  | some run => return run { p with arguments }
  | none => .error .badFormat

end SqlTidy
