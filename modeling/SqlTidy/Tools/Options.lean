import SqlTidy.Tools.Quoting

/-!
# Options of tools

Options are letters behind a hyphen or words behind two hyphens. A word may be cut short as long as it stays
clear which one is meant. Options may stand behind operands unless the tool wants them first.
-/

namespace SqlTidy.Tools

open Shell

/-- Whether an option has a value. -/
inductive Valued where
  | never
  | always
  | maybe
deriving DecidableEq, Repr

/-- The options of a tool. -/
structure OptionTable where
  letters : List (Char × Valued)
  /-- Words, each with the letter it stands for. -/
  words : List (String × Valued × Char)

/-- Why arguments are refused. -/
inductive OptionFlaw where
  | badLetter (c : Char)
  | valueMissing (c : Char)
  | badWord (argument : List Char)
  | unclear (argument : List Char) (possible : List String)
  | valueUnwanted (word : String)
  | wordValueMissing (word : String)
deriving DecidableEq, Repr

def OptionFlaw.text : OptionFlaw → List Char
  | .badLetter c => "invalid option -- '".toList ++ [c, '\'']
  | .valueMissing c => "option requires an argument -- '".toList ++ [c, '\'']
  | .badWord argument => "unrecognized option '".toList ++ argument ++ ['\'']
  | .unclear argument possible =>
    "option '".toList ++ argument ++ "' is ambiguous; possibilities:".toList ++
      possible.flatMap fun word => " '--".toList ++ word.toList ++ ['\'']
  | .valueUnwanted word => "option '--".toList ++ word.toList ++ "' doesn't allow an argument".toList
  | .wordValueMissing word => "option '--".toList ++ word.toList ++ "' requires an argument".toList

/-- What arguments say: the options in order, with their values and with the word each was cut to, and the
operands. -/
structure Given where
  options : List (Char × Option (List Char) × List Char)
  operands : List (List Char)

namespace Given

def has (g : Given) (c : Char) : Bool := g.options.any fun o => o.1 == c

end Given

namespace OptionTable

/-- The options in a group of letters, and the arguments behind it. -/
def ofLetters (t : OptionTable) :
    List Char → List (List Char) → Except OptionFlaw (List (Char × Option (List Char) × List Char) × List (List Char))
  | [], rest => .ok ([], rest)
  | c :: letters, rest =>
    match t.letters.lookup c with
    | none => .error (.badLetter c)
    | some .always =>
      match letters, rest with
      | [], [] => .error (.valueMissing c)
      | [], value :: rest => .ok ([(c, some value, [])], rest)
      | letters, rest => .ok ([(c, some letters, [])], rest)
    | some _ => do
      let (more, rest) ← t.ofLetters letters rest
      return ((c, none, []) :: more, rest)

/-- The word that a name means. -/
def wordFor (t : OptionTable) (argument name : List Char) : Except OptionFlaw (String × Valued × Char) :=
  match t.words.find? fun w => w.1.toList == name with
  | some w => .ok w
  | none =>
    match t.words.filter fun w => name.isPrefixOf w.1.toList with
    | [] => .error (.badWord argument)
    | w :: others =>
      if others.all fun o => o.2 == w.2 then .ok w else .error (.unclear argument ((w :: others).map (·.1)))

/-- The option in a word, and the arguments behind it. -/
def ofWord (t : OptionTable) (argument : List Char) (rest : List (List Char)) :
    Except OptionFlaw ((Char × Option (List Char) × List Char) × List (List Char)) := do
  let text := argument.drop 2
  let name := text.takeWhile (· ≠ '=')
  let value? := if name.length < text.length then some (text.drop (name.length + 1)) else none
  let (word, valued, c) ← t.wordFor argument name
  match valued, value? with
  | .never, none => return ((c, none, name), rest)
  | .never, some _ => .error (.valueUnwanted word)
  | .maybe, value? => return ((c, value?, name), rest)
  | .always, some value => return ((c, some value, name), rest)
  | .always, none =>
    match rest with
    | [] => .error (.wordValueMissing word)
    | value :: rest => return ((c, some value, name), rest)

/-- Sorts arguments into options and operands. The first argument bounds their number. -/
def sort (t : OptionTable) (isOrdered : Bool) : Nat → List (List Char) → Except OptionFlaw Given
  | 0, _ => .ok ⟨[], []⟩
  | steps + 1, arguments =>
    match arguments with
    | [] => .ok ⟨[], []⟩
    | ['-', '-'] :: rest => .ok ⟨[], rest⟩
    | argument :: rest =>
      match argument with
      | '-' :: '-' :: _ => do
        let (o, rest) ← t.ofWord argument rest
        let g ← t.sort isOrdered steps rest
        return { g with options := o :: g.options }
      | '-' :: c :: letters => do
        let (os, rest) ← t.ofLetters (c :: letters) rest
        let g ← t.sort isOrdered steps rest
        return { g with options := os ++ g.options }
      | operand =>
        if isOrdered then .ok ⟨[], operand :: rest⟩
        else do
          let g ← t.sort isOrdered steps rest
          return { g with operands := operand :: g.operands }

/-- Reads arguments. -/
def read (t : OptionTable) (isOrdered : Bool) (arguments : List (List Char)) : Except OptionFlaw Given :=
  t.sort isOrdered (arguments.length + 1) arguments

end OptionTable

end SqlTidy.Tools
