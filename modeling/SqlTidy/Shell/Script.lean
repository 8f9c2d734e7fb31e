/-!
# Scripts

Commands of the shell as they are read from a script. Text is kept as octets, one character each, since
a script may hold and write octets that are no text.
-/

namespace SqlTidy.Shell

/-- What is made of a parameter: its value or its length; a word in its place if it is not set
(`byDefault`, and `assigning` which also sets it) or is set (`ifSet`); a complaint if it is not set; its
value without the start or the end that fits a pattern. An empty value may count as not set. -/
inductive ParameterUse where
  | value
  | length
  | byDefault (emptyCounts : Bool)
  | assigning (emptyCounts : Bool)
  | ifSet (emptyCounts : Bool)
  | required (emptyCounts : Bool)
  | cut (fromStart longest : Bool)
  | invalid
deriving DecidableEq, Repr

/-- What a redirection does with a descriptor. `overwriting` empties a file even where that is not
allowed without asking. -/
inductive RedirectKind where
  | toFile
  | overwriting
  | appending
  | fromFile
  | toAndFrom
  | copied
  /-- The text of a document that follows in the script, with or without expansions in it. -/
  | document (number : Nat) (expands : Bool)
deriving DecidableEq, Repr

mutual

/-- A piece of a word. -/
inductive Piece where
  /-- A character; an escaped one stands for itself wherever it could mean something else. -/
  | char (c : Char) (isEscaped : Bool)
  /-- Quotes begin or end. -/
  | quote
  | parameter (name : List Char) (use : ParameterUse) (word : List Piece)
  | substitution (body : Command)
  | arithmetic (body : List Piece)

inductive Redirect where
  | mk (descriptor : Nat) (kind : RedirectKind) (target : List Piece)

/-- A command. Where a line is given it is the one that complaints name. -/
inductive Command where
  | nothing
  | simple (line : Nat) (assignments words : List (List Piece)) (redirects : List Redirect)
  | pipeline (inBackground : Bool) (parts : List Command)
  | redirected (line : Nat) (body : Command) (redirects : List Redirect)
  | subshell (line : Nat) (body : Command) (redirects : List Redirect)
  | background (line : Nat) (body : Command) (redirects : List Redirect)
  | sequence (first second : Command)
  | conjunction (first second : Command)
  | disjunction (first second : Command)
  | negation (body : Command)
  | conditional (test positive negative : Command)
  | loop (whileTrue : Bool) (test body : Command)
  | forEach (line : Nat) (name : List Char) (words : List (List Piece)) (body : Command)
  | cases (line : Nat) (subject : List Piece) (arms : List (List (List Piece) × Command))
  | function (name : List Char) (body : Command)

end

instance : Inhabited Command := ⟨.nothing⟩

abbrev Word := List Piece

/-- The characters of a word that has nothing else in it. -/
def plainText? : Word → Option (List Char)
  | [] => some []
  | .char c false :: rest => (plainText? rest).map (c :: ·)
  | _ => none

def isNameStart (c : Char) : Bool := ('a' ≤ c && c ≤ 'z') || ('A' ≤ c && c ≤ 'Z') || c == '_'

def isNumeral (c : Char) : Bool := '0' ≤ c && c ≤ '9'

def isNameChar (c : Char) : Bool := isNameStart c || isNumeral c

/-- The name that a text starts with; empty if it starts with none. -/
def leadingName : List Char → List Char
  | [] => []
  | c :: rest => if isNameStart c then c :: rest.takeWhile isNameChar else []

/-- Whether a text is a name. -/
def isName (cs : List Char) : Bool := !cs.isEmpty && leadingName cs == cs

/-- The plain characters that a word starts with. -/
def leadingText : Word → List Char
  | .char c false :: rest => c :: leadingText rest
  | _ => []

/-- Whether a word assigns: a name and an equals sign come first. -/
def isAssignment (word : Word) : Bool :=
  let cs := leadingText word
  let name := leadingName cs
  !name.isEmpty && (cs.drop name.length).head? == some '='

/-- The commands of the shell that cannot be replaced by functions and whose failure ends a script. -/
def specialBuiltins : List String :=
  [".", ":", "break", "continue", "eval", "exec", "exit", "export", "local", "readonly", "return", "set",
    "shift", "times", "trap", "unset"]

end SqlTidy.Shell
