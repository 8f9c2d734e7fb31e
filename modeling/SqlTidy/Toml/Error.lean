import SqlTidy.Number.Limit
import SqlTidy.Text.Quoted

/-!
# What can be wrong with a TOML document

A document is refused with a flaw and the place of it. Scanners name the place by what is left of
the document there; `Place.of` turns that into a line and a column.
-/

namespace SqlTidy.Toml

/-- A key with dots in it, as its parts. -/
abbrev Key := List String

inductive Flaw where
  | invalidStatement
  | expectedNewline
  | declaredTwice (key : Key)
  | overwritten
  | immutable (key : Key)
  | redefined (key : Key)
  | expectedEquals
  | expectedTableEnd
  | expectedArrayEnd
  | keyStart
  | expected (text : String)
  | unterminated
  | illegalChar (c : Char)
  | invalidChar (c : Char)
  | strayBackslash
  | hexValue
  | notScalar
  | unclosedArray
  | unclosedInlineTable
  | duplicateKey (name : String)
  | badDate
  | invalidValue
deriving DecidableEq, Repr

def Flaw.message : Flaw → String
  | .invalidStatement => "Invalid statement"
  | .expectedNewline => "Expected newline or end of document after a statement"
  | .declaredTwice key => "Cannot declare " ++ quotedTuple key ++ " twice"
  | .overwritten => "Cannot overwrite a value"
  | .immutable key => "Cannot mutate immutable namespace " ++ quotedTuple key
  | .redefined key => "Cannot redefine namespace " ++ quotedTuple key
  | .expectedEquals => "Expected '=' after a key in a key/value pair"
  | .expectedTableEnd => "Expected ']' at the end of a table declaration"
  | .expectedArrayEnd => "Expected ']]' at the end of an array declaration"
  | .keyStart => "Invalid initial character for a key part"
  | .expected text => "Expected " ++ quoted text
  | .unterminated => "Unterminated string"
  | .illegalChar c => "Illegal character " ++ quoted (String.singleton c)
  | .invalidChar c => "Found invalid character " ++ quoted (String.singleton c)
  | .strayBackslash => "Unescaped '\\' in a string"
  | .hexValue => "Invalid hex value"
  | .notScalar => "Escaped character is not a Unicode scalar value"
  | .unclosedArray => "Unclosed array"
  | .unclosedInlineTable => "Unclosed inline table"
  | .duplicateKey name => "Duplicate inline table key " ++ quoted name
  | .badDate => "Invalid date or datetime"
  | .invalidValue => "Invalid value"

/-- A place in a document, lines and columns counted from one. -/
inductive Place where
  | at (line column : Nat)
  | endOfDocument
deriving DecidableEq, Repr

def Place.text : Place → String
  | .at line column => "line " ++ toString line ++ ", column " ++ toString column
  | .endOfDocument => "end of document"

/-- The place in `document` from which on `rest` is left. -/
def Place.of (document rest : List Char) : Place :=
  if rest.isEmpty then .endOfDocument
  else
    let before := document.take (document.length - rest.length)
    .at (before.count '\n' + 1) ((before.reverse.takeWhile (· != '\n')).length + 1)

/-- A flaw and its place. -/
structure Malformed where
  flaw : Flaw
  place : Place
deriving DecidableEq, Repr

def Malformed.message (m : Malformed) : String := m.flaw.message ++ " (at " ++ m.place.text ++ ")"

/-- Why a document cannot be read. A number may also be too long to be converted. -/
inductive Error where
  | malformed (m : Malformed)
  | tooLong (limit : DigitLimitExceeded)
deriving DecidableEq, Repr

/-- What stops a scanner: a flaw before what is left, or a number that is too long. -/
inductive Stop where
  | flaw (flaw : Flaw) (rest : List Char)
  | tooLong (limit : DigitLimitExceeded)

/-- The error that a stop amounts to in a document. -/
def Stop.inDocument (document : List Char) : Stop → Error
  | .flaw f rest => .malformed ⟨f, Place.of document rest⟩
  | .tooLong limit => .tooLong limit

/-- Reads something off the front of a text. -/
abbrev Scan (α : Type) := List Char → Except Stop (α × List Char)

def isTomlSpace (c : Char) : Bool := c == ' ' || c == '\t'

def isTomlSpaceOrNewline (c : Char) : Bool := isTomlSpace c || c == '\n'

/-- Control characters, which no comment and no string on one line may hold, a tab apart. -/
def isControl (c : Char) : Bool := (c < ' ' && c != '\t') || c == '\x7f'

def isControlInLines (c : Char) : Bool := isControl c && c != '\n'

def skipSpace (cs : List Char) : List Char := cs.dropWhile isTomlSpace

/-- Splits a text before the first place where `mark` stands. -/
def splitBefore? (mark : List Char) : List Char → Option (List Char × List Char)
  | [] => if mark.isEmpty then some ([], []) else none
  | c :: rest =>
    if mark.isPrefixOf (c :: rest) then some ([], c :: rest)
    else (splitBefore? mark rest).map fun (before, after) => (c :: before, after)

/-- Refuses the characters of `body` that satisfy `bad`; `rest` follows it. -/
def refuse (bad : Char → Bool) (body rest : List Char) : Except Stop Unit :=
  match body.dropWhile fun c => !bad c with
  | [] => .ok ()
  | c :: more => .error (.flaw (.invalidChar c) (c :: more ++ rest))

/-- Passes over a comment, up to the end of its line. -/
def skipComment : List Char → Except Stop (List Char)
  | '#' :: rest => do
    let body := rest.takeWhile (· != '\n')
    let after := rest.dropWhile (· != '\n')
    refuse isControl body after
    return after
  | cs => .ok cs

end SqlTidy.Toml
