import SqlTidy.Shell.Script

/-!
# The text of a script while it is read

A script is read character by character and token by token. The text of an alias is read in front of
what is left of the script; the alias is not replaced again until its text has been read. What the
reader looks out for next (`Lookout`) depends on where a token stands.
-/

namespace SqlTidy.Shell

inductive Token where
  | endOfFile
  | newline
  | semicolon
  | ampersand
  | andAnd
  | orOr
  | bar
  | leftParen
  | rightParen
  | doubleSemicolon
  | redirection
  | word
  | keyword (text : String)
deriving DecidableEq, Repr

namespace Token

/-- How a token is put in a complaint. -/
def shown : Token → String
  | .endOfFile => "end of file"
  | .newline => "newline"
  | .semicolon => "\";\""
  | .ampersand => "\"&\""
  | .andAnd => "\"&&\""
  | .orOr => "\"||\""
  | .bar => "\"|\""
  | .leftParen => "\"(\""
  | .rightParen => "\")\""
  | .doubleSemicolon => "\";;\""
  | .redirection => "redirection"
  | .word => "word"
  | .keyword text => "\"" ++ text ++ "\""

/-- Whether a token ends a list of commands. -/
def endsList : Token → Bool
  | .endOfFile => true
  | .rightParen => true
  | .doubleSemicolon => true
  | .keyword text => text ∈ ["do", "done", "elif", "else", "esac", "fi", "then", "\x7d"]
  | _ => false

end Token

def keywords : List String :=
  ["!", "case", "do", "done", "elif", "else", "esac", "fi", "for", "if", "in", "then", "until", "while",
    "\x7b", "\x7d"]

/-- What is wrong with a script. -/
inductive Flaw where
  | unexpected (token : Token) (expected : Option Token)
  | loopName
  | functionName
  | descriptor
  | quotes
  | brace
  | parens
  | backquote
deriving DecidableEq, Repr

def Flaw.text : Flaw → String
  | .unexpected token none => token.shown ++ " unexpected"
  | .unexpected token (some other) => token.shown ++ " unexpected (expecting " ++ other.shown ++ ")"
  | .loopName => "Bad for loop variable"
  | .functionName => "Bad function name"
  | .descriptor => "Bad fd number"
  | .quotes => "Unterminated quoted string"
  | .brace => "Missing '\x7d'"
  | .parens => "Missing '))'"
  | .backquote => "EOF in backquote substitution"

/-- What to look out for: keywords and aliases instead of words, lines to pass over. A mark is a word in
which nothing is expanded. -/
structure Lookout where
  keywords : Bool := false
  aliases : Bool := false
  newlines : Bool := false
  mark : Bool := false
deriving DecidableEq, Repr

/-- What is looked out for where a command may begin. -/
def Lookout.command : Lookout := ⟨true, true, false, false⟩

/-- As `command`, lines passed over. -/
def Lookout.commandLine : Lookout := ⟨true, true, true, false⟩

def Lookout.union (a b : Lookout) : Lookout :=
  ⟨a.keywords || b.keywords, a.aliases || b.aliases, a.newlines || b.newlines, a.mark || b.mark⟩

/-- A document that is still to be read: its number, the line that ends it, whether tabs in front of its
lines are dropped and whether it is expanded. -/
structure Awaited where
  number : Nat
  mark : List Char
  dropsTabs : Bool
  expands : Bool

/-- What is read where the text of an alias ends: no octet, but a sign that ends words. -/
def aliasEnd : Char := '\u0100'

/-- The text of an alias that is being read. -/
structure Pushed where
  text : List Char
  name : List Char
  /-- Whether the word behind it may be an alias, too. -/
  leadsOn : Bool

structure Source where
  /-- What is left of the script. -/
  text : List Char
  /-- Texts of aliases that are read first. -/
  pushed : List Pushed
  line : Nat
  /-- The last token, and whether it is to be read again. -/
  token : Token
  isAgain : Bool
  /-- The last word, and whether anything in it was quoted. -/
  word : Word
  isQuoted : Bool
  lookout : Lookout
  /-- The last redirection, its target still to come. -/
  redirect : Nat × RedirectKind
  dropsTabs : Bool
  awaited : List Awaited
  /-- The documents read so far. -/
  documents : List (Nat × Word)
  nextDocument : Nat
  aliases : List (List Char × List Char)

/-- A script at its start. -/
def Source.ofText (text : List Char) : Source where
  text := text
  pushed := []
  line := 1
  token := .newline
  isAgain := false
  word := []
  isQuoted := false
  lookout := {}
  redirect := (0, .fromFile)
  dropsTabs := false
  awaited := []
  documents := []
  nextDocument := 0
  aliases := []

/-- A bound on the steps that reading may take. -/
def Source.bound (s : Source) : Nat :=
  s.pushed.foldl (fun n x => n + x.text.length) (4096 + s.text.length)

/-- A step of reading. A script that makes no sense is given up at a line. -/
abbrev Reading (α : Type) := ExceptT (Nat × Flaw) (StateM Source) α

namespace Reading

/-- Gives the script up. -/
def fail {α : Type} (flaw : Flaw) : Reading α := do throw ((← get).line, flaw)

/-- Gives the script up at the last token. -/
def failAtToken {α : Type} (expected : Option Token) : Reading α := do
  fail (.unexpected (← get).token expected)

/-- Leaves texts of aliases that have been read. -/
def leaveAliases : List Pushed → Lookout → List Pushed × Lookout
  | ⟨[], _, leadsOn⟩ :: rest, lookout =>
    leaveAliases rest { lookout with aliases := lookout.aliases || leadsOn }
  | pushed, lookout => (pushed, lookout)

/-- The next character; `none` at the end. -/
def nextChar : Reading (Option Char) := do
  let s ← get
  let (pushed, lookout) := leaveAliases s.pushed s.lookout
  match pushed, s.text with
  | ⟨c :: cs, name, leadsOn⟩ :: rest, _ =>
    set { s with pushed := ⟨cs, name, leadsOn⟩ :: rest, lookout }
    return some c
  | _, c :: cs =>
    set { s with pushed, lookout, text := cs }
    return some c
  | _, [] =>
    set { s with pushed, lookout }
    return none

/-- Puts a character back. -/
def putBack (c : Option Char) : Reading Unit := do
  match c with
  | none => pure ()
  | some c =>
    modify fun s =>
      match s.pushed with
      | top :: rest => { s with pushed := { top with text := c :: top.text } :: rest }
      | [] => { s with text := c :: s.text }

/-- Starts to read the text of an alias. Unless it ends in a blank, no word goes on behind it. -/
def pushAlias (name text : List Char) : Reading Unit :=
  let leadsOn := text.getLast? == some ' ' || text.getLast? == some '\t'
  modify fun s =>
    { s with pushed := ⟨if leadsOn then text else text ++ [aliasEnd], name, leadsOn⟩ :: s.pushed }

/-- Counts a line. -/
def countLine : Reading Unit := modify fun s => { s with line := s.line + 1 }

/-- The next character, joined lines passed over. The first argument bounds their number. -/
def nextJoinedWith : Nat → Reading (Option Char)
  | 0 => nextChar
  | steps + 1 => do
    let c ← nextChar
    if c = some '\\' then
      let d ← nextChar
      if d = some '\n' then
        countLine
        nextJoinedWith steps
      else
        putBack d
        return c
    else return c

/-- The next character, joined lines passed over. -/
def nextJoined : Reading (Option Char) := do nextJoinedWith (← get).bound

/-- Passes over the rest of a line. The first argument bounds its length. -/
def skipComment : Nat → Reading Unit
  | 0 => pure ()
  | steps + 1 => do
    let c ← nextChar
    if c = some '\n' then putBack c
    else if c = none then pure ()
    else skipComment steps

/-- Lets the last token be read again. -/
def again : Reading Unit := modify fun s => { s with isAgain := true }

def setToken (token : Token) : Reading Token := do
  modify fun s => { s with token }
  return token

def lookOut (lookout : Lookout) : Reading Unit := modify fun s => { s with lookout }

end Reading

end SqlTidy.Shell
