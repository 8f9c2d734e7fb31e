import SqlTidy.Shell.Words

/-!
# Reading commands

Tokens make up simple commands, pipelines, lists and the compound commands. A list inside another is
read by the same functions one level deeper; the length of the script bounds the depth.
-/

namespace SqlTidy.Shell

/-- How a list of commands is read: one line of a script, or up to a token that ends it, where it may
have to hold a command. -/
inductive ListKind where
  | line
  | filled
  | open
deriving DecidableEq, Repr

/-- What the reader needs for lists one level deeper. -/
structure Deeper where
  list : ListKind → Reading (Option Command)
  words : Nested

namespace Reading

/-- The next token, keywords and aliases not considered. The first argument bounds the steps. -/
def scanToken (k : Nested) : Nat → Reading Token
  | 0 => setToken .endOfFile
  | steps + 1 => do
    match ← nextJoined with
    | none => setToken .endOfFile
    | some c =>
      if c = ' ' ∨ c = '\t' ∨ c = aliasEnd then scanToken k steps
      else if c = '#' then
        skipComment (← get).bound
        scanToken k steps
      else if c = '\n' then
        countLine
        setToken .newline
      else if c = '&' then orDouble '&' .andAnd .ampersand
      else if c = '|' then orDouble '|' .orOr .bar
      else if c = ';' then orDouble ';' .doubleSemicolon .semicolon
      else if c = '(' then setToken .leftParen
      else if c = ')' then setToken .rightParen
      else readWord k c
where
  /-- A sign that may be doubled. -/
  orDouble (c : Char) (double single : Token) : Reading Token := do
    let d ← nextJoined
    if d = some c then setToken double
    else
      putBack d
      setToken single

/-- The next token, or the last one once more. -/
def rawToken (k : Nested) : Reading Token := do
  let s ← get
  if s.isAgain then
    set { s with isAgain := false }
    return s.token
  else scanToken k s.bound

/-- Passes over ends of lines, and reads the documents due there. The first argument bounds their
number. -/
def skipNewlines (k : Nested) : Nat → Token → Reading Token
  | 0, token => return token
  | steps + 1, token => do
    if token = .newline then
      readDocuments k
      skipNewlines k steps (← rawToken k)
    else return token

/-- The next token. The first argument bounds the number of aliases that are replaced. -/
def readTokenWith (k : Nested) (lookout : Lookout) : Nat → Reading Token
  | 0 => rawToken k
  | steps + 1 => do
    let token ← rawToken k
    let token ← if lookout.newlines then skipNewlines k (← get).bound token else pure token
    let s ← get
    let lookout := lookout.union s.lookout
    set { s with lookout := {} }
    if token ≠ .word ∨ s.isQuoted then return token
    else
      match plainText? s.word with
      | none => return token
      | some text =>
        if lookout.keywords ∧ String.ofList text ∈ keywords then setToken (.keyword (String.ofList text))
        else if lookout.aliases ∧ !(s.pushed.any fun p => p.name == text) then
          match s.aliases.lookup text with
          | some value =>
            if !value.isEmpty then pushAlias text value
            readTokenWith k lookout steps
          | none => return token
        else return token

/-- The next token, as the lookout asks for. -/
def readToken (k : Nested) : Reading Token := do
  let s ← get
  readTokenWith k s.lookout s.bound

/-- The next token has to be this one. -/
def expect (k : Nested) (token : Token) : Reading Unit := do
  if (← readToken k) ≠ token then failAtToken (some token)

/-- Reads the target of the last redirection. -/
def readTarget (k : Nested) : Reading Redirect := do
  let (descriptor, kind) := (← get).redirect
  match kind with
  | .document number _ =>
    lookOut { mark := true }
    if (← readToken k) ≠ .word then failAtToken none
    let s ← get
    let mark := s.word.filterMap fun
      | .char c _ => some c
      | _ => none
    let expands := !s.isQuoted
    let awaited : Awaited := ⟨number, mark, s.dropsTabs, expands⟩
    set { s with awaited := s.awaited ++ [awaited] }
    return .mk descriptor (.document number expands) []
  | kind =>
    if (← readToken k) ≠ .word then failAtToken none
    return .mk descriptor kind (← get).word

/-- Reads redirections behind a compound command. The first argument bounds their number. -/
def readRedirects (k : Nested) : Nat → Reading (List Redirect)
  | 0 => return []
  | steps + 1 => do
    if (← readToken k) = .redirection then
      let r ← readTarget k
      return r :: (← readRedirects k steps)
    else
      again
      return []

/-- A simple command as far as it has been read. -/
structure Simple where
  assignments : List Word := []
  words : List Word := []
  redirects : List Redirect := []

/-- The rest of a function's definition behind its name. -/
def readFunction (k : Nested) (command : Reading Command) (word : Word) : Reading Command := do
  expect k .rightParen
  match plainText? word with
  | some name =>
    if !isName name || String.ofList name ∈ specialBuiltins then fail .functionName
    lookOut .commandLine
    return .function name (← command)
  | none => fail .functionName

/-- Reads a simple command or the definition of a function. The first argument bounds the number of
words. -/
def readSimple (k : Nested) (command : Reading Command) (line : Nat) :
    Nat → Simple → Reading Command
  | 0, c => return .simple line c.assignments c.words c.redirects
  | steps + 1, c => do
    lookOut { aliases := c.words.isEmpty }
    match ← readToken k with
    | .word =>
      let word := (← get).word
      if c.words.isEmpty && isAssignment word then
        readSimple k command line steps { c with assignments := c.assignments ++ [word] }
      else readSimple k command line steps { c with words := c.words ++ [word] }
    | .redirection =>
      let r ← readTarget k
      readSimple k command line steps { c with redirects := c.redirects ++ [r] }
    | token =>
      match token, c with
      | .leftParen, ⟨[], [word], []⟩ => readFunction k command word
      | _, _ =>
        again
        return .simple line c.assignments c.words c.redirects

/-- A list that has to be there. -/
def filled (d : Deeper) : Reading Command := do return (← d.list .filled).getD .nothing

/-- The rest of a conditional behind its first keyword. The first argument bounds the number of tests. -/
def readConditional (d : Deeper) : Nat → Reading Command
  | 0 => failAtToken none
  | steps + 1 => do
    let test ← filled d
    expect d.words (.keyword "then")
    let positive ← filled d
    match ← readToken d.words with
    | .keyword "elif" => return .conditional test positive (← readConditional d steps)
    | .keyword "else" => return .conditional test positive (← filled d)
    | _ =>
      again
      return .conditional test positive .nothing

/-- Words up to another token. The first argument bounds their number. -/
def readWords (k : Nested) : Nat → Reading (List Word)
  | 0 => return []
  | steps + 1 => do
    if (← readToken k) = .word then
      let word := (← get).word
      return word :: (← readWords k steps)
    else return []

/-- The word that stands for all parameters, each a field of its own. -/
def allParameters : Word := [.quote, .parameter ['@'] .value [], .quote]

/-- The rest of a loop over words behind its first keyword. -/
def readForEach (d : Deeper) (line : Nat) : Reading Command := do
  let k := d.words
  let token ← readToken k
  let s ← get
  match token, s.isQuoted, plainText? s.word with
  | .word, false, some name =>
    if !isName name then fail .loopName
    lookOut .commandLine
    let words ←
      if (← readToken k) = .keyword "in" then
        let words ← readWords k (← get).bound
        let ending := (← get).token
        if ending ≠ .newline ∧ ending ≠ .semicolon then failAtToken none
        pure words
      else
        if (← get).token ≠ .semicolon then again
        pure [allParameters]
    lookOut .commandLine
    expect k (.keyword "do")
    return .forEach line name words (← filled d)
  | _, _, _ => fail .loopName

/-- The patterns of an arm, the first of which has been read. The first argument bounds their number. -/
def readPatterns (k : Nested) : Nat → Reading (List Word)
  | 0 => return []
  | steps + 1 => do
    let word := (← get).word
    if (← readToken k) = .bar then
      let _ ← readToken k
      return word :: (← readPatterns k steps)
    else return [word]

/-- The arms of a choice. The first argument bounds their number. -/
def readArms (d : Deeper) : Nat → Reading (List (List Word × Command))
  | 0 => return []
  | steps + 1 => do
    let k := d.words
    lookOut { keywords := true, newlines := true }
    let token ← readToken k
    if token = .keyword "esac" then return []
    else
      if token = .leftParen then let _ ← readToken k
      let patterns ← readPatterns k (← get).bound
      if (← get).token ≠ .rightParen then failAtToken (some .rightParen)
      let body := (← d.list .open).getD .nothing
      lookOut { keywords := true, newlines := true }
      let token ← readToken k
      if token = .keyword "esac" then return [(patterns, body)]
      else if token = .doubleSemicolon then return (patterns, body) :: (← readArms d steps)
      else failAtToken (some .doubleSemicolon)

/-- The rest of a choice behind its first keyword. -/
def readCases (d : Deeper) (line : Nat) : Reading Command := do
  let k := d.words
  if (← readToken k) ≠ .word then failAtToken (some .word)
  let subject := (← get).word
  lookOut .commandLine
  expect k (.keyword "in")
  return .cases line subject (← readArms d (← get).bound)

/-- A compound command, given its first token; `none` if there is no such command. -/
def readCompound (d : Deeper) (line : Nat) (token : Token) : Reading (Option Command) := do
  let k := d.words
  match token with
  | .keyword "if" =>
    let c ← readConditional d (← get).bound
    expect k (.keyword "fi")
    return some c
  | .keyword "while" => some <$> loop true
  | .keyword "until" => some <$> loop false
  | .keyword "for" =>
    let c ← readForEach d line
    expect k (.keyword "done")
    return some c
  | .keyword "case" => some <$> readCases d line
  | .leftParen =>
    let body ← filled d
    expect k .rightParen
    return some (.subshell line body [])
  | .keyword "\x7b" =>
    let body ← filled d
    expect k (.keyword "\x7d")
    return some body
  | _ => return none
where
  /-- A loop that tests. -/
  loop (whileTrue : Bool) : Reading Command := do
    let test ← filled d
    expect d.words (.keyword "do")
    let body ← filled d
    expect d.words (.keyword "done")
    return .loop whileTrue test body

/-- A compound command with redirections. -/
def withRedirects (line : Nat) (c : Command) (rs : List Redirect) : Command :=
  if rs.isEmpty then c
  else
    match c with
    | .subshell line body _ => .subshell line body rs
    | c => .redirected line c rs

/-- Reads a command. The first argument bounds how many functions may be defined in one. -/
def readCommand (d : Deeper) : Nat → Reading Command
  | 0 => failAtToken none
  | steps + 1 => do
    let k := d.words
    let line := (← get).line
    let token ← readToken k
    if token = .word ∨ token = .redirection then
      again
      let s ← get
      readSimple k (readCommand d steps) s.line s.bound {}
    else
      match ← readCompound d line token with
      | none => failAtToken none
      | some c =>
        lookOut .command
        return withRedirects line c (← readRedirects k (← get).bound)

/-- The further commands of a pipeline. The first argument bounds their number. -/
def readPipes (d : Deeper) : Nat → Reading (List Command)
  | 0 => return []
  | steps + 1 => do
    if (← readToken d.words) = .bar then
      lookOut .commandLine
      let c ← readCommand d (← get).bound
      return c :: (← readPipes d steps)
    else
      again
      return []

/-- Reads a pipeline. -/
def readPipeline (d : Deeper) : Reading Command := do
  let isNegated := (← readToken d.words) = .keyword "!"
  if isNegated then lookOut .command else again
  let first ← readCommand d (← get).bound
  let rest ← readPipes d (← get).bound
  let c : Command := if rest.isEmpty then first else .pipeline false (first :: rest)
  return if isNegated then .negation c else c

/-- The further pipelines that depend on how those before them end. The first argument bounds their
number. -/
def readChain (d : Deeper) : Nat → Command → Reading Command
  | 0, c => return c
  | steps + 1, c => do
    match ← readToken d.words with
    | .andAnd =>
      lookOut .commandLine
      let next ← readPipeline d
      readChain d steps (.conjunction c next)
    | .orOr =>
      lookOut .commandLine
      let next ← readPipeline d
      readChain d steps (.disjunction c next)
    | _ =>
      again
      return c

/-- A command that is not waited for. -/
def inBackground : Command → Command
  | .pipeline _ parts => .pipeline true parts
  | .redirected line body rs => .background line body rs
  | c => .background 0 c []

def inSequence (before : Option Command) (c : Command) : Command :=
  match before with
  | none => c
  | some b => .sequence b c

/-- Reads a list of commands; `none` if there is none. The first argument bounds their number. -/
def readListWith (d : Deeper) (kind : ListKind) : Nat → Bool → Option Command →
    Reading (Option Command)
  | 0, _, before => return before
  | steps + 1, mayEnd, before => do
    let isLine := kind == .line
    lookOut { keywords := true, aliases := true, newlines := !isLine }
    let token ← readToken d.words
    if token = .newline then
      readDocuments d.words
      return some (before.getD .nothing)
    else if token = .endOfFile then ending before
    else
      again
      if mayEnd && !isLine && token.endsList then return before
      else
        let c ← readPipeline d
        let c ← readChain d (← get).bound c
        let token ← readToken d.words
        let c := if token = .ampersand then inBackground c else c
        let list := some (inSequence before c)
        match token with
        | .endOfFile => ending list
        | .newline =>
          again
          readListWith d kind steps true list
        | .ampersand => readListWith d kind steps true list
        | .semicolon => readListWith d kind steps true list
        | _ =>
          if isLine then failAtToken none
          again
          return list
where
  /-- The script ends behind a list. -/
  ending (list : Option Command) : Reading (Option Command) := do
    readDocuments d.words
    again
    let _ ← setToken .endOfFile
    return list

/-- Reads a list of commands, lists inside it at most so deep. -/
def readList : Nat → ListKind → Reading (Option Command)
  | 0, _ => fail .parens
  | depth + 1, kind => do
    let inner : Reading Command := do return (← readList depth .open).getD .nothing
    /- Documents that are due inside do not mix with those outside. -/
    let apart (x : Reading Command) : Reading Command := do
      let awaited := (← get).awaited
      modify fun s => { s with awaited := [] }
      let c ← x
      modify fun s => { s with awaited, isAgain := false }
      return c
    let untilParen (k : Nested) : Reading Command := apart do
      let c ← inner
      expect k .rightParen
      let s ← get
      set { s with text := [], pushed := [] }
      readDocuments k
      modify fun after => { after with text := s.text, pushed := s.pushed, line := s.line }
      return c
    let ofText (text : List Char) : Reading Command := apart do
      let s ← get
      set { s with text, pushed := [], line := 1, isAgain := false }
      let c ← inner
      modify fun after => { after with text := s.text, pushed := s.pushed, line := s.line }
      return c
    let flat : Nested := ⟨inner, ofText⟩
    let words : Nested := ⟨untilParen ⟨untilParen flat, ofText⟩, ofText⟩
    readListWith ⟨readList depth, words⟩ kind (← get).bound (kind == .open) none

/-- Reads a prompt: all of a text, as it would be read between double quotes. -/
def readPrompt (depth : Nat) : Reading Word := do
  let inner : Reading Command := do return (← readList depth .open).getD .nothing
  let k : Nested := ⟨inner, fun _ => inner⟩
  let endless : Awaited := ⟨0, ['\x00'], false, true⟩
  let (d, _) ← finishDraft k (some endless) { level := { mode := .double, isQuoted := true } } (← nextJoined)
  return d.pieces.reverse

end Reading

/-- Reads the next line of commands of a script; `none` at its end. -/
def Source.next (s : Source) : Except (Nat × Flaw) (Option Command) × Source :=
  (Reading.readList s.bound .line).run
    { s with isAgain := false, lookout := {}, awaited := [], isQuoted := false }

end SqlTidy.Shell
