import SqlTidy.Shell.Source

/-!
# Reading words

A word is read as one draft. Quotes change how characters are taken (`Mode`), braces and parentheses
open expansions that have to be closed again. The same reader serves the documents that follow a
command, which end at a line of their own.
-/

namespace SqlTidy.Shell

/-- How characters are taken. -/
inductive Mode where
  | plain
  | double
  | single
  | arithmetic
deriving DecidableEq, Repr

/-- One level of quotes and braces. -/
structure Level where
  mode : Mode
  /-- Whether double quotes stand around it all. -/
  isQuoted : Bool := false
  /-- Whether double quotes are open inside braces. -/
  hasInnerQuotes : Bool := false
  /-- Whether the level ends with its last brace. -/
  endsWithBrace : Bool := false
  braces : Nat := 0
  quotedBraces : Nat := 0
  parens : Nat := 0

/-- An expansion that is not closed yet. -/
inductive Frame where
  | parameter (name : List Char) (use : ParameterUse)
  | arithmetic

def Frame.piece : Frame → List Piece → Piece
  | .parameter name use, word => .parameter name use word
  | .arithmetic, word => .arithmetic word

/-- A word as far as it has been read; the last piece comes first. -/
structure Draft where
  level : Level
  outer : List Level := []
  pieces : List Piece := []
  frames : List (Frame × List Piece) := []
  isQuoted : Bool := false

namespace Draft

def add (d : Draft) (p : Piece) : Draft := { d with pieces := p :: d.pieces }

def addChar (d : Draft) (c : Char) (isEscaped : Bool) : Draft := d.add (.char c isEscaped)

def enter (d : Draft) (frame : Frame) : Draft :=
  { d with frames := (frame, d.pieces) :: d.frames, pieces := [] }

/-- Closes the innermost expansion. -/
def leave (d : Draft) : Draft :=
  match d.frames with
  | (frame, before) :: frames => { d with frames, pieces := frame.piece d.pieces.reverse :: before }
  | [] => d

def pushLevel (d : Draft) (level : Level) : Draft := { d with level, outer := d.level :: d.outer }

def popLevel (d : Draft) : Draft :=
  match d.outer with
  | level :: outer => { d with level, outer }
  | [] => d

def setMode (d : Draft) (mode : Mode) (isQuoted : Bool) : Draft :=
  { d with level := { d.level with mode, isQuoted } }

/-- Notes quotes; in a document they are not kept. -/
def markQuote (d : Draft) (inDocument : Bool) : Draft := if inDocument then d else d.add .quote

/-- Double quotes inside braces are open or closed again. -/
def toggleInner (d : Draft) : Draft :=
  if d.level.braces = 0 then d
  else { d with level := { d.level with hasInnerQuotes := !d.level.hasInnerQuotes } }

/-- Opens an expansion in braces. -/
def openBrace (d : Draft) (name : List Char) (use : ParameterUse) (takesPattern : Bool) : Draft :=
  let mode : Mode :=
    if takesPattern then .plain else if d.level.mode = .arithmetic then .double else d.level.mode
  let d :=
    if mode ≠ d.level.mode ∨ d.level.hasInnerQuotes then
      d.pushLevel { mode, isQuoted := mode != .plain, endsWithBrace := true }
    else d
  let level := d.level
  { d with
    level := { level with
      braces := level.braces + 1
      quotedBraces := level.quotedBraces + if level.isQuoted then 1 else 0 } }.enter (.parameter name use)

/-- Takes a closing brace. -/
def closeBrace (d : Draft) : Draft :=
  if d.level.hasInnerQuotes ∨ d.level.braces = 0 then d.addChar '\x7d' (d.level.mode == .double)
  else
    let level := { d.level with braces := d.level.braces - 1 }
    let d := d.leave
    if level.braces = 0 ∧ level.endsWithBrace then d.popLevel
    else { d with level := { level with quotedBraces := level.quotedBraces - 1 } }

end Draft

/-- How commands inside a word are read: up to a closing parenthesis, or from a text of their own. -/
structure Nested where
  untilParen : Reading Command
  ofText : List Char → Reading Command

/-- Parameters named by one sign. -/
def isSpecialParameter (c : Char) : Bool := "@*#?$!-".toList.contains c || isNumeral c

/-- Characters that end a word. -/
def isMeta (c : Char) : Bool := c == aliasEnd || " \t;&|<>()".toList.contains c

namespace Reading

/-- Reads characters of a kind, given the first one. Yields them and the character behind them. The first
argument bounds their number. -/
def readRun (isWanted : Char → Bool) : Nat → Option Char → Reading (List Char × Option Char)
  | 0, c => return ([], c)
  | _, none => return ([], none)
  | steps + 1, some c => do
    if isWanted c then
      let (cs, next) ← readRun isWanted steps (← nextJoined)
      return (c :: cs, next)
    else return ([], some c)

/-- What the braces of a parameter begin with. -/
inductive Opening where
  | named (name : List Char) (next : Option Char)
  | measured (name : List Char)
  | broken

/-- The name of a parameter that starts with a character; one without braces has one digit at most. -/
def readName (inBraces : Bool) (c : Char) : Reading (Option (List Char × Option Char)) := do
  let bound := (← get).bound
  if isNameStart c then return some (← readRun isNameChar bound (some c))
  else if isNumeral c then
    if inBraces then return some (← readRun isNumeral bound (some c))
    else return some ([c], ← nextJoined)
  else return none

/-- The name in braces, with a number sign in front if the length is asked for. -/
def readOpening (c : Option Char) : Reading Opening := do
  match c with
  | none => do
    return .broken
  | some c =>
    match ← readName true c with
    | some (name, next) => return .named name next
    | none =>
      if c = '\x7d' then
        putBack (some c)
        return .broken
      else
        let next ← nextJoined
        if c = '#' then
          let named ←
            match next with
            | some d => if isNameChar d then readName true d else pure none
            | none => pure none
          match named with
          | some (name, next) =>
            putBack next
            return if next = some '\x7d' then .measured name else .broken
          | none =>
            let behind ← nextJoined
            if next = some '\x7d' ∨ behind ≠ some '\x7d' then
              putBack behind
              return .named ['#'] next
            else
              putBack behind
              match next with
              | some d => return if isSpecialParameter d then .measured [d] else .broken
              | none => return .broken
        else if isSpecialParameter c then return .named [c] next
        else
          putBack next
          return .broken

/-- The use that follows a name in braces. -/
def readUse (next : Option Char) : Reading ParameterUse := do
  let plainUse (emptyCounts : Bool) (c : Option Char) : ParameterUse :=
    match c with
    | some '-' => .byDefault emptyCounts
    | some '+' => .ifSet emptyCounts
    | some '?' => .required emptyCounts
    | some '=' => .assigning emptyCounts
    | some '\x7d' => if emptyCounts then .invalid else .value
    | _ => .invalid
  match next with
  | some ':' => return plainUse true (← nextJoined)
  | some c =>
    if c = '%' ∨ c = '#' then
      let d ← nextJoined
      if d = some c then return .cut (c == '#') true
      else
        putBack d
        return .cut (c == '#') false
    else return plainUse false (some c)
  | none => return .invalid

/-- Reads what follows a dollar sign. -/
def readExpansion (k : Nested) (d : Draft) : Reading Draft := do
  let c? ← nextJoined
  let isMark := (← get).lookout.mark
  match c? with
  | none => return d.addChar '$' false
  | some c =>
    if isMark || !(c == '(' || c == '\x7b' || isNameStart c || isSpecialParameter c) then
      putBack (some c)
      return d.addChar '$' false
    else if c = '(' then
      let e ← nextJoined
      if e = some '(' then
        return (d.pushLevel { mode := .arithmetic, isQuoted := true }).enter .arithmetic
      else
        putBack e
        return d.add (.substitution (← k.untilParen))
    else if c = '\x7b' then
      match ← readOpening (← nextJoined) with
      | .broken => return d.openBrace [] .invalid false
      | .measured name => return d.openBrace name .length false
      | .named name next =>
        match ← readUse next with
        | .value => return d.add (.parameter name .value [])
        | .cut fromStart longest => return d.openBrace name (.cut fromStart longest) true
        | use => return d.openBrace name use false
    else
      match ← readName false c with
      | some (name, next) =>
        putBack next
        return d.add (.parameter name .value [])
      | none => return d.add (.parameter [c] .value [])

/-- Collects the text of a substitution between backquotes. The first argument bounds its length. -/
def readBackquoted (isQuoted : Bool) : Nat → Reading (List Char)
  | 0 => fail .backquote
  | steps + 1 => do
    match ← nextJoined with
    | none => fail .backquote
    | some '`' => return []
    | some '\\' =>
      let c ← nextChar
      match c with
      | none => fail .backquote
      | some c =>
        let cs ← readBackquoted isQuoted steps
        if c = '\\' ∨ c = '`' ∨ c = '$' ∨ (isQuoted ∧ c = '"') then return c :: cs
        else return '\\' :: c :: cs
    | some c =>
      if c = '\n' then countLine
      let cs ← readBackquoted isQuoted steps
      return if c = aliasEnd then cs else c :: cs

/-- Whether the text from a character on is the mark of a document's end, which is then passed over. -/
def followMark : List Char → Option Char → Reading Bool
  | [], none => return true
  | [], some c => do
    if c = '\n' then countLine
    return c == '\n'
  | m :: ms, c => do
    if c = some m then followMark ms (← nextChar) else return false

/-- Passes over tabs. The first argument bounds their number. -/
def skipTabs : Nat → Option Char → Reading (Option Char)
  | 0, c => return c
  | steps + 1, c => do if c = some '\t' then skipTabs steps (← nextChar) else return c

/-- At the start of a line of a document: the first character of the line, or `none` where the document
ends. -/
def startLine (document : Option Awaited) (c : Option Char) : Reading (Option Char) := do
  match document with
  | none => return c
  | some a =>
    let c ← if a.dropsTabs then skipTabs (← get).bound c else pure c
    let before ← get
    if ← followMark a.mark c then return none
    else
      set before
      return c

/-- Reads what follows a backslash. -/
def readEscape (inDocument : Bool) (d : Draft) : Reading Draft := do
  match ← nextChar with
  | none => return d.addChar '\\' true
  | some c =>
    let level := d.level
    let keepsSign := level.isQuoted ∧ c ≠ '\\' ∧ c ≠ '`' ∧ c ≠ '$'
      ∧ (c ≠ '"' ∨ (inDocument ∧ level.braces = 0)) ∧ (c ≠ '\x7d' ∨ level.braces = 0)
    let d := if keepsSign then d.addChar '\\' true else d
    return { d.addChar c true with isQuoted := true }

/-- Takes quotes that end. -/
def endQuote (inDocument : Bool) (c : Char) (d : Draft) : Draft :=
  if inDocument && d.level.braces == 0 then d.addChar c true
  else
    let d := if d.level.quotedBraces = 0 then d.setMode .plain false else d
    let d := { d with isQuoted := true }
    (if c = '"' then d.toggleInner else d).markQuote inDocument

/-- Takes a closing parenthesis in arithmetic. -/
def endArithmetic (d : Draft) : Reading Draft := do
  if 0 < d.level.parens then
    return { d.addChar ')' false with level := { d.level with parens := d.level.parens - 1 } }
  else
    let c ← nextJoined
    if c = some ')' then return d.leave.popLevel
    else
      putBack c
      return d.addChar ')' false

/-- What becomes of a draft with one more character; `none` if the word ends before it. -/
def takeChar (k : Nested) (inDocument : Bool) (d : Draft) (c : Char) : Reading (Option Draft) := do
  let mode := d.level.mode
  let inQuotes := mode == .double || mode == .single
  if c = aliasEnd then return if mode = .plain ∧ d.level.braces = 0 then none else some d
  else if mode = .single then
    return some (if c = '\'' then endQuote inDocument c d else d.addChar c true)
  else if c = '\\' then return some (← readEscape inDocument d)
  else if c = '$' then return some (← readExpansion k d)
  else if c = '`' then
    if (← get).lookout.mark then return some { d.addChar c inQuotes with isQuoted := true }
    else
      let text ← readBackquoted d.level.isQuoted (← get).bound
      return some (d.add (.substitution (← k.ofText text)))
  else if c = '\x7d' then return some d.closeBrace
  else
    match mode with
    | .plain =>
      if c = '\'' then return some ((d.setMode .single d.level.isQuoted).markQuote inDocument)
      else if c = '"' then return some ((d.setMode .double true).toggleInner.markQuote inDocument)
      else if isMeta c && d.level.braces == 0 then return none
      else return some (d.addChar c false)
    | .double => return some (if c = '"' then endQuote inDocument c d else d.addChar c true)
    | .arithmetic =>
      if c = '(' then
        return some { d.addChar c false with level := { d.level with parens := d.level.parens + 1 } }
      else if c = ')' then return some (← endArithmetic d)
      else return some (d.addChar c false)
    | .single => return some d

/-- Goes on with a draft, given the next character. Yields the character that ended the word, too. The
first argument bounds the number of characters. -/
def readDraft (k : Nested) (document : Option Awaited) : Nat → Draft → Option Char →
    Reading (Draft × Option Char)
  | 0, d, c => return (d, c)
  | _, d, none => return (d, none)
  | steps + 1, d, some c => do
    if c = '\n' then
      if d.level.mode = .plain ∧ d.level.braces = 0 then return (d, some c)
      else
        countLine
        let next ← if d.level.mode = .single then nextChar else nextJoined
        let next ← startLine document next
        readDraft k document steps (d.addChar c (d.level.mode == .double || d.level.mode == .single)) next
    else
      match ← takeChar k document.isSome d c with
      | none => return (d, some c)
      | some d =>
        let next ← if d.level.mode = .single then nextChar else nextJoined
        readDraft k document steps d next

/-- Reads a draft to its end; all that was opened has to be closed. -/
def finishDraft (k : Nested) (document : Option Awaited) (d : Draft) (c : Option Char) :
    Reading (Draft × Option Char) := do
  let c ← startLine document c
  let (d, c) ← readDraft k document (← get).bound d c
  if d.level.mode = .arithmetic then fail .parens
  else if d.level.mode ≠ .plain ∧ document.isNone then fail .quotes
  else if d.level.braces ≠ 0 then fail .brace
  else return (d, c)

/-- The text of a document. -/
def readDocument (k : Nested) (a : Awaited) : Reading Unit := do
  let mode : Mode := if a.expands then .double else .single
  let c ← if a.expands then nextJoined else nextChar
  let (d, _) ← finishDraft k (some a) { level := { mode, isQuoted := a.expands } } c
  modify fun s => { s with documents := (a.number, d.pieces.reverse) :: s.documents }

/-- Reads the documents that are due. -/
def readDocuments (k : Nested) : Reading Unit := do
  let awaited := (← get).awaited
  modify fun s => { s with awaited := [] }
  awaited.forM (readDocument k)

/-- Reads the sign of a redirection, given its first character and the digit in front of it. -/
def readRedirection (c : Char) (digit : Option Nat) : Reading Token := do
  let d ← nextJoined
  if c = '>' then
    let descriptor := digit.getD 1
    let kind ←
      match d with
      | some '>' => pure RedirectKind.appending
      | some '|' => pure .overwriting
      | some '&' => pure .copied
      | d => do
        putBack d
        pure .toFile
    modify fun s => { s with redirect := (descriptor, kind) }
  else
    let descriptor := digit.getD 0
    match d with
    | some '<' =>
      let e ← nextJoined
      if e ≠ some '-' then putBack e
      modify fun s =>
        { s with
          redirect := (descriptor, .document s.nextDocument true)
          nextDocument := s.nextDocument + 1
          dropsTabs := e == some '-' }
    | some '&' => modify fun s => { s with redirect := (descriptor, .copied) }
    | some '>' => modify fun s => { s with redirect := (descriptor, .toAndFrom) }
    | d =>
      putBack d
      modify fun s => { s with redirect := (descriptor, .fromFile) }
  setToken .redirection

/-- The digit that a draft consists of, or nothing if it is empty. -/
def soleDigit? (d : Draft) : Option (Option Nat) :=
  match d.pieces with
  | [] => some none
  | [.char c false] => if isNumeral c then some (some (c.toNat - 48)) else none
  | _ => none

/-- Reads a word, or a redirection with a digit in front. -/
def readWord (k : Nested) (c : Char) : Reading Token := do
  let (d, ending) ← finishDraft k none { level := { mode := .plain } } (some c)
  match ending, soleDigit? d with
  | some e, some digit =>
    if (e = '<' ∨ e = '>') ∧ ¬ d.isQuoted then readRedirection e digit
    else finish d ending
  | _, _ => finish d ending
where
  /-- The word is complete. -/
  finish (d : Draft) (ending : Option Char) : Reading Token := do
    putBack ending
    modify fun s => { s with word := d.pieces.reverse, isQuoted := d.isQuoted }
    setToken .word

end Reading

end SqlTidy.Shell
