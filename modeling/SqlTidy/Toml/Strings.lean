import SqlTidy.Toml.Error

/-!
# TOML strings

Literal strings stand for themselves. Basic strings have escapes. Both have a form of several lines
between triple quotes, where a line feed right after the opening does not count, a backslash at the
end of a line swallows the blanks up to the next character, and up to two quotes may stand before
the closing ones.
-/

namespace SqlTidy.Toml

def isHexDigit (c : Char) : Bool :=
  ('0' ≤ c && c ≤ '9') || ('a' ≤ c && c ≤ 'f') || ('A' ≤ c && c ≤ 'F')

def hexValue (c : Char) : Nat :=
  if c ≤ '9' then c.toNat - 48 else if c ≤ 'F' then c.toNat - 55 else c.toNat - 87

/-- A character given by `count` hexadecimal digits. -/
def hexChar (count : Nat) (cs : List Char) : Except Stop (Char × List Char) :=
  let digits := cs.take count
  if digits.length ≠ count ∨ ¬ digits.all isHexDigit then .error (.flaw .hexValue cs)
  else
    let code := digits.foldl (fun n c => 16 * n + hexValue c) 0
    let rest := cs.drop count
    if code < 0xD800 ∨ (0xDFFF < code ∧ code < 0x110000) then .ok (Char.ofNat code, rest)
    else .error (.flaw .notScalar rest)

/-- The escapes of one letter. -/
def simpleEscapes : List (Char × Char) :=
  [('b', '\x08'), ('t', '\t'), ('n', '\n'), ('f', '\x0c'), ('r', '\r'), ('"', '"'), ('\\', '\\')]

/-- What an escape stands for; given is what follows the backslash. -/
def escape (multiline : Bool) (cs : List Char) : Except Stop (List Char × List Char) :=
  match cs with
  | [] => .error (.flaw .strayBackslash [])
  | c :: rest =>
    if multiline && isTomlSpaceOrNewline c then
      match (if c = '\n' then some rest else
          match skipSpace rest with
          | '\n' :: more => some more
          | _ => none) with
      | some more => .ok ([], more.dropWhile isTomlSpaceOrNewline)
      | none => if (skipSpace rest).isEmpty then .ok ([], []) else .error (.flaw .strayBackslash (skipSpace rest))
    else if c = 'u' then (hexChar 4 rest).map fun (d, more) => ([d], more)
    else if c = 'U' then (hexChar 8 rest).map fun (d, more) => ([d], more)
    else
      match simpleEscapes.lookup c with
      | some d => .ok ([d], rest)
      | none => .error (.flaw .strayBackslash rest)

/-- The rest of a basic string; `body` holds what was read of it, last first. The first argument
bounds the steps, of which there are no more than characters. -/
def basicString (multiline : Bool) : Nat → List Char → Scan String
  | 0, _, rest => .error (.flaw .unterminated rest)
  | _, _, [] => .error (.flaw .unterminated [])
  | steps + 1, body, c :: rest =>
    if c = '"' then
      if !multiline then .ok (String.ofList body.reverse, rest)
      else
        match rest with
        | '"' :: '"' :: after => .ok (String.ofList body.reverse, after)
        | _ => basicString multiline steps ('"' :: body) rest
    else if c = '\\' then do
      let (chars, after) ← escape multiline rest
      basicString multiline steps (chars.reverse ++ body) after
    else if (if multiline then isControlInLines c else isControl c) then
      .error (.flaw (.illegalChar c) (c :: rest))
    else basicString multiline steps (c :: body) rest

/-- A basic string on one line, after its opening quote. -/
def lineString (cs : List Char) : Except Stop (String × List Char) :=
  basicString false (cs.length + 1) [] cs

/-- A literal string on one line, after its opening quote. -/
def literalString (cs : List Char) : Except Stop (String × List Char) :=
  match splitBefore? ['\''] cs with
  | none => .error (.flaw (.expected "'") [])
  | some (body, after) => do
    refuse isControl body after
    return (String.ofList body, after.drop 1)

/-- Takes up to two more quotes into a string of several lines. -/
def extraQuotes (quote : Char) (body : String) (cs : List Char) : String × List Char :=
  match cs with
  | c :: rest =>
    if c = quote then
      match rest with
      | d :: more => if d = quote then ((body.push quote).push quote, more) else (body.push quote, rest)
      | [] => (body.push quote, [])
    else (body, cs)
  | [] => (body, [])

def dropNewline : List Char → List Char
  | '\n' :: rest => rest
  | cs => cs

/-- A basic string of several lines, after its opening quotes. -/
def linesString (cs : List Char) : Except Stop (String × List Char) := do
  let cs := dropNewline cs
  let (body, after) ← basicString true (cs.length + 1) [] cs
  return extraQuotes '"' body after

/-- A literal string of several lines, after its opening quotes. -/
def literalLines (cs : List Char) : Except Stop (String × List Char) :=
  let cs := dropNewline cs
  match splitBefore? ['\'', '\'', '\''] cs with
  | none => .error (.flaw (.expected "'''") [])
  | some (body, after) => do
    refuse isControlInLines body after
    return extraQuotes '\'' (String.ofList body) (after.drop 3)

end SqlTidy.Toml
