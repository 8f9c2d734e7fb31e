import SqlTidy.Shell.Text

/-!
# Names in complaints

A complaint shows a name so that it can be pasted into a shell: without quotes if it needs none, in single
quotes, or in double quotes where that is shorter. Octets that cannot be shown are escaped. An operand that is
quoted from the arguments has its quotes and backslashes escaped instead.
-/

namespace SqlTidy.Tools

def isShown (c : Char) : Bool := ' ' ≤ c && c ≤ '~'

/-- The letter behind a backslash for a control character that has one. -/
def escapeLetter? (c : Char) : Option Char :=
  [('\x07', 'a'), ('\x08', 'b'), ('\x0c', 'f'), ('\n', 'n'), ('\r', 'r'), ('\t', 't'), ('\x0b', 'v')].lookup c

def octalDigit (n : Nat) : Char := Char.ofNat (n % 8 + 48)

/-- A backslash and three octal digits. -/
def octalEscape (c : Char) : List Char :=
  ['\\', octalDigit (c.toNat / 64), octalDigit (c.toNat / 8), octalDigit c.toNat]

/-- A character that cannot be shown, escaped. -/
def escaped (c : Char) : List Char :=
  match escapeLetter? c with
  | some letter => ['\\', letter]
  | none => octalEscape c

/-- Characters that have to be quoted wherever they are. -/
def specials : List Char := " !\"$&'()*;<=>?[\\^`|:".toList

/-- Whether a name has to be quoted. -/
def needsQuotes (name : List Char) : Bool :=
  name.isEmpty || name == ['\x7b'] || name == ['\x7d'] || name.head? == some '#' || name.head? == some '~' ||
    name.any fun c => !isShown c || specials.contains c

/-- Characters that mean the same inside double quotes. -/
def isPlainInDouble (c : Char) : Bool := c.isAlphanum || " '%+,-./:@]_".toList.contains c

/-- Whether double quotes do for a name. -/
def fitsDouble : List Char → Bool
  | [] => true
  | c :: rest => (c == '#' || c == '~' || isPlainInDouble c) && rest.all isPlainInDouble

/-- The inside of single quotes. `isEscaping` says whether the characters before were escaped ones. -/
def insideSingle (isEscaping : Bool) : List Char → List Char
  | [] => []
  | c :: rest =>
    if c = '\'' then "'\\''".toList ++ insideSingle false rest
    else if isShown c then (if isEscaping then "''".toList else []) ++ c :: insideSingle false rest
    else (if isEscaping then [] else "'$'".toList) ++ escaped c ++ insideSingle true rest

/-- A name in quotes. -/
def quoted (name : List Char) : List Char :=
  if name.contains '\'' && fitsDouble name then '"' :: name ++ ['"'] else '\'' :: insideSingle false name ++ ['\'']

/-- A name in quotes if it needs them. -/
def shown (name : List Char) : List Char := if needsQuotes name then quoted name else name

/-- An operand in quotes. -/
def cited (operand : List Char) : List Char :=
  '\'' :: operand.flatMap (fun c =>
    if c = '\'' ∨ c = '\\' then ['\\', c] else if isShown c then [c] else escaped c) ++ ['\'']

end SqlTidy.Tools
