import SqlTidy.Number.Digits
import SqlTidy.Text.Printable
import SqlTidy.Text.Utf8

/-!
# Quoted texts

File names and characters appear in messages between quotes. A single quote is used unless the text
has one and has no double quote. Backslashes, the quote in use and all that cannot be printed are
escaped, in two, four or eight hexadecimal digits.
-/

namespace SqlTidy

/-- The quote for a text with these characters. -/
def quoteFor (cs : List Char) : Char :=
  if cs.contains '\'' && !cs.contains '"' then '"' else '\''

def quoteChar (quote c : Char) : String :=
  if c == quote || c == '\\' then String.ofList ['\\', c]
  else if c == '\n' then "\\n"
  else if c == '\r' then "\\r"
  else if c == '\t' then "\\t"
  else if isPrintable c then String.singleton c
  else if c.toNat < 0x100 then "\\x" ++ hexText 2 c.toNat
  else if c.toNat < 0x10000 then "\\u" ++ hexText 4 c.toNat
  else "\\U" ++ hexText 8 c.toNat

/-- A text between quotes. -/
def quoted (s : String) : String :=
  let quote := quoteFor s.toList
  String.singleton quote ++ String.join (s.toList.map (quoteChar quote)) ++ String.singleton quote

def quoteOctet (quote : Char) (b : UInt8) : String :=
  if b < 0x80 then quoteChar quote (Char.ofNat b.toNat) else "\\x" ++ hexText 2 b.toNat

/-- Octets between quotes, those beyond ASCII escaped. -/
def quotedOctets (bs : List UInt8) : String :=
  let quote := quoteFor (bs.map fun b => Char.ofNat b.toNat)
  "b" ++ String.singleton quote ++ String.join (bs.map (quoteOctet quote)) ++ String.singleton quote

/-- A text between quotes; each octet that belongs to no character is escaped by a code of its own. -/
def quotedLoosely (bs : Octets) : String :=
  let pieces := utf8Pieces bs
  let quote := quoteFor (pieces.map Utf8Piece.replaced)
  let shown : Utf8Piece → String
    | .char c => quoteChar quote c
    | .flawed octets _ => String.join (octets.map fun b => "\\udc" ++ hexText 2 b.toNat)
  String.singleton quote ++ String.join (pieces.map shown) ++ String.singleton quote

/-- A sequence of quoted texts in parentheses, with a comma after a single one. -/
def quotedTuple : List String → String
  | [] => "()"
  | [s] => "(" ++ quoted s ++ ",)"
  | ss => "(" ++ String.intercalate ", " (ss.map quoted) ++ ")"

end SqlTidy
