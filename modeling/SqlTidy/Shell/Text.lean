import SqlTidy.Text.Utf8

/-!
# Octets as characters

Scripts and what they write are octets. Here each octet is one character, so that pattern matching and
quoting can be written down plainly; texts of the outside are taken apart into their octets first.
-/

namespace SqlTidy.Shell

def ofOctets (bs : Octets) : List Char := bs.map fun b => Char.ofNat b.toNat

def toOctets (cs : List Char) : Octets := cs.map fun c => UInt8.ofNat c.toNat

def ofText (s : String) : List Char := ofOctets (utf8Encode s)

def toText (cs : List Char) : String := utf8DecodeLenient (toOctets cs)

/-- Classes of characters by name. -/
def classOf? (name : String) : Option (Char → Bool) :=
  match name with
  | "lower" => some isLower
  | "upper" => some isUpper
  | "alpha" => some isAlpha
  | "digit" => some isDigit
  | "alnum" => some fun c => isAlpha c || isDigit c
  | "xdigit" => some fun c => isDigit c || ('a' ≤ c && c ≤ 'f') || ('A' ≤ c && c ≤ 'F')
  | "space" => some fun c => c == ' ' || ('\t' ≤ c && c ≤ '\r')
  | "blank" => some fun c => c == ' ' || c == '\t'
  | "cntrl" => some fun c => c < ' ' || c == '\x7f'
  | "print" => some fun c => ' ' ≤ c && c ≤ '~'
  | "graph" => some isGraph
  | "punct" => some fun c => isGraph c && !(isAlpha c || isDigit c)
  | _ => none
where
  isLower (c : Char) : Bool := 'a' ≤ c && c ≤ 'z'
  isUpper (c : Char) : Bool := 'A' ≤ c && c ≤ 'Z'
  isAlpha (c : Char) : Bool := isLower c || isUpper c
  isDigit (c : Char) : Bool := '0' ≤ c && c ≤ '9'
  isGraph (c : Char) : Bool := '!' ≤ c && c ≤ '~'

def classNames : List String :=
  ["alnum", "cntrl", "lower", "space", "alpha", "digit", "print", "upper", "blank", "graph", "punct",
    "xdigit"]

end SqlTidy.Shell
