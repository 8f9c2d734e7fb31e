import SqlTidy.Text.CharSet

/-!
# White space

The characters that separate words, and texts without them at their ends.
-/

namespace SqlTidy

/-- White space and the separators of files, groups, records and units. -/
def blankSet : CharSet where
  intervals := [(0x9, 0xD), (0x1C, 0x20), (0x85, 0x85), (0xA0, 0xA0), (0x1680, 0x1680), (0x2000, 0x200A),
  (0x2028, 0x2029), (0x202F, 0x202F), (0x205F, 0x205F), (0x3000, 0x3000)]

def isBlank (c : Char) : Bool := blankSet.contains c

/-- The characters of a text without the blanks at its two ends. -/
def stripChars (cs : List Char) : List Char :=
  ((cs.dropWhile isBlank).reverse.dropWhile isBlank).reverse

/-- A text without the blanks at its two ends. -/
def strip (s : String) : String := String.ofList (stripChars s.toList)

end SqlTidy
