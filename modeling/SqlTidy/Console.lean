import SqlTidy.Entries
import SqlTidy.Text.Cells
import SqlTidy.Text.Blank
import SqlTidy.Text.Lowercase

/-!
# Messages on the console

Messages go to the error stream in one of four tones, which differ in a sign in front and in a colour.
They are printed as they are, except that some control characters are left out and tabs are filled up
with blanks. Colours are used only on a terminal that has them.
-/

namespace SqlTidy

inductive Tone where
  | info
  | ok
  | warn
  | fail
deriving DecidableEq, Repr

/-- A sign, if signs are wanted. -/
def emoji (symbol : String) (enable : Bool) : String := if enable then symbol else ""

namespace Tone

def sign : Tone → String
  | .info => "ℹ️ "
  | .ok => "✅ "
  | .warn => "⚠️ "
  | .fail => "❌ "

/-- The number of the colour. -/
def colour : Tone → String
  | .info => "36"
  | .ok => "32"
  | .warn => "33"
  | .fail => "31"

end Tone

/-- What the output stream leads to. -/
inductive Outlet where
  | terminal
  | pipe
  | closed
  | missing
deriving DecidableEq, Repr

/-- Whether the stream says that it is a terminal; one that is closed or missing cannot be asked. -/
def Outlet.asksTerminal : Outlet → Option Bool
  | .terminal => some true
  | .pipe => some false
  | .closed | .missing => none

/-- A stream that cannot be asked counts as no terminal. -/
def Outlet.isTerminal (o : Outlet) : Bool := o.asksTerminal.getD false

/-- What is known about the streams: whether the output is a terminal, and the environment. -/
structure Terminal where
  isTerminal : Bool
  environment : Entries String

/-- How many colours a terminal has. -/
inductive ColourSystem where
  | standard
  | eightBit
  | trueColour
deriving DecidableEq, Repr

def ColourSystem.name : ColourSystem → String
  | .standard => "standard"
  | .eightBit => "256"
  | .trueColour => "truecolor"

namespace Terminal

def variableText (t : Terminal) (name : String) : String :=
  lower ((Entries.get? t.environment name).getD "")

/-- The colours of a terminal; some kinds of terminals have none. Blanks around the name of such a kind
make it another one, elsewhere they do not matter. -/
def colours (t : Terminal) : Option ColourSystem :=
  let kind := strip (t.variableText "TERM")
  let depth := strip (t.variableText "COLORTERM")
  if !t.isTerminal || t.variableText "TERM" ∈ ["dumb", "unknown"] then none
  else if depth == "truecolor" || depth == "24bit" then some .trueColour
  else
    let suffix := String.ofList (kind.toList.reverse.takeWhile (· != '-')).reverse
    if suffix == "256color" || suffix == "kitty" then some .eightBit else some .standard

end Terminal

/-- What a console is asked for with, and whether the output is a terminal at that time. -/
structure ConsoleKey where
  colour : Bool
  emoji : Bool
  isTerminal : Bool
  toStderr : Bool
deriving DecidableEq, Repr

/-- A console. -/
structure Console where
  /-- Whether it uses the colours that the terminal has. -/
  findsColours : Bool
  /-- Whether it takes its stream for a terminal, whatever the stream says. -/
  isTerminal : Bool
  /-- Whether colours are left out of what is printed. -/
  noColour : Bool
  emoji : Bool
  /-- Whether long lines are left as they are. -/
  softWrap : Bool
  toStderr : Bool
deriving DecidableEq, Repr

namespace Console

/-- A console has colours if they are wanted and the output is a terminal. -/
def ofKey (k : ConsoleKey) : Console where
  findsColours := k.colour && k.isTerminal
  isTerminal := k.isTerminal
  noColour := !(k.colour && k.isTerminal)
  emoji := k.emoji
  softWrap := true
  toStderr := k.toStderr

/-- The colours that a console uses. -/
def colours (c : Console) (t : Terminal) : Option ColourSystem := if c.findsColours then t.colours else none

end Console

/-- The consoles made so far, in this order. -/
abbrev Consoles := List (ConsoleKey × Console)

/-- Asks for a console, and yields its number too. One asked for again is the same. -/
def Consoles.ask (k : ConsoleKey) : StateM Consoles (Nat × Console) := do
  let made ← get
  match made.zipIdx.find? (·.1.1 == k) with
  | some ((_, console), i) => return (i, console)
  | none =>
    let console := Console.ofKey k
    set (made ++ [(k, console)])
    return (made.length, console)

/-- Control characters that are not printed. -/
def isSilent (c : Char) : Bool :=
  c == '\x07' || c == '\x08' || c == '\x0b' || c == '\x0c' || c == '\r'

/-- A line in parts, each up to a tab that is filled up to the next multiple of eight cells; `part` holds
the characters since the last tab, last first, and `column` the cells before them. -/
def fillTabs (column : Nat) : List Char → List Char → List (List Char)
  | part, [] => [part.reverse]
  | part, '\t' :: rest =>
    let part := (' ' :: part).reverse
    let column := column + cells part
    let blanks := (8 - column % 8) % 8
    (part ++ List.replicate blanks ' ') :: fillTabs (column + blanks) [] rest
  | part, c :: rest => fillTabs column (c :: part) rest

/-- The lines of a message; here only a line feed ends a line. -/
def messageLines : List Char → List (List Char)
  | [] => [[]]
  | '\n' :: rest => [] :: messageLines rest
  | c :: rest =>
    match messageLines rest with
    | line :: more => (c :: line) :: more
    | [] => [[c]]

/-- A part of a line in a colour. -/
def inColour (colour : Option String) (part : List Char) : List Char :=
  match colour, part with
  | _, [] => []
  | none, part => part
  | some code, part => "\x1b[".toList ++ code.toList ++ ['m'] ++ part ++ "\x1b[0m".toList

/-- A text as the console prints it. -/
def printed (colour : Option String) (message : String) : String :=
  let lines := messageLines (message.toList.filter fun c => !isSilent c)
  String.ofList (lines.flatMap fun line => (fillTabs 0 [] line).flatMap (inColour colour) ++ ['\n'])

/-- A message in a tone, as it appears on the error stream. Colours are used on a terminal unless the
caller decides otherwise. -/
def Tone.print (tone : Tone) (t : Terminal) (useEmoji : Bool) (useColour : Option Bool)
    (message : String) : String :=
  let wanted := useColour.getD t.isTerminal
  let console := Console.ofKey ⟨wanted, useEmoji, t.isTerminal, true⟩
  let isColoured := wanted && !console.noColour && (console.colours t).isSome
  printed (if isColoured then some tone.colour else none) (emoji tone.sign useEmoji ++ message)

end SqlTidy
