import SqlTidy.Number.Shown
import SqlTidy.Shell.Number

/-!
# Formatted output

A format is gone through as often as its arguments last. A directive takes an argument, or an empty one
if there is none left, and writes it with a width and a precision.
-/

namespace SqlTidy.Shell

def isOctal (c : Char) : Bool := '0' ≤ c && c ≤ '7'

/-- The escapes of one letter. -/
def escapes : List (Char × Char) :=
  [('a', '\x07'), ('b', '\x08'), ('f', '\x0c'), ('n', '\n'), ('r', '\r'), ('t', '\t'), ('v', '\x0b'),
    ('e', '\x1b'), ('\\', '\\')]

/-- The character of octal digits. -/
def octalChar (digits : List Char) : Char :=
  Char.ofNat (digitsValue 8 (digits.map fun c => c.toNat - 48) % 256)

/-- What follows a backslash: the character it stands for and the rest. A backslash before anything else
stands for itself. -/
def unescapeOne (cs : List Char) : Char × List Char :=
  match cs with
  | [] => ('\\', [])
  | c :: rest =>
    match escapes.lookup c with
    | some d => (d, rest)
    | none =>
      let digits := (cs.take 3).takeWhile isOctal
      if digits.isEmpty then ('\\', cs) else (octalChar digits, cs.drop digits.length)

/-- A text with its escapes replaced, and whether it asks for an end of all output. Octal digits may
follow a zero. The first argument bounds the number of characters. -/
def unescape : Nat → List Char → List Char × Bool
  | 0, _ => ([], false)
  | _, [] => ([], false)
  | steps + 1, '\\' :: rest =>
    match rest with
    | 'c' :: _ => ([], true)
    | _ =>
      let digits :=
        match rest with
        | '0' :: d :: _ => if isOctal d then rest.tail else rest
        | _ => rest
      let (c, rest) := unescapeOne digits
      let (cs, isLast) := unescape steps rest
      (c :: cs, isLast)
  | steps + 1, c :: rest =>
    let (cs, isLast) := unescape steps rest
    (c :: cs, isLast)

/-- A text with its escapes replaced, and whether it asks for an end of all output. -/
def unescapeAll (cs : List Char) : List Char × Bool := unescape (cs.length + 1) cs

/-- What a directive says besides its letter. -/
structure Layout where
  flags : List Char
  width : Nat
  precision : Option Nat

namespace Layout

def has (l : Layout) (flag : Char) : Bool := l.flags.contains flag

/-- A text at its width: blanks before or behind it, or zeros behind what has to come first. -/
def pad (l : Layout) (zeros : Bool) (head body : List Char) : List Char :=
  let missing := l.width - (head.length + body.length)
  if l.has '-' then head ++ body ++ List.replicate missing ' '
  else if zeros && l.has '0' then head ++ List.replicate missing '0' ++ body
  else List.replicate missing ' ' ++ head ++ body

/-- A text, cut at the precision. -/
def text (l : Layout) (cs : List Char) : List Char :=
  l.pad false [] ((l.precision.map cs.take).getD cs)

/-- The sign in front of a number. -/
def signOf (l : Layout) (isNegative : Bool) : List Char :=
  if isNegative then ['-'] else if l.has '+' then ['+'] else if l.has ' ' then [' '] else []

/-- Digits up to the precision; no digits for a zero that needs none. -/
def digits (l : Layout) (cs : List Char) : List Char :=
  match l.precision with
  | none => cs
  | some p => if p = 0 ∧ cs = ['0'] then [] else List.replicate (p - cs.length) '0' ++ cs

/-- A whole number by the letter of its directive. -/
def integer (l : Layout) (letter : Char) (n : Int) : List Char :=
  let zeros := l.precision.isNone
  if letter = 'd' ∨ letter = 'i' then
    l.pad zeros (l.signOf (n < 0)) (l.digits (Nat.toDigits 10 n.natAbs))
  else
    let m := (n % 2 ^ 64).toNat
    match letter with
    | 'o' =>
      let cs := l.digits (Nat.toDigits 8 m)
      l.pad zeros [] (if l.has '#' ∧ cs.head? ≠ some '0' then '0' :: cs else cs)
    | 'x' => l.pad zeros (if l.has '#' ∧ m ≠ 0 then "0x".toList else []) (l.digits (Nat.toDigits 16 m))
    | 'X' =>
      l.pad zeros (if l.has '#' ∧ m ≠ 0 then "0X".toList else [])
        ((l.digits (Nat.toDigits 16 m)).map Char.toUpper)
    | _ => l.pad zeros [] (l.digits (Nat.toDigits 10 m))

/-- A double by the letter of its directive. -/
def real (l : Layout) (letter : Char) (x : Double) : List Char :=
  let sign := l.signOf x.isNegative
  let places := l.precision.getD 6
  let isUpper := letter.isUpper
  let shown (cs : List Char) : List Char := if isUpper then cs.map Char.toUpper else cs
  if x.isNaN then l.pad false sign (shown "nan".toList)
  else if !x.isFinite then l.pad false sign (shown "inf".toList)
  else
    match letter.toLower with
    | 'e' => l.pad true sign (shown (x.scientificText places (l.has '#')))
    | 'f' => l.pad true sign (shown (x.fixedText places (l.has '#')))
    | 'g' => l.pad true sign (shown (x.shorterText places (l.has '#')))
    | _ =>
      let cs := x.hexadecimalText l.precision (l.has '#')
      l.pad true (sign ++ shown (cs.take 2)) (shown (cs.drop 2))

end Layout

/-- Complaints about an argument. -/
inductive ArgumentFlaw where
  | notNumber
  | incomplete
  | outOfRange
deriving DecidableEq

def ArgumentFlaw.text : ArgumentFlaw → String
  | .notNumber => "expected numeric value"
  | .incomplete => "not completely converted"
  | .outOfRange => "Numerical result out of range"

/-- What is wrong with an argument of which `rest` was not taken. -/
def argumentFlaw? (whole rest : List Char) (isOut : Bool) : Option ArgumentFlaw :=
  if !rest.isEmpty then some (if rest.length = whole.length then .notNumber else .incomplete)
  else if isOut then some .outOfRange
  else none

/-- The character that an argument with a quote in front stands for. -/
def quotedChar? (cs : List Char) : Option Nat :=
  match cs with
  | c :: rest => if c = '"' ∨ c = '\'' then some ((rest.head?.map Char.toNat).getD 0) else none
  | [] => none

/-- The number that an argument is, with or without a sign. -/
def integerArgument (isSigned : Bool) (cs : List Char) : Int × Option ArgumentFlaw :=
  match quotedChar? cs with
  | some n => (n, none)
  | none =>
    let t := takeInteger true cs
    if isSigned then
      (clamped t.value, argumentFlaw? cs t.rest (t.value < least || greatest < t.value))
    else
      let isOut : Bool := (2 ^ 64 : Int) ≤ t.value.natAbs
      (if isOut then 2 ^ 64 - 1 else t.value, argumentFlaw? cs t.rest isOut)

/-- Digits with a point somewhere among them: those taken, how many stood behind the point, and the
rest. -/
def takePointed (base : Nat) (cs : List Char) : List Char × Nat × List Char :=
  let whole := cs.takeWhile (isDigitIn base)
  match cs.drop whole.length with
  | '.' :: rest =>
    let part := rest.takeWhile (isDigitIn base)
    if whole.isEmpty && part.isEmpty then ([], 0, cs) else (whole ++ part, part.length, rest.drop part.length)
  | rest => (whole, 0, rest)

/-- An exponent behind its mark, if there is one. -/
def takeExponent (mark : Char) (cs : List Char) : Int × List Char :=
  match cs with
  | c :: rest =>
    if c.toLower = mark then
      let (isNegative, digits) := splitSign rest
      let taken := digits.takeWhile isNumeral
      if taken.isEmpty then (0, cs)
      else (signed isNegative (digitsValue 10 (taken.map fun d => d.toNat - 48)), digits.drop taken.length)
    else (0, cs)
  | [] => (0, [])

/-- Takes a double from the start of a text; yields the rest, and whether it is beyond all doubles. -/
def takeDouble (text : List Char) : Double × List Char × Bool :=
  let (isNegative, cs) := splitSign (text.dropWhile isSpaceChar)
  let lower := cs.map Char.toLower
  let digitsOf (base : Nat) (ds : List Char) : Nat := digitsValue base (ds.map fun c => (digitOf? c).getD 0)
  if "infinity".toList.isPrefixOf lower then (.infinity isNegative, cs.drop 8, false)
  else if "inf".toList.isPrefixOf lower then (.infinity isNegative, cs.drop 3, false)
  else if "nan".toList.isPrefixOf lower then
    let rest := cs.drop 3
    let inner := (rest.drop 1).takeWhile isNameChar
    let isClosed := rest.head? == some '(' && (rest.drop (1 + inner.length)).head? == some ')'
    (.nan isNegative, if isClosed then rest.drop (inner.length + 2) else rest, false)
  else
    let hex := takePointed 16 (cs.drop 2)
    if "0x".toList.isPrefixOf lower && !hex.1.isEmpty then
      let (digits, places, rest) := hex
      let (e, rest) := takeExponent 'p' rest
      let power := max (-5000) (min 5000 (e - 4 * (places : Int)))
      let n := digitsOf 16 digits
      let x : Double :=
        if 0 ≤ power then .ofRatio isNegative (n * 2 ^ power.toNat) 1
        else .ofRatio isNegative n (2 ^ (-power).toNat)
      (x, rest, !x.isFinite || (n ≠ 0 && x.mantissa == 0))
    else
      let (digits, places, rest) := takePointed 10 cs
      if digits.isEmpty then (.ofParts false 0, text, false)
      else
        let (e, rest) := takeExponent 'e' rest
        let n := digitsOf 10 digits
        let x := Double.ofDecimal isNegative n (max (-100000) (min 100000 (e - (places : Int))))
        (x, rest, !x.isFinite || (n ≠ 0 && x.mantissa == 0))

/-- The double that an argument is. -/
def realArgument (cs : List Char) : Double × Option ArgumentFlaw :=
  match quotedChar? cs with
  | some n => (.ofRatio false n 1, none)
  | none =>
    let (x, rest, isOut) := takeDouble cs
    (x, argumentFlaw? cs rest isOut)

/-- What has come of a format so far. -/
structure Written where
  /-- What is written, the last character first. -/
  text : List Char := []
  arguments : List (List Char)
  /-- Complaints, the last first: the argument and what is wrong with it. -/
  complaints : List (List Char × ArgumentFlaw) := []
  usesArguments : Bool := false

/-- How a format comes to its end. -/
inductive FormatEnd where
  | done
  /-- An argument has asked for the end of all output. -/
  | cut
  | missing
  | invalid (directive : List Char)
deriving DecidableEq

namespace Written

def put (w : Written) (cs : List Char) : Written := { w with text := cs.reverse ++ w.text }

/-- The next argument. -/
def next (w : Written) : Option (List Char) × Written :=
  match w.arguments with
  | a :: rest => (some a, { w with arguments := rest, usesArguments := true })
  | [] => (none, w)

def note (w : Written) (argument : Option (List Char)) (flaw : Option ArgumentFlaw) : Written :=
  match flaw with
  | some f => { w with complaints := (argument.getD [], f) :: w.complaints }
  | none => w

def nextInteger (w : Written) (isSigned : Bool) : Int × Written :=
  let (a, w) := w.next
  let (n, flaw) := integerArgument isSigned (a.getD [])
  (n, w.note a flaw)

/-- A number in a directive: digits, or an argument if there is a star. -/
def number (w : Written) (cs : List Char) : Option Int × List Char × Written :=
  match cs with
  | '*' :: rest =>
    let (n, w) := w.nextInteger true
    (some (Int.bmod n (2 ^ 32)), rest, w)
  | cs =>
    let digits := cs.takeWhile isNumeral
    (if digits.isEmpty then none else some (digitsValue 10 (digits.map fun c => c.toNat - 48)),
      cs.drop digits.length, w)

/-- Writes one argument by the letter of its directive. -/
def direct (w : Written) (l : Layout) (letter : Char) : Option (Written × Bool) :=
  if letter = 's' then
    let (a, w) := w.next
    some (w.put (l.text (a.getD [])), false)
  else if letter = 'b' then
    let (a, w) := w.next
    let (cs, isLast) := unescapeAll (a.getD [])
    some (w.put (l.text cs), isLast)
  else if letter = 'c' then
    let (a, w) := w.next
    some (w.put (l.pad false [] [((a.getD []).head?).getD '\x00']), false)
  else if "diouxX".toList.contains letter then
    let (n, w) := w.nextInteger (letter = 'd' ∨ letter = 'i')
    some (w.put (l.integer letter n), false)
  else if "aAeEfFgG".toList.contains letter then
    let (a, w) := w.next
    let (x, flaw) := realArgument (a.getD [])
    let x := if a.isNone then Double.ofParts false 0 else x
    some ((w.note a flaw).put (l.real letter x), false)
  else none

/-- Goes through a format once. The first argument bounds the number of characters. -/
def once : Nat → List Char → Written → Written × FormatEnd
  | 0, _, w => (w, .done)
  | _, [], w => (w, .done)
  | steps + 1, '\\' :: rest, w =>
    let (c, rest) := unescapeOne rest
    once steps rest (w.put [c])
  | steps + 1, '%' :: '%' :: rest, w => once steps rest (w.put ['%'])
  | steps + 1, '%' :: rest, w =>
    let isFlag (c : Char) : Bool := "#-+ 0".toList.contains c
    let flags := rest.takeWhile isFlag
    let (width?, behind, w) := w.number (rest.drop flags.length)
    let width := width?.getD 0
    let flags := if width < 0 then '-' :: flags else flags
    let (precision, behind, w) : Option Int × List Char × Written :=
      match behind with
      | '.' :: behind =>
        let (p, behind, w) := w.number behind
        (some (p.getD 0), behind, w)
      | behind => (none, behind, w)
    let layout : Layout := ⟨flags, width.natAbs, (precision.filter (0 ≤ ·)).map Int.toNat⟩
    match behind with
    | [] => (w, .missing)
    | letter :: behind =>
      match w.direct layout letter with
      | some (w, false) => once steps behind w
      | some (w, true) => (w, .cut)
      | none => (w, .invalid ('%' :: rest.take (rest.length - behind.length)))
  | steps + 1, c :: rest, w => once steps rest (w.put [c])

/-- Goes through a format until all arguments are used. The first argument bounds the rounds. -/
def rounds : Nat → List Char → Written → Written × FormatEnd
  | 0, _, w => (w, .done)
  | bound + 1, format, w =>
    match once (format.length + 1) format { w with usesArguments := false } with
    | (w, .done) => if w.usesArguments && !w.arguments.isEmpty then rounds bound format w else (w, .done)
    | ended => ended

end Written

/-- What a format makes of arguments. -/
def format (template : List Char) (arguments : List (List Char)) : Written × FormatEnd :=
  Written.rounds (arguments.length + 1) template { arguments }

end SqlTidy.Shell
