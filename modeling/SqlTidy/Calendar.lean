import SqlTidy.Number.Digits

/-!
# Dates and times

Dates of the common calendar, times of day to the microsecond, and their combination with or without
an offset from universal time, as they are written in ISO form.
-/

namespace SqlTidy

structure Date where
  year : Nat
  month : Nat
  day : Nat
deriving DecidableEq, Repr

def isLeapYear (year : Nat) : Bool := year % 4 == 0 && (year % 100 != 0 || year % 400 == 0)

def daysInMonth (year month : Nat) : Nat :=
  if month = 2 then if isLeapYear year then 29 else 28
  else if month = 4 ∨ month = 6 ∨ month = 9 ∨ month = 11 then 30
  else 31

/-- The years, months and days that exist. -/
def Date.IsValid (d : Date) : Prop :=
  1 ≤ d.year ∧ d.year ≤ 9999 ∧ 1 ≤ d.month ∧ d.month ≤ 12 ∧ 1 ≤ d.day ∧
    d.day ≤ daysInMonth d.year d.month

instance (d : Date) : Decidable d.IsValid := by unfold Date.IsValid; infer_instance

structure TimeOfDay where
  hour : Nat
  minute : Nat
  second : Nat
  microsecond : Nat
deriving DecidableEq, Repr

/-- A date with a time, and the offset from universal time in minutes if there is one. -/
structure Moment where
  date : Date
  time : TimeOfDay
  offset : Option Int
deriving DecidableEq, Repr

def Date.text (d : Date) : String :=
  padded 4 d.year ++ "-" ++ padded 2 d.month ++ "-" ++ padded 2 d.day

def TimeOfDay.text (t : TimeOfDay) : String :=
  let whole := padded 2 t.hour ++ ":" ++ padded 2 t.minute ++ ":" ++ padded 2 t.second
  if t.microsecond = 0 then whole else whole ++ "." ++ padded 6 t.microsecond

/-- An offset of minutes as hours and minutes with a sign. -/
def offsetText (minutes : Int) : String :=
  (if minutes < 0 then "-" else "+") ++ padded 2 (minutes.natAbs / 60) ++ ":" ++
    padded 2 (minutes.natAbs % 60)

def Moment.text (m : Moment) : String :=
  m.date.text ++ "T" ++ m.time.text ++ (m.offset.map offsetText).getD ""

end SqlTidy
