/-!
# Dates and times

What a configuration file may write as a date, a time of day, or both with or without an offset, and
the text of each.  A moment is only ever echoed, so nothing here computes with calendars except the
check that a day exists.
-/

namespace TypingPolicy

structure Day where
  year : Nat
  month : Nat
  day : Nat
  deriving DecidableEq, Repr, Inhabited

structure Clock where
  hour : Nat
  minute : Nat
  second : Nat
  micros : Nat := 0
  deriving DecidableEq, Repr, Inhabited

inductive Moment where
  | day (d : Day)
  | clock (c : Clock)
  /-- The offset from universal time is in minutes. -/
  | both (d : Day) (c : Clock) (offset : Option Int)
  deriving DecidableEq, Repr, Inhabited

namespace Day

def isLeap (year : Nat) : Bool :=
  year % 4 = 0 && (year % 100 ≠ 0 || year % 400 = 0)

def daysIn (year month : Nat) : Nat :=
  if month = 2 then (if isLeap year then 29 else 28)
  else if month ∈ [4, 6, 9, 11] then 30 else 31

/-- Years are counted from one. -/
def exists? (d : Day) : Bool :=
  1 ≤ d.year && 1 ≤ d.month && d.month ≤ 12 && 1 ≤ d.day && d.day ≤ daysIn d.year d.month

end Day

/-- Decimal digits, filled up with zeros on the left. -/
def padded (width n : Nat) : String :=
  let digits := Nat.toDigits 10 n
  String.ofList (List.replicate (width - digits.length) '0' ++ digits)

def Day.text (d : Day) : String :=
  padded 4 d.year ++ "-" ++ padded 2 d.month ++ "-" ++ padded 2 d.day

/-- A fraction of a second is written with six digits, and not at all when it is zero. -/
def Clock.text (c : Clock) : String :=
  padded 2 c.hour ++ ":" ++ padded 2 c.minute ++ ":" ++ padded 2 c.second
    ++ if c.micros = 0 then "" else "." ++ padded 6 c.micros

def offsetText (minutes : Int) : String :=
  (if minutes < 0 then "-" else "+")
    ++ padded 2 (minutes.natAbs / 60) ++ ":" ++ padded 2 (minutes.natAbs % 60)

def Moment.text : Moment → String
  | .day d => d.text
  | .clock c => c.text
  | .both d c offset => d.text ++ "T" ++ c.text ++ (offset.map offsetText).getD ""

end TypingPolicy
