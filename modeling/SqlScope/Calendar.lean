/-!
# Dates and times of day

Dates of the proleptic Gregorian calendar and times of day with nanoseconds, as
literal values carry them, with the checks that make them valid and the text they
are written as (`2024-02-29`, `23:59:60`).

Years run from -262143 to 262142. A time of day may hold a leap second: its
nanoseconds may reach up to two seconds, but only in the last second of a minute,
and it is then written as second 60.
-/

namespace SqlScope

/-- A valid calendar date. -/
structure Date where
  year : Int
  month : Nat
  day : Nat
  deriving Repr, BEq, Inhabited

/-- A valid time of day; `nano ≥ 10^9` marks a leap second. -/
structure TimeOfDay where
  hour : Nat
  minute : Nat
  second : Nat
  nano : Nat
  deriving Repr, BEq, Inhabited

namespace Date

/-- The least year a date may have. -/
def minYear : Int := -262143

/-- The greatest year a date may have. -/
def maxYear : Int := 262142

/-- Leap years are the multiples of four that are not multiples of a hundred, and
the multiples of four hundred. -/
def isLeapYear (y : Int) : Bool := (y % 4 == 0 && y % 100 != 0) || y % 400 == 0

/-- The number of days of a month (1 to 12) in a year. -/
def daysInMonth (y : Int) (m : Nat) : Nat :=
  match m with
  | 2 => if isLeapYear y then 29 else 28
  | 4 | 6 | 9 | 11 => 30
  | _ => 31

/-- The date with this year, month and day, if there is one. -/
def ofYmd? (y : Int) (m d : Nat) : Option Date :=
  if minYear ≤ y ∧ y ≤ maxYear ∧ 1 ≤ m ∧ m ≤ 12 ∧ 1 ≤ d ∧ d ≤ daysInMonth y m then
    some ⟨y, m, d⟩
  else none

end Date

/-- `n` in decimal, padded with zeros to `width` digits. -/
def padNat (width n : Nat) : String :=
  let s := toString n
  String.ofList (List.replicate (width - s.length) '0') ++ s

namespace Date

/-- The year as written in a date: four digits from 0 to 9999, otherwise a sign
and at least four digits. -/
def yearText (y : Int) : String :=
  if 0 ≤ y ∧ y ≤ 9999 then padNat 4 y.toNat
  else (if y < 0 then "-" else "+") ++ padNat 4 y.natAbs

/-- `YYYY-MM-DD`. -/
def text (d : Date) : String := yearText d.year ++ "-" ++ padNat 2 d.month ++ "-" ++ padNat 2 d.day

end Date

namespace TimeOfDay

/-- The time with these fields, if it is one. -/
def ofHmsNano? (h m s nano : Nat) : Option TimeOfDay :=
  if h < 24 ∧ m < 60 ∧ s < 60 ∧ nano < 2000000000 ∧ (nano < 1000000000 ∨ s = 59) then
    some ⟨h, m, s, nano⟩
  else none

/-- `HH:MM:SS`, a leap second written as second 60. -/
def text (t : TimeOfDay) : String :=
  padNat 2 t.hour ++ ":" ++ padNat 2 t.minute ++ ":" ++
    padNat 2 (t.second + if 1000000000 ≤ t.nano then 1 else 0)

end TimeOfDay

end SqlScope
