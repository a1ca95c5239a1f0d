/-! # The calendar

Dates of the Gregorian calendar, also before its introduction. A day is a number, counted from the
first of March of the year zero, so that the day a leap year adds is the last of its year.
-/
namespace Resilience.Calendar

/-- The days of the months, from March on. -/
def monthLengths : List Nat := [31, 30, 31, 30, 31, 31, 30, 31, 30, 31, 31, 29]

def daysBefore (month : Nat) : Nat := (monthLengths.take month).foldl (· + ·) 0

def daysBeforeYear (year : Int) : Int :=
  365 * year + year.fdiv 4 - year.fdiv 100 + year.fdiv 400

def isLeapYear (year : Int) : Bool := year % 4 == 0 && (year % 100 != 0 || year % 400 == 0)

def monthLength (year : Int) (month : Nat) : Nat :=
  if month = 2 then (if isLeapYear year then 29 else 28)
  else (monthLengths[(month + 9) % 12]?).getD 0

def dayOfDate? (year : Int) (month day : Nat) : Option Int :=
  if 1 ≤ month ∧ month ≤ 12 ∧ 1 ≤ day ∧ day ≤ monthLength year month ∧
      -262143 ≤ year ∧ year ≤ 262142 then
    let marchYear := if month ≤ 2 then year - 1 else year
    some (daysBeforeYear marchYear + daysBefore ((month + 9) % 12) + (day - 1 : Nat))
  else none

def dateOfDay (day : Int) : Int × Nat × Nat :=
  -- the quotient is at most one year off
  let guess := (day * 400).fdiv 146097
  let year := if day < daysBeforeYear guess then guess - 1
    else if daysBeforeYear (guess + 1) ≤ day then guess + 1 else guess
  let rest := (day - daysBeforeYear year).toNat
  let month := ((List.range 12).filter fun m => daysBefore m ≤ rest).length - 1
  let calendarMonth := (month + 2) % 12 + 1
  (if calendarMonth ≤ 2 then year + 1 else year, calendarMonth, rest - daysBefore month + 1)

end Resilience.Calendar
