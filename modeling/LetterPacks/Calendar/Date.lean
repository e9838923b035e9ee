import LetterPacks.Number.Digits

/-!
# Calendar dates

A date is a day of the Gregorian calendar, extended backwards without a gap, in the years from
-262143 to 262142.  The type holds calendar days only, so a date that does not exist cannot be
written down.  Dates are written `YYYY-MM-DD`; a year that does not fit four digits carries its
sign.
-/

namespace LetterPacks

def isLeapYear (year : Int) : Bool :=
  year % 4 = 0 && (year % 100 ≠ 0 || year % 400 = 0)

/-- The number of days of a month; zero for a number that names no month. -/
def daysInMonth (year : Int) : Nat → Nat
  | 2 => if isLeapYear year then 29 else 28
  | 4 | 6 | 9 | 11 => 30
  | 1 | 3 | 5 | 7 | 8 | 10 | 12 => 31
  | _ => 0

def firstYear : Int := -262143

def lastYear : Int := 262142

def isCalendarDay (year : Int) (month day : Nat) : Bool :=
  firstYear ≤ year && year ≤ lastYear && 1 ≤ day && day ≤ daysInMonth year month

structure Date where
  year : Int
  month : Nat
  day : Nat
  isDay : isCalendarDay year month day = true
deriving DecidableEq

namespace Date

/-- The date of the given year, month and day, if the calendar has it. -/
def ofParts? (year : Int) (month day : Nat) : Option Date :=
  if isDay : isCalendarDay year month day = true then some ⟨year, month, day, isDay⟩ else none

def tomorrow? (date : Date) : Option Date :=
  if date.day < daysInMonth date.year date.month then ofParts? date.year date.month (date.day + 1)
  else if date.month < 12 then ofParts? date.year (date.month + 1) 1
  else ofParts? (date.year + 1) 1 1

/-- The date a number of days later, if the calendar goes that far. -/
def addDays? (date : Date) : Nat → Option Date
  | 0 => some date
  | days + 1 => (date.addDays? days).bind tomorrow?

/-- The year as it is written: four digits at least, behind a sign unless it fits four digits. -/
def yearChars (year : Int) : List Char :=
  let size := Number.paddedDigits 4 year.natAbs
  if year < 0 then '-' :: size
  else if 9999 < year then '+' :: size
  else size

def toChars (date : Date) : List Char :=
  yearChars date.year ++ '-' :: Number.paddedDigits 2 date.month ++
    '-' :: Number.paddedDigits 2 date.day

def toText (date : Date) : String :=
  String.ofList date.toChars

theorem ofParts?_parts (date : Date) : ofParts? date.year date.month date.day = some date := by
  simp [ofParts?, date.isDay]

end Date

end LetterPacks
