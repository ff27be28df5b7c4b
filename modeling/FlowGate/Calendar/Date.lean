-- Dates of the calendar from the year 1 to the year 9999, and their numbering by days: day 1 is the first of
-- January of the year 1, a Monday.

namespace FlowGate

namespace Calendar

def isLeap (year : Nat) : Bool := year % 4 == 0 && (year % 100 != 0 || year % 400 == 0)

def monthLengths (leap : Bool) : List Nat :=
  [31, if leap then 29 else 28, 31, 30, 31, 30, 31, 31, 30, 31, 30, 31]

-- The days of a month; 0 when there is no such month.
def daysInMonth (year month : Nat) : Nat :=
  if month = 0 then 0 else ((monthLengths (isLeap year))[month - 1]?).getD 0

def daysBeforeYear (year : Nat) : Nat :=
  let y := year - 1
  y * 365 + y / 4 - y / 100 + y / 400

def daysBeforeMonth (year month : Nat) : Nat :=
  ((monthLengths (isLeap year)).take (month - 1)).foldl (· + ·) 0

def ValidDate (year month day : Nat) : Prop :=
  1 ≤ year ∧ year ≤ 9999 ∧ 1 ≤ month ∧ month ≤ 12 ∧ 1 ≤ day ∧ day ≤ daysInMonth year month

instance (year month day : Nat) : Decidable (ValidDate year month day) :=
  inferInstanceAs (Decidable (_ ∧ _ ∧ _ ∧ _ ∧ _ ∧ _))

def padded (width n : Nat) : List Char :=
  let digits := Nat.toDigits 10 n
  List.replicate (width - digits.length) '0' ++ digits

end Calendar

open Calendar

structure Date where
  year  : Nat
  month : Nat
  day   : Nat
  valid : ValidDate year month day
deriving DecidableEq

namespace Date

def ofCivil? (year month day : Nat) : Option Date :=
  if h : ValidDate year month day then some ⟨year, month, day, h⟩ else none

def dayNumber (d : Date) : Nat := daysBeforeYear d.year + daysBeforeMonth d.year d.month + d.day

-- Day `i` of a year, counted from zero, lies in the first month that it does not reach beyond.
def monthAndDay (i : Nat) (month : Nat) : List Nat → Nat × Nat
  | [] => (month, i + 1)
  | days :: rest => if i < days then (month, i + 1) else monthAndDay (i - days) (month + 1) rest

def ofDayNumber? (n : Int) : Option Date :=
  if n < 1 then none
  else
    let i := n.toNat - 1
    let (n400, r) := (i / 146097, i % 146097)
    -- The last day of a span of 400 years, or of 4, belongs to the last of its parts.
    let n100 := min (r / 36524) 3
    let r := r - n100 * 36524
    let (n4, r) := (r / 1461, r % 1461)
    let n1 := min (r / 365) 3
    let r := r - n1 * 365
    let year := n400 * 400 + n100 * 100 + n4 * 4 + n1 + 1
    let (month, day) := monthAndDay r 1 (monthLengths (isLeap year))
    ofCivil? year month day

-- The day of the week, 0 for Monday.
def weekdayFromMonday (d : Date) : Nat := (d.dayNumber + 6) % 7

-- The day of the week, 0 for Sunday.
def weekdayFromSunday (d : Date) : Nat := (d.weekdayFromMonday + 1) % 7

-- The date some days later, or earlier if the number is negative.
def addDays? (d : Date) (days : Int) : Option Date := ofDayNumber? (d.dayNumber + days)

def chars (d : Date) : List Char :=
  padded 4 d.year ++ '-' :: padded 2 d.month ++ '-' :: padded 2 d.day

def text (d : Date) : String := String.ofList d.chars

end Date

end FlowGate
