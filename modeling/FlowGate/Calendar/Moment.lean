import FlowGate.Calendar.Date

-- Times of day and moments, with microseconds. Both may carry their distance from universal time; without one
-- they are local.

namespace FlowGate

namespace Calendar

def second : Nat := 1000000

def dayLength : Nat := 86400 * second

end Calendar

open Calendar

structure Offset where
  micros : Int
  inDay  : -(dayLength : Int) < micros ∧ micros < dayLength
deriving DecidableEq

structure TimeOfDay where
  micros : Nat
  inDay  : micros < dayLength
deriving DecidableEq

structure ClockTime where
  time   : TimeOfDay
  offset : Option Offset
deriving DecidableEq

structure Moment where
  date   : Date
  time   : TimeOfDay
  offset : Option Offset
deriving DecidableEq

namespace Offset

def ofMicros? (micros : Int) : Option Offset :=
  if h : -(dayLength : Int) < micros ∧ micros < dayLength then some ⟨micros, h⟩ else none

-- The text `+HH:MM`, with seconds and microseconds only where there are any.
def chars (o : Offset) : List Char :=
  let n := o.micros.natAbs
  let s := n / second
  (if o.micros < 0 then '-' else '+') :: padded 2 (s / 3600) ++ ':' :: padded 2 (s / 60 % 60) ++
    (if s % 60 = 0 ∧ n % second = 0 then [] else ':' :: padded 2 (s % 60)) ++
    (if n % second = 0 then [] else '.' :: padded 6 (n % second))

end Offset

namespace TimeOfDay

def midnight : TimeOfDay := ⟨0, by decide⟩

def ofMicros? (micros : Nat) : Option TimeOfDay :=
  if h : micros < dayLength then some ⟨micros, h⟩ else none

def ofParts? (hour minute sec micro : Nat) : Option TimeOfDay :=
  if hour < 24 ∧ minute < 60 ∧ sec < 60 ∧ micro < second then
    ofMicros? (((hour * 60 + minute) * 60 + sec) * second + micro)
  else
    none

def hour (t : TimeOfDay) : Nat := t.micros / (3600 * second)

def minute (t : TimeOfDay) : Nat := t.micros / (60 * second) % 60

def sec (t : TimeOfDay) : Nat := t.micros / second % 60

def micro (t : TimeOfDay) : Nat := t.micros % second

-- The text `HH:MM:SS`, with microseconds only where there are any.
def chars (t : TimeOfDay) : List Char :=
  padded 2 t.hour ++ ':' :: padded 2 t.minute ++ ':' :: padded 2 t.sec ++
    (if t.micro = 0 then [] else '.' :: padded 6 t.micro)

end TimeOfDay

namespace ClockTime

def chars (t : ClockTime) : List Char := t.time.chars ++ (t.offset.elim [] Offset.chars)

def text (t : ClockTime) : String := String.ofList t.chars

-- The order of two times of day. Only whole seconds of an offset count, and times with and without an offset
-- have no order.
def order? (a b : ClockTime) : Option Ordering :=
  match a.offset, b.offset with
  | none, none => some (compare a.time.micros b.time.micros)
  | some o, some p =>
    if o = p then some (compare a.time.micros b.time.micros)
    else some ((compare (seconds a o) (seconds b p)).then (compare a.time.micro b.time.micro))
  | _, _ => none
where
  seconds (t : ClockTime) (o : Offset) : Int := t.time.micros / second - Int.fdiv o.micros second

def eq (a b : ClockTime) : Bool := a.order? b == some .eq

end ClockTime

namespace Moment

def ofDate (d : Date) : Moment := ⟨d, .midnight, none⟩

def localMicros (m : Moment) : Int := m.date.dayNumber * dayLength + m.time.micros

-- The moment without offset that lies this many microseconds after the day before the calendar begins.
def ofLocalMicros? (micros : Int) : Option Moment := do
  let date ← Date.ofDayNumber? (Int.fdiv micros dayLength)
  let time ← TimeOfDay.ofMicros? (Int.fmod micros dayLength).toNat
  some ⟨date, time, none⟩

def instant (m : Moment) : Int := m.localMicros - (m.offset.elim 0 Offset.micros)

-- How far the clocks of the host are ahead of universal time, in microseconds. They show universal time.
def hostOffset : Int := 0

-- The same moment as the clocks of the host show it. It may lie outside the calendar.
def toLocal? (m : Moment) : Option Moment :=
  match m.offset with
  | none => some m
  | some _ => ofLocalMicros? (m.instant + hostOffset)

-- Moments are equal when they are the same instant. One with an offset never equals a local one.
def eq (a b : Moment) : Bool :=
  a.offset.isSome == b.offset.isSome && a.instant == b.instant

def chars (m : Moment) (gap : Char) : List Char :=
  m.date.chars ++ gap :: m.time.chars ++ (m.offset.elim [] Offset.chars)

def text (m : Moment) : String := String.ofList (m.chars 'T')

end Moment

end FlowGate
