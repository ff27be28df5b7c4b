import FlowGate.Calendar.Moment

-- Reading dates and times in the international notation: a date by month and day or by week, any one character,
-- and a time of day with an optional offset. Separators inside the date and inside the time may be left out.

namespace FlowGate.Iso

open Calendar

def digit? (c : Char) : Option Nat := if c.isDigit then some (c.toNat - 48) else none

def digits? : (count : Nat) → List Char → Option (Nat × List Char)
  | count, cs => go 0 count cs
where
  go (n : Nat) : Nat → List Char → Option (Nat × List Char)
    | 0, cs => some (n, cs)
    | _ + 1, [] => none
    | k + 1, c :: cs => (digit? c).bind fun d => go (10 * n + d) k cs

-- Drops a hyphen if one has to stand here.
def hyphen? (wanted : Bool) : List Char → Option (List Char)
  | cs =>
    if wanted then
      match cs with
      | '-' :: rest => some rest
      | _ => none
    else some cs

-- The Monday of the first week of a year: the week that holds its first Thursday.
def firstMonday (year : Nat) : Int :=
  let first : Int := daysBeforeYear year + 1
  let weekday := (first + 6) % 7
  if 3 < weekday then first - weekday + 7 else first - weekday

-- The weeks of a year: 53 if it begins on a Thursday, or on a Wednesday of a leap year.
def weeksInYear (year : Nat) : Nat :=
  let weekday := (daysBeforeYear year + 7) % 7
  if weekday = 3 ∨ (weekday = 2 ∧ isLeap year) then 53 else 52

-- Why a text is no date or time: it is not written as one, or one of its parts is out of range.
inductive Fault
  | malformed
  | year (n : Nat)
  | month
  | day
  | hour
  | minute
  | sec
  | offset (micros : Int)
deriving DecidableEq, Repr

-- Year, month and day as they are written, not yet checked.
structure DateParts where
  year  : Nat
  month : Nat
  day   : Nat

namespace DateParts

def date (p : DateParts) : Except Fault Date :=
  if p.year = 0 ∨ 9999 < p.year then .error (.year p.year)
  else if p.month = 0 ∨ 12 < p.month then .error .month
  else match Date.ofCivil? p.year p.month p.day with
    | some d => .ok d
    | none => .error .day

end DateParts

-- A week may reach beyond either end of the calendar.
def ofWeek? (year week day : Nat) : Option DateParts :=
  if 1 ≤ week ∧ week ≤ weeksInYear year ∧ 1 ≤ day ∧ day ≤ 7 then
    match Date.ofDayNumber? (firstMonday year + ((week - 1) * 7 + (day - 1) : Nat)) with
    | some d => if year = 0 then some ⟨1, 0, 0⟩ else some ⟨d.year, d.month, d.day⟩
    | none => some (if year = 9999 then ⟨10000, 1, 1⟩ else ⟨1, 0, 0⟩)
  else
    none

-- Reads a date that fills the whole text. A week without a day stands for its Monday.
def dateParts? (cs : List Char) : Option DateParts := do
  let (year, rest) ← digits? 4 cs
  let separated := rest.head? == some '-'
  let rest ← hyphen? separated rest
  match rest with
  | 'W' :: rest =>
    let (week, rest) ← digits? 2 rest
    if rest.isEmpty then ofWeek? year week 1
    else
      let rest ← hyphen? separated rest
      let (day, _) ← digits? 1 rest
      ofWeek? year week day
  | rest =>
    let (month, rest) ← digits? 2 rest
    let rest ← hyphen? separated rest
    let (day, rest) ← digits? 2 rest
    if rest.isEmpty then some ⟨year, month, day⟩ else none

-- How many characters of a text belong to its date. The two characters after the year tell the notation. After
-- a week the digits that follow decide: times are written in pairs of digits, so an odd number of digits begins
-- with the day of the week.
def dateLength? (cs : List Char) : Option Nat :=
  let count := cs.length
  if count = 7 then some 7
  else if cs[4]? = some '-' then
    if cs[5]? = some 'W' then
      if count < 8 then none
      else if cs[8]? = some '-' then
        if count = 9 then none
        else if (cs[10]?.bind digit?).isSome then some 8
        else some 10
      else some 8
    else some 10
  else if cs[4]? = some 'W' then
    let stop := 7 + ((cs.drop 7).takeWhile Char.isDigit).length
    if stop < 9 then some stop
    else if stop % 2 = 0 then some 7
    else some 8
  else some 8

-- Hours, minutes, seconds and microseconds as they are written, not yet checked.
structure Reading where
  hour   : Nat := 0
  minute : Nat := 0
  sec    : Nat := 0
  micro  : Nat := 0

namespace Reading

def micros (r : Reading) : Nat := ((r.hour * 60 + r.minute) * 60 + r.sec) * second + r.micro

def time (r : Reading) : Except Fault TimeOfDay :=
  if 24 ≤ r.hour then .error .hour
  else if 60 ≤ r.minute then .error .minute
  else match TimeOfDay.ofParts? r.hour r.minute r.sec r.micro with
    | some t => .ok t
    | none => .error .sec

end Reading

-- Reads up to six decimals; further digits are dropped. The flag tells whether nothing is left.
def fraction? (r : Reading) (cs : List Char) : Option (Reading × Bool) := do
  let places := min 6 cs.length
  let (n, rest) ← digits? places cs
  some ({ r with micro := n * Nat.pow 10 (6 - places) }, (rest.dropWhile Char.isDigit).isEmpty)

inductive Next
  | finished (complete : Bool)
  | part (rest : List Char)
  | decimals (rest : List Char)

-- A single ASCII character at the very end is left over, whatever it is.
def next? (separated : Bool) : List Char → Option Next
  | [] => some (.finished true)
  | [c] => if c.toNat < 0x80 then some (.finished false) else none
  | c :: rest =>
    if separated && c == ':' then some (.part rest)
    else if c == '.' || c == ',' then some (.decimals rest)
    else if separated then none
    else some (.part (c :: rest))

-- Reads hours, minutes, seconds and decimals, in this order, each but the first optional. The first separator
-- decides whether the others have to be there. The flag tells whether nothing is left.
def reading? (cs : List Char) : Option (Reading × Bool) := do
  let (hour, rest) ← digits? 2 cs
  let separated := rest.head? == some ':'
  let r : Reading := { hour }
  match ← next? separated rest with
  | .finished complete => some (r, complete)
  | .decimals rest => fraction? r rest
  | .part rest =>
    let (minute, rest) ← digits? 2 rest
    let r := { r with minute }
    match ← next? separated rest with
    | .finished complete => some (r, complete)
    | .decimals rest => fraction? r rest
    | .part rest =>
      let (sec, rest) ← digits? 2 rest
      let r := { r with sec }
      match ← next? separated rest with
      | .finished complete => some (r, complete)
      | .decimals rest => fraction? r rest
      | .part rest => fraction? r rest

def startsOffset (c : Char) : Bool := c == '+' || c == '-' || c == 'Z'

-- An offset of no whole seconds is universal time.
def offset (cs : List Char) : Except Fault Offset :=
  match cs with
  | ['Z'] => checked 0
  | c :: rest =>
    match reading? rest with
    | some (r, true) =>
      let micros : Int := if r.micros / second = 0 then 0 else r.micros
      if c == 'Z' then .error .malformed else checked (if c == '-' then -micros else micros)
    | _ => .error .malformed
  | [] => .error .malformed
where
  checked (micros : Int) : Except Fault Offset :=
    match Offset.ofMicros? micros with
    | some o => .ok o
    | none => .error (.offset micros)

structure ClockParts where
  reading : Reading
  offset  : Option Offset

-- Reads a time of day that fills the whole text. What is left over before an offset is ignored.
def clockParts (cs : List Char) : Except Fault ClockParts :=
  let (body, zone) := cs.span (!startsOffset ·)
  match reading? body with
  | none => .error .malformed
  | some (r, complete) =>
    if zone.isEmpty then
      if complete then .ok ⟨r, none⟩ else .error .malformed
    else
      (offset zone).map fun o => ⟨r, some o⟩

def moment (cs : List Char) : Except Fault Moment := do
  if cs.length < 7 then throw .malformed
  let some count := dateLength? cs | throw .malformed
  let some parts := dateParts? (cs.take count) | throw .malformed
  match cs.drop count with
  | [] => return .ofDate (← parts.date)
  | _ :: rest =>
    let clock ← clockParts rest
    let date ← parts.date
    let time ← clock.reading.time
    return ⟨date, time, clock.offset⟩

def clockTime (cs : List Char) : Except Fault ClockTime := do
  let parts ← clockParts (match cs with
    | 'T' :: rest => rest
    | cs => cs)
  return ⟨← parts.reading.time, parts.offset⟩

end FlowGate.Iso
