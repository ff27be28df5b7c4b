import FlowGate.Calendar.Moment
import FlowGate.Fault
import FlowGate.Number.Arithmetic

-- Spans of time that are given in hours, and moments that lie a span away from others.

namespace FlowGate

open Value

namespace Calendar

def hourLength : Nat := 3600 * second

def maxSpanDays : Nat := 999999999

-- The microseconds nearest to a number of hours; a half goes to the even neighbour. The fraction of an hour is
-- converted by itself, after rounding it to a double.
def hoursOfDouble (x : Double) : Except Fault Int :=
  match x with
  | .nan => .error .notANumber
  | .infinite _ => .error .infiniteInteger
  | .finite negative units _ =>
    let whole := units / Grid.one * hourLength
    let rest := (Double.ofUnits negative (units % Grid.one)).scale hourLength
    match rest with
    | .finite _ restUnits _ =>
      let micros := Grid.divRound (whole * Grid.one + restUnits) Grid.one
      .ok (if negative then -(micros : Int) else micros)
    | _ => .error .infiniteInteger

-- Checks that a span in microseconds has no more days than a span may have.
def checkSpan (micros : Int) : Except Fault Int :=
  let days := Int.fdiv micros dayLength
  if days.natAbs ≤ maxSpanDays then .ok micros
  else if -2147483648 ≤ days ∧ days < 2147483648 then .error (.spanOutOfRange days)
  else .error .wordOverflow

def hours (v : Value) : Except Fault Int := do
  let micros ←
    match v with
    | Value.bool b => pure (if b then (hourLength : Int) else 0)
    | int n => pure (n * hourLength)
    | double x => hoursOfDouble x
    | v => throw (.notHours v.kindName)
  checkSpan micros

end Calendar

namespace Moment

def earlier (m : Moment) (micros : Int) : Except Fault Moment :=
  match ofLocalMicros? (m.localMicros - micros) with
  | some n => .ok { n with offset := m.offset }
  | none => .error .dateOutOfRange

end Moment

namespace Value

-- A moment or a date some microseconds earlier. Of a date only whole days are taken.
def earlier (v : Value) (micros : Int) : Except Fault Value :=
  match v with
  | moment m => (m.earlier micros).map Value.moment
  | date d =>
    match d.addDays? (-(Int.fdiv micros Calendar.dayLength)) with
    | some e => .ok (date e)
    | none => .error .dateOutOfRange
  | v => .error (.notSubtracted v.kindName "datetime.timedelta")

def calendarText (v : Value) : Except Fault String :=
  match v with
  | date d => .ok d.text
  | moment m => .ok m.text
  | clock t => .ok t.text
  | v => .error (.noAttribute v.kindName "isoformat")

def pred (v : Value) : Except Fault Value :=
  match v with
  | bool b => .ok (int (if b then 0 else -1))
  | int n => .ok (int (n - 1))
  | double x => .ok (double (x.add (.ofInt (-1))))
  | v => .error (.notSubtracted v.kindName "int")

def succ (v : Value) : Except Fault Value :=
  match v with
  | bool b => .ok (int (if b then 2 else 1))
  | int n => .ok (int (n + 1))
  | double x => .ok (double (x.add (.ofInt 1)))
  | text _ => .error (.notConcatenated "str")
  | list _ => .error (.notConcatenated "list")
  | v => .error (.notAdded v.kindName "int")

def parts (v : Value) : Except Fault (List Value) :=
  match v with
  | list items => .ok items
  | text s => .ok (s.toList.map fun c => text (String.singleton c))
  | map entries => .ok (entries.map fun e => scalar e.1)
  | v => .error (.notIterable v.kindName)

end Value

end FlowGate
