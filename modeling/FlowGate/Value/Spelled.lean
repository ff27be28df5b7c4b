import FlowGate.Number.Decimal
import FlowGate.Text.Quoted
import FlowGate.Value.Basic

-- The spelling of values in messages: `plain` is a value as a text of its own, `literal` the form in which it
-- stands inside a list or a mapping.

namespace FlowGate

namespace Calendar

-- A distance in time is spelled by days, seconds and microseconds, of which only the days may be negative.
def spelledSpan (micros : Int) : String :=
  let days := Int.fdiv micros dayLength
  let rest := (Int.fmod micros dayLength).toNat
  let parts :=
    (if days = 0 then [] else [s!"days={days}"]) ++
    (if rest / second = 0 then [] else [s!"seconds={rest / second}"]) ++
    (if rest % second = 0 then [] else [s!"microseconds={rest % second}"])
  let inside := if parts.isEmpty then "0" else ", ".intercalate parts
  s!"datetime.timedelta({inside})"

def spelledOffset (o : Offset) : String :=
  if o.micros = 0 then "datetime.timezone.utc" else s!"datetime.timezone({spelledSpan o.micros})"

-- Seconds and microseconds are left out when they are zero.
def spelledTime (t : TimeOfDay) : List Nat :=
  [t.hour, t.minute] ++
    (if t.sec = 0 ∧ t.micro = 0 then [] else [t.sec]) ++ (if t.micro = 0 then [] else [t.micro])

def spelledCall (name : String) (numbers : List Nat) (offset : Option Offset) : String :=
  let parts := numbers.map toString ++ (offset.map fun o => s!"tzinfo={spelledOffset o}").toList
  let inside := ", ".intercalate parts
  s!"datetime.{name}({inside})"

end Calendar

open Calendar

namespace Scalar

def plain : Scalar → String
  | missing => "MISSING"
  | null => "None"
  | bool b => if b then "True" else "False"
  | int n => toString n
  | double x => x.text
  | text s => s
  | date d => d.text
  | moment m => String.ofList (m.chars ' ')
  | clock t => t.text

def literal : Scalar → String
  | text s => Text.spelledText s
  | date d => spelledCall "date" [d.year, d.month, d.day] none
  | moment m => spelledCall "datetime" ([m.date.year, m.date.month, m.date.day] ++ spelledTime m.time) m.offset
  | clock t => spelledCall "time" (spelledTime t.time) t.offset
  | s => s.plain

end Scalar

namespace Value

mutual

def literal : Value → String
  | scalar s => s.literal
  | list items => "[" ++ ", ".intercalate (literalItems items) ++ "]"
  | map entries => "\x7b" ++ ", ".intercalate (literalEntries entries) ++ "\x7d"

def literalItems : List Value → List String
  | [] => []
  | v :: rest => literal v :: literalItems rest

def literalEntries : List (Scalar × Value) → List String
  | [] => []
  | (k, v) :: rest => (k.literal ++ ": " ++ literal v) :: literalEntries rest

end

def plain : Value → String
  | scalar s => s.plain
  | v => v.literal

end Value

end FlowGate
