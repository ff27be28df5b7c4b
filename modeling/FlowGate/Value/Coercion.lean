import FlowGate.Calendar.Iso
import FlowGate.Json.Printer
import FlowGate.Number.Numeral
import FlowGate.Text.Search

-- How operators read values: as texts, as numbers, as moments and as times of day.

namespace FlowGate.Value

mutual

-- The text that a value is displayed as. A double without fraction is displayed as a whole number, a list as
-- its items with commas between them, and a mapping as a document.
def display : Value → Except Fault String
  | missing => .ok "undefined"
  | null => .ok "null"
  | bool b => .ok (if b then "true" else "false")
  | double x =>
    match x.toInt? with
    | some n => .ok (toString n)
    | none => .ok x.text
  | moment m => .ok m.text
  | scalar s => .ok s.plain
  | list items => (displayItems items).map (",".intercalate ·)
  | map entries => Json.print (map entries)

-- An item that is absent or null leaves its place empty.
def displayItems : List Value → Except Fault (List String)
  | [] => .ok []
  | v :: rest => do
    let text ← if v.isNothing then pure "" else display v
    let texts ← displayItems rest
    .ok (text :: texts)

end

-- Whether a value reads as the empty text: nothing, false and zero.
def isBlank : Value → Bool
  | missing => true
  | null => true
  | bool false => true
  | int n => n == 0
  | double x => x.isZero
  | _ => false

def asText (v : Value) : Except Fault String := if v.isBlank then .ok "" else v.display

-- The number that numeric operators read: a number, a truth value as 0 or 1, or the text of a number.
def toNumber (v : Value) : Except Fault Double :=
  match v with
  | bool b => .ok (.ofBool b)
  | int n =>
    match Double.ofInt? n with
    | some x => .ok x
    | none => .error .integerTooLarge
  | double x => .ok x
  | text s =>
    match Numeral.readDouble? s with
    | some x => .ok x
    | none => notNumeric v
  | v => notNumeric v
where
  notNumeric (v : Value) : Except Fault Double := do
    throw (.notNumeric (← v.display))

def wholePart (x : Double) : Except Fault Int :=
  match x with
  | .nan => .error .notANumber
  | .infinite _ => .error .infiniteInteger
  | x => .ok (x.truncate?.getD 0)

-- Equality without coercion: nothing equals only itself, and a truth value never equals a number.
def strictEquals (left right : Value) : Bool :=
  match left, right with
  | missing, missing => true
  | null, null => true
  | missing, _ => false
  | _, missing => false
  | null, _ => false
  | _, null => false
  | bool a, bool b => a == b
  | bool _, _ => false
  | _, bool _ => false
  | a, b => a.same b

def isEmpty : Value → Bool
  | missing => true
  | null => true
  | text s => s == ""
  | list items => items.isEmpty
  | map entries => entries.isEmpty
  | _ => false

-- Whether a value is a number. A whole number has to be small enough to be compared with doubles.
def isNumber : Value → Except Fault Bool
  | int n => if (Double.ofInt? n).isSome then .ok true else .error .integerTooLarge
  | double x => .ok !x.isNaN
  | _ => .ok false

def pair? : Value → Option (Value × Value)
  | list [a, b] => some (a, b)
  | _ => none

def localMoment (m : Moment) : Except Fault Moment :=
  match m.toLocal? with
  | some m => .ok m
  | none => .error .dateOutOfRange

def epochDay : Nat := 719163

-- The moment some seconds after the beginning of 1970, to the nearest microsecond, as the clocks of the host show
-- it. The first day of the calendar is out of reach.
def ofEpochSeconds? (x : Double) : Option Moment :=
  match x with
  | .finite negative units _ =>
    let whole := units / Grid.one
    let micros := Grid.divRound (Grid.nearest (units % Grid.one * Calendar.second) 1) Grid.one
    let total : Int := whole * Calendar.second + micros
    let total := if negative then -total else total
    match Moment.ofLocalMicros? (epochDay * Calendar.dayLength + total + Moment.hostOffset) with
    | some m => if m.date.dayNumber < 2 then none else some m
    | none => none
  | _ => none

def momentOfText (s : String) : Except Fault (Option Moment) :=
  match Iso.moment (Text.replaceChar 'Z' "+00:00".toList (Text.strip s)).toList with
  | .ok m => (localMoment m).map some
  | .error _ => .ok none

-- The local moment that a value denotes. Dates stand for their midnight and numbers count milliseconds since
-- the beginning of 1970.
def toMoment (v : Value) : Except Fault (Option Moment) :=
  match v with
  | moment m => (localMoment m).map some
  | date d => .ok (some (.ofDate d))
  | text s => momentOfText s
  | int n => do
    let _ ← v.isNumber
    .ok (ofEpochSeconds? ((Double.ofInt n).divNat 1000))
  | double x => .ok (if x.isNaN then none else ofEpochSeconds? (x.divNat 1000))
  | _ => .ok none

-- The time of day that a value denotes, if need be that of the moment it denotes.
def toTimeOfDay (v : Value) : Except Fault (Option ClockTime) :=
  match v with
  | clock t => .ok (some t)
  | text s =>
    match Iso.clockTime (Text.strip s).toList with
    | .ok t => .ok (some t)
    | .error _ => ofMoment v
  | v => ofMoment v
where
  ofMoment (v : Value) : Except Fault (Option ClockTime) :=
    v.toMoment.map fun m => m.map fun m => ⟨m.time, none⟩

end FlowGate.Value
