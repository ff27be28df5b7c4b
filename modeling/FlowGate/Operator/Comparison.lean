import FlowGate.Operator.Basic
import FlowGate.Operator.Similarity
import FlowGate.Path
import FlowGate.Pattern.Matcher
import FlowGate.Pattern.Reader
import FlowGate.Value.Coercion

-- What the operators mean. `Comparer.apply` takes any operator, `Comparer.applyFilter` those that filters may
-- use.

namespace FlowGate

open Value

namespace Comparison

def numeric (holds : Double → Double → Bool) (actual expected : Value) : Except Fault Bool := do
  let a ← actual.toNumber
  let e ← expected.toNumber
  return holds a e

-- Whether a number lies between two bounds. The upper bound is only read when the lower one holds.
def between (actual expected : Value) : Except Fault Bool :=
  match expected.pair? with
  | none => .ok false
  | some (low, high) => do
    let number ← actual.toNumber
    let low ← low.toNumber
    if low.le number then
      let high ← high.toNumber
      return number.le high
    else
      return false

def notBetween (actual expected : Value) : Except Fault Bool :=
  match expected.pair? with
  | none => .ok true
  | some _ => (between actual expected).map (!·)

def isIn (actual expected : Value) : Bool :=
  match expected with
  | list items => items.any fun e => actual.strictEquals e
  | _ => false

def includesAny (actual expected : Value) : Bool :=
  match actual, expected with
  | list held, list wanted => wanted.any fun e => held.any fun a => a.strictEquals e
  | _, _ => false

def includesAll (actual expected : Value) : Bool :=
  match actual, expected with
  | list held, list wanted => wanted.all fun e => held.any fun a => a.strictEquals e
  | _, _ => false

-- Compares the length of a list with a number. Whatever is no list has no length.
def length (wanted : Ordering) (actual expected : Value) : Except Fault Bool :=
  match actual with
  | list items => do
    let n ← expected.toNumber
    return Double.orderInt? items.length n == some wanted
  | _ => .ok false

def contains (actual expected : Value) : Except Fault Bool := do
  let part ← expected.display
  let text ← actual.asText
  return Text.occurs part.toList text.toList

def startsWith (actual expected : Value) : Except Fault Bool := do
  let text ← actual.asText
  let part ← expected.display
  return part.toList.isPrefixOf text.toList

def endsWith (actual expected : Value) : Except Fault Bool := do
  let text ← actual.asText
  let part ← expected.display
  return part.toList.isSuffixOf text.toList

def patternFound (pattern text : String) : Except Fault Bool :=
  match Pattern.read pattern with
  | .ok node => .ok (node.found text.toList)
  | .error e => .error (.pattern e)

def matchesRegex (actual expected : Value) : Except Fault Bool := do
  let pattern ← expected.display
  let text ← actual.display
  patternFound pattern text

def jsonPathExists (actual expected : Value) : Except Fault Bool :=
  match expected with
  | text path => .ok !(Path.walk actual (Path.split path)).isMissing
  | _ => .error .pathNotText

def jsonPathEquals (actual expected : Value) : Except Fault Bool :=
  match expected with
  | map entries =>
    match Entries.get? entries "path" with
    | some path =>
      let found := Path.walk actual (Path.split path.plain)
      .ok (!found.isMissing && found.strictEquals (Entries.getD entries "expected" null))
    | none => .error .pathPairMissing
  | _ => .error .pathPairMissing

-- Compares two moments; what denotes no moment compares with nothing.
def dates (holds : Int → Int → Bool) (actual expected : Value) : Except Fault Bool := do
  let a ← actual.toMoment
  let e ← expected.toMoment
  match a, e with
  | some a, some e => return holds a.localMicros e.localMicros
  | _, _ => return false

def dateBetween (actual expected : Value) : Except Fault Bool := do
  let moment ← actual.toMoment
  match expected.pair?, moment with
  | some (first, last), some m =>
    let first ← first.toMoment
    let last ← last.toMoment
    match first, last with
    | some s, some e => return s.localMicros ≤ m.localMicros && m.localMicros ≤ e.localMicros
    | _, _ => return false
  | _, _ => return false

-- Whether one time of day is no later than another.
def noLater (a b : ClockTime) : Except Fault Bool :=
  match a.order? b with
  | some o => .ok (o != .gt)
  | none => .error .mixedClocks

-- Whether a time of day lies in a window. A window that ends before it starts goes past midnight.
def inWindow (first last t : ClockTime) : Except Fault Bool := do
  if ← noLater first last then
    if ← noLater first t then noLater t last else return false
  else if ← noLater first t then return true
  else noLater t last

def timeBetween (actual expected : Value) : Except Fault Bool := do
  let time ← actual.toTimeOfDay
  match expected.pair?, time with
  | some (first, last), some t =>
    let first ← first.toTimeOfDay
    let last ← last.toTimeOfDay
    match first, last with
    | some s, some e => inWindow s e t
    | _, _ => return false
  | _, _ => return false

-- Whether a whole number is the expected one, or one of the expected ones up to the first that is.
def isNumbered (n : Int) (expected : Value) : Except Fault Bool :=
  match expected with
  | list items => any items
  | v => one v
where
  one (v : Value) : Except Fault Bool := do
    let x ← v.toNumber
    return n == (← wholePart x)
  any : List Value → Except Fault Bool
    | [] => .ok false
    | v :: rest => do
      if ← one v then return true else any rest

-- Applies a test to the moment that a value denotes, if it denotes one.
def ofMoment (actual : Value) (holds : Moment → Except Fault Bool) : Except Fault Bool := do
  match ← actual.toMoment with
  | some m => holds m
  | none => return false

end Comparison

-- What comparisons depend on: the present moment and the least likeness of texts that match.
structure Comparer where
  now       : Moment
  threshold : Double

namespace Comparer

open Comparison

variable (t : Comparer)

def isYesterday (m : Moment) : Except Fault Bool :=
  match t.now.date.addDays? (-1) with
  | some d => .ok (m.date == d)
  | none => .error .dateOutOfRange

-- Whether a moment lies in the week of the present moment, from Sunday to Saturday. The end of the week is only
-- looked for when the moment does not lie before its start.
def isThisWeek (m : Moment) : Except Fault Bool :=
  match t.now.date.addDays? (-t.now.date.weekdayFromSunday) with
  | none => .error .dateOutOfRange
  | some sunday =>
    if m.localMicros < (Moment.ofDate sunday).localMicros then .ok false
    else match sunday.addDays? 7 with
      | none => .error .dateOutOfRange
      | some next => .ok (m.localMicros < (Moment.ofDate next).localMicros)

-- The text to compare with and the least likeness, which a mapping can give of its own.
def similarityArguments (expected : Value) : Except Fault (String × Double) := do
  match expected with
  | map entries =>
    let wanted := Entries.getD entries "value" (Entries.getD entries "text" (text ""))
    let threshold ←
      match Entries.getD entries "threshold" null with
      | null => pure t.threshold
      | v => v.toNumber
    return (← wanted.asText, threshold)
  | v => return (← v.asText, t.threshold)

def fuzzyMatch (actual expected : Value) : Except Fault Bool := do
  let (wanted, threshold) ← t.similarityArguments expected
  let text ← actual.asText
  return threshold.le (Similarity.score text.toList wanted.toList)

def applyKnown (o : Operator) (actual expected : Value) : Except Fault Bool :=
  match o with
  | .equals => .ok (actual.strictEquals expected)
  | .notEquals => .ok !(actual.strictEquals expected)
  | .contains => contains actual expected
  | .notContains => (contains actual expected).map (!·)
  | .startsWith => startsWith actual expected
  | .endsWith => endsWith actual expected
  | .matchesRegex => matchesRegex actual expected
  | .greaterThan => numeric (fun a e => e.lt a) actual expected
  | .greaterThanOrEqual => numeric (fun a e => e.le a) actual expected
  | .lessThan => numeric Double.lt actual expected
  | .lessThanOrEqual => numeric Double.le actual expected
  | .between => between actual expected
  | .notBetween => notBetween actual expected
  | .isIn => .ok (isIn actual expected)
  | .isNotIn => .ok !(isIn actual expected)
  | .includesAny => .ok (includesAny actual expected)
  | .includesAll => .ok (includesAll actual expected)
  | .arrayLengthEquals => length .eq actual expected
  | .arrayLengthGreaterThan => length .gt actual expected
  | .arrayLengthLessThan => length .lt actual expected
  | .isPresent => .ok !actual.isNothing
  | .isAbsent => .ok actual.isNothing
  | .isNull => .ok (actual matches null)
  | .isNotNull => .ok !(actual matches null)
  | .isEmpty => .ok actual.isEmpty
  | .isNotEmpty => .ok !actual.isEmpty
  | .isString => .ok (actual matches text _)
  | .isNumber => actual.isNumber
  | .isBoolean => .ok (actual matches Value.bool _)
  | .isArray => .ok (actual matches list _)
  | .isObject => .ok actual.isMap
  | .dateEquals => dates (· == ·) actual expected
  | .dateAfter => dates (· > ·) actual expected
  | .dateBefore => dates (· < ·) actual expected
  | .dateBetween => dateBetween actual expected
  | .dateIsToday => ofMoment actual fun m => .ok (m.date == t.now.date)
  | .dateIsYesterday => ofMoment actual t.isYesterday
  | .dateIsThisWeek => ofMoment actual t.isThisWeek
  | .dateIsThisMonth =>
    ofMoment actual fun m => .ok (m.date.year == t.now.date.year && m.date.month == t.now.date.month)
  | .dateIsThisYear => ofMoment actual fun m => .ok (m.date.year == t.now.date.year)
  | .timeBetween => timeBetween actual expected
  | .dayOfWeek => ofMoment actual fun m => isNumbered m.date.weekdayFromSunday expected
  | .hourOfDay => ofMoment actual fun m => isNumbered m.time.hour expected
  | .fuzzyMatch => t.fuzzyMatch actual expected
  | .similarityScore => t.fuzzyMatch actual expected
  | .jsonPathExists => jsonPathExists actual expected
  | .jsonPathEquals => jsonPathEquals actual expected

-- Whether a value can be looked up by equality: lists and mappings cannot.
def checkKey (v : Value) : Except Fault Unit :=
  match v with
  | scalar _ => .ok ()
  | v => .error (.unhashable v.kindName)

def apply (o : Slot Operator) (actual expected : Value) : Except Fault Bool :=
  match o with
  | .known o => t.applyKnown o actual expected
  | .stray v => do
    checkKey v
    throw (.unknownOperator v.plain)

def applyFilter (o : Slot Operator) (actual expected : Value) : Except Fault Bool :=
  match o with
  | .known o =>
    if Operator.forFilters.contains o then t.applyKnown o actual expected
    else .error (.unsupportedOperator o.name)
  | .stray v => do
    checkKey v
    throw (.unsupportedOperator v.plain)

end Comparer

end FlowGate
