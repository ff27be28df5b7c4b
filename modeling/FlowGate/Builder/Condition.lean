import FlowGate.Builder.Basic
import FlowGate.Calendar.Span
import FlowGate.Text.Case

-- Building conditions: one of each kind, and some for common checks.

namespace FlowGate.Builder

open Value Build
open Schema (newId nonEmptyText whole truth optional natural)

def newHeader (remarks : Remarks) : Header := ⟨text (newId "cond"), remarks⟩

def comparing (field : Value) (operator : Operator) (value : Value) (remarks : Remarks) : Build Condition :=
  ofParsed ((argument "field" nonEmptyText field).map fun field =>
    .simple (newHeader remarks) (text field) (.known operator) value)

def simpleCondition (field operator value metadata : Value) : Build Condition := do
  let operator ← Build.operator operator
  let remarks ← Build.remarks metadata
  comparing field operator value remarks

def combining (connective : Connective) (children : Members Condition) (remarks : Remarks) :
    Build Condition :=
  ofParsed ((members "children" children).bind fun children =>
    Condition.withChildren (newHeader remarks) connective children)

def complexCondition (operator : Value) (children : Members Condition) (metadata : Value) : Build Condition := do
  let connective ← Build.connective operator
  let remarks ← Build.remarks metadata
  combining connective children remarks

def filterCondition (group : Slot FilterGroup) (metadata : Value) : Build Condition := do
  let remarks ← Build.remarks metadata
  match group with
  | .known g => return .filter (newHeader remarks) (.known g)
  | .stray _ => throw (.issues [⟨[.key "group"], .notRecord "FilterGroup"⟩])

def customCondition (function params metadata : Value) : Build Condition := do
  let remarks ← Build.remarks metadata
  ofParsed ((argument "function_name" nonEmptyText function).map fun name =>
    .custom (newHeader remarks) (text name) params)

def mailPattern : String := "^[^\\s@]+@[^\\s@]+\\.[^\\s@]+"

def emailCondition (field : Value) : Build Condition :=
  comparing field .matchesRegex (text mailPattern) {
    name        := some "Email Validation",
    description := some ("Validate email format for " ++ field.plain),
    tags        := ["validation", "email"] }

def dayOf (v : Value) : Except Fault String :=
  match v with
  | moment m => .ok m.date.text
  | v => .error (.noAttribute v.kindName "date")

def dateRangeCondition (field first last : Value) : Build Condition := do
  let firstText ← ofFault first.calendarText
  let lastText ← ofFault last.calendarText
  let firstDay ← ofFault (dayOf first)
  let lastDay ← ofFault (dayOf last)
  comparing field .dateBetween (texts [firstText, lastText]) {
    name        := some "Date Range Check",
    description := some s!"Check if {field.plain} is between {firstDay} and {lastDay}",
    tags        := ["date", "range"] }

def businessLogic (conditions : Members Condition) (operator : Value) : Build Condition := do
  let connective ← Build.connective operator
  combining connective conditions {
    name        := some "Business Logic",
    description := some s!"Complex business logic using {Text.upper connective.name} operator",
    tags        := ["business", "logic", "complex"] }

end FlowGate.Builder
