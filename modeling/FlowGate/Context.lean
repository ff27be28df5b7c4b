import FlowGate.Path
import FlowGate.Value.Coercion

-- The context of a workflow step: what triggered the workflow, its variables and the record of its execution,
-- and the values that field paths and placeholders find there.

namespace FlowGate

open Value

structure Context where
  trigger     : Entries
  vars        : Entries
  executionId : Value
  workflowId  : Value
  userId      : Value
  stepIndex   : Int
  startedAt   : Value

namespace Value

-- The whole number that a value is converted to: the whole part of a number, or the text of one.
def toWhole (v : Value) : Except Fault Int :=
  match v with
  | bool b => .ok (if b then 1 else 0)
  | int n => .ok n
  | double x => wholePart x
  | text s =>
    match Numeral.readInt s with
    | .ok n => .ok n
    | .error .malformed => .error (.notAnInteger s)
    | .error (.tooLong digits) => .error (.integerTooLong digits)
  | v => .error (.integerFrom v.kindName)

def keyAndValue (index : Nat) (v : Value) : Except Fault (Scalar × Value) := do
  let items ←
    match v with
    | list items => pure items
    | text s => pure (s.toList.map fun c => text (String.singleton c))
    | map entries => pure (entries.map fun e => scalar e.1)
    | _ => throw (.entryKind index)
  match items with
  | [scalar key, value] => return (key, value)
  | [key, _] => throw (.unhashable key.kindName)
  | items => throw (.entryLength index items.length)

def keysAndValues (index : Nat) : List Value → Except Fault (List (Scalar × Value))
  | [] => .ok []
  | v :: rest => do
    let pair ← keyAndValue index v
    let pairs ← keysAndValues (index + 1) rest
    return pair :: pairs

-- The mapping that a value is converted to: itself, or one built from a list of pairs. Whatever counts as false
-- gives the empty mapping.
def toEntries (v : Value) : Except Fault Entries :=
  if !v.truthy then .ok []
  else match v with
    | map entries => .ok entries
    | list items => (keysAndValues 0 items).map Entries.ofList
    | text s => (keysAndValues 0 (s.toList.map fun c => text (String.singleton c))).map Entries.ofList
    | v => .error (.notIterable v.kindName)

end Value

namespace Context

def pick (data : Entries) (first second : String) : Value :=
  match Entries.get? data first with
  | some v => v
  | none => Entries.getD data second null

-- A value, or the empty text if it counts as false.
def orEmpty (v : Value) : Value := if v.truthy then v else text ""

-- When the execution started. Texts are read as moments, other values are kept.
def startOf (present : Moment) (v : Value) : Except Fault Value :=
  match v with
  | text s =>
    let written := Text.replaceChar 'Z' "+00:00".toList s
    match Iso.moment written.toList with
    | .ok m => .ok (moment m)
    | .error fault => .error (.notAMoment written fault)
  | null => .ok (moment present)
  | v => .ok v

-- Builds a context from its record. An execution that does not say when it started starts now.
def ofEntries (present : Moment) (data : Entries) : Except Fault Context := do
  let startedAt ← startOf present (pick data "execution_start_time" "executionStartTime")
  let trigger ← (pick data "trigger_data" "triggerData").toEntries
  let vars ← (pick data "variables" "variables").toEntries
  let index := pick data "current_step_index" "currentStepIndex"
  return {
    trigger,
    vars,
    executionId := orEmpty (pick data "execution_id" "executionId"),
    workflowId := orEmpty (pick data "workflow_id" "workflowId"),
    userId := pick data "user_id" "userId",
    stepIndex := ← if index.truthy then index.toWhole else pure 0,
    startedAt
  }

-- Builds a context from any value. Whatever counts as false is an empty record.
def ofValue (present : Moment) (v : Value) : Except Fault Context :=
  if !v.truthy then ofEntries present []
  else match v with
    | map entries => ofEntries present entries
    | text s =>
      if Text.occurs "execution_start_time".toList s.toList then
        .error (.textIndex "str")
      else .error (.noAttribute "str" "get")
    | list items =>
      if items.any fun item => item.same (text "execution_start_time") then
        .error .listIndex
      else .error (.noAttribute "list" "get")
    | v => .error (.notContainer v.kindName)

def record (c : Context) : Value :=
  Value.record [
    ("executionId", c.executionId),
    ("workflowId", c.workflowId),
    ("userId", c.userId),
    ("timestamp", c.startedAt)]

-- Everything that field paths can find. Variables win over what triggered the workflow.
def scope (c : Context) : Entries :=
  Entries.insert (Entries.merge (Entries.merge [] c.trigger) c.vars) (.text "_meta") c.record

def resolveField (c : Context) (path : String) : Value := Path.walk (map c.scope) (Path.dotted path)

-- The path inside a text that is a placeholder as a whole.
def placeholder? (s : String) : Option String :=
  match s.toList with
  | '\x7b' :: '\x7b' :: rest => inside rest.reverse
  | _ => none
where
  inside : List Char → Option String
    | '\n' :: '\x7d' :: '\x7d' :: rest => some (String.ofList rest.reverse)
    | '\x7d' :: '\x7d' :: rest => some (String.ofList rest.reverse)
    | _ => none

-- Puts the value that a placeholder names in its place; every other value stays as it is.
def resolveValue (c : Context) (v : Value) : Value :=
  match v with
  | text s =>
    match placeholder? s with
    | some path => c.resolveField (Text.strip path)
    | none => v
  | v => v

end Context

end FlowGate
