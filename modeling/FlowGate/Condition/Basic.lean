import FlowGate.Filter.Basic

-- Conditions. A simple condition compares a field with a value, a complex one combines its children, a filter
-- condition asks a filter group and a custom one a registered function. A configuration that has not been
-- validated may hold conditions of another kind, and any value in place of a name, an operator or a list of
-- children. A place that holds nothing at all has the value `missing`.

namespace FlowGate

open Value

structure Remarks where
  name        : Option String := none
  description : Option String := none
  priority    : Int := 0
  tags        : List String := []

structure Header where
  id      : Value
  remarks : Remarks := {}

inductive Condition
  | simple (header : Header) (field : Value) (operator : Slot Operator) (value : Value)
  | complex (header : Header) (operator : Slot Connective) (children : List Condition) (stray : Option Value)
  | filter (header : Header) (group : Slot FilterGroup)
  | custom (header : Header) (function : Value) (params : Value)
  | foreign (id kind label : Value)

namespace Condition

def id : Condition → Value
  | simple header .. => header.id
  | complex header .. => header.id
  | filter header .. => header.id
  | custom header .. => header.id
  | foreign id .. => id

def kind : Condition → Value
  | simple .. => text "simple"
  | complex .. => text "complex"
  | filter .. => text "filter"
  | custom .. => text "custom"
  | foreign _ kind _ => kind

-- The field that a condition looks at, null if it looks at none.
def field : Condition → Value
  | simple _ field .. => if field.isMissing then null else field
  | _ => null

-- The label of an operator. Where there is none, the kind of the condition takes its place.
def slotLabel {α : Type} (name : α → String) (kind : String) : Slot α → Except Fault Value
  | .known a => .ok (text (name a))
  | .stray v => if v.isNothing then .ok (text kind) else .error (.noAttribute v.kindName "value")

-- The label of a condition in results: its operator, or else its kind.
def label : Condition → Except Fault Value
  | simple _ _ operator _ => slotLabel Operator.name "simple" operator
  | complex _ operator _ _ => slotLabel Connective.name "complex" operator
  | filter .. => .ok (text "filter")
  | custom .. => .ok (text "custom")
  | foreign _ _ label => .ok label

end Condition

end FlowGate
