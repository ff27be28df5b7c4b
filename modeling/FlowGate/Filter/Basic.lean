import FlowGate.Operator.Basic
import FlowGate.Fault

-- Filters and groups of filters. A filter tests one field. A group combines its filters and its sub-groups, all
-- of them or any of them. A configuration that has not been validated may hold any value in a place where a
-- name, a number or a list belongs, so these places hold values, and a list that is none is kept beside the
-- list.

namespace FlowGate

inductive DataType
  | string
  | number
  | boolean
  | date
  | array
  | object
deriving DecidableEq, Repr

namespace DataType

def name : DataType → String
  | string => "string"
  | number => "number"
  | boolean => "boolean"
  | date => "date"
  | array => "array"
  | object => "object"

def all : List DataType := [.string, .number, .boolean, .date, .array, .object]

def ofName? (name : String) : Option DataType := all.find? fun t => t.name == name

end DataType

inductive TransformKind
  | lowercase
  | uppercase
  | trim
  | normalize
  | custom
deriving DecidableEq, Repr

namespace TransformKind

def name : TransformKind → String
  | lowercase => "lowercase"
  | uppercase => "uppercase"
  | trim => "trim"
  | normalize => "normalize"
  | custom => "custom"

def all : List TransformKind := [.lowercase, .uppercase, .trim, .normalize, .custom]

def ofName? (name : String) : Option TransformKind := all.find? fun t => t.name == name

end TransformKind

structure Rules where
  required        : Bool := false
  dataType        : Option DataType := none
  minLength       : Option Nat := none
  maxLength       : Option Nat := none
  pattern         : Option String := none
  customValidator : Option String := none

structure Transformation where
  kind           : TransformKind
  customFunction : Option String := none
  params         : Entries := []

structure Filter where
  id             : Value
  name           : Value := .text ""
  field          : Value
  operator       : Slot Operator
  value          : Value := .null
  enabled        : Value := .bool true
  priority       : Value := .int 0
  rules          : Option Rules := none
  transformation : Option Transformation := none

structure FilterGroup where
  id             : Value
  name           : Value := .text ""
  description    : Option String := none
  operator       : Slot Combination := .known .and
  filters        : List Filter := []
  strayFilters   : Option Value := none
  subGroups      : List FilterGroup := []
  straySubGroups : Option Value := none
  enabled        : Value := .bool true
  priority       : Value := .int 0

namespace Filter

def isEnabled (f : Filter) : Bool := f.enabled.truthy

end Filter

namespace FilterGroup

def isEnabled (g : FilterGroup) : Bool := g.enabled.truthy

end FilterGroup

namespace Value

def rank (priority : Value) : Except Fault Scalar :=
  if !priority.truthy then .ok (.int 0)
  else match priority with
    | bool _ => .ok (.int 1)
    | int n => .ok (.int n)
    | double x => .ok (.double x)
    | v => .error (.negated v.kindName)

end Value

namespace Priority

-- Whether one rank comes no later than another: higher ranks come first.
def noLater (a b : Scalar) : Bool := Scalar.numericOrder? a b != some .lt

def ranked {α : Type} (priority : α → Value) : List α → Except Fault (List (Scalar × α))
  | [] => .ok []
  | a :: rest => do
    let rank ← (priority a).rank
    let others ← ranked priority rest
    return (rank, a) :: others

def sort {α : Type} (priority : α → Value) (members : List α) : Except Fault (List α) :=
  (ranked priority members).map fun pairs =>
    (pairs.mergeSort fun a b => noLater a.1 b.1).map (·.2)

end Priority

-- The fault of going through a value that stands in place of a list of members. Mappings and texts without
-- content have no members.
def strayMembers (stray : Option Value) (wanted : String) : Except Fault Unit :=
  match stray with
  | none => .ok ()
  | some v =>
    match v with
    | .text s => if s == "" then .ok () else .error (.noAttribute "str" wanted)
    | .map [] => .ok ()
    | .map ((k, _) :: _) => .error (.noAttribute k.kindName wanted)
    | .list _ => .ok ()
    | v => .error (.notIterable v.kindName)

namespace FilterGroup

mutual

-- How many enabled filters a group holds, also in its enabled sub-groups.
def enabledFilterCount : FilterGroup → Except Fault Nat
  | ⟨_, _, _, _, filters, strayFilters, subGroups, straySubGroups, enabled, _⟩ =>
    if !enabled.truthy then .ok 0
    else do
      strayMembers strayFilters "enabled"
      strayMembers straySubGroups "enabled_filter_count"
      let inner ← enabledFilterCounts subGroups
      return (filters.filter Filter.isEnabled).length + inner

def enabledFilterCounts : List FilterGroup → Except Fault Nat
  | [] => .ok 0
  | g :: rest => do
    let here ← enabledFilterCount g
    let others ← enabledFilterCounts rest
    return here + others

end

end FilterGroup

end FlowGate
