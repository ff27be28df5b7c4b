import FlowGate.Filter.Basic
import FlowGate.Schema.Reader

-- Reading filters and filter groups, and writing them back. The filters of a group and its sub-groups are read
-- one by one, so that the issues of all of them are reported.

namespace FlowGate

open Value Schema

def Operator.read : Reader Operator := word Operator.all Operator.name

def Combination.read : Reader Combination := word Combination.all Combination.name

namespace Rules

def ofFields (entries : Entries) : Parsed Rules :=
  Rules.mk
    <$> defaulted entries ["required"] false truth
    <*> defaulted entries ["dataType", "data_type"] none (optional (word DataType.all DataType.name))
    <*> defaulted entries ["minLength", "min_length"] none (optional natural)
    <*> defaulted entries ["maxLength", "max_length"] none (optional natural)
    <*> defaulted entries ["pattern"] none (optional Schema.text)
    <*> defaulted entries ["customValidator", "custom_validator"] none (optional Schema.text)

def read : Reader Rules := fields "FilterValidation" ofFields

def ofLength (n : Option Nat) : Value := (n.map fun n => int n).getD null

def dump (rules : Rules) : Value := record [
  ("required", bool rules.required),
  ("dataType", optionalText (rules.dataType.map DataType.name)),
  ("minLength", ofLength rules.minLength),
  ("maxLength", ofLength rules.maxLength),
  ("pattern", optionalText rules.pattern),
  ("customValidator", optionalText rules.customValidator)]

end Rules

namespace Transformation

def ofFields (entries : Entries) : Parsed Transformation :=
  Transformation.mk
    <$> required entries ["type"] (word TransformKind.all TransformKind.name)
    <*> defaulted entries ["customFunction", "custom_function"] none (optional Schema.text)
    <*> defaulted entries ["params"] [] mapping

def read : Reader Transformation := fields "FilterTransformation" ofFields

def dump (t : Transformation) : Value := record [
  ("type", text t.kind.name),
  ("customFunction", optionalText t.customFunction),
  ("params", map t.params)]

end Transformation

namespace Filter

def build (id name field : String) (operator : Operator) (value : Value) (enabled : Bool) (priority : Int)
    (rules : Option Rules) (transformation : Option Transformation) : Filter where
  id             := .text id
  name           := .text name
  field          := .text field
  operator       := .known operator
  value          := value
  enabled        := .bool enabled
  priority       := .int priority
  rules          := rules
  transformation := transformation

def ofFields (entries : Entries) : Parsed Filter :=
  build
    <$> defaulted entries ["id"] (newId "filter") nonEmptyText
    <*> defaulted entries ["name"] "" Schema.text
    <*> required entries ["field"] nonEmptyText
    <*> required entries ["operator"] Operator.read
    <*> defaulted entries ["value"] null anything
    <*> defaulted entries ["enabled"] true truth
    <*> defaulted entries ["priority"] 0 whole
    <*> defaulted entries ["validation"] none (optional Rules.read)
    <*> defaulted entries ["transformation"] none (optional Transformation.read)

def read : Reader Filter := fields "Filter" ofFields

def dump (f : Filter) : Value := record [
  ("id", f.id),
  ("name", f.name),
  ("field", f.field),
  ("operator", f.operator.shown Operator.name),
  ("value", f.value),
  ("enabled", f.enabled),
  ("priority", f.priority),
  ("validation", (f.rules.map Rules.dump).getD null),
  ("transformation", (f.transformation.map Transformation.dump).getD null)]

end Filter

namespace FilterGroup

def build (id name : String) (description : Option String) (operator : Combination) (filters : List Filter)
    (subGroups : List FilterGroup) (enabled : Bool) (priority : Int) : FilterGroup where
  id          := .text id
  name        := .text name
  description := description
  operator    := .known operator
  filters     := filters
  subGroups   := subGroups
  enabled     := .bool enabled
  priority    := .int priority

def ofFields (entries : Entries) (subGroups : Option (Parsed (List FilterGroup))) : Parsed FilterGroup :=
  build
    <$> defaulted entries ["id"] (newId "group") nonEmptyText
    <*> defaulted entries ["name"] "" Schema.text
    <*> defaulted entries ["description"] none (optional Schema.text)
    <*> defaulted entries ["operator"] .and Combination.read
    <*> defaulted entries ["filters"] [] (listOf Filter.read)
    <*> subGroups.getD (.done [])
    <*> defaulted entries ["enabled"] true truth
    <*> defaulted entries ["priority"] 0 whole

mutual

def read : Value → Parsed FilterGroup
  | .map entries => ofFields entries (readUnder "sub_groups" entries <|> readUnder "subGroups" entries)
  | _ => .problem (.notRecord "FilterGroup")

-- Reads the groups under a key, if it is there.
def readUnder (name : String) : List (Scalar × Value) → Option (Parsed (List FilterGroup))
  | [] => none
  | (k, v) :: rest =>
    if k.same (.text name) then some ((readList v).under (.key name)) else readUnder name rest

def readList : Value → Parsed (List FilterGroup)
  | .list vs => readItems 0 vs
  | _ => .problem .notList

def readItems (index : Nat) : List Value → Parsed (List FilterGroup)
  | [] => .done []
  | v :: rest => List.cons <$> (read v).under (.index index) <*> readItems (index + 1) rest

end

def dumpMembers (stray : Option Value) (members : List Value) : Value := stray.getD (list members)

mutual

def dump : FilterGroup → Value
  | ⟨id, name, description, operator, filters, strayFilters, subGroups, straySubGroups, enabled, priority⟩ =>
    record [
      ("id", id),
      ("name", name),
      ("description", optionalText description),
      ("operator", operator.shown Combination.name),
      ("filters", dumpMembers strayFilters (filters.map Filter.dump)),
      ("subGroups", dumpMembers straySubGroups (dumps subGroups)),
      ("enabled", enabled),
      ("priority", priority)]

def dumps : List FilterGroup → List Value
  | [] => []
  | g :: rest => dump g :: dumps rest

end

end FilterGroup

end FlowGate
