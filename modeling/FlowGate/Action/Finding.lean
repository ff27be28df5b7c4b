import FlowGate.Schema.Issue
import FlowGate.Value.Written

-- What a check of an action finds. An error blocks the action, so that it takes its error branch, and a warning
-- does not.

namespace FlowGate

open Value

inductive Finding
  | unread (issue : Schema.Issue)
  | actionWithoutId
  | noConditions
  | noTrueBranch
  | noFalseBranch
  | timeout (n : Int)
  | conditionWithoutId
  | duplicateId (id : Value)
  | tooDeep (id : Value) (limit : Int)
  | noField (id : Value)
  | noFunction (id : Value)
  | unknownFunction (id name : Value)
  | noChildren (id : Value)
  | notOneChild (id : Value)
  | tooManyConditions (count : Nat) (limit : Int)
  | groupWithoutId
  | tooManyFilters (id : Value) (count : Nat) (limit : Int)
  | filterWithoutId (field : Value)
  | emptyGroup (id : Value)

namespace Finding

def isWarning : Finding → Bool
  | noFalseBranch => true
  | duplicateId _ => true
  | unknownFunction _ _ => true
  | emptyGroup _ => true
  | _ => false

def code : Finding → String
  | unread _ => "E_SCHEMA"
  | actionWithoutId => "E_MISSING_ID"
  | noConditions => "E_NO_CONDITIONS"
  | noTrueBranch => "E_MISSING_ON_TRUE"
  | noFalseBranch => "W_NO_FALSE_BRANCH"
  | timeout _ => "E_INVALID_TIMEOUT"
  | conditionWithoutId => "E_MISSING_ID"
  | duplicateId _ => "W_DUPLICATE_ID"
  | tooDeep _ _ => "E_DEPTH"
  | noField _ => "E_MISSING_FIELD"
  | noFunction _ => "E_MISSING_FUNCTION"
  | unknownFunction _ _ => "W_UNKNOWN_FUNCTION"
  | noChildren _ => "E_NO_CHILDREN"
  | notOneChild _ => "E_NOT_ARITY"
  | tooManyConditions _ _ => "E_TOO_MANY_CONDITIONS"
  | groupWithoutId => "E_MISSING_ID"
  | tooManyFilters _ _ _ => "E_TOO_MANY_FILTERS"
  | filterWithoutId _ => "E_MISSING_ID"
  | emptyGroup _ => "W_EMPTY_GROUP"

def message : Finding → String
  | unread issue => issue.shown
  | actionWithoutId => "Conditional action missing required 'id'"
  | noConditions => "At least one condition is required"
  | noTrueBranch => "onTrue branch is required"
  | noFalseBranch => "No onFalse branch; a false outcome selects onError"
  | timeout n => s!"timeoutMs must be positive (got {n})"
  | conditionWithoutId => "Condition missing required 'id'"
  | duplicateId id => s!"Duplicate condition id: {id.plain}"
  | tooDeep id limit => s!"Condition tree too deep at {id.plain} (max depth: {limit})"
  | noField id => s!"Simple condition {id.plain} requires a field"
  | noFunction id => s!"Custom condition {id.plain} requires a function name"
  | unknownFunction _ name => s!"Custom function not registered: {name.plain}"
  | noChildren id => s!"Complex condition {id.plain} requires child conditions"
  | notOneChild id => s!"'not' condition {id.plain} requires exactly one child"
  | tooManyConditions count limit => s!"Too many conditions: {count} (max: {limit})"
  | groupWithoutId => "Filter group missing required 'id'"
  | tooManyFilters id count limit => s!"Filter group {id.plain} has {count} filters (max: {limit})"
  | filterWithoutId field => s!"Filter on field '{field.plain}' missing required 'id'"
  | emptyGroup id => s!"Filter group {id.plain} has no enabled filters"

-- The whole numbers that the message of a finding holds.
def written : Finding → List Int
  | timeout n => [n]
  | duplicateId id => id.integers
  | tooDeep id limit => id.integers ++ [limit]
  | noField id => id.integers
  | noFunction id => id.integers
  | unknownFunction _ name => name.integers
  | noChildren id => id.integers
  | notOneChild id => id.integers
  | tooManyConditions count limit => [(count : Int), limit]
  | tooManyFilters id count limit => id.integers ++ [(count : Int), limit]
  | filterWithoutId field => field.integers
  | emptyGroup id => id.integers
  | _ => []

def shown (f : Finding) : String := f.code ++ ": " ++ f.message

-- The conditions that a finding is about, if it names any.
def conditions : Finding → Option (List Value)
  | duplicateId id => some [id]
  | tooDeep id _ => some [id]
  | noField id => some [id]
  | noFunction id => some [id]
  | unknownFunction id _ => some [id]
  | noChildren id => some [id]
  | notOneChild id => some [id]
  | _ => none

-- The filter groups that a finding is about, if it names any.
def filters : Finding → Option (List Value)
  | tooManyFilters id _ _ => some [id]
  | emptyGroup id => some [id]
  | _ => none

def document (f : Finding) : Value := record [
  ("code", text f.code),
  ("severity", text (if f.isWarning then "warning" else "blocking")),
  ("message", text f.message),
  ("conditions", (f.conditions.map list).getD null),
  ("filters", (f.filters.map list).getD null)]

end Finding

structure Report where
  findings : List Finding

namespace Report

def errors (r : Report) : List Finding := r.findings.filter fun f => !f.isWarning

def warnings (r : Report) : List Finding := r.findings.filter Finding.isWarning

def isValid (r : Report) : Bool := r.errors.isEmpty

def messages (r : Report) : List String := r.errors.map Finding.shown

def written (r : Report) : List Int := r.findings.flatMap Finding.written

end Report

end FlowGate
