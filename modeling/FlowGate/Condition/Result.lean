import FlowGate.Json.Document

-- Results of conditions. A result that is not a success reports a fault, which is not the same as a condition
-- that does not hold.

namespace FlowGate

open Value

structure NodeRecord where
  conditionId : Value
  kind        : Value
  operator    : Value
  field       : Value
  expected    : Value := null
  actual      : Value := null

structure ConditionResult where
  success    : Bool
  result     : Bool
  record     : NodeRecord
  subResults : List ConditionResult
  errors     : List String

namespace ConditionResult

def passed (r : ConditionResult) : Bool := r.success && r.result

def recordFields (r : NodeRecord) : List (String × Value) := [
  ("conditionId", r.conditionId),
  ("kind", r.kind),
  ("operator", r.operator),
  ("field", r.field),
  ("evaluatedValue", Json.document r.expected),
  ("actualValue", Json.document r.actual)]

mutual

-- The document of a result. The results of children and the errors are left out where there are none.
def document : ConditionResult → Value
  | ⟨success, result, node, subResults, errors⟩ =>
    let subs := documents subResults
    Value.record (
      [("success", bool success),
       ("result", bool result),
       ("metadata", Value.record (recordFields node ++ (if subs.isEmpty then [] else [("subResults", list subs)])))] ++
      (if errors.isEmpty then [] else [("errors", texts errors)]))

def documents : List ConditionResult → List Value
  | [] => []
  | r :: rest => document r :: documents rest

end

mutual

-- The values that the document of a result has documents of, those of its children included.
def shown : ConditionResult → List Value
  | ⟨_, _, node, subResults, _⟩ => node.expected :: node.actual :: allShown subResults

def allShown : List ConditionResult → List Value
  | [] => []
  | r :: rest => shown r ++ allShown rest

end

end ConditionResult

end FlowGate
