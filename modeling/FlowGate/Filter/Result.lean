import FlowGate.Json.Document

-- What evaluating filters has come to: a detail for every filter, and the result of a whole group tree.

namespace FlowGate

open Value

structure FilterDetail where
  filterId    : Value
  filterName  : Value
  field       : Value
  operator    : Value
  expected    : Value
  actual      : Value
  passed      : Bool
  error       : Option String
  transformed : Value

namespace FilterDetail

def document (d : FilterDetail) : Value := record [
  ("filterId", d.filterId),
  ("filterName", d.filterName),
  ("field", d.field),
  ("operator", d.operator),
  ("expectedValue", Json.document d.expected),
  ("actualValue", Json.document d.actual),
  ("passed", bool d.passed),
  ("error", optionalText d.error),
  ("transformedValue", Json.document d.transformed)]

end FilterDetail

structure FilterResult where
  passed  : Bool
  matched : List Value
  failed  : List Value
  details : List FilterDetail
  errors  : List String

namespace FilterResult

def document (r : FilterResult) : Value := record [
  ("passed", bool r.passed),
  ("matchedFilters", list r.matched),
  ("failedFilters", list r.failed),
  ("details", list (r.details.map FilterDetail.document)),
  ("errors", texts r.errors)]

-- The values that the document of a result has documents of.
def shown (r : FilterResult) : List Value :=
  r.details.flatMap fun d => [d.expected, d.actual, d.transformed]

end FilterResult

end FlowGate
