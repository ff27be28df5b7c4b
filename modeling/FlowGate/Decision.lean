import FlowGate.Action.Basic
import FlowGate.Condition.Result
import FlowGate.Filter.Result
import FlowGate.Value.Written

-- Decisions: which branch of an action is taken, what follows, and what led there.

namespace FlowGate

open Value

structure Summary where
  mode                : Mode
  totalConditions     : Nat := 0
  evaluatedConditions : Nat := 0
  passedConditions    : Nat := 0
  failedConditions    : Nat := 0
  totalFilters        : Nat := 0
  passedFilters       : Nat := 0

namespace Summary

def document (s : Summary) : Value := record [
  ("evaluationMode", text s.mode.name),
  ("totalConditions", int s.totalConditions),
  ("evaluatedConditions", int s.evaluatedConditions),
  ("passedConditions", int s.passedConditions),
  ("failedConditions", int s.failedConditions),
  ("totalFilters", int s.totalFilters),
  ("passedFilters", int s.passedFilters)]

end Summary

structure Decision where
  success          : Bool
  conditionsPassed : Bool
  filtersPassed    : Bool
  way              : Way
  nextActionIds    : List String
  continueWorkflow : Bool
  vars             : Entries
  conditionResults : List ConditionResult := []
  filterResults    : List FilterResult := []
  errors           : List String
  summary          : Summary

namespace Decision

def conditionDocuments (d : Decision) : Value := list (ConditionResult.documents d.conditionResults)

def filterDocuments (d : Decision) : Value := list (d.filterResults.map FilterResult.document)

def document (d : Decision) : Value := record [
  ("success", bool d.success),
  ("conditionsPassed", bool d.conditionsPassed),
  ("filtersPassed", bool d.filtersPassed),
  ("branch", text d.way.name),
  ("nextActionIds", texts d.nextActionIds),
  ("continueWorkflow", bool d.continueWorkflow),
  ("variables", Json.document (map d.vars)),
  ("conditionResults", d.conditionDocuments),
  ("filterResults", d.filterDocuments),
  ("errors", texts d.errors),
  ("metadata", d.summary.document)]

-- The whole numbers that the document of a decision has as texts.
def written (d : Decision) : List Int :=
  (map d.vars :: ConditionResult.allShown d.conditionResults ++ d.filterResults.flatMap FilterResult.shown).flatMap
    keyIntegers

end Decision

end FlowGate
