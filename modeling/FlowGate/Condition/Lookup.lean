import FlowGate.Cache
import FlowGate.Condition.Evaluation
import FlowGate.Json.Printer

-- Evaluating conditions through a cache. The key of a result consists of the id of the condition, the variables
-- and the index of the step. What triggered the workflow is no part of it, and only successes are kept.

namespace FlowGate

namespace Context

-- The key under which the result of a condition is kept. There is none if the variables cannot be written.
def cacheKey? (c : Context) (id : Value) : Option String :=
  match Json.printSorted (.map c.vars) with
  | .ok vars => some s!"{id.plain}_{vars}_{c.stepIndex}"
  | .error _ => none

end Context

namespace Condition

-- Keeps a result if it is a success.
def remember (cache : Cache ConditionResult) (key : String) :
    Option (Except Fault ConditionResult) → Cache ConditionResult
  | some (.ok r) => if r.success then cache.set key r else cache
  | _ => cache

-- Evaluates a condition unless its result is known.
def lookUp (e : Engine) (c : Context) (useCache : Bool) (condition : Condition)
    (cache : Cache ConditionResult) : Cache ConditionResult × Run (Except Fault ConditionResult) :=
  match if useCache then c.cacheKey? condition.id else none with
  | none => (cache, condition.evaluate e c)
  | some key =>
    match cache.get key with
    | (some r, cache) => (cache, .pure (.ok r))
    | (none, cache) =>
      let run := condition.evaluate e c
      (remember cache key run.value, run)

end Condition

end FlowGate
