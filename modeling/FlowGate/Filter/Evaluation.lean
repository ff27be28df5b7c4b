import FlowGate.Filter.Result
import FlowGate.Filter.Rules
import FlowGate.Filter.Transformation

-- Evaluating filters and groups of filters. Each enabled filter goes through its own pipeline: its field is
-- resolved, checked and changed, the expected value is resolved, and the two are compared. A filter that fails
-- leaves a trace and counts as not passed.

namespace FlowGate

open Value

structure Trace where
  details : List FilterDetail := []
  matched : List Value := []
  failed  : List Value := []
  errors  : List String := []
  calls   : List Call := []

namespace Trace

def append (s t : Trace) : Trace where
  details := s.details ++ t.details
  matched := s.matched ++ t.matched
  failed  := s.failed ++ t.failed
  errors  := s.errors ++ t.errors
  calls   := s.calls ++ t.calls

instance : Append Trace := ⟨append⟩

end Trace

abbrev Traced (α : Type) := Trace × Except Fault α

structure FilterOptions where
  stopOnFirstFailure : Bool := false
  includeDetails     : Bool := true

namespace Filter

-- The name of the operator, if there is one that has a name.
def operatorName (f : Filter) : Except Fault Value :=
  match f.operator with
  | .known o => .ok (text o.name)
  | .stray missing => .error (.noAttribute "Filter" "operator")
  | .stray v => .error (.noAttribute v.kindName "value")

def path (f : Filter) : Except Fault String :=
  match f.field with
  | text s => .ok s
  | missing => .error (.noAttribute "Filter" "field")
  | v => .error (.noAttribute v.kindName "split")

def joined (index : Nat) : List Value → Except Fault (List String)
  | [] => .ok []
  | text s :: rest => (joined (index + 1) rest).map (s :: ·)
  | v :: _ => .error (.notJoined index v.kindName)

def detail (f : Filter) (operator expected actual : Value) (passed : Bool) (error : Option String)
    (transformed : Value) : FilterDetail where
  filterId   := f.id
  filterName := f.name
  field      := f.field
  operator   := operator
  expected   := expected
  actual     := actual
  passed     := passed
  error      := error
  transformed := transformed

-- The detail of a filter whose value does not keep the rules.
def refused (f : Filter) (actual : Value) (problems : List Value) : Except Fault FilterDetail := do
  let operator ← f.operatorName
  let texts ← joined 0 problems
  return f.detail operator f.value actual false (some ("Validation failed: " ++ ", ".intercalate texts)) null

-- Compares a value with the expected one, by the operator of the filter if it has any.
def holds (e : Engine) (f : Filter) (actual expected : Value) : Except Fault Bool :=
  match f.operator with
  | .stray missing => .error (.noAttribute "Filter" "operator")
  | operator => e.comparer.applyFilter operator actual expected

def compared (e : Engine) (c : Context) (f : Filter) (actual : Value) : Logged (Except Fault FilterDetail) :=
  let changed : Logged (Except Fault Value) :=
    match f.transformation with
    | some t => t.apply e.registry actual
    | none => .pure (.ok actual)
  changed.andThen fun v => .pure do
    let expected := c.resolveValue f.value
    let passed ← f.holds e v expected
    let operator ← f.operatorName
    return f.detail operator expected v passed none (if f.transformation.isSome then v else null)

def pipeline (e : Engine) (c : Context) (f : Filter) (actual : Value) : Logged (Except Fault FilterDetail) :=
  match f.rules with
  | none => f.compared e c actual
  | some rules =>
    (rules.problems e.registry actual).andThen fun problems =>
      if problems.isEmpty then f.compared e c actual else .pure (f.refused actual problems)

-- The trace of a filter that has failed. Without a field or an operator that can be named the failure goes on
-- to the group.
def failure (f : Filter) (actual : Value) (calls : List Call) (fault : Fault) : Traced Bool :=
  let trace : Trace := { errors := [f.id.plain ++ ": " ++ fault.message], calls }
  let named : Except Fault Value :=
    match f.field with
    | missing => .error (.noAttribute "Filter" "field")
    | _ => f.operatorName
  match named with
  | .error again => (trace, .error again)
  | .ok operator =>
    ({ trace with details := [f.detail operator f.value actual false (some fault.message) null] }, .ok false)

def evaluate (e : Engine) (c : Context) (f : Filter) : Traced Bool :=
  match f.path with
  | .error fault => f.failure missing [] fault
  | .ok path =>
    let actual := c.resolveField path
    let result := f.pipeline e c actual
    match result.value with
    | .ok detail => ({ details := [detail], calls := result.calls }, .ok detail.passed)
    | .error fault => f.failure actual result.calls fault

structure Sweep where
  outcomes : List Bool
  stopped  : Bool

-- Evaluates the enabled filters of a list in order. With `stop` the first one that does not pass is the last
-- one to be evaluated.
def sweep (e : Engine) (c : Context) (stop : Bool) : List Filter → Traced Sweep
  | [] => ({}, .ok ⟨[], false⟩)
  | f :: rest =>
    if !f.isEnabled then sweep e c stop rest
    else match f.evaluate e c with
      | (trace, .error fault) => (trace, .error fault)
      | (trace, .ok passed) =>
        let trace := trace ++ (if passed then { matched := [f.id] } else { failed := [f.id] } : Trace)
        if !passed && stop then (trace, .ok ⟨[passed], true⟩)
        else
          let (more, outcome) := sweep e c stop rest
          (trace ++ more, outcome.map fun s => ⟨passed :: s.outcomes, s.stopped⟩)

end Filter

namespace FilterGroup

structure Member where
  priority : Value
  enabled  : Bool
  outcome  : Traced Bool

-- Puts the outcomes of enabled members together, up to the first that fails.
def gather : List Member → Traced (List Bool)
  | [] => ({}, .ok [])
  | m :: rest =>
    if !m.enabled then gather rest
    else match m.outcome with
      | (trace, .error fault) => (trace, .error fault)
      | (trace, .ok passed) =>
        let (more, outcomes) := gather rest
        (trace ++ more, outcomes.map (passed :: ·))

def orderedFilters (filters : List Filter) (stray : Option Value) : Except Fault (List Filter) := do
  strayMembers stray "priority"
  Priority.sort Filter.priority filters

def orderedMembers (members : List Member) (stray : Option Value) : Except Fault (List Member) := do
  strayMembers stray "priority"
  Priority.sort Member.priority members

def combine (operator : Slot Combination) (outcomes : List Bool) : Bool :=
  if operator.is .and then (outcomes.all fun b => b) else (outcomes.any fun b => b)

def outcome (e : Engine) (c : Context) (stop : Bool) (operator : Slot Combination)
    (filters : Except Fault (List Filter)) (members : Except Fault (List Member)) : Traced Bool :=
  match filters with
  | .error fault => ({}, .error fault)
  | .ok filters =>
    match Filter.sweep e c (stop && operator.is .and) filters with
    | (trace, .error fault) => (trace, .error fault)
    | (trace, .ok swept) =>
      if swept.stopped then (trace, .ok false)
      else match members with
        | .error fault => (trace, .error fault)
        | .ok members =>
          let (more, outcomes) := gather members
          (trace ++ more, outcomes.map fun inner => combine operator (swept.outcomes ++ inner))

mutual

-- Evaluates a group. A disabled group passes.
def evaluate (e : Engine) (c : Context) (stop : Bool) : FilterGroup → Traced Bool
  | ⟨_, _, _, operator, filters, strayFilters, subGroups, straySubGroups, enabled, _⟩ =>
    if !enabled.truthy then ({}, .ok true)
    else
      outcome e c stop operator (orderedFilters filters strayFilters)
        (orderedMembers (members e c stop subGroups) straySubGroups)

def members (e : Engine) (c : Context) (stop : Bool) : List FilterGroup → List Member
  | [] => []
  | g :: rest => ⟨g.priority, g.isEnabled, evaluate e c stop g⟩ :: members e c stop rest

end

-- The detail of a group that could not be evaluated.
def failure (g : FilterGroup) (fault : Fault) : FilterDetail where
  filterId    := g.id
  filterName  := g.name
  field       := text ""
  operator    := text Operator.equals.name
  expected    := null
  actual      := null
  passed      := false
  error       := some fault.message
  transformed := null

-- Evaluates a group tree. A failure that no filter could take becomes one of the whole tree.
def run (e : Engine) (c : Context) (options : FilterOptions) (g : FilterGroup) : Logged FilterResult :=
  let (trace, outcome) := evaluate e c options.stopOnFirstFailure g
  let (passed, details, errors) :=
    match outcome with
    | .ok passed => (passed, trace.details, trace.errors)
    | .error fault => (false, trace.details ++ [g.failure fault], trace.errors ++ [fault.message])
  ⟨trace.calls,
    { passed,
      matched := trace.matched,
      failed  := trace.failed,
      details := if options.includeDetails then details else [],
      errors }⟩

end FilterGroup

end FlowGate
