import FlowGate.Action.Basic
import FlowGate.Action.Finding
import FlowGate.Schema.Action
import FlowGate.Settings

-- Checking actions before they are decided: names that have to be there, the shape of condition trees, and
-- limits on their size.

namespace FlowGate

open Value

namespace Value

def size : Value → Except Fault Nat
  | text s => .ok s.length
  | list items => .ok items.length
  | map entries => .ok entries.length
  | v => .error (.noLength v.kindName)

end Value

namespace FilterGroup

def checkFilter (f : Filter) : Except Fault (List Finding) :=
  if f.id.truthy then .ok []
  else if f.field.isMissing then .error (.noAttribute "Filter" "field")
  else .ok [.filterWithoutId f.field]

def checkFilters : List Filter → Except Fault (List Finding)
  | [] => .ok []
  | f :: rest => do
    let here ← checkFilter f
    let others ← checkFilters rest
    return here ++ others

def checkOwn (limits : Limits) (g : FilterGroup) : Except Fault (List Finding) := do
  let idFindings := if g.id.truthy then [] else [Finding.groupWithoutId]
  let count ←
    match g.strayFilters with
    | none => pure g.filters.length
    | some v => v.size
  let sizeFindings :=
    if limits.maxFiltersPerGroup < count then [.tooManyFilters g.id count limits.maxFiltersPerGroup] else []
  strayMembers g.strayFilters "id"
  let filterFindings ← checkFilters g.filters
  let emptyFindings ←
    if g.isEnabled then do
      let n ← g.enabledFilterCount
      pure (if n = 0 then [Finding.emptyGroup g.id] else [])
    else pure []
  strayMembers g.straySubGroups "id"
  return idFindings ++ sizeFindings ++ filterFindings ++ emptyFindings

mutual

def check (limits : Limits) : FilterGroup → Except Fault (List Finding)
  | g@⟨_, _, _, _, _, _, subGroups, _, _, _⟩ => do
    let own ← checkOwn limits g
    let inner ← checkAll limits subGroups
    return own ++ inner

def checkAll (limits : Limits) : List FilterGroup → Except Fault (List Finding)
  | [] => .ok []
  | g :: rest => do
    let here ← check limits g
    let others ← checkAll limits rest
    return here ++ others

end

end FilterGroup

namespace Condition

structure Survey where
  findings : List Finding
  ids      : List Scalar
  nodes    : Nat

namespace Survey

def add (s : Survey) (findings : List Finding) : Survey := { s with findings := s.findings ++ findings }

def enter (s : Survey) (id : Value) : Except Fault Survey :=
  match id with
  | scalar key =>
    let findings :=
      if !id.truthy then [.conditionWithoutId]
      else if s.ids.any (Scalar.same key) then [.duplicateId id]
      else []
    .ok ⟨s.findings ++ findings, key :: s.ids, s.nodes + 1⟩
  | v => .error (.unhashable v.kindName)

end Survey

def checkField (id field : Value) : Except Fault (List Finding) :=
  match field with
  | missing => .error (.noAttribute "SimpleCondition" "field")
  | v => .ok (if v.truthy then [] else [.noField id])

def checkFunction (known : Option (List String)) (id function : Value) : Except Fault (List Finding) :=
  match function with
  | missing => .error (.noAttribute "CustomCondition" "function_name")
  | v =>
    if !v.truthy then .ok [.noFunction id]
    else match known with
      | none => .ok []
      | some names =>
        match v with
        | text name => .ok (if names.contains name then [] else [.unknownFunction id v])
        | scalar _ => .ok [.unknownFunction id v]
        | v => .error (.unhashable v.kindName)

-- How many children a complex condition has. A value in place of the list has none if it counts as false.
def childCount (children : List Condition) (stray : Option Value) : Except Fault Nat :=
  match stray with
  | none => .ok children.length
  | some v => if v.truthy then v.size else .ok 0

def checkArity (id : Value) (operator : Slot Connective) (children : List Condition) (stray : Option Value) :
    Except Fault (List Finding) :=
  let noneThere := match stray with
    | none => children.isEmpty
    | some v => !v.truthy
  if noneThere then .ok [.noChildren id]
  else match operator with
    | .stray missing => .error (.noAttribute "ComplexCondition" "operator")
    | .known .not => do
      let count ← childCount children stray
      return if count == 1 then [] else [.notOneChild id]
    | _ => .ok []

-- The fault of going through a value in place of the children, unless it counts as false.
def strayChildren (stray : Option Value) : Except Fault Unit :=
  match stray with
  | none => .ok ()
  | some v => if v.truthy then strayMembers stray "id" else .ok ()

def checkGroup (limits : Limits) : Slot FilterGroup → Except Fault (List Finding)
  | .known g => g.check limits
  | .stray missing => .error (.noAttribute "FilterCondition" "group")
  | .stray v => .error (.noAttribute v.kindName "id")

mutual

-- Checks a node and everything below it, unless it lies too deep.
def check (limits : Limits) (known : Option (List String)) (depth : Nat) (s : Survey) :
    Condition → Except Fault Survey
  | .simple header field _ _ => do
    let s ← s.enter header.id
    if limits.maxConditionDepth < depth then return s.add [.tooDeep header.id limits.maxConditionDepth]
    return s.add (← checkField header.id field)
  | .complex header operator children stray => do
    let s ← s.enter header.id
    if limits.maxConditionDepth < depth then return s.add [.tooDeep header.id limits.maxConditionDepth]
    let s := s.add (← checkArity header.id operator children stray)
    strayChildren stray
    checkAll limits known (depth + 1) s children
  | .filter header group => do
    let s ← s.enter header.id
    if limits.maxConditionDepth < depth then return s.add [.tooDeep header.id limits.maxConditionDepth]
    return s.add (← checkGroup limits group)
  | .custom header function _ => do
    let s ← s.enter header.id
    if limits.maxConditionDepth < depth then return s.add [.tooDeep header.id limits.maxConditionDepth]
    return s.add (← checkFunction known header.id function)
  | .foreign id _ _ => do
    let s ← s.enter id
    if limits.maxConditionDepth < depth then return s.add [.tooDeep id limits.maxConditionDepth]
    return s

def checkAll (limits : Limits) (known : Option (List String)) (depth : Nat) (s : Survey) :
    List Condition → Except Fault Survey
  | [] => .ok s
  | c :: rest => do
    let s ← check limits known depth s c
    checkAll limits known depth s rest

end

end Condition

namespace Action

-- Whether an action has conditions, or a value in their place that counts as true.
def hasConditions (a : Action) : Bool :=
  match a.strayConditions with
  | none => !a.conditions.isEmpty
  | some v => v.truthy

def checkOwn (a : Action) : Except Fault (List Finding) := do
  let idFindings := if a.id.truthy then [] else [Finding.actionWithoutId]
  let conditionFindings := if a.hasConditions then [] else [Finding.noConditions]
  let trueFindings ←
    match a.onTrue with
    | .known _ => pure []
    | .stray missing => throw (.noAttribute "ConditionalActionConfig" "on_true")
    | .stray _ => pure [Finding.noTrueBranch]
  let falseFindings := if a.onFalse.isNone && a.hasConditions then [Finding.noFalseBranch] else []
  let timeFindings :=
    match a.options.timeoutMs with
    | some n => if n ≤ 0 then [Finding.timeout n] else []
    | none => []
  return idFindings ++ conditionFindings ++ trueFindings ++ falseFindings ++ timeFindings

-- Checks an action. If the names of the registered functions are known, functions without registration are
-- reported as well.
def check (limits : Limits) (known : Option (List String)) (a : Action) : Except Fault Report := do
  let own ← a.checkOwn
  strayMembers a.strayConditions "id"
  let survey ← Condition.checkAll limits known 1 ⟨[], [], 0⟩ a.conditions
  let countFindings :=
    if limits.maxConditions < survey.nodes then [Finding.tooManyConditions survey.nodes limits.maxConditions]
    else []
  strayMembers a.strayFilters "id"
  let groupFindings ← FilterGroup.checkAll limits a.filters
  return ⟨own ++ survey.findings ++ countFindings ++ groupFindings⟩

-- The whole numbers that a check has to write. One that ends in a fault has written at least what it found at
-- the action itself.
def written (limits : Limits) (known : Option (List String)) (a : Action) : List Int :=
  match a.check limits known with
  | .ok report => report.written
  | .error _ =>
    match a.checkOwn with
    | .ok own => own.flatMap Finding.written
    | .error _ => []

-- Checks an action where only so many digits of a whole number can be written.
def checkUnder (limit : Option Nat) (limits : Limits) (known : Option (List String)) (a : Action) :
    Except Fault Report :=
  match Fault.ofWriting limit (a.written limits known) with
  | some fault => .error fault
  | none => a.check limits known

-- The whole numbers that the log holds when it mentions an action, and it is taken to mention every action: those
-- of its id, and a timeout that is over before anything is done.
def logged (a : Action) : List Int :=
  a.id.integers ++
    match a.options.timeoutMs with
    | some n => if n < 0 then [n] else []
    | none => []

-- The report of a configuration that was not read.
def unread (issues : List Schema.Issue) : Report := ⟨issues.map Finding.unread⟩

end Action

end FlowGate
