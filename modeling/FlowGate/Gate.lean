import FlowGate.Action.Check
import FlowGate.Audit
import FlowGate.Condition.Lookup
import FlowGate.Decision

-- A gate decides conditional actions. It checks an action, evaluates its conditions and filter groups, takes
-- the branch that they select and records the decision. Whatever goes wrong before that selects the error
-- branch.

namespace FlowGate

open Value

namespace Mode

def stopsAt (mode : Mode) (stopOnFirstFailure passed : Bool) : Bool :=
  match mode with
  | all => false
  | any => passed
  | sequential => stopOnFirstFailure && !passed

-- The outcome of all conditions from those that were evaluated. No condition at all does not pass.
def combine (mode : Mode) (outcomes : List Bool) : Bool :=
  if outcomes.isEmpty then false
  else match mode with
    | any => outcomes.any fun b => b
    | _ => outcomes.all fun b => b

end Mode

-- A configuration that is handed to a gate: raw, or as an action.
inductive Offer
  | raw (v : Value)
  | action (a : Action)

structure Gate where
  engine  : Engine
  limits  : Limits
  cache   : Cache ConditionResult
  audit   : AuditStore
  -- a host may put an evaluator in place that only fails
  refusal : Option Fault := none
  -- and a store that fails on some records
  auditRefusal : AuditRecord → Option Fault := fun _ => none

namespace Gate

def evaluate (g : Gate) (c : Context) (useCache : Bool) (condition : Condition) :
    Gate × Run (Except Fault ConditionResult) :=
  match g.refusal with
  | some fault => (g, .pure (.error fault))
  | none =>
    let (cache, run) := condition.lookUp g.engine c useCache g.cache
    ({ g with cache }, run)

-- Evaluates the conditions of an action in order, up to the one after which its mode stops.
def evaluateAll (options : Options) (c : Context) (g : Gate) :
    List Condition → Gate × Run (Except Fault (List ConditionResult))
  | [] => (g, .pure (.ok []))
  | condition :: rest =>
    match g.evaluate c options.cacheResults condition with
    | (g, ⟨calls, none⟩) => (g, ⟨calls, none⟩)
    | (g, ⟨calls, some (.error fault)⟩) => (g, ⟨calls, some (.error fault)⟩)
    | (g, ⟨calls, some (.ok r)⟩) =>
      if options.mode.stopsAt options.stopOnFirstFailure r.passed then (g, ⟨calls, some (.ok [r])⟩)
      else
        let (g, more) := evaluateAll options c g rest
        (g, ⟨calls ++ more.calls, more.value.map fun rs => rs.map (r :: ·)⟩)

def runGroups (e : Engine) (c : Context) : List FilterGroup → Logged (List FilterResult)
  | [] => .pure []
  | group :: rest => (group.run e c {}).bind fun r => (runGroups e c rest).map (r :: ·)

def now (g : Gate) : Moment := g.engine.comparer.now

-- The variables after a decision: those of the context, those that the branch sets, and the decision itself.
def variablesAfter (now : Moment) (c : Context) (branch : Branch) (conditionsPassed filtersPassed : Bool)
    (way : Way) : Entries :=
  Entries.insert (Entries.merge (Entries.merge [] c.vars) branch.setVariables) (.text "_conditional")
    (Value.record [
      ("conditionsPassed", bool conditionsPassed),
      ("filtersPassed", bool filtersPassed),
      ("branch", text way.name),
      ("executionId", c.executionId),
      ("timestamp", text now.text)])

def refuse (g : Gate) (c : Context) (branch : Branch) (summary : Summary) (errors : List String) : Decision where
  success          := false
  conditionsPassed := false
  filtersPassed    := false
  way              := .onError
  nextActionIds    := branch.actionIds
  continueWorkflow := branch.continueWorkflow
  vars             := variablesAfter g.now c branch false false .onError
  errors           := errors
  summary          := summary

def refuseAction (g : Gate) (c : Context) (a : Action) (errors : List String) : Except Fault Decision := do
  let branch ← a.branch .onError
  let totalConditions ←
    match a.strayConditions with
    | none => pure a.conditions.length
    | some v => v.size
  return g.refuse c branch { mode := a.options.mode, totalConditions } errors

-- The decision on a configuration that was not read. Its error branch may still be known.
def refuseUnread (g : Gate) (c : Context) (v : Value) (issues : List Schema.Issue) : Decision :=
  g.refuse c ((Action.rescueBranch v).getD {}) { mode := .all } (Action.unread issues).messages

-- The branch that outcomes select. Without a false branch the error branch takes its place.
def select (a : Action) (conditionsPassed filtersPassed : Bool) : Way :=
  if conditionsPassed && filtersPassed then .onTrue
  else if a.onFalse.isSome then .onFalse
  else .onError

def conditionErrors (r : ConditionResult) : List String :=
  if r.success then [] else r.errors.map fun e => r.record.conditionId.plain ++ ": " ++ e

def filterTotal : List FilterGroup → Except Fault Nat
  | [] => .ok 0
  | group :: rest => do
    let here ← group.enabledFilterCount
    let others ← filterTotal rest
    return here + others

def conclude (g : Gate) (c : Context) (a : Action) (conditionResults : List ConditionResult)
    (filterResults : List FilterResult) : Except Fault Decision := do
  let conditionsPassed := a.options.mode.combine (conditionResults.map ConditionResult.passed)
  let filtersPassed := filterResults.all FilterResult.passed
  let way := select a conditionsPassed filtersPassed
  let passed := conditionResults.countP ConditionResult.passed
  let totalFilters ← filterTotal a.filters
  let branch ← a.branch way
  return {
    success          := true,
    conditionsPassed, filtersPassed, way,
    nextActionIds    := branch.actionIds,
    continueWorkflow := branch.continueWorkflow,
    vars             := variablesAfter g.now c branch conditionsPassed filtersPassed way,
    conditionResults, filterResults,
    errors           := conditionResults.flatMap conditionErrors ++ filterResults.flatMap FilterResult.errors,
    summary          := {
      mode                := a.options.mode,
      totalConditions     := a.conditions.length,
      evaluatedConditions := conditionResults.length,
      passedConditions    := passed,
      failedConditions    := conditionResults.length - passed,
      totalFilters,
      passedFilters       := (filterResults.flatMap FilterResult.matched).length } }

def run (g : Gate) (c : Context) (a : Action) : Gate × Run (Except Fault Decision) :=
  match g.evaluateAll a.options c a.conditions with
  | (g, ⟨calls, none⟩) => (g, ⟨calls, none⟩)
  | (g, ⟨calls, some (.error fault)⟩) => (g, ⟨calls, some (.error fault)⟩)
  | (g, ⟨calls, some (.ok conditionResults)⟩) =>
    let filterRun := runGroups g.engine c a.filters
    (g, ⟨calls ++ filterRun.calls, some (g.conclude c a conditionResults filterRun.value)⟩)

-- The record of a decision, with its results if the action asks for details.
def auditRecord (c : Context) (a : Action) (d : Decision) : AuditRecord where
  actionId         := a.id
  actionName       := a.name
  executionId      := c.executionId
  workflowId       := c.workflowId
  userId           := c.userId
  branch           := d.way
  conditionsPassed := d.conditionsPassed
  filtersPassed    := d.filtersPassed
  detail           := a.options.detail
  errors           := d.errors
  details          :=
    if a.options.detail = .detailed then
      some (Value.record [
        ("conditionResults", d.conditionDocuments),
        ("filterResults", d.filterDocuments),
        ("metadata", d.summary.document)])
    else none

def save (g : Gate) (r : AuditRecord) : Except Fault AuditStore :=
  match g.auditRefusal r with
  | some fault => .error fault
  | none => g.audit.save r

-- Records a decision, unless the action wants no record. A store that fails adds to the errors.
def keep (g : Gate) (c : Context) (a : Action) (d : Decision) : Gate × Decision :=
  if a.options.detail = .none then (g, d)
  else match g.save (auditRecord c a d) with
    | .ok audit => ({ g with audit }, d)
    | .error fault => (g, { d with errors := d.errors ++ ["Audit write failed: " ++ fault.message] })

-- Settles what an action has come to: a fault selects the error branch, and the decision is recorded.
def settle (g : Gate) (c : Context) (a : Action) (outcome : Except Fault Decision) :
    Gate × Except Fault Decision :=
  let decision : Except Fault Decision :=
    match outcome with
    | .ok d => .ok d
    | .error fault => g.refuseAction c a [fault.message]
  match decision with
  | .error fault => (g, .error fault)
  | .ok d => let (g, d) := g.keep c a d; (g, .ok d)

-- Checks an action, evaluates it unless the check blocks it, and records the decision.
def decide (g : Gate) (c : Context) (a : Action) : Gate × Run (Except Fault Decision) :=
  match a.check g.limits (some g.engine.registry.functionNames) with
  | .error fault => let (g, d) := g.settle c a (.error fault); (g, .pure d)
  | .ok report =>
    if !report.isValid then
      let (g, d) := g.settle c a (g.refuseAction c a report.messages)
      (g, .pure d)
    else match g.run c a with
      | (g, ⟨calls, none⟩) => (g, ⟨calls, none⟩)
      | (g, ⟨calls, some outcome⟩) => let (g, d) := g.settle c a outcome; (g, ⟨calls, some d⟩)

-- Decides a configuration. A raw one is read first.
def execute (g : Gate) (c : Context) : Offer → Gate × Run (Except Fault Decision)
  | .action a => g.decide c a
  | .raw v =>
    match Action.read v with
    | .failed issues => (g, .pure (.ok (g.refuseUnread c v issues)))
    | .done a => g.decide c a

-- The fault of the texts that the check of an action writes, if the host writes no more than so many digits of a
-- whole number.
def checkFault? (limit : Option Nat) (g : Gate) (a : Action) : Option Fault :=
  Fault.ofWriting limit (a.written g.limits (some g.engine.registry.functionNames))

-- Hands the outcome of an action on, once the log has mentioned it.
def mention {α : Type} (limit : Option Nat) (a : Action) (outcome : Except Fault α) : Except Fault α := do
  let x ← outcome
  match Fault.ofWriting limit a.logged with
  | some fault => throw fault
  | none => return x

-- Decides an action where whole numbers are written with that limit. Texts that the check cannot write are like
-- any other fault on the way.
def decideUnder (limit : Option Nat) (g : Gate) (c : Context) (a : Action) :
    Gate × Run (Except Fault Decision) :=
  let (g, run) : Gate × Run (Except Fault Decision) :=
    match g.checkFault? limit a with
    | some fault => let (g, d) := g.settle c a (.error fault); (g, .pure d)
    | none => g.decide c a
  (g, run.map (mention limit a))

-- The fault of a configuration that is checked as soon as it is read, before anything is settled.
def readFault? (limit : Option Nat) (g : Gate) (v : Value) : Option Fault :=
  match Action.read v with
  | .failed _ => none
  | .done a => Fault.ofWriting limit (a.written g.limits none)

-- Decides a configuration where whole numbers are written with that limit.
def executeUnder (limit : Option Nat) (g : Gate) (c : Context) : Offer → Gate × Run (Except Fault Decision)
  | .action a => g.decideUnder limit c a
  | .raw v =>
    match g.readFault? limit v with
    | some fault => (g, .pure (.error fault))
    | none => g.execute c (.raw v)

end Gate

end FlowGate
