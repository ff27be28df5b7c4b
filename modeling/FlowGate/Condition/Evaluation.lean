import FlowGate.Condition.Basic
import FlowGate.Condition.Result
import FlowGate.Filter.Evaluation

-- Evaluating conditions. The children of a complex condition are evaluated from left to right, up to the first
-- one that decides the outcome or fails. A failure is reported by the result of its node, and a child that
-- fails makes its parent fail with the same errors.

namespace FlowGate

open Value

namespace Connective

-- Whether the outcome of one child decides that of the parent, whatever the children after it.
def decides : Connective → Bool → Bool
  | and, outcome => !outcome
  | or, outcome => outcome
  | not, _ => true
  | xor, _ => false

def conclude : Connective → List Bool → Except Fault Bool
  | and, outcomes => .ok (outcomes.all fun b => b)
  | or, outcomes => .ok (outcomes.any fun b => b)
  | not, [] => .error .noChild
  | not, outcome :: _ => .ok !outcome
  | xor, outcomes => .ok (outcomes.count true == 1)

-- The connective of a complex condition. Whatever is none combines as `xor` does.
def ofSlot : Slot Connective → Connective
  | .known c => c
  | .stray _ => xor

-- The fault of evaluating the first member of a value in place of the children.
def firstFault : Value → Fault
  | text s => if s == "" then .noCharacter else .noAttribute "str" "id"
  | list [] => .noChild
  | list (v :: _) => .noAttribute v.kindName "id"
  | map entries =>
    match Entries.find? entries (.int 0) with
    | none => .noKey "0"
    | some v => .noAttribute v.kindName "id"
  | v => .notSubscriptable v.kindName

def strayChildren (c : Connective) (stray : Option Value) : Except Fault Unit :=
  match stray with
  | none => .ok ()
  | some v => if c == not then .error (firstFault v) else strayMembers stray "id"

end Connective

namespace Condition

-- The children that were evaluated, and the errors of the last one if it failed.
structure Sweep where
  results : List ConditionResult
  failure : Option (List String)

namespace Sweep

def cons (r : ConditionResult) (s : Sweep) : Sweep := ⟨r :: s.results, s.failure⟩

end Sweep

def newRecord (c : Condition) (label : Value) : NodeRecord where
  conditionId := c.id
  kind        := c.kind
  operator    := label
  field       := c.field

def conclude (record : NodeRecord) (subResults : List ConditionResult) :
    Except Fault Bool → ConditionResult
  | .ok outcome => ⟨true, outcome, record, subResults, []⟩
  | .error fault => ⟨false, false, record, subResults, [fault.message]⟩

def concludeChildren (record : NodeRecord) (connective : Connective) (sweep : Sweep) : ConditionResult :=
  match sweep.failure with
  | some errors => ⟨false, false, record, sweep.results, errors⟩
  | none => conclude record sweep.results (connective.conclude (sweep.results.map (·.result)))

def compare (e : Engine) (c : Context) (record : NodeRecord) (field : Value) (operator : Slot Operator)
    (value : Value) : ConditionResult :=
  match field with
  | text path =>
    let actual := c.resolveField path
    let expected := c.resolveValue value
    let record := { record with actual, expected }
    match operator with
    | .stray missing => conclude record [] (.error (.noAttribute "SimpleCondition" "operator"))
    | operator => conclude record [] (e.comparer.apply operator actual expected)
  | missing => conclude record [] (.error (.noAttribute "SimpleCondition" "field"))
  | v => conclude record [] (.error (.noAttribute v.kindName "split"))

-- Asks a filter group. Only whether it passes counts.
def askGroup (e : Engine) (c : Context) : Slot FilterGroup → Logged (Except Fault Bool)
  | .known group => (group.run e c { includeDetails := false }).map fun r => .ok r.passed
  | .stray missing => .pure (.error (.noAttribute "FilterCondition" "group"))
  | .stray v => .pure (.error (.noAttribute v.kindName "id"))

-- Calls a registered function. What it answers counts as true or false.
def call (e : Engine) (c : Context) (function params : Value) : Run (Except Fault Bool) :=
  match function with
  | text name =>
    match e.registry.function? name with
    | none => .pure (.error (.unknownFunction name))
    | some f =>
      match f e.comparer.now c params with
      | .value v => ⟨[.function name], some (.ok v.truthy)⟩
      | .fault fault => ⟨[.function name], some (.error fault)⟩
      | .never => ⟨[.function name], none⟩
  | missing => .pure (.error (.noAttribute "CustomCondition" "function_name"))
  | scalar s => .pure (.error (.unknownFunction s.plain))
  | v => .pure (.error (.unhashable v.kindName))

mutual

-- Evaluates a node. Only an operator that has no label is a fault of its own.
def evaluate (e : Engine) (c : Context) : Condition → Run (Except Fault ConditionResult)
  | condition@(.simple _ field operator value) =>
    match condition.label with
    | .error fault => .pure (.error fault)
    | .ok label => .pure (.ok (compare e c (condition.newRecord label) field operator value))
  | condition@(.complex _ operator children stray) =>
    match condition.label with
    | .error fault => .pure (.error fault)
    | .ok label =>
      let record := condition.newRecord label
      let connective := Connective.ofSlot operator
      match operator, connective.strayChildren stray with
      | .stray missing, _ =>
        .pure (.ok (conclude record [] (.error (.noAttribute "ComplexCondition" "operator"))))
      | _, .error fault => .pure (.ok (conclude record [] (.error fault)))
      | _, .ok () =>
        Run.map (fun sweep => .ok (concludeChildren record connective sweep))
          (evaluateUntil e c connective.decides children)
  | condition@(.filter _ group) =>
    .ofLogged ((askGroup e c group).map fun outcome =>
      .ok (conclude (condition.newRecord condition.kind) [] outcome))
  | condition@(.custom _ function params) =>
    Run.map (fun outcome => .ok (conclude (condition.newRecord condition.kind) [] outcome))
      (call e c function params)
  | condition@(.foreign _ kind label) =>
    .pure (.ok (conclude (condition.newRecord label) [] (.error (.unknownKind kind.plain))))

-- Evaluates children from left to right, up to the first that fails or decides.
def evaluateUntil (e : Engine) (c : Context) (decides : Bool → Bool) : List Condition → Run Sweep
  | [] => .pure ⟨[], none⟩
  | child :: rest =>
    Run.bind (evaluate e c child) fun
      | .error fault => .pure ⟨[], some [fault.message]⟩
      | .ok r =>
        if !r.success then .pure ⟨[r], some r.errors⟩
        else if decides r.result then .pure ⟨[r], none⟩
        else Run.map (Sweep.cons r) (evaluateUntil e c decides rest)

end

end Condition

end FlowGate
