import FlowGate.Condition.Basic

-- Conditional actions: conditions and filter groups, and the branches between which their outcome decides.

namespace FlowGate

inductive Mode
  -- every condition is evaluated, and all have to hold
  | all
  -- evaluation stops at the first condition that holds
  | any
  -- in order, and on demand only up to the first condition that does not hold
  | sequential
deriving DecidableEq, Repr

namespace Mode

def name : Mode → String
  | all => "all"
  | any => "any"
  | sequential => "sequential"

def list : List Mode := [.all, .any, .sequential]

end Mode

inductive Detail
  | none
  | basic
  | detailed
deriving DecidableEq, Repr

namespace Detail

def name : Detail → String
  | none => "none"
  | basic => "basic"
  | detailed => "detailed"

def list : List Detail := [.none, .basic, .detailed]

end Detail

inductive Way
  | onTrue
  | onFalse
  | onError
deriving DecidableEq, Repr

namespace Way

def name : Way → String
  | onTrue => "onTrue"
  | onFalse => "onFalse"
  | onError => "onError"

end Way

structure BranchNote where
  description : Option String := none
  tags        : List String := []

-- What follows a decision: the next actions, and the variables that they find changed.
structure Branch where
  actionIds        : List String := []
  continueWorkflow : Bool := false
  setVariables     : Entries := []
  note             : Option BranchNote := none

structure Options where
  mode               : Mode := .all
  stopOnFirstFailure : Bool := false
  timeoutMs          : Option Int := none
  cacheResults       : Bool := false
  detail             : Detail := .basic

-- A conditional action. One that has not been validated may lack its true branch, and may have other values in
-- place of its lists.
structure Action where
  id              : Value
  name            : Value := .text "Conditional Action"
  description     : Option String := none
  conditions      : List Condition := []
  strayConditions : Option Value := none
  filters         : List FilterGroup := []
  strayFilters    : Option Value := none
  onTrue          : Slot Branch
  onFalse         : Option Branch := none
  onError         : Option Branch := none
  options         : Options := {}

namespace Action

-- The branch of an action that goes one way. It is empty if the action has none.
def branch (a : Action) : Way → Except Fault Branch
  | .onTrue =>
    match a.onTrue with
    | .known b => .ok b
    | .stray .missing => .error (.noAttribute "ConditionalActionConfig" "on_true")
    | .stray v => .error (.noAttribute v.kindName "action_ids")
  | .onFalse => .ok (a.onFalse.getD {})
  | .onError => .ok (a.onError.getD {})

end Action

end FlowGate
