import FlowGate.Gate

-- Deciding a configuration as a step of a workflow, with a deadline. A decision that never comes is cut off,
-- and the step takes the error branch.

namespace FlowGate

open Value

structure StepResult where
  success  : Bool
  decision : Option Decision
  error    : Option String

namespace StepResult

def document (r : StepResult) : Value := record [
  ("success", bool r.success),
  ("data", (r.decision.map Decision.document).getD null),
  ("error", optionalText r.error)]

def ofDecision (d : Decision) : StepResult :=
  ⟨d.success, some d, if d.success then none else some ("; ".intercalate d.errors)⟩

-- Hands a result on, if the document of its decision can be written.
def handOn (limit : Option Nat) (r : StepResult) : Except Fault StepResult :=
  match r.decision.bind fun d => Fault.ofWriting limit d.written with
  | some fault => .error fault
  | none => .ok r

end StepResult

-- What a step has come to. When it was cut off, the last call is the one that did not end.
structure StepRun where
  calls    : List Call
  cutOff   : Bool
  result   : Except Fault StepResult

namespace StepRun

def handOn (limit : Option Nat) (run : StepRun) : StepRun :=
  { run with result := run.result.bind (StepResult.handOn limit) }

end StepRun

namespace Gate

def timeoutMessage : String := "Conditional evaluation timed out"

-- The deadline of an action in milliseconds, if it has one that is positive.
def deadline (limits : Limits) (a : Action) : Int :=
  match a.options.timeoutMs with
  | some n => if 0 < n then n else limits.defaultTimeoutMs
  | none => limits.defaultTimeoutMs

def cutOff (g : Gate) (c : Context) (a : Action) : Except Fault StepResult := do
  let d ← g.refuseAction c a [timeoutMessage]
  return ⟨false, some d, some timeoutMessage⟩

-- Decides an action within so many milliseconds, given as a double. A deadline that no double can hold cannot
-- be kept.
def stepWithin (g : Gate) (c : Context) (a : Action) (decided : Gate × Run (Except Fault Decision)) :
    Option Double → Gate × StepRun
  | none => (g, ⟨[], false, .error .integerTooLarge⟩)
  | some _ =>
    match decided with
    | (g, ⟨calls, some outcome⟩) => (g, ⟨calls, false, outcome.map StepResult.ofDecision⟩)
    | (g, ⟨calls, none⟩) => (g, ⟨calls, true, g.cutOff c a⟩)

def stepAction (g : Gate) (c : Context) (a : Action) : Gate × StepRun :=
  g.stepWithin c a (g.decide c a) (Double.ofInt? (deadline g.limits a))

def step (g : Gate) (c : Context) : Offer → Gate × StepRun
  | .action a => g.stepAction c a
  | .raw null => (g, ⟨[], false, .ok ⟨false, none, some "Missing config"⟩⟩)
  | .raw v =>
    match Action.read v with
    | .failed issues =>
      let d := g.refuseUnread c v issues
      (g, ⟨[], false, .ok ⟨false, some d, some ("; ".intercalate d.errors)⟩⟩)
    | .done a => g.stepAction c a

-- The log mentions an action that was cut off.
def mentionCutOff (limit : Option Nat) (a : Action) (run : StepRun) : StepRun :=
  if run.cutOff then { run with result := mention limit a run.result } else run

def stepActionUnder (limit : Option Nat) (g : Gate) (c : Context) (a : Action) : Gate × StepRun :=
  (g.stepWithin c a (g.decideUnder limit c a) (Double.ofInt? (deadline g.limits a))).map id (mentionCutOff limit a)

-- A step where whole numbers are written with that limit. Its result is handed on as a document.
def stepUnder (limit : Option Nat) (g : Gate) (c : Context) : Offer → Gate × StepRun
  | .action a => (g.stepActionUnder limit c a).map id (StepRun.handOn limit)
  | .raw v =>
    match g.readFault? limit v with
    | some fault => (g, ⟨[], false, .error fault⟩)
    | none => (g.step c (.raw v)).map id (StepRun.handOn limit)

end Gate

end FlowGate
