import FlowGate.Context
import FlowGate.Operator.Comparison

-- The functions that conditions and filters call by name. The host may register any; a registered function
-- answers, fails, or never answers at all.

namespace FlowGate

inductive Reply
  | value (v : Value)
  | fault (f : Fault)
  | never

-- What a validator finds: any value, which counts as true or false, or an outcome with its errors.
inductive Verdict
  | plain (v : Value)
  | outcome (valid : Bool) (errors : List Value)

abbrev CustomFunction := (now : Moment) → Context → (params : Value) → Reply

abbrev TransformFunction := Value → (params : Entries) → Except Fault Value

abbrev ValidationFunction := Value → Except Fault Verdict

structure Registry where
  functions  : List (String × CustomFunction)
  transforms : List (String × TransformFunction)
  validators : List (String × ValidationFunction)

namespace Registry

def put {α : Type} (name : String) (a : α) : List (String × α) → List (String × α)
  | [] => [(name, a)]
  | (n, b) :: rest => if n == name then (n, a) :: rest else (n, b) :: put name a rest

def registerFunction (r : Registry) (name : String) (f : CustomFunction) : Registry :=
  { r with functions := put name f r.functions }

def registerTransform (r : Registry) (name : String) (f : TransformFunction) : Registry :=
  { r with transforms := put name f r.transforms }

def registerValidator (r : Registry) (name : String) (f : ValidationFunction) : Registry :=
  { r with validators := put name f r.validators }

def function? (r : Registry) (name : String) : Option CustomFunction := r.functions.lookup name

def transform? (r : Registry) (name : String) : Option TransformFunction := r.transforms.lookup name

def validator? (r : Registry) (name : String) : Option ValidationFunction := r.validators.lookup name

def functionNames (r : Registry) : List String :=
  (r.functions.map (·.1)).mergeSort fun a b => compare a b != .gt

end Registry

inductive Call
  | function (name : String)
  | transform (name : String)
  | validator (name : String)
deriving DecidableEq, Repr

structure Logged (α : Type) where
  calls : List Call
  value : α

namespace Logged

variable {α β : Type}

def pure (a : α) : Logged α := ⟨[], a⟩

def map (f : α → β) (x : Logged α) : Logged β := ⟨x.calls, f x.value⟩

def bind (x : Logged α) (f : α → Logged β) : Logged β :=
  let y := f x.value
  ⟨x.calls ++ y.calls, y.value⟩

-- Goes on with a value unless it is a fault.
def andThen {ε : Type} (x : Logged (Except ε α)) (f : α → Logged (Except ε β)) : Logged (Except ε β) :=
  match x.value with
  | .ok a => let y := f a; ⟨x.calls ++ y.calls, y.value⟩
  | .error e => ⟨x.calls, .error e⟩

end Logged

-- A value with the calls that were made for it. There is none if a function that was called never answers.
abbrev Run (α : Type) := Logged (Option α)

namespace Run

variable {α β : Type}

def pure (a : α) : Run α := ⟨[], some a⟩

def map (f : α → β) (x : Run α) : Run β := ⟨x.calls, Option.map f x.value⟩

def bind (x : Run α) (f : α → Run β) : Run β :=
  match x.value with
  | some a => let y := f a; ⟨x.calls ++ y.calls, y.value⟩
  | none => ⟨x.calls, none⟩

def ofLogged (x : Logged α) : Run α := ⟨x.calls, some x.value⟩

end Run

structure Engine where
  registry : Registry
  comparer : Comparer

end FlowGate
