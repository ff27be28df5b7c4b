import FlowGate.Builtin.Function
import FlowGate.Builtin.Transform
import FlowGate.Text.Card
import FlowGate.Text.Mail
import FlowGate.Text.Url

-- The validators that filters can name.

namespace FlowGate.Builtin

open Value

-- An outcome with one error if it is not valid.
def verdict (valid : Bool) (error : String) : Verdict :=
  .outcome valid (if valid then [] else [text error])

def ofText (v : Value) (p : String → Bool) : Bool :=
  match v with
  | text s => p s
  | _ => false

def validEmail : ValidationFunction := fun v =>
  .ok (verdict (ofText v Text.isAddress) "Invalid email format")

def validPhone : ValidationFunction := fun v =>
  .ok (verdict (ofText v Text.isPhone) "Invalid phone number format")

def validUrl : ValidationFunction := fun v =>
  match v with
  | text s =>
    match Text.Url.read s with
    | .ok parts => .ok (verdict parts.isComplete "Invalid URL format")
    | .error e => .error (.url e)
  | _ => .ok (verdict false "Invalid URL format")

def validCreditCard : ValidationFunction := fun v => do
  let ds := Text.Card.digits (← v.asText).toList
  if !Text.Card.hasLength ds then
    return verdict false "Invalid credit card number length"
  return verdict (Text.Card.hasChecksum ds) "Invalid credit card number"

def validators : List (String × ValidationFunction) := [
  ("isValidEmail", validEmail),
  ("isValidPhone", validPhone),
  ("isValidURL", validUrl),
  ("isValidCreditCard", validCreditCard)
]

def registry : Registry := { functions := engineFunctions, transforms, validators }

-- The registry of an evaluator that runs the steps of a workflow: it also knows the functions about its
-- progress.
def workflowRegistry : Registry := { registry with functions := engineFunctions ++ workflowFunctions }

end FlowGate.Builtin
