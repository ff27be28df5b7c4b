import FlowGate.Filter.Basic
import FlowGate.Registry
import FlowGate.Text.Case
import FlowGate.Text.Composed

-- Changing a field value before it is compared. What is absent or null stays as it is.

namespace FlowGate

open Value

namespace Transformation

-- The built-in change of a text, none for a custom one.
def ofText? : TransformKind → Option (String → String)
  | .lowercase => some Text.lower
  | .uppercase => some Text.upper
  | .trim => some Text.strip
  | .normalize => some fun s => Text.lower (Text.strip (Text.composed s))
  | .custom => none

def apply (registry : Registry) (t : Transformation) (v : Value) : Logged (Except Fault Value) :=
  if v.isNothing then .pure (.ok v)
  else match ofText? t.kind with
    | some change => .pure (v.display.map fun s => text (change s))
    | none =>
      let name := t.customFunction.getD ""
      match registry.transform? name with
      | some f => ⟨[.transform name], f v t.params⟩
      | none => .pure (.error (.unknownTransformation name))

end Transformation

end FlowGate
