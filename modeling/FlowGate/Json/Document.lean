import FlowGate.Value.Spelled

-- The form in which results show values: nothing is null, dates and moments are texts, and every key is a text.

namespace FlowGate.Json

open Value

def plainScalar : Scalar → Scalar
  | .missing => .null
  | .date d => .text d.text
  | .moment m => .text m.text
  | s => s

mutual

def document : Value → Value
  | .scalar s => .scalar (plainScalar s)
  | .list items => .list (documents items)
  | .map entries => .map (Entries.ofList (members entries))

def documents : List Value → List Value
  | [] => []
  | v :: rest => document v :: documents rest

def members : List (Scalar × Value) → List (Scalar × Value)
  | [] => []
  | (k, v) :: rest => (.text k.plain, document v) :: members rest

end

end FlowGate.Json
