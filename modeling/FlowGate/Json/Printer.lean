import FlowGate.Fault
import FlowGate.Number.Decimal
import FlowGate.Text.Quoted
import FlowGate.Value.Spelled

-- Values as documents. Scalars that documents do not know are written as their text, and keys have to be texts,
-- numbers, truth values or null.

namespace FlowGate.Json

open Value

def doubleText : Double → String
  | .nan => "NaN"
  | .infinite negative => if negative then "-Infinity" else "Infinity"
  | x => x.text

def scalarText : Scalar → String
  | .null => "null"
  | .bool b => if b then "true" else "false"
  | .int n => toString n
  | .double x => doubleText x
  | s => Text.quoted s.plain

-- The text of a key, which is quoted whatever it is.
def keyText : Scalar → Except Fault String
  | .text s => .ok s
  | .null => .ok (scalarText .null)
  | .bool b => .ok (scalarText (.bool b))
  | .int n => .ok (scalarText (.int n))
  | .double x => .ok (scalarText (.double x))
  | s => .error (.keyKind s.kindName)

-- The order of two keys. Texts and numbers have no order between them.
def keyOrder? : Scalar → Scalar → Option Ordering
  | .text s, .text t => some (compare s t)
  | a, b => Scalar.numericOrder? a.countsAs b.countsAs

def sortable : List Scalar → Bool
  | [] => true
  | [_] => true
  | keys => keys.all isText || keys.all isNumeric
where
  isText : Scalar → Bool
    | .text _ => true
    | _ => false
  isNumeric : Scalar → Bool
    | .bool _ => true
    | .int _ => true
    | .double _ => true
    | _ => false

structure Style where
  sortKeys : Bool

def object (style : Style) (members : List (Scalar × String × String)) : Except Fault String :=
  if style.sortKeys && !sortable (members.map (·.1)) then
    .error .keyOrder
  else
    let members :=
      if style.sortKeys then members.mergeSort fun a b => keyOrder? a.1 b.1 != some .gt else members
    .ok ("\x7b" ++ ", ".intercalate (members.map fun m => Text.quoted m.2.1 ++ ": " ++ m.2.2) ++ "\x7d")

mutual

def write (style : Style) : Value → Except Fault String
  | .scalar s => .ok (scalarText s)
  | .list items => (writeItems style items).map fun texts => "[" ++ ", ".intercalate texts ++ "]"
  | .map entries => (writeMembers style entries).bind (object style)

def writeItems (style : Style) : List Value → Except Fault (List String)
  | [] => .ok []
  | v :: rest => do
    let text ← write style v
    let texts ← writeItems style rest
    .ok (text :: texts)

def writeMembers (style : Style) : List (Scalar × Value) → Except Fault (List (Scalar × String × String))
  | [] => .ok []
  | (k, v) :: rest => do
    let name ← keyText k
    let text ← write style v
    let members ← writeMembers style rest
    .ok ((k, name, text) :: members)

end

def print (v : Value) : Except Fault String := write { sortKeys := false } v

def printSorted (v : Value) : Except Fault String := write { sortKeys := true } v

end FlowGate.Json
