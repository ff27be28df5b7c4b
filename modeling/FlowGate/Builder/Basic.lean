import FlowGate.Fault
import FlowGate.Schema.Condition

-- Building parts of configurations from arguments that may be of any kind. A part that would not be accepted
-- when it is read is not built either.

namespace FlowGate

open Value
open Schema (Parsed Issue Reader)

inductive BuildError
  | fault (f : Fault)
  | issues (issues : List Issue)

abbrev Build (α : Type) := Except BuildError α

inductive Members (α : Type)
  | listed (members : List α)
  | other (v : Value)

namespace Build

variable {α : Type}

def ofFault (x : Except Fault α) : Build α := x.mapError BuildError.fault

def ofParsed : Parsed α → Build α
  | .done a => .ok a
  | .failed issues => .error (.issues issues)

-- A word of a vocabulary, which is not forgiving.
def member (vocabulary : String) (words : List α) (name : α → String) (v : Value) : Build α :=
  let found : Option α :=
    match v with
    | text s => words.find? fun a => name a == s
    | _ => none
  match found with
  | some a => .ok a
  | none => .error (.fault (.notAMember v.literal vocabulary))

def operator (v : Value) : Build Operator := member "ComparisonOperator" Operator.all Operator.name v

def connective (v : Value) : Build Connective := member "LogicalOperator" Connective.all Connective.name v

def combination (v : Value) : Build Combination := member "GroupOperator" Combination.all Combination.name v

-- What is said about a condition, nothing if it is null.
def remarks (v : Value) : Build Remarks :=
  match v with
  | null => .ok {}
  | v => ofParsed (Remarks.read v)

def argument (name : String) (r : Reader α) (v : Value) : Parsed α := (r v).under (.key name)

def members (name : String) : Members α → Parsed (List α)
  | .listed members => .done members
  | .other _ => .under (.key name) (.problem .notList)

end Build

end FlowGate
