import FlowGate.Proofs.Condition.Outcome
import FlowGate.Proofs.Filter.Meaning

-- What conditions mean. A leaf holds, fails or faults by itself, and a complex condition combines
-- the outcomes of all its children, whether or not evaluation gets to them.

namespace FlowGate

open Value

namespace Condition

def meetsOperator (e : Engine) (c : Context) (operator : Slot Operator) (value : Value) :
    (field : Value) → Outcome
  | text path => .ofAnswer (e.comparer.apply operator (c.resolveField path) (c.resolveValue value))
  | _         => .faults []

def meetsGroup (e : Engine) (c : Context) : Slot FilterGroup → Outcome
  | .known group => .ofBool (group.passes e c)
  | .stray _     => .faults []

def meetsFunction (e : Engine) (c : Context) (params : Value) : (function : Value) → Outcome
  | text name =>
    match e.registry.function? name with
    | none   => .faults [(Fault.unknownFunction name).message]
    | some f =>
      match f e.comparer.now c params with
      | .value v     => .ofBool v.truthy
      | .fault fault => .faults [fault.message]
      | .never       => .faults []
  | _         => .faults []

mutual

def meaning (e : Engine) (c : Context) : Condition → Outcome
  | simple _ field operator value  => meetsOperator e c operator value field
  | complex _ operator children _  => (Connective.ofSlot operator).combine (meanings e c children)
  | filter _ group                 => meetsGroup e c group
  | custom _ function params       => meetsFunction e c params function
  | foreign ..                     => .faults []

def meanings (e : Engine) (c : Context) : List Condition → List Outcome
  | []            => []
  | child :: rest => meaning e c child :: meanings e c rest

end

mutual

-- The leaves that evaluation gets to, in the order in which it does.
def reached (e : Engine) (c : Context) : Condition → List Condition
  | complex _ operator children _ => reachedAmong e c (Connective.ofSlot operator).settles children
  | leaf                          => [leaf]

def reachedAmong (e : Engine) (c : Context) (stops : Outcome → Bool) :
    List Condition → List Condition
  | []            => []
  | child :: rest =>
    reached e c child ++ if stops (meaning e c child) then [] else reachedAmong e c stops rest

end

-- The call that a leaf makes. An unknown function cannot be called.
def asked? (e : Engine) : Condition → Option Call
  | custom _ (text name) _ => (e.registry.function? name).map fun _ => .function name
  | _                      => none

def isLeaf : Condition → Bool
  | complex .. => false
  | _          => true

variable {e : Engine} {c : Context} {children : List Condition}

theorem meanings_eq : meanings e c children = children.map (meaning e c) := by
  induction children <;> simp [meanings, *]

theorem meaning_complex {header : Header} {k : Connective} {stray : Option Value} :
    (complex header (.known k) children stray).meaning e c =
      k.combine (children.map (meaning e c)) := by
  rw [meaning, meanings_eq, Connective.ofSlot]

-- The children of a complex condition that are evaluated.
def evaluated (e : Engine) (c : Context) (k : Connective) (children : List Condition) :
    List Condition :=
  through (fun child => k.settles (child.meaning e c)) children

theorem reachedAmong_eq {k : Connective} :
    reachedAmong e c k.settles children = (evaluated e c k children).flatMap (reached e c) := by
  induction children <;> simp only [reachedAmong, evaluated, through, List.flatMap_nil]
  case cons child rest hi =>
    rw [evaluated] at hi
    split <;> simp [hi]

theorem reached_complex {header : Header} {k : Connective} {stray : Option Value} :
    (complex header (.known k) children stray).reached e c =
      (evaluated e c k children).flatMap (reached e c) := by
  rw [reached, Connective.ofSlot, reachedAmong_eq]

theorem map_evaluated {k : Connective} :
    (evaluated e c k children).map (meaning e c) = through k.settles (children.map (meaning e c)) :=
  (through_map ..).symm

theorem combine_evaluated {k : Connective} :
    k.combine ((evaluated e c k children).map (meaning e c)) =
      k.combine (children.map (meaning e c)) := by
  rw [map_evaluated, Connective.combine_through]

end Condition

end FlowGate
