import FlowGate.Filter.Basic
import FlowGate.Registry

-- Checking a field value against the rules of a filter. Every rule reports its own problem.

namespace FlowGate

open Value

namespace Rules

def isOfType (v : Value) : DataType → Except Fault Bool
  | .string => .ok (v matches text _)
  | .number => v.isNumber
  | .boolean => .ok (v matches Value.bool _)
  | .date => v.toMoment.map Option.isSome
  | .array => .ok (v matches list _)
  | .object => .ok v.isMap

def typeProblem : DataType → String
  | .string => "Field must be a string"
  | .number => "Field must be a valid number"
  | .boolean => "Field must be a boolean"
  | .date => "Field must be a valid date"
  | .array => "Field must be an array"
  | .object => "Field must be an object"

def lacksRequired (rules : Rules) (v : Value) : Bool :=
  rules.required && (v.isNothing || v matches text "")

def typeProblems (rules : Rules) (v : Value) : Except Fault (List String) :=
  match rules.dataType with
  | some t =>
    if v.isNothing then .ok []
    else (isOfType v t).map fun holds => if holds then [] else [typeProblem t]
  | none => .ok []

-- The length that the length rules look at: that of a text or of a list that is not empty.
def length? : Value → Option Nat
  | text s => if s == "" then none else some s.length
  | list items => if items.isEmpty then none else some items.length
  | _ => none

def tooShort (n : Nat) : String := s!"Field must be at least {n} characters/items long"

def tooLong (n : Nat) : String := s!"Field must be no more than {n} characters/items long"

def lengthProblems (rules : Rules) (v : Value) : List String :=
  match length? v with
  | none => []
  | some length =>
    (match rules.minLength with
     | some n => if length < n then [tooShort n] else []
     | none => []) ++
    (match rules.maxLength with
     | some n => if n < length then [tooLong n] else []
     | none => [])

def patternProblems (rules : Rules) (v : Value) : Except Fault (List String) :=
  match rules.pattern, v with
  | some p, text s =>
    if p == "" then .ok []
    else (Comparison.patternFound p s).map fun found =>
      if found then [] else ["Field does not match required pattern"]
  | _, _ => .ok []

def verdictProblems (name : String) (verdict : Verdict) : List Value :=
  let failed := text s!"{name} failed"
  match verdict with
  | .plain v => if v.truthy then [] else [failed]
  | .outcome valid errors => if valid then [] else if errors.isEmpty then [failed] else errors

def customProblems (registry : Registry) (rules : Rules) (v : Value) : Logged (Except Fault (List Value)) :=
  match rules.customValidator with
  | none => .pure (.ok [])
  | some name =>
    if name == "" then .pure (.ok [])
    else match registry.validator? name with
      | none => .pure (.ok [text s!"Validation function not found: {name}"])
      | some validator => ⟨[.validator name], (validator v).map (verdictProblems name)⟩

def ownProblems (rules : Rules) (v : Value) : Except Fault (List String) := do
  let required := if rules.lacksRequired v then ["Field is required"] else []
  let type ← rules.typeProblems v
  let length := rules.lengthProblems v
  let pattern ← rules.patternProblems v
  return required ++ type ++ length ++ pattern

-- All problems of a value, none if it keeps the rules.
def problems (registry : Registry) (rules : Rules) (v : Value) : Logged (Except Fault (List Value)) :=
  match rules.ownProblems v with
  | .error f => .pure (.error f)
  | .ok own => (rules.customProblems registry v).map fun custom => custom.map fun c => own.map text ++ c

end Rules

end FlowGate
