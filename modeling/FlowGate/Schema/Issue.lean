import FlowGate.Operator.Basic

-- What keeps a configuration from being read. An issue says where it is and what is wrong there, and a
-- configuration that was not read comes with all of its issues.

namespace FlowGate.Schema

inductive Step
  | key (name : String)
  | index (n : Int)
deriving DecidableEq, Repr

namespace Step

def text : Step → String
  | key name => name
  | index n => toString n

end Step

inductive Problem
  | absent
  | notText
  | emptyText
  | notInteger
  | fraction
  | notNumeral
  | integerSize
  | notFinite
  | negative
  | notTruth
  | unreadTruth
  | notList
  | notMapping
  | notRecord (name : String)
  | notObject
  | noTag
  | unknownTag (tag : String)
  | notAWord (words : List String)
  | noChild (connective : Connective)
  | notOneChild
deriving DecidableEq, Repr

namespace Problem

def code : Problem → String
  | absent => "missing"
  | notText => "string_type"
  | emptyText => "string_too_short"
  | notInteger => "int_type"
  | fraction => "int_from_float"
  | notNumeral => "int_parsing"
  | integerSize => "int_parsing_size"
  | notFinite => "finite_number"
  | negative => "greater_than_equal"
  | notTruth => "bool_type"
  | unreadTruth => "bool_parsing"
  | notList => "list_type"
  | notMapping => "dict_type"
  | notRecord _ => "model_type"
  | notObject => "model_attributes_type"
  | noTag => "union_tag_not_found"
  | unknownTag _ => "union_tag_invalid"
  | notAWord _ => "enum"
  | noChild _ => "value_error"
  | notOneChild => "value_error"

def alternatives : List String → String
  | [] => ""
  | [w] => s!"'{w}'"
  | [v, w] => s!"'{v}' or '{w}'"
  | w :: rest => s!"'{w}', " ++ alternatives rest

def message : Problem → String
  | absent => "Field required"
  | notText => "Input should be a valid string"
  | emptyText => "String should have at least 1 character"
  | notInteger => "Input should be a valid integer"
  | fraction => "Input should be a valid integer, got a number with a fractional part"
  | notNumeral => "Input should be a valid integer, unable to parse string as an integer"
  | integerSize => "Unable to parse input string as an integer, exceeded maximum size"
  | notFinite => "Input should be a finite number"
  | negative => "Input should be greater than or equal to 0"
  | notTruth => "Input should be a valid boolean"
  | unreadTruth => "Input should be a valid boolean, unable to interpret input"
  | notList => "Input should be a valid list"
  | notMapping => "Input should be a valid dictionary"
  | notRecord name => s!"Input should be a valid dictionary or instance of {name}"
  | notObject => "Input should be a valid dictionary or object to extract fields from"
  | noTag => "Unable to extract tag using discriminator 'kind'"
  | unknownTag tag =>
    s!"Input tag '{tag}' found using 'kind' does not match any of the expected tags: " ++
      "'simple', 'complex', 'filter', 'custom'"
  | notAWord words => "Input should be " ++ alternatives words
  | noChild connective => s!"Value error, '{connective.name}' conditions require at least one child"
  | notOneChild => "Value error, 'not' conditions require exactly one child"

end Problem

structure Issue where
  path    : List Step
  problem : Problem
deriving DecidableEq, Repr

namespace Issue

def shown (issue : Issue) : String :=
  let place := if issue.path.isEmpty then "config" else ".".intercalate (issue.path.map Step.text)
  place ++ ": " ++ issue.problem.message

end Issue

inductive Parsed (α : Type)
  | done (a : α)
  | failed (issues : List Issue)

namespace Parsed

variable {α β : Type}

def map (f : α → β) : Parsed α → Parsed β
  | done a => done (f a)
  | failed issues => failed issues

-- Puts two parts together. The issues of the first come first.
def seq (f : Parsed (α → β)) (x : Unit → Parsed α) : Parsed β :=
  match f, x () with
  | done f, done a => done (f a)
  | done _, failed issues => failed issues
  | failed issues, done _ => failed issues
  | failed issues, failed more => failed (issues ++ more)

instance : Applicative Parsed where
  pure := done
  map  := map
  seq  := seq

def bind (x : Parsed α) (f : α → Parsed β) : Parsed β :=
  match x with
  | done a => f a
  | failed issues => failed issues

def problem (p : Problem) : Parsed α := failed [⟨[], p⟩]

def under (step : Step) : Parsed α → Parsed α
  | done a => done a
  | failed issues => failed (issues.map fun issue => { issue with path := step :: issue.path })

def toOption : Parsed α → Option α
  | done a => some a
  | failed _ => none

end Parsed

end FlowGate.Schema
