import FlowGate.Condition.Basic
import FlowGate.Schema.Filter

-- Reading conditions and writing them back. The kind of a condition decides which fields it has.

namespace FlowGate

open Value Schema

namespace Remarks

def ofFields (entries : Entries) : Parsed Remarks :=
  Remarks.mk
    <$> defaulted entries ["name"] none (optional Schema.text)
    <*> defaulted entries ["description"] none (optional Schema.text)
    <*> defaulted entries ["priority"] 0 whole
    <*> defaulted entries ["tags"] [] (listOf Schema.text)

def read : Reader Remarks := fields "ConditionMetadata" ofFields

def dump (a : Remarks) : Value := record [
  ("name", optionalText a.name),
  ("description", optionalText a.description),
  ("priority", int a.priority),
  ("tags", texts a.tags)]

end Remarks

namespace Header

def build (id : String) (remarks : Remarks) : Header := ⟨.text id, remarks⟩

def ofFields (entries : Entries) : Parsed Header :=
  build
    <$> defaulted entries ["id"] (newId "cond") nonEmptyText
    <*> defaulted entries ["metadata"] {} Remarks.read

end Header

namespace Condition

def simpleOfFields (entries : Entries) : Parsed Condition :=
  (fun header field operator value => .simple header (.text field) (.known operator) value)
    <$> Header.ofFields entries
    <*> required entries ["field"] nonEmptyText
    <*> required entries ["operator"] Operator.read
    <*> defaulted entries ["value"] null anything

def withChildren (header : Header) (operator : Connective) (children : List Condition) : Parsed Condition :=
  if operator == .not && children.length != 1 then .problem .notOneChild
  else if children.isEmpty then .problem (.noChild operator)
  else .done (.complex header (.known operator) children none)

def complexOfFields (entries : Entries) (children : Option (Parsed (List Condition))) : Parsed Condition :=
  Parsed.bind
    ((fun header operator children => (header, operator, children))
      <$> Header.ofFields entries
      <*> required entries ["operator"] (word Connective.all Connective.name)
      <*> children.getD (.done []))
    fun (header, operator, children) => withChildren header operator children

def filterOfFields (entries : Entries) : Parsed Condition :=
  (fun header group => .filter header (.known group))
    <$> Header.ofFields entries
    <*> required entries ["group"] FilterGroup.read

def functionNames : List String := ["function_name", "functionName", "customFunction"]

def customOfFields (entries : Entries) : Parsed Condition :=
  (fun header function value => .custom header (.text function) value)
    <$> Header.ofFields entries
    <*> required entries functionNames nonEmptyText
    <*> defaulted entries ["value"] null anything

def ofFields (entries : Entries) (children : Option (Parsed (List Condition))) : Parsed Condition :=
  match Entries.get? entries "kind" with
  | none => .problem .noTag
  | some (.scalar (.text "simple")) => (simpleOfFields entries).under (.key "simple")
  | some (.scalar (.text "complex")) => (complexOfFields entries children).under (.key "complex")
  | some (.scalar (.text "filter")) => (filterOfFields entries).under (.key "filter")
  | some (.scalar (.text "custom")) => (customOfFields entries).under (.key "custom")
  | some v => .problem (.unknownTag v.plain)

-- What is wrong with a value that is no mapping and so no condition.
def kindless : Scalar → Problem
  | .missing => .noTag
  | .date _ => .noTag
  | .moment _ => .noTag
  | .clock _ => .noTag
  | _ => .notObject

mutual

def read : Value → Parsed Condition
  | .map entries => ofFields entries (readUnder "children" entries <|> readUnder "conditions" entries)
  | .scalar s => .problem (kindless s)
  | .list _ => .problem .notObject

-- Reads the conditions under a key, if it is there.
def readUnder (name : String) : List (Scalar × Value) → Option (Parsed (List Condition))
  | [] => none
  | (k, v) :: rest =>
    if k.same (.text name) then some ((readList v).under (.key name)) else readUnder name rest

def readList : Value → Parsed (List Condition)
  | .list vs => readItems 0 vs
  | _ => .problem .notList

def readItems (index : Nat) : List Value → Parsed (List Condition)
  | [] => .done []
  | v :: rest => List.cons <$> (read v).under (.index index) <*> readItems (index + 1) rest

end

def dumpHeader (header : Header) (kind : String) : List (String × Value) :=
  [("id", header.id), ("metadata", header.remarks.dump), ("kind", text kind)]

mutual

def dump : Condition → Value
  | .simple header field operator value => record (dumpHeader header "simple" ++ [
      ("field", field), ("operator", operator.shown Operator.name), ("value", value)])
  | .complex header operator children stray => record (dumpHeader header "complex" ++ [
      ("operator", operator.shown Connective.name),
      ("children", FilterGroup.dumpMembers stray (dumps children))])
  | .filter header group => record (dumpHeader header "filter" ++ [
      ("group", match group with
        | .known g => g.dump
        | .stray v => v)])
  | .custom header function value => record (dumpHeader header "custom" ++ [
      ("functionName", function), ("value", value)])
  | .foreign id kind label => record [("id", id), ("kind", kind), ("operator", label)]

def dumps : List Condition → List Value
  | [] => []
  | c :: rest => dump c :: dumps rest

end

end Condition

end FlowGate
