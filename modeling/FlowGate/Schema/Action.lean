import FlowGate.Action.Basic
import FlowGate.Schema.Condition

-- Reading conditional actions, their branches and their options, and writing them back.

namespace FlowGate

open Value Schema

namespace BranchNote

def ofFields (entries : Entries) : Parsed BranchNote :=
  BranchNote.mk
    <$> defaulted entries ["description"] none (optional Schema.text)
    <*> defaulted entries ["tags"] [] (listOf Schema.text)

def read : Reader BranchNote := fields "BranchMetadata" ofFields

def dump (n : BranchNote) : Value :=
  record [("description", optionalText n.description), ("tags", texts n.tags)]

end BranchNote

namespace Branch

def ofFields (entries : Entries) : Parsed Branch :=
  Branch.mk
    <$> defaulted entries ["actionIds", "action_ids"] [] (listOf Schema.text)
    <*> defaulted entries ["continueWorkflow", "continue_workflow"] false truth
    <*> defaulted entries ["setVariables", "set_variables"] [] mapping
    <*> defaulted entries ["metadata"] none (optional BranchNote.read)

def read : Reader Branch := fields "Branch" ofFields

def dump (b : Branch) : Value := record [
  ("actionIds", texts b.actionIds),
  ("continueWorkflow", bool b.continueWorkflow),
  ("setVariables", map b.setVariables),
  ("metadata", (b.note.map BranchNote.dump).getD null)]

def dumpOption (b : Option Branch) : Value := (b.map dump).getD null

end Branch

namespace Options

def ofFields (entries : Entries) : Parsed Options :=
  Options.mk
    <$> defaulted entries ["evaluationMode", "evaluation_mode"] .all (word Mode.list Mode.name)
    <*> defaulted entries ["stopOnFirstFailure", "stop_on_first_failure"] false truth
    <*> defaulted entries ["timeoutMs", "timeout_ms"] none (optional whole)
    <*> defaulted entries ["cacheResults", "cache_results"] false truth
    <*> defaulted entries ["logLevel", "log_level"] .basic (word Detail.list Detail.name)

def read : Reader Options := fields "ConditionalOptions" ofFields

def dump (o : Options) : Value := record [
  ("evaluationMode", text o.mode.name),
  ("stopOnFirstFailure", bool o.stopOnFirstFailure),
  ("timeoutMs", (o.timeoutMs.map int).getD null),
  ("cacheResults", bool o.cacheResults),
  ("logLevel", text o.detail.name)]

end Options

namespace Action

def build (id name : String) (description : Option String) (conditions : List Condition)
    (filters : List FilterGroup) (onTrue : Branch) (onFalse onError : Option Branch) (options : Options) :
    Action where
  id          := .text id
  name        := .text name
  description := description
  conditions  := conditions
  filters     := filters
  onTrue      := .known onTrue
  onFalse     := onFalse
  onError     := onError
  options     := options

def ofFields (entries : Entries) : Parsed Action :=
  build
    <$> defaulted entries ["id"] (newId "conditional") Schema.text
    <*> defaulted entries ["name"] "Conditional Action" Schema.text
    <*> defaulted entries ["description"] none (optional Schema.text)
    <*> defaulted entries ["conditions"] [] (listOf Condition.read)
    <*> defaulted entries ["filters"] [] (listOf FilterGroup.read)
    <*> required entries ["onTrue", "on_true"] Branch.read
    <*> defaulted entries ["onFalse", "on_false"] none (optional Branch.read)
    <*> defaulted entries ["onError", "on_error"] none (optional Branch.read)
    <*> defaulted entries ["options"] {} Options.read

def read : Reader Action := fields "ConditionalActionConfig" ofFields

def dump (a : Action) : Value := record [
  ("id", a.id),
  ("name", a.name),
  ("description", optionalText a.description),
  ("conditions", FilterGroup.dumpMembers a.strayConditions (Condition.dumps a.conditions)),
  ("filters", FilterGroup.dumpMembers a.strayFilters (FilterGroup.dumps a.filters)),
  ("onTrue", match a.onTrue with
    | .known b => b.dump
    | .stray v => v),
  ("onFalse", Branch.dumpOption a.onFalse),
  ("onError", Branch.dumpOption a.onError),
  ("options", a.options.dump)]

-- The error branch of a configuration that could not be read as a whole.
def rescueBranch (v : Value) : Option Branch :=
  match v with
  | .map entries =>
    match given? entries ["onError", "on_error"] with
    | some (_, .scalar .null) => none
    | some (_, raw) => (Branch.read raw).toOption
    | none => none
  | _ => none

end Action

end FlowGate
