import FlowGate.Schema.Action

-- Configurations that are taken as they stand, without being validated. Fields that are left out get their
-- defaults, names of operators that are known are recognised, and everything else stays as it is. Only the
-- rules and transformations of filters, the branches and the options of an action are read.

namespace FlowGate

open Value
open Schema (Parsed given? newId word optional)

namespace Schema

def givenD (entries : Entries) (names : List String) (default : Value) : Value :=
  match given? entries names with
  | some (_, v) => v
  | none => default

end Schema

open Schema (givenD)

-- A word of a vocabulary, or whatever else is given.
def Slot.ofValue {α : Type} (words : List α) (name : α → String) (v : Value) : Slot α :=
  match v with
  | text s =>
    match words.find? fun a => name a == s with
    | some a => .known a
    | none => .stray v
  | v => .stray v

-- A list of parts, and the value that stands in its place if it is none.
structure Drafts (α : Type) where
  members : List α
  stray   : Option Value

namespace Filter

def draftRules (entries : Entries) : Parsed (Option Rules) :=
  Schema.defaulted entries ["validation"] none (optional Rules.read)

def draftTransformation (entries : Entries) : Parsed (Option Transformation) :=
  Schema.defaulted entries ["transformation"] none (optional Transformation.read)

def draft (v : Value) : Parsed Filter :=
  let entries : Entries := match v with
    | map entries => entries
    | _ => []
  (fun rules transformation => {
    id       := givenD entries ["id"] (text (newId "filter")),
    name     := givenD entries ["name"] (text ""),
    field    := givenD entries ["field"] missing,
    operator := .ofValue Operator.all Operator.name (givenD entries ["operator"] missing),
    value    := givenD entries ["value"] null,
    enabled  := givenD entries ["enabled"] (bool true),
    priority := givenD entries ["priority"] (int 0),
    rules, transformation })
  <$> draftRules entries <*> draftTransformation entries

def draftItems : List Value → Parsed (List Filter)
  | [] => .done []
  | v :: rest => List.cons <$> draft v <*> draftItems rest

def drafts (v : Value) : Parsed (Drafts Filter) :=
  match v with
  | list vs => (draftItems vs).map fun filters => ⟨filters, none⟩
  | v => .done ⟨[], some v⟩

end Filter

namespace FilterGroup

def draftOf (entries : Entries) (subGroups : Option (Parsed (Drafts FilterGroup))) : Parsed FilterGroup :=
  (fun filters subGroups => {
    id             := givenD entries ["id"] (text (newId "group")),
    name           := givenD entries ["name"] (text ""),
    description    := match givenD entries ["description"] null with
      | text s => some s
      | _ => none,
    operator       := .ofValue Combination.all Combination.name
      (givenD entries ["operator"] (text Combination.and.name)),
    filters        := filters.members,
    strayFilters   := filters.stray,
    subGroups      := subGroups.members,
    straySubGroups := subGroups.stray,
    enabled        := givenD entries ["enabled"] (bool true),
    priority       := givenD entries ["priority"] (int 0) })
  <$> Filter.drafts (givenD entries ["filters"] (list []))
  <*> subGroups.getD (.done ⟨[], none⟩)

mutual

def draft : Value → Parsed FilterGroup
  | .map entries => draftOf entries (draftUnder "subGroups" entries <|> draftUnder "sub_groups" entries)
  | _ => draftOf [] none

def draftUnder (name : String) : List (Scalar × Value) → Option (Parsed (Drafts FilterGroup))
  | [] => none
  | (k, v) :: rest => if k.same (.text name) then some (draftList v) else draftUnder name rest

def draftList : Value → Parsed (Drafts FilterGroup)
  | .list vs => (draftItems vs).map fun groups => ⟨groups, none⟩
  | v => .done ⟨[], some v⟩

def draftItems : List Value → Parsed (List FilterGroup)
  | [] => .done []
  | v :: rest => List.cons <$> draft v <*> draftItems rest

end

-- A group, or whatever stands in its place.
def draftSlot (v : Value) : Parsed (Slot FilterGroup) :=
  match v with
  | map _ => (draft v).map Slot.known
  | v => .done (.stray v)

end FilterGroup

namespace Condition

def draftHeader (entries : Entries) : Parsed Header :=
  (fun remarks => ⟨givenD entries ["id"] (text (newId "cond")), remarks⟩)
    <$> Schema.defaulted entries ["metadata"] {} Remarks.read

def draftOf (entries : Entries) (children : Option (Parsed (Drafts Condition))) : Parsed Condition :=
  match Entries.get? entries "kind" with
  | some (text "simple") =>
    (fun header => .simple header (givenD entries ["field"] missing)
        (.ofValue Operator.all Operator.name (givenD entries ["operator"] missing))
        (givenD entries ["value"] null))
      <$> draftHeader entries
  | some (text "complex") =>
    (fun header children => .complex header
        (.ofValue Connective.all Connective.name (givenD entries ["operator"] missing))
        children.members children.stray)
      <$> draftHeader entries
      <*> children.getD (.done ⟨[], none⟩)
  | some (text "filter") =>
    (fun header group => .filter header group)
      <$> draftHeader entries
      <*> FilterGroup.draftSlot (givenD entries ["group"] missing)
  | some (text "custom") =>
    (fun header => .custom header
        (givenD entries ["functionName", "function_name", "customFunction"] missing)
        (givenD entries ["value"] null))
      <$> draftHeader entries
  | kind => .done (.foreign (givenD entries ["id"] null) (kind.getD null) (givenD entries ["operator"] (text "none")))

mutual

def draft : Value → Parsed Condition
  | .map entries => draftOf entries (draftUnder "children" entries <|> draftUnder "conditions" entries)
  | _ => draftOf [] none

def draftUnder (name : String) : List (Scalar × Value) → Option (Parsed (Drafts Condition))
  | [] => none
  | (k, v) :: rest => if k.same (.text name) then some (draftList v) else draftUnder name rest

def draftList : Value → Parsed (Drafts Condition)
  | .list vs => (draftItems vs).map fun conditions => ⟨conditions, none⟩
  | v => .done ⟨[], some v⟩

def draftItems : List Value → Parsed (List Condition)
  | [] => .done []
  | v :: rest => List.cons <$> draft v <*> draftItems rest

end

end Condition

namespace Action

def draftTrueBranch (entries : Entries) : Parsed (Slot Branch) :=
  match given? entries ["onTrue", "on_true"] with
  | none => .done (.stray missing)
  | some (_, null) => .done (.stray null)
  | some (_, v) => (Branch.read v).map Slot.known

def draftBranch (entries : Entries) (names : List String) : Parsed (Option Branch) :=
  match given? entries names with
  | none => .done none
  | some (_, v) => optional Branch.read v

def draftOptions (entries : Entries) : Parsed Options :=
  match given? entries ["options"] with
  | none => .done {}
  | some (_, v) => Options.read v

-- The fault of taking the members of a list one by one, if there is a value in its place that has none.
def membersFault? (entries : Entries) (name : String) : Option Fault :=
  match Entries.get? entries name with
  | some (scalar (.text _)) => none
  | some (scalar s) => some (.notIterable s.kindName)
  | _ => none

-- The fault of drafting an action, whose conditions and filters are drafted one by one.
def draftFault? : Value → Option Fault
  | map entries => membersFault? entries "conditions" <|> membersFault? entries "filters"
  | _ => none

def draft (v : Value) : Parsed Action :=
  let entries : Entries := match v with
    | map entries => entries
    | _ => []
  (fun conditions filters onTrue onFalse onError options => {
    id              := givenD entries ["id"] (text (newId "conditional")),
    name            := givenD entries ["name"] (text "Conditional Action"),
    description     := match givenD entries ["description"] null with
      | text s => some s
      | _ => none,
    conditions      := conditions.members,
    strayConditions := conditions.stray,
    filters         := filters.members,
    strayFilters    := filters.stray,
    onTrue, onFalse, onError, options })
  <$> Condition.draftList (givenD entries ["conditions"] (list []))
  <*> FilterGroup.draftList (givenD entries ["filters"] (list []))
  <*> draftTrueBranch entries
  <*> draftBranch entries ["onFalse", "on_false"]
  <*> draftBranch entries ["onError", "on_error"]
  <*> draftOptions entries

end Action

end FlowGate
