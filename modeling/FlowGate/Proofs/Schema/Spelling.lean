import FlowGate.Proofs.Entries
import FlowGate.Proofs.Schema.RoundTrip
import Mathlib.Data.Option.Basic

-- Fields that go by several names. A configuration can be respelled key by key, as deep inside as its records
-- go, and each record still has the same in each of its fields.

namespace FlowGate.Schema

open Value Parsed
open Entries (get?_append get?_cons_self get?_cons_of_ne get?_eq_none)

inductive Model
  | action
  | condition
  | group
  | filter
  | rules
  | transformation
  | branch
  | options
deriving DecidableEq

namespace Model

def Result : Model → Type
  | action         => Action
  | condition      => Condition
  | group          => FilterGroup
  | filter         => Filter
  | rules          => Rules
  | transformation => Transformation
  | branch         => Branch
  | options        => Options

def read : (m : Model) → Reader m.Result
  | action         => Action.read
  | condition      => Condition.read
  | group          => FilterGroup.read
  | filter         => Filter.read
  | rules          => Rules.read
  | transformation => Transformation.read
  | branch         => Branch.read
  | options        => Options.read

end Model

-- What the value of a field is: anything without keys of its own to be spelled, a record, or a list of records.
inductive Shape
  | free
  | one (m : Model)
  | many (m : Model)
deriving DecidableEq

structure Field where
  names : List String
  shape : Shape := .free

-- The fields that have several names or hold records. Which of those of a condition count depends on its kind;
-- the others are not read at all.
def Model.fields : Model → List Field
  | action => [
    ⟨["conditions"], .many condition⟩,
    ⟨["filters"], .many group⟩,
    ⟨["onTrue", "on_true"], .one branch⟩,
    ⟨["onFalse", "on_false"], .one branch⟩,
    ⟨["onError", "on_error"], .one branch⟩,
    ⟨["options"], .one options⟩]
  | condition => [
    ⟨["children", "conditions"], .many condition⟩,
    ⟨["group"], .one group⟩,
    ⟨["function_name", "functionName", "customFunction"], .free⟩]
  | group => [
    ⟨["filters"], .many filter⟩,
    ⟨["sub_groups", "subGroups"], .many group⟩]
  | filter => [
    ⟨["validation"], .one rules⟩,
    ⟨["transformation"], .one transformation⟩]
  | rules => [
    ⟨["dataType", "data_type"], .free⟩,
    ⟨["minLength", "min_length"], .free⟩,
    ⟨["maxLength", "max_length"], .free⟩,
    ⟨["customValidator", "custom_validator"], .free⟩]
  | transformation => [
    ⟨["customFunction", "custom_function"], .free⟩]
  | branch => [
    ⟨["actionIds", "action_ids"], .free⟩,
    ⟨["continueWorkflow", "continue_workflow"], .free⟩,
    ⟨["setVariables", "set_variables"], .free⟩]
  | options => [
    ⟨["evaluationMode", "evaluation_mode"], .free⟩,
    ⟨["stopOnFirstFailure", "stop_on_first_failure"], .free⟩,
    ⟨["timeoutMs", "timeout_ms"], .free⟩,
    ⟨["cacheResults", "cache_results"], .free⟩,
    ⟨["logLevel", "log_level"], .free⟩]

-- One key of one record gets another name of its field, which is given under no other name there.
inductive Respells : Shape → Value → Value → Prop
  | key {m : Model} {f : Field} {front back : Entries} {name other : String} {v : Value}
    (hf : f ∈ m.fields) (hn : name ∈ f.names) (ho : other ∈ f.names)
    (once : ∀ e ∈ front ++ back, ∀ n ∈ f.names, e.1 ≠ .text n) :
    Respells (.one m) (.map (front ++ (.text name, v) :: back)) (.map (front ++ (.text other, v) :: back))
  | within {m : Model} {f : Field} {front back : Entries} {name : String} {v w : Value}
    (hf : f ∈ m.fields) (hn : name ∈ f.names) (h : Respells f.shape v w) :
    Respells (.one m) (.map (front ++ (.text name, v) :: back)) (.map (front ++ (.text name, w) :: back))
  | item {m : Model} {front back : List Value} {v w : Value} (h : Respells (.one m) v w) :
    Respells (.many m) (.list (front ++ v :: back)) (.list (front ++ w :: back))

section Reading

variable {α : Type} {r : Reader α} {v w : Value}

-- Two values that a reader reads alike. Null is kept apart, since a field that holds it may count as absent.
structure SameReading (r : Reader α) (v w : Value) : Prop where
  nulls : v = null ↔ w = null
  reads : ∀ a, r v = .done a ↔ r w = .done a

theorem optional_iff {a : Option α} : optional r v = .done a ↔
    v = null ∧ a = none ∨ v ≠ null ∧ ∃ b, r v = .done b ∧ a = some b := by
  unfold optional
  split
  case h_1   => simp [eq_comm]
  case h_2 h =>
    change (some <$> r v) = .done a ↔ _
    simp [show v ≠ null from h, map_eq_done, eq_comm]

namespace SameReading

theorem refl : SameReading r v v := ⟨.rfl, fun _ => .rfl⟩

theorem symm (h : SameReading r v w) : SameReading r w v := ⟨h.nulls.symm, fun a => (h.reads a).symm⟩

theorem optional (h : SameReading r v w) : SameReading (Schema.optional r) v w := by
  refine ⟨h.nulls, fun a => ?_⟩
  simp only [optional_iff, ne_eq, h.nulls, h.reads]

theorem members {front back : List Value} {as : List α} (h : SameReading r v w)
    (hm : List.Forall₂ (fun v a => r v = .done a) (front ++ v :: back) as) :
    List.Forall₂ (fun v a => r v = .done a) (front ++ w :: back) as := by
  induction front generalizing as
  case nil =>
    obtain _ | ⟨hv, hback⟩ := hm
    exact .cons ((h.reads _).mp hv) hback
  case cons first front hi =>
    obtain _ | ⟨hfirst, hrest⟩ := hm
    exact .cons hfirst (hi hrest)

theorem item {front back : List Value} (h : SameReading r v w) :
    SameReading (listOf r) (.list (front ++ v :: back)) (.list (front ++ w :: back)) := by
  refine ⟨by simp, fun as => ?_⟩
  simp only [listOf_iff, Value.list.injEq, exists_eq_left']
  exact ⟨h.members, h.symm.members⟩

end SameReading

end Reading

-- Values in one place of a configuration that come to the same.
def Shape.Alike : Shape → Value → Value → Prop
  | free   => Eq
  | one m  => SameReading m.read
  | many m => SameReading (listOf m.read)

variable {m : Model} {shape : Shape} {names : List String} {front back entries entries' : Entries} {v w : Value}
  {name other : String}

theorem Shape.Alike.refl : shape.Alike v v := by
  cases shape
  case free => rfl
  all_goals exact SameReading.refl

theorem Shape.Alike.symm (h : shape.Alike v w) : shape.Alike w v := by
  cases shape
  case free => exact Eq.symm h
  all_goals exact SameReading.symm h

-- What is given under these names.
def found (entries : Entries) (names : List String) : Option Value :=
  names.findSome? (Entries.get? entries)

theorem held_eq {d : Value} : held entries names d = (found entries names).getD d := by
  rw [held, found]
  induction names
  case nil => rfl
  case cons name rest hi =>
    rw [given?, List.findSome?_cons]
    cases Entries.get? entries name
    case none   => exact hi
    case some v => rfl

-- These are the names of a field of this shape, or none of them belongs to a field that the table shows.
def Model.Has (m : Model) (names : List String) (shape : Shape) : Prop :=
  ∀ f ∈ m.fields, f.names = names ∧ f.shape = shape ∨ ∀ name ∈ f.names, name ∉ names

instance : Decidable (m.Has names shape) :=
  inferInstanceAs <| Decidable <|
    ∀ f ∈ m.fields, f.names = names ∧ f.shape = shape ∨ ∀ name ∈ f.names, name ∉ names

-- Two records that have the same in each field, or what comes to the same.
def Model.Kin (m : Model) (entries entries' : Entries) : Prop :=
  ∀ ⦃names shape⦄, m.Has names shape → Option.Rel shape.Alike (found entries names) (found entries' names)

section Rel

variable {o o' p p' : Option Value}

theorem rel_refl : Option.Rel shape.Alike o o := by
  cases o
  case none => exact .none
  case some => exact .some .refl

theorem rel_symm (h : Option.Rel shape.Alike o o') : Option.Rel shape.Alike o' o := by
  cases h
  case none   => exact .none
  case some h => exact .some h.symm

theorem rel_or (h : Option.Rel shape.Alike o o') (h' : Option.Rel shape.Alike p p') :
    Option.Rel shape.Alike (o.or p) (o'.or p') := by
  cases h
  case none   => exact h'
  case some h => exact .some h

end Rel

theorem found_cons : found entries (name :: names) = (Entries.get? entries name).or (found entries names) := by
  rw [found, List.findSome?_cons]
  cases Entries.get? entries name <;> rfl

theorem rel_found
    (h : ∀ name ∈ names, Option.Rel shape.Alike (Entries.get? entries name) (Entries.get? entries' name)) :
    Option.Rel shape.Alike (found entries names) (found entries' names) := by
  induction names
  case nil => exact .none
  case cons name rest hi =>
    obtain ⟨hname, hrest⟩ := List.forall_mem_cons.mp h
    rw [found_cons, found_cons]
    exact rel_or hname (hi hrest)

theorem Model.Kin.symm (h : m.Kin entries entries') : m.Kin entries' entries :=
  fun _ _ hs => rel_symm (h hs)

-- A key that is no name of a field makes no difference to it.
theorem found_elsewhere (h : name ∉ names) :
    found (front ++ (.text name, v) :: back) names = found (front ++ back) names := by
  induction names
  case nil => rfl
  case cons n rest hi =>
    rw [found_cons, found_cons, hi (List.not_mem_of_not_mem_cons h), get?_append, get?_append,
      get?_cons_of_ne (List.ne_of_not_mem_cons h)]

theorem found_once (hn : name ∈ names) (once : ∀ e ∈ front ++ back, ∀ n ∈ names, e.1 ≠ .text n) :
    found (front ++ (.text name, v) :: back) names = some v := by
  induction names
  case nil => cases hn
  case cons n rest hi =>
    obtain ⟨hfront, hback⟩ := List.forall_mem_append.mp once
    have hnone : Entries.get? front n = none := get?_eq_none fun e he => hfront e he n List.mem_cons_self
    rw [found_cons, get?_append, hnone, Option.none_or]
    by_cases h : name = n
    case pos => rw [h, get?_cons_self, Option.some_or]
    case neg =>
      have hrest : name ∈ rest := (List.mem_cons.mp hn).resolve_left h
      rw [get?_cons_of_ne h, get?_eq_none fun e he => hback e he n List.mem_cons_self, Option.none_or]
      exact hi hrest fun e he n hm => once e he n (List.mem_cons_of_mem _ hm)

theorem kin_key {f : Field} (hf : f ∈ m.fields) (hn : name ∈ f.names) (ho : other ∈ f.names)
    (once : ∀ e ∈ front ++ back, ∀ n ∈ f.names, e.1 ≠ .text n) :
    m.Kin (front ++ (.text name, v) :: back) (front ++ (.text other, v) :: back) := by
  intro names shape h
  rcases h f hf with ⟨rfl, rfl⟩ | h
  · rw [found_once hn once, found_once ho once]
    exact rel_refl
  · rw [found_elsewhere (h name hn), found_elsewhere (h other ho)]
    exact rel_refl

theorem kin_within {f : Field} (hf : f ∈ m.fields) (hn : name ∈ f.names) (hv : f.shape.Alike v w) :
    m.Kin (front ++ (.text name, v) :: back) (front ++ (.text name, w) :: back) := by
  intro names shape h
  rcases h f hf with ⟨rfl, rfl⟩ | h
  · refine rel_found fun n _ => ?_
    rw [get?_append, get?_append]
    refine rel_or rel_refl ?_
    by_cases hne : name = n
    case pos => rw [hne, get?_cons_self, get?_cons_self]; exact .some hv
    case neg => rw [get?_cons_of_ne hne, get?_cons_of_ne hne]; exact rel_refl
  · rw [found_elsewhere (h name hn), found_elsewhere (h name hn)]
    exact rel_refl

end FlowGate.Schema
