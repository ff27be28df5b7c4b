import FlowGate.Condition.Evaluation
import FlowGate.Proofs.Filter.Isolation

-- Simple conditions and filters that compare the same field with the same value by the same operator. Both
-- come to the same answer where filters may use the operator, and nowhere else does a filter pass.

namespace FlowGate

open Value

variable {e : Engine} {c : Context} {path : String} {o : Operator} {value : Value}

-- What comes of comparing a field with a value.
def Engine.answer (e : Engine) (c : Context) (path : String) (o : Operator) (value : Value) :
    Except Fault Bool :=
  e.comparer.applyKnown o (c.resolveField path) (c.resolveValue value)

-- The same for filters, which may not use every operator.
def Engine.filterAnswer (e : Engine) (c : Context) (path : String) (o : Operator) (value : Value) :
    Except Fault Bool :=
  if Operator.forFilters.contains o then e.answer c path o value else .error (.unsupportedOperator o.name)

theorem Condition.evaluate_comparing (e : Engine) (c : Context) (header : Header) (path : String)
    (o : Operator) (value : Value) :
    ∃ record, (simple header (text path) (.known o) value).evaluate e c =
      ⟨[], some (.ok (conclude record [] (e.answer c path o value)))⟩ :=
  ⟨_, rfl⟩

namespace Filter

variable {f : Filter}

-- A filter that compares its field as it is.
structure Compares (f : Filter) (path : String) (o : Operator) : Prop where
  field          : f.field = text path
  operator       : f.operator = .known o
  rules          : f.rules = none
  transformation : f.transformation = none

theorem pipeline_comparing (h : f.Compares path o) :
    f.pipeline e c (c.resolveField path) =
      .pure ((e.filterAnswer c path o f.value).map fun passed =>
        f.detail (text o.name) (c.resolveValue f.value) (c.resolveField path) passed none null) := by
  have happ : f.holds e (c.resolveField path) (c.resolveValue f.value) = e.filterAnswer c path o f.value :=
    holds_of_known h.operator
  simp only [pipeline, h.rules, compared, h.transformation, Logged.andThen, Logged.pure, h.operator,
    happ, operatorName]
  cases e.filterAnswer c path o f.value <;> rfl

theorem evaluate_comparing (h : f.Compares path o) :
    f.evaluate e c = match e.filterAnswer c path o f.value with
      | .ok passed => ({ details :=
          [f.detail (text o.name) (c.resolveValue f.value) (c.resolveField path) passed none null] },
          .ok passed)
      | .error fault => ({
          details := [f.detail (text o.name) f.value (c.resolveField path) false (some fault.message) null]
          errors  := [f.id.plain ++ ": " ++ fault.message] }, .ok false) := by
  have hp : f.path = .ok path := by simp [Filter.path, h.field]
  simp only [evaluate, hp, pipeline_comparing h]
  cases e.filterAnswer c path o f.value
  case ok    => rfl
  case error => simp [Logged.pure, Except.map, failure, h.field, operatorName, h.operator]

end Filter

namespace FilterGroup

-- A group with one filter comes to what the filter comes to.
theorem evaluate_single {f : Filter} {trace : Trace} {passed : Bool} (stop : Bool) (id name : String)
    (description : Option String) (combination : Combination) (priority : Int) (hn : f.isEnabled = true)
    (hp : ∃ n, f.priority = .int n) (he : f.evaluate e c = (trace, .ok passed)) :
    evaluate e c stop (build id name description combination [f] [] true priority) =
      (trace ++ (if passed then { matched := [f.id] } else { failed := [f.id] }), .ok passed) := by
  have hfs : orderedFilters [f] none = .ok [f] := by
    have hi : Priority.inOrder Filter.priority [f] = [f] :=
      List.perm_singleton.mp (Priority.inOrder_perm ..)
    rw [orderedFilters, Priority.sort_eq (List.forall_mem_singleton.mpr hp), hi]
    rfl
  have hgs : orderedSubGroups (build id name description combination [f] [] true priority) = .ok [] := by
    have hi : Priority.inOrder FilterGroup.priority [] = [] := List.perm_nil.mp (Priority.inOrder_perm ..)
    rw [orderedSubGroups, build, Priority.sort_eq (List.forall_mem_nil _), hi]
    rfl
  rw [evaluate_of_enabled rfl, hgs]
  simp only [build, hfs, Except.map, outcome_eq, Filter.sweep_cons hn, Filter.noted, he]
  cases passed <;> cases combination <;> cases stop <;>
    simp [Traced.andThen, Filter.sweep, gather, combine, Slot.is, Slot.known?]

end FilterGroup

-- What a simple condition comes to, and beside it what a filter that compares the same leaves.
structure Concur (o : Operator) (f : Filter) (r : ConditionResult) (t : Trace) (passed : Bool) : Prop where
  passes      : passed = true ↔ o ∈ Operator.forFilters ∧ r.success = true ∧ r.result = true
  answered    : o ∈ Operator.forFilters → r.success = true → t.errors = []
  faulted     : o ∈ Operator.forFilters → r.success = false → ∃ m, r.errors = [m] ∧
    t.errors = [f.id.plain ++ ": " ++ m] ∧ t.details.map (·.error) = [some m]
  unsupported : o ∉ Operator.forFilters → ∃ m, m = "Unsupported filter operator: " ++ o.name ∧
    t.errors = [f.id.plain ++ ": " ++ m] ∧ t.details.map (·.error) = [some m]

theorem Filter.Compares.concurs {f : Filter} (h : f.Compares path o) (record : NodeRecord) :
    ∃ t passed, f.evaluate e c = (t, .ok passed) ∧
      Concur o f (Condition.conclude record [] (e.answer c path o f.value)) t passed := by
  rw [Filter.evaluate_comparing h, Engine.filterAnswer]
  cases hs : Operator.forFilters.contains o
  case false =>
    have hn : o ∉ Operator.forFilters := by simpa using hs
    refine ⟨_, false, rfl, ?_⟩
    exact {
      passes        := by simp [hn]
      answered h    := absurd h hn
      faulted h     := absurd h hn
      unsupported _ := ⟨_, rfl, rfl, rfl⟩
    }
  case true =>
    have hm : o ∈ Operator.forFilters := by simpa using hs
    simp only [if_true]
    cases e.answer c path o f.value
    case ok b =>
      refine ⟨_, b, rfl, ?_⟩
      exact {
        passes        := by simp [hm, Condition.conclude]
        answered _ _  := rfl
        faulted _ h   := by cases h
        unsupported h := absurd hm h
      }
    case error fault =>
      refine ⟨_, false, rfl, ?_⟩
      exact {
        passes        := by simp [Condition.conclude]
        answered _ h  := by cases h
        faulted _ _   := ⟨fault.message, rfl, rfl, rfl⟩
        unsupported h := absurd hm h
      }

-- A simple condition, and a filter that compares the same, also as the only one of a group.
theorem comparing_concurs (e : Engine) (c : Context) (path : String) (o : Operator) (value : Value)
    (header : Header) (id name : String) (priority : Int) :
    let f := Filter.build id name path o value true priority none none
    ∃ r t passed, Concur o f r t passed ∧
      (Condition.simple header (text path) (.known o) value).evaluate e c = ⟨[], some (.ok r)⟩ ∧
      f.evaluate e c = (t, .ok passed) ∧
      ∀ groupId groupName description combination groupPriority options,
        let s := (FilterGroup.run e c options
          (.build groupId groupName description combination [f] [] true groupPriority)).value
        s.passed = passed ∧ s.errors = t.errors ∧ (options.includeDetails → s.details = t.details) := by
  intro f
  have ⟨record, hr⟩ := Condition.evaluate_comparing e c header path o value
  have hf : f.Compares path o := ⟨rfl, rfl, rfl, rfl⟩
  have ⟨t, passed, he, hc⟩ := hf.concurs (e := e) (c := c) record
  refine ⟨_, t, passed, hc, hr, he, ?_⟩
  intro groupId groupName description combination groupPriority options
  have hs := FilterGroup.evaluate_single options.stopOnFirstFailure groupId groupName description
    combination groupPriority rfl ⟨priority, rfl⟩ he
  simp only [FilterGroup.run, hs]
  cases passed <;> simp +contextual

end FlowGate
