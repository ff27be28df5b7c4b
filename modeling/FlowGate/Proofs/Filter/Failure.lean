import Mathlib.Data.List.Forall2
import FlowGate.Proofs.Engine
import FlowGate.Proofs.Filter.Evaluation

-- How evaluating a filter ends. One that comes to no end of its own leaves a detail that tells what went
-- wrong, unless it has no field or no operator with a name: then telling goes wrong as well.

namespace FlowGate

open Value

namespace Filter

variable {e : Engine} {c : Context} {f : Filter} {fs : List Filter} {d : FilterDetail}
  {fault again : Fault} {actual : Value} {calls : List Call}

-- A detail that names this filter.
structure Named (f : Filter) (d : FilterDetail) : Prop where
  filterId   : d.filterId = f.id
  filterName : d.filterName = f.name
  field      : d.field = f.field

-- A detail that tells of this fault.
structure Told (f : Filter) (fault : Fault) (d : FilterDetail) : Prop extends Named f d where
  expected : d.expected = f.value
  passed   : d.passed = false
  error    : d.error = some fault.message

def fault? (e : Engine) (c : Context) (f : Filter) : Option Fault :=
  match f.path with
  | .error fault => some fault
  | .ok path =>
    match (f.pipeline e c (c.resolveField path)).value with
    | .error fault => some fault
    | .ok _        => none

-- What a filter that cannot be evaluated adds to the errors of its group.
def complaint? (e : Engine) (c : Context) (f : Filter) : Option String :=
  (f.fault? e c).map fun fault => f.id.plain ++ ": " ++ fault.message

-- What goes wrong when a fault of this filter is to be told.
def mute? (f : Filter) : Option Fault :=
  match f.field with
  | missing => some (.noAttribute "Filter" "field")
  | _ =>
    match f.operatorName with
    | .error fault => some fault
    | .ok _        => none

theorem mute?_of_valid (hv : f.Valid) : f.mute? = none := by
  have ⟨s, _, hf⟩ := hv.field
  have ⟨o, ho⟩ := hv.operator
  simp [mute?, hf, operatorName, ho]

theorem failure_of_mute (h : f.mute? = some again) :
    f.failure actual calls fault =
      ({ errors := [f.id.plain ++ ": " ++ fault.message], calls }, .error again) := by
  unfold mute? at h
  unfold failure
  split at h
  case h_1 =>
    cases h
    simp [*]
  case h_2 hf =>
    split at h
    case h_1 ho => cases h; simp [ho]
    case h_2    => cases h

theorem failure_of_not_mute (actual : Value) (calls : List Call) (fault : Fault) (h : f.mute? = none) :
    ∃ d, f.Told fault d ∧ f.failure actual calls fault =
    ({ details := [d], errors := [f.id.plain ++ ": " ++ fault.message], calls }, .ok false) := by
  unfold mute? at h
  unfold failure
  split at h
  case h_1 => cases h
  case h_2 hf =>
    split at h
    case h_1 => cases h
    case h_2 o ho =>
      refine ⟨f.detail o f.value actual false (some fault.message) null, ⟨⟨rfl, rfl, rfl⟩, rfl, rfl, rfl⟩, ?_⟩
      simp [ho]

theorem holds_of_known {o : Operator} {expected : Value} (h : f.operator = .known o) :
    f.holds e actual expected = e.comparer.applyFilter (.known o) actual expected := by
  simp only [holds, h]

-- What the pipeline gives a detail of has a name, and so does its operator.
theorem pipeline_ok (h : (f.pipeline e c actual).value = .ok d) :
    f.Named d ∧ f.operatorName = .ok d.operator := by
  have compared (h : (f.compared e c actual).value = .ok d) :
      f.Named d ∧ f.operatorName = .ok d.operator := by
    have ⟨_, _, h⟩ := Logged.ok_of_andThen h
    have ⟨_, _, h⟩ := ok_of_bind h
    have ⟨_, ho, h⟩ := ok_of_bind h
    cases h
    exact ⟨⟨rfl, rfl, rfl⟩, ho⟩
  unfold pipeline at h
  split at h
  case h_1 => exact compared h
  case h_2 =>
    have ⟨_, _, h⟩ := Logged.ok_of_andThen h
    split at h
    case isTrue => exact compared h
    case isFalse =>
      have ⟨_, ho, h⟩ := ok_of_bind h
      have ⟨_, _, h⟩ := ok_of_bind h
      cases h
      exact ⟨⟨rfl, rfl, rfl⟩, ho⟩

theorem path_eq_ok {path : String} (h : f.path = .ok path) : f.field = text path := by
  unfold Filter.path at h
  split at h
  case h_1 hf => cases h; exact hf
  case h_2    => cases h
  case h_3    => cases h

theorem evaluate_of_fault (h : f.fault? e c = some fault) :
    f.passes e c = false ∧ ∃ actual calls, f.evaluate e c = f.failure actual calls fault := by
  cases hp : f.path
  case error =>
    simp only [fault?, hp, Option.some.injEq] at h
    exact ⟨by simp [passes, hp], missing, [], by simp [evaluate, hp, h]⟩
  case ok path =>
    cases hd : (f.pipeline e c (c.resolveField path)).value
    case ok => simp [fault?, hp, hd] at h
    case error =>
      simp only [fault?, hp, hd, Option.some.injEq] at h
      exact ⟨by simp [passes, hp, hd], c.resolveField path, _, by simp only [evaluate, hp, hd, h]; rfl⟩

theorem evaluate_of_no_fault (h : f.fault? e c = none) : f.mute? = none ∧
    ∃ d calls, f.Named d ∧ f.passes e c = d.passed ∧
      f.evaluate e c = ({ details := [d], calls }, .ok d.passed) := by
  cases hp : f.path
  case error => simp [fault?, hp] at h
  case ok path =>
    cases hd : (f.pipeline e c (c.resolveField path)).value
    case error => simp [fault?, hp, hd] at h
    case ok d =>
      have ⟨hn, ho⟩ := pipeline_ok hd
      refine ⟨by simp [mute?, path_eq_ok hp, ho], d, (f.pipeline e c (c.resolveField path)).calls, hn, ?_, ?_⟩
      · simp [passes, hp, hd]
      · simp [evaluate, hp, hd]

-- The detail that this filter leaves when it is evaluated.
structure Shown (e : Engine) (c : Context) (f : Filter) (d : FilterDetail) : Prop
    extends Named f d where
  own    : (f.evaluate e c).1.details = [d]
  passed : d.passed = f.passes e c

-- The same, with what went wrong.
structure Reported (e : Engine) (c : Context) (f : Filter) (d : FilterDetail) : Prop
    extends Shown e c f d where
  told : ∀ fault, f.fault? e c = some fault → f.Told fault d

-- What evaluating a filter leaves if all that can go wrong can be told.
theorem evaluate_reported (e : Engine) (c : Context) (h : f.mute? = none) :
    ∃ d calls, f.Reported e c d ∧ f.evaluate e c =
      ({ details := [d], errors := (f.complaint? e c).toList, calls }, .ok (f.passes e c)) := by
  cases hf : f.fault? e c
  case none =>
    have ⟨_, d, calls, hn, hp, he⟩ := evaluate_of_no_fault hf
    refine ⟨d, calls, ⟨⟨hn, by rw [he], hp.symm⟩, by simp [hf]⟩, ?_⟩
    simp [he, complaint?, hf, hp]
  case some fault =>
    have ⟨hp, actual, calls, he⟩ := evaluate_of_fault hf
    have ⟨d, hd, hx⟩ := failure_of_not_mute actual calls fault h
    refine ⟨d, calls, ⟨⟨hd.toNamed, by rw [he, hx], hd.passed.trans hp.symm⟩, by simp [hf, hd]⟩, ?_⟩
    simp [he, hx, complaint?, hf, hp]

theorem evaluate_mute (e : Engine) (c : Context) (h : f.mute? = some again) :
    f.passes e c = false ∧ ∃ calls, f.evaluate e c =
      ({ errors := (f.complaint? e c).toList, calls }, .error again) := by
  cases hf : f.fault? e c
  case none =>
    have ⟨hn, _⟩ := evaluate_of_no_fault hf
    rw [hn] at h
    cases h
  case some fault =>
    have ⟨hp, actual, calls, he⟩ := evaluate_of_fault hf
    refine ⟨hp, calls, ?_⟩
    simp [he, failure_of_mute h, complaint?, hf]

-- What the filters of a trace leave in it.
structure Reports (e : Engine) (c : Context) (fs : List Filter) (t : Trace) : Prop where
  details : List.Forall₂ (Reported e c) fs t.details
  matched : t.matched = (fs.filter (passes e c)).map id
  failed  : t.failed = (fs.filter fun f => !f.passes e c).map id
  errors  : t.errors = fs.filterMap (complaint? e c)

theorem join_reports (h : ∀ f ∈ fs, f.mute? = none) :
    Reports e c fs (.join (fs.map (entry e c))) := by
  induction fs
  case nil => exact ⟨.nil, rfl, rfl, rfl⟩
  case cons f rest hi =>
    have ⟨hf, hr⟩ := List.forall_mem_cons.mp h
    have ⟨d, calls, hd, he⟩ := evaluate_reported e c hf
    have ⟨hds, hms, hxs, hes⟩ := hi hr
    rw [List.map_cons, Trace.join, entry, he]
    cases hp : f.passes e c
    all_goals
      refine ⟨?_, ?_, ?_, ?_⟩
      · simpa using ⟨hd, hds⟩
      · simp [hp, hms]
      · simp [hp, hxs]
      · cases hc : f.complaint? e c <;> simp [hc, hes]

end Filter

end FlowGate
