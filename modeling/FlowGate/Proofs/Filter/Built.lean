import FlowGate.Builder.Filter
import FlowGate.Proofs.Filter.Accounting

-- What builders make: filters that compare a field under a known operator, and groups that take all of their
-- filters to pass.

namespace FlowGate

open Value

variable {e : Engine} {c : Context} {name path : String} {o : Operator} {v : Value} {rules : Option Rules}
  {transformation : Option Transformation} {fs : List Filter} {g : FilterGroup} {b : Bool}

namespace Builder

-- What is built where nothing is asked for but a field.
def plain (name path : String) (o : Operator) (v : Value) (rules : Option Rules)
    (transformation : Option Transformation) : Filter :=
  Filter.build (Schema.newId "filter") name path o v true 0 rules transformation

theorem plainFilter_eq (hp : path ≠ "") :
    plainFilter name (text path) o v rules transformation = .ok (plain name path o v rules transformation) := by
  have hname : Build.argument "name" Schema.text (text name) = .done name :=
    congrArg (Schema.Parsed.under (.key "name")) (Schema.text_eq_done.mpr rfl)
  have hfield : Build.argument "field" Schema.nonEmptyText (text path) = .done path :=
    congrArg (Schema.Parsed.under (.key "field")) (Schema.nonEmptyText_eq_done.mpr ⟨rfl, hp⟩)
  rw [plainFilter, filtering, hname, hfield]
  rfl

theorem plain_valid (hp : path ≠ "") : (plain name path o v rules transformation).Valid where
  id       := Schema.isName_text (Schema.newId_ne_empty "filter")
  name     := ⟨_, rfl⟩
  field    := Schema.isName_text hp
  operator := ⟨_, rfl⟩
  enabled  := ⟨_, rfl⟩
  priority := ⟨_, rfl⟩

theorem plain_ready (hp : path ≠ "") :
    (plain name path o v rules transformation).Valid ∧ (plain name path o v rules transformation).isEnabled = true :=
  ⟨plain_valid hp, rfl⟩

theorem allOf_valid (h : ∀ f ∈ fs, f.Valid) : (allOf name fs).Valid :=
  .intro (Schema.isName_text (Schema.newId_ne_empty "group")) ⟨_, rfl⟩ ⟨_, rfl⟩ h rfl (List.forall_mem_nil _) rfl
    ⟨_, rfl⟩ ⟨_, rfl⟩

theorem allOf_passes (h : ∀ f ∈ fs, f.isEnabled = true) :
    (allOf name fs).passes e c = fs.all (Filter.passes e c) := by
  have he : (allOf name fs).isEnabled = true := rfl
  have ho : (allOf name fs).operator.is .and = true := rfl
  have hf : (allOf name fs).filters = fs := rfl
  have hs : (allOf name fs).subGroups = [] := rfl
  rw [FilterGroup.passes_and he ho, hf, hs, List.all_nil, Bool.and_true, Bool.eq_iff_iff, List.all_eq_true,
    List.all_eq_true]
  exact forall₂_congr fun f hm => by rw [h f hm]; rfl

theorem allOf_passed (name : String) (h : ∀ f ∈ fs, f.Valid ∧ f.isEnabled = true) (options : FilterOptions) :
    ((allOf name fs).run e c options).value.passed = true ↔ ∀ f ∈ fs, f.passes e c = true := by
  have hv : (allOf name fs).Valid := allOf_valid fun f hf => (h f hf).left
  rw [FilterGroup.run_passed hv, allOf_passes fun f hf => (h f hf).right, List.all_eq_true]

end Builder

namespace Filter

variable {f : Filter} {t : Transformation} {actual : Value}

theorem passes_of_path (h : f.path = .ok path) : f.passes e c = true ↔
    ∃ d, (f.pipeline e c (c.resolveField path)).value = .ok d ∧ d.passed = true := by
  simp only [passes, h]
  cases (f.pipeline e c (c.resolveField path)).value <;> simp

theorem not_passed_of_refused {problems : List Value} {d : FilterDetail} (h : f.refused actual problems = .ok d) :
    d.passed = false := by
  obtain ⟨_, _, h⟩ := ok_of_bind h
  obtain ⟨_, _, h⟩ := ok_of_bind h
  cases h
  rfl

theorem pipeline_passed : (∃ d, (f.pipeline e c actual).value = .ok d ∧ d.passed = true) ↔
    (∀ rules ∈ f.rules, (rules.problems e.registry actual).value = .ok []) ∧
      ∃ d, (f.compared e c actual).value = .ok d ∧ d.passed = true := by
  rw [pipeline]
  cases f.rules
  case none       => simp
  case some rules =>
    simp only [Option.mem_some_iff, forall_eq', Logged.andThen]
    cases (rules.problems e.registry actual).value
    case error => simp
    case ok problems =>
      cases problems
      case nil => simp
      case cons problem problems =>
        refine iff_of_false ?_ (by simp)
        rintro ⟨d, hd, hp⟩
        cases (not_passed_of_refused hd).symm.trans hp

theorem compared_passed (ht : f.transformation = some t) (ho : f.operator = .known o) :
    (∃ d, (f.compared e c actual).value = .ok d ∧ d.passed = true) ↔
      ∃ w, (t.apply e.registry actual).value = .ok w ∧
        e.comparer.applyFilter (.known o) w (c.resolveValue f.value) = .ok true := by
  simp only [compared, ht, holds_of_known ho, ho, operatorName, Logged.andThen]
  cases (t.apply e.registry actual).value
  case error => simp
  case ok w =>
    cases h : e.comparer.applyFilter (.known o) w (c.resolveValue f.value) <;>
      simp [Logged.pure, h, bind, Except.bind, pure, Except.pure, detail]

-- A filter that changes its field passes if the field keeps the rules as it is, and compares as it is changed.
theorem passes_changing (name path : String) (o : Operator) (v : Value) (rules : Option Rules) :
    (Builder.plain name path o v rules (some t)).passes e c = true ↔
      (∀ r ∈ rules, (r.problems e.registry (c.resolveField path)).value = .ok []) ∧
      ∃ w, (t.apply e.registry (c.resolveField path)).value = .ok w ∧
        e.comparer.applyFilter (.known o) w (c.resolveValue v) = .ok true := by
  rw [passes_of_path rfl, pipeline_passed, compared_passed rfl rfl]
  rfl

-- A filter without rules and transformation fails only where its operator does.
theorem complaint?_plain (name : String)
    (h : e.comparer.applyFilter (.known o) (c.resolveField path) (c.resolveValue v) = .ok b) :
    (Builder.plain name path o v none none).passes e c = b ∧
      (Builder.plain name path o v none none).complaint? e c = none := by
  have hp : ((Builder.plain name path o v none none).pipeline e c (c.resolveField path)).value = .ok
      ((Builder.plain name path o v none none).detail (text o.name) (c.resolveValue v) (c.resolveField path) b none
        null) := by
    have hr : (Builder.plain name path o v none none).rules = none := rfl
    have ht : (Builder.plain name path o v none none).transformation = none := rfl
    have ho : (Builder.plain name path o v none none).operator = .known o := rfl
    have hv : (Builder.plain name path o v none none).value = v := rfl
    rw [pipeline, hr]
    simp only [compared, ht, holds_of_known ho, ho, hv, Logged.andThen, Logged.pure, h, operatorName]
    rfl
  have hpath : (Builder.plain name path o v none none).path = .ok path := rfl
  constructor
  · rw [passes, hpath]
    simp only [hp]
    rfl
  · rw [complaint?, fault?, hpath]
    simp only [hp]
    rfl

end Filter

namespace Priority

theorem Ordered.mem_iff {α : Type} {priority : α → Value} {as bs : List α} {a : α} (h : Ordered priority as bs) :
    a ∈ bs ↔ a ∈ as := by
  have hmem {cs : List α} : a ∈ cs ↔ a ∈ cs.filter fun x => level (priority x) = level (priority a) := by
    simp
  rw [hmem, h.stable, ← hmem]

end Priority

namespace FilterGroup

theorem mem_of_lists (h : Lists g fs) (hs : g.subGroups = []) : ∀ f ∈ fs, f ∈ g.filters := by
  cases h
  case disabled => exact fun f hf => nomatch hf
  case enabled fs gs parts heach henabled hown hinner =>
    have hgs : gs = [] := by
      rw [hs] at hinner
      exact List.eq_nil_iff_forall_not_mem.mpr fun s hm => nomatch (hinner.mem_iff.mp hm)
    subst hgs
    cases heach
    intro f hf
    rw [List.flatten_nil, List.append_nil] at hf
    exact (List.mem_filter.mp (hown.mem_iff.mp hf)).left

-- Nothing is complained of in a group if no filter complains, whether or not evaluation stops at a failure.
theorem run_errors_eq_nil (hv : g.Valid) (hs : g.subGroups = []) (h : ∀ f ∈ g.filters, f.complaint? e c = none)
    (options : FilterOptions) : (g.run e c options).value.errors = [] := by
  obtain ⟨fast, slow, hfast, hslow, hpart⟩ := agrees (e := e) (c := c) hv
  obtain ⟨fs, hl⟩ := listed (e := e) (c := c) hv
  have hnone : slow.errors = [] := by
    rw [hl.trace] at hslow
    rw [← (Prod.mk.inj hslow).left, (Filter.join_reports_of_valid hl.valid).errors, List.filterMap_eq_nil_iff]
    exact fun f hf => h f (mem_of_lists hl.lists hs f hf)
  cases hstop : options.stopOnFirstFailure
  case false => simp only [run, hstop, hslow, hnone]
  case true  => simp only [run, hstop, hfast, List.sublist_nil.mp (hnone ▸ hpart.errors)]

end FilterGroup

end FlowGate
