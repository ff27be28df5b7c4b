import Mathlib.Algebra.BigOperators.Group.List.Basic
import Mathlib.Algebra.GroupWithZero.Nat
import FlowGate.Proofs.Action.Check
import FlowGate.Proofs.Filter.Failure

-- Accounting for filters. Evaluation that does not stop gets to every enabled filter of a group tree
-- once, in the order of the priorities, and leaves one detail and one id of each, and an error of each
-- that cannot be evaluated.

namespace FlowGate

variable {e : Engine} {c : Context}

namespace Filter

variable {fs : List Filter}

-- What the filters of a trace leave in it.
structure Accounted (e : Engine) (c : Context) (fs : List Filter) (t : Trace) : Prop where
  details : List.Forall₂ (Shown e c) fs t.details
  matched : t.matched = (fs.filter (passes e c)).map id
  failed  : t.failed = (fs.filter fun f => !f.passes e c).map id

variable {t : Trace}

theorem Reports.accounted (h : Reports e c fs t) : Accounted e c fs t :=
  ⟨h.details.imp fun _ _ h => h.toShown, h.matched, h.failed⟩

theorem join_reports_of_valid (hv : ∀ f ∈ fs, f.Valid) :
    Reports e c fs (.join (fs.map (entry e c))) :=
  join_reports fun f hm => mute?_of_valid (hv f hm)

theorem Accounted.length_eq (h : Accounted e c fs t) : t.details.length = fs.length :=
  h.details.length_eq.symm

theorem Accounted.matched_add_failed (h : Accounted e c fs t) :
    t.matched.length + t.failed.length = fs.length := by
  simp only [h.matched, h.failed, List.length_map, ← List.countP_eq_length_filter]
  exact (List.length_eq_countP_add_countP (passes e c)).symm ▸ by simp

-- The ids are those of the details, so the details alone tell which filters have passed.
theorem Accounted.ids_eq (h : Accounted e c fs t) :
    t.matched = (t.details.filter (·.passed)).map (·.filterId) ∧
    t.failed = (t.details.filter (!·.passed)).map (·.filterId) := by
  rw [h.matched, h.failed]
  have hd := h.details
  clear h
  generalize t.details = ds at hd
  induction hd
  case nil => exact ⟨rfl, rfl⟩
  case cons f d _ _ hd _ hi =>
    cases hf : f.passes e c <;> simp [hf, hd.passed, hd.filterId, hi]

end Filter

namespace FilterGroup

variable {g : FilterGroup} {gs : List FilterGroup}

-- The enabled filters of a group tree: first those of the group itself, then those of each enabled
-- sub-group, both in the order of their priorities.
inductive Lists : FilterGroup → List Filter → Prop
  | disabled {g : FilterGroup} (h : g.isEnabled = false) : Lists g []
  | enabled {g : FilterGroup} {fs : List Filter} {gs : List FilterGroup} {parts : List (List Filter)}
    (h : g.isEnabled = true)
    (own : Priority.Ordered Filter.priority (g.filters.filter Filter.isEnabled) fs)
    (inner : Priority.Ordered priority (g.subGroups.filter isEnabled) gs)
    (each : List.Forall₂ Lists gs parts) : Lists g (fs ++ parts.flatten)

-- How many filters a group counts, none if it cannot count them.
def count (g : FilterGroup) : Nat :=
  match g.enabledFilterCount with
  | .ok n    => n
  | .error _ => 0

theorem enabledFilterCount_eq (hv : g.Valid) : g.enabledFilterCount = .ok g.count := by
  have ⟨n, hn⟩ := enabledFilterCount_ok hv
  rw [count, hn]

theorem count_disabled (he : g.isEnabled = false) : g.count = 0 := by
  cases g
  simp_all [count, enabledFilterCount, isEnabled]

theorem enabledFilterCounts_eq (h : ∀ g ∈ gs, g.Valid) :
    enabledFilterCounts gs = .ok (gs.map count).sum := by
  induction gs
  case nil => rfl
  case cons g rest hi =>
    have ⟨hg, hr⟩ := List.forall_mem_cons.mp h
    rw [enabledFilterCounts, enabledFilterCount_eq hg, hi hr]
    rfl

theorem count_enabled (hv : g.Valid) (he : g.isEnabled = true) :
    g.count = (g.filters.filter Filter.isEnabled).length + (g.subGroups.map count).sum := by
  have hs := enabledFilterCounts_eq hv.subGroups
  have hsf := hv.noStrayFilters
  have hss := hv.noStraySubGroups
  cases g
  simp_all [count, enabledFilterCount, isEnabled, strayMembers, bind, Except.bind, pure, Except.pure]

-- Sub-groups that are not enabled count nothing, and the order of the others does not matter.
theorem sum_count_eq (h : gs.Perm g.subGroups) :
    ((gs.filter isEnabled).map count).sum = (g.subGroups.map count).sum := by
  rw [← (h.map count).sum_eq]
  clear h
  induction gs
  case nil => rfl
  case cons g rest hi => cases he : g.isEnabled <;> simp [he, hi, count_disabled]

-- What evaluation that does not stop makes of a group: the filters that the group lists, as many as
-- it counts, each with its entry in the trace.
structure Listed (e : Engine) (c : Context) (g : FilterGroup) (fs : List Filter) : Prop where
  lists : Lists g fs
  valid : ∀ f ∈ fs, f.Valid
  count : fs.length = g.count
  trace : evaluate e c false g = (.join (fs.map (Filter.entry e c)), .ok (g.passes e c))

-- What is listed under several groups, taken together.
theorem Listed.flatten {parts : List (List Filter)} (h : List.Forall₂ (Listed e c) gs parts) :
    (∀ f ∈ parts.flatten, f.Valid) ∧ parts.flatten.length = (gs.map FilterGroup.count).sum := by
  induction h
  case nil => exact ⟨List.forall_mem_nil _, rfl⟩
  case cons hg _ hi =>
    have ⟨hv, hc⟩ := hi
    exact ⟨List.forall_mem_append.mpr ⟨hg.valid, hv⟩, by simp [hg.count, hc]⟩

theorem gather_listed (h : ∀ g ∈ gs, ∃ fs, Listed e c g fs) :
    ∃ parts, List.Forall₂ (Listed e c) (gs.filter isEnabled) parts ∧
      gather (gs.map (member e c false)) =
        (.join (parts.flatten.map (Filter.entry e c)),
         .ok ((gs.filter isEnabled).map (passes e c))) := by
  induction gs
  case nil => exact ⟨[], .nil, rfl⟩
  case cons g rest hi =>
    have ⟨⟨fs, hg⟩, hr⟩ := List.forall_mem_cons.mp h
    have ⟨parts, hp, ht⟩ := hi hr
    cases he : g.isEnabled
    case false => exact ⟨parts, by simpa [he] using hp, by simp [gather, member, he, ht]⟩
    case true =>
      refine ⟨fs :: parts, by simpa [he] using ⟨hg, hp⟩, ?_⟩
      simp [gather, member, he, hg.trace, ht, Trace.join_append, Except.map]

theorem listed_enabled (hv : g.Valid) (he : g.isEnabled = true)
    (hi : ∀ s ∈ g.subGroups, ∃ fs, Listed e c s fs) : ∃ fs, Listed e c g fs := by
  have hi : ∀ s ∈ Priority.inOrder priority g.subGroups, ∃ fs, Listed e c s fs :=
    fun s hm => hi s (Priority.mem_inOrder.mp hm)
  have ⟨parts, hp, ht⟩ := gather_listed hi
  have ⟨hvalid, hcount⟩ := Listed.flatten hp
  have hperm := Priority.inOrder_perm priority g.subGroups
  have hfs : ∀ f ∈ Priority.inOrder Filter.priority g.filters, f.Valid :=
    fun f hm => hv.filters f (Priority.mem_inOrder.mp hm)
  let own := (Priority.inOrder Filter.priority g.filters).filter Filter.isEnabled
  refine ⟨own ++ parts.flatten, ?_, ?_, ?_, ?_⟩
  case refine_1 =>
    exact .enabled he ((Priority.ordered_inOrder ..).filter _)
      ((Priority.ordered_inOrder ..).filter _) (hp.imp fun _ _ h => h.lists)
  case refine_2 =>
    exact List.forall_mem_append.mpr ⟨fun f hm => hfs f (List.mem_of_mem_filter hm), hvalid⟩
  case refine_3 =>
    rw [List.length_append, hcount, sum_count_eq hperm, count_enabled hv he]
    congr 1
    exact (Priority.inOrder_perm Filter.priority g.filters |>.filter _).length_eq
  case refine_4 =>
    rw [evaluate_enabled hv he, outcome_of_not_stopped false hfs (by simp) ht,
      combine_eq he (Priority.inOrder_perm ..) hperm, List.map_append, Trace.join_append]

theorem listed (hv : g.Valid) : ∃ fs, Listed e c g fs := by
  induction hv
  case intro g hid hname ho hf hsf hs hss hen hpr hi =>
    cases he : g.isEnabled
    case true => exact listed_enabled (.intro hid hname ho hf hsf hs hss hen hpr) he hi
    case false =>
      refine ⟨[], .disabled he, List.forall_mem_nil _, (count_disabled he).symm, ?_⟩
      rw [evaluate_disabled he, passes_disabled he]
      rfl

-- What a result says about the filters of its group: each that is enabled has one detail and one id,
-- and the details alone tell which ids are where.
structure Accounts (e : Engine) (c : Context) (g : FilterGroup) (r : FilterResult) : Prop where
  listing : ∃ fs, Lists g fs ∧ List.Forall₂ (Filter.Shown e c) fs r.details
  count   : g.enabledFilterCount = .ok r.details.length
  total   : r.matched.length + r.failed.length = r.details.length
  matched : r.matched = (r.details.filter (·.passed)).map (·.filterId)
  failed  : r.failed = (r.details.filter (!·.passed)).map (·.filterId)

theorem run_accounts (e : Engine) (c : Context) (hv : g.Valid) :
    Accounts e c g (g.run e c {}).value := by
  have ⟨fs, hl⟩ := listed (e := e) (c := c) hv
  have ha := (Filter.join_reports_of_valid (e := e) (c := c) hl.valid).accounted
  have ⟨hm, hf⟩ := ha.ids_eq
  have hn : g.count = (Trace.join (fs.map (Filter.entry e c))).details.length := by
    rw [← hl.count, ha.length_eq]
  simp only [run, hl.trace, if_true]
  exact {
    listing := ⟨fs, hl.lists, ha.details⟩
    count   := hn ▸ enabledFilterCount_eq hv
    total   := ha.matched_add_failed.trans ha.length_eq.symm
    matched := hm
    failed  := hf
  }

-- A group lists the errors of all of its enabled filters that cannot be evaluated.
theorem run_errors (hv : g.Valid) (includeDetails : Bool) :
    ∃ fs, Lists g fs ∧
      (g.run e c { includeDetails }).value.errors = fs.filterMap (Filter.complaint? e c) := by
  have ⟨fs, hl⟩ := listed (e := e) (c := c) hv
  exact ⟨fs, hl.lists, by simp only [run, hl.trace, (Filter.join_reports_of_valid hl.valid).errors]⟩

end FilterGroup

end FlowGate
