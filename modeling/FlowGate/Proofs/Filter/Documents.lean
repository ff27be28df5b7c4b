import FlowGate.Proofs.Context
import FlowGate.Proofs.Filter.Isolation

-- The documents of filter results. Each detail shows a filter as it is configured and the values that were
-- compared, which come from the configuration, from the context or out of a transformation.

namespace FlowGate

open Value

variable {q : ClockTime → Prop} {e : Engine} {c : Context}

namespace FilterDetail

variable {d : FilterDetail}

structure Legible (q : ClockTime → Prop) (d : FilterDetail) : Prop where
  filterId    : d.filterId.PlainBut q
  filterName  : d.filterName.PlainBut q
  field       : d.field.PlainBut q
  operator    : d.operator.PlainBut q
  expected    : d.expected.TimesIn q
  actual      : d.actual.TimesIn q
  transformed : d.transformed.TimesIn q

theorem Legible.document (h : d.Legible q) : d.document.PlainBut q := by
  refine plainBut_record (by simp) ?_
  simp only [List.forall_mem_cons]
  exact ⟨h.filterId, h.filterName, h.field, h.operator, Json.document_plainBut h.expected,
    Json.document_plainBut h.actual, plainBut_bool _, plainBut_optionalText _,
    Json.document_plainBut h.transformed, List.forall_mem_nil _⟩

end FilterDetail

namespace Trace

variable {s t : Trace}

structure Legible (q : ClockTime → Prop) (t : Trace) : Prop where
  details : ∀ d ∈ t.details, d.Legible q
  matched : ∀ id ∈ t.matched, id.PlainBut q
  failed  : ∀ id ∈ t.failed, id.PlainBut q

-- A trace of nothing but details.
theorem Legible.of_details {ds : List FilterDetail} {errors : List String} {calls : List Call}
    (h : ∀ d ∈ ds, d.Legible q) : Legible q { details := ds, errors, calls } :=
  ⟨h, List.forall_mem_nil _, List.forall_mem_nil _⟩

theorem Legible.append (h : s.Legible q) (h' : t.Legible q) : (s ++ t).Legible q where
  details := List.forall_mem_append.mpr ⟨h.details, h'.details⟩
  matched := List.forall_mem_append.mpr ⟨h.matched, h'.matched⟩
  failed  := List.forall_mem_append.mpr ⟨h.failed, h'.failed⟩

theorem Legible.andThen {α β : Type} {x : Traced α} {f : α → Traced β} (h : x.1.Legible q)
    (hf : ∀ a, (f a).1.Legible q) : (x.andThen f).1.Legible q := by
  rcases x with ⟨trace, _ | a⟩
  case error => exact h
  case ok    => exact h.append (hf a)

end Trace

namespace Filter

variable {f : Filter} {fs : List Filter} {d : FilterDetail} {actual : Value} {calls : List Call}
  {fault : Fault}

-- A filter whose places for names hold what a document can show, and whose other values have no times of day
-- but these.
structure Legible (q : ClockTime → Prop) (f : Filter) : Prop where
  id     : f.id.PlainBut q
  name   : f.name.PlainBut q
  field  : f.field.PlainBut q
  value  : f.value.TimesIn q
  params : ∀ t, f.transformation = some t → (map t.params).TimesIn q

theorem operatorName_plainBut {operator : Value} (h : f.operatorName = .ok operator) :
    operator.PlainBut q := by
  unfold operatorName at h
  split at h
  case h_1 => cases h; exact .text _
  case h_2 => cases h
  case h_3 => cases h

-- A detail of this filter is legible if the values that it shows are.
theorem Legible.named (h : f.Legible q) (hn : f.Named d) (ho : f.operatorName = .ok d.operator)
    (expected : d.expected.TimesIn q) (actual : d.actual.TimesIn q) (transformed : d.transformed.TimesIn q) :
    d.Legible q where
  filterId    := hn.filterId ▸ h.id
  filterName  := hn.filterName ▸ h.name
  field       := hn.field ▸ h.field
  operator    := operatorName_plainBut ho
  expected    := expected
  actual      := actual
  transformed := transformed

theorem compared_legible (h : f.Legible q) (he : e.registry.TimesIn q) (hc : c.TimesIn q)
    (ha : actual.TimesIn q) (hd : (f.compared e c actual).value = .ok d) : d.Legible q := by
  obtain ⟨v, hv, hd⟩ := Logged.ok_of_andThen hd
  obtain ⟨_, _, hd⟩ := ok_of_bind hd
  obtain ⟨_, ho, hd⟩ := ok_of_bind hd
  cases hd
  have hv : v.TimesIn q := by
    split at hv
    case h_1 t ht => exact Transformation.timesIn_apply he ha (h.params t ht) hv
    case h_2      => cases hv; exact ha
  refine h.named ⟨rfl, rfl, rfl⟩ ho (hc.resolveValue h.value) hv ?_
  change (if f.transformation.isSome then v else null).TimesIn q
  split
  case isTrue  => exact hv
  case isFalse => exact plainBut_null.timesIn

theorem pipeline_legible (h : f.Legible q) (he : e.registry.TimesIn q) (hc : c.TimesIn q)
    (ha : actual.TimesIn q) (hd : (f.pipeline e c actual).value = .ok d) : d.Legible q := by
  unfold pipeline at hd
  split at hd
  case h_1 => exact compared_legible h he hc ha hd
  case h_2 =>
    obtain ⟨_, _, hd⟩ := Logged.ok_of_andThen hd
    split at hd
    case isTrue => exact compared_legible h he hc ha hd
    case isFalse =>
      obtain ⟨_, ho, hd⟩ := ok_of_bind hd
      obtain ⟨_, _, hd⟩ := ok_of_bind hd
      cases hd
      exact h.named ⟨rfl, rfl, rfl⟩ ho h.value ha plainBut_null.timesIn

theorem failure_legible (h : f.Legible q) (ha : actual.TimesIn q) :
    (f.failure actual calls fault).1.Legible q := by
  unfold failure
  dsimp only
  split
  case h_1 => exact .of_details (List.forall_mem_nil _)
  case h_2 operator ho =>
    have ho : f.operatorName = .ok operator := by
      split at ho
      case h_1 => cases ho
      case h_2 => exact ho
    refine .of_details (List.forall_mem_singleton.mpr ?_)
    exact h.named ⟨rfl, rfl, rfl⟩ ho h.value ha plainBut_null.timesIn

theorem evaluate_legible (h : f.Legible q) (he : e.registry.TimesIn q) (hc : c.TimesIn q) :
    (f.evaluate e c).1.Legible q := by
  unfold evaluate
  split
  case h_1 => exact failure_legible h timesIn_missing
  case h_2 path _ =>
    have ha := hc.resolveField path
    dsimp only
    split
    case h_1 hd => exact .of_details (List.forall_mem_singleton.mpr (pipeline_legible h he hc ha hd))
    case h_2 => exact failure_legible h ha

theorem play_legible {α : Type} {outcome : Except Fault α} (h : ∀ f ∈ fs, f.Legible q)
    (he : e.registry.TimesIn q) (hc : c.TimesIn q) : (play e c outcome fs).1.Legible q := by
  induction fs
  case nil => exact .of_details (List.forall_mem_nil _)
  case cons f rest hi =>
    have ⟨hf, hr⟩ := List.forall_mem_cons.mp h
    refine ((evaluate_legible hf he hc).andThen fun passed => ?_).andThen fun _ => hi hr
    have hid := List.forall_mem_singleton.mpr hf.id
    cases passed
    case false => exact ⟨List.forall_mem_nil _, List.forall_mem_nil _, hid⟩
    case true  => exact ⟨List.forall_mem_nil _, hid, List.forall_mem_nil _⟩

end Filter

namespace FilterResult

variable {r : FilterResult}

structure Legible (q : ClockTime → Prop) (r : FilterResult) : Prop where
  matched : ∀ id ∈ r.matched, id.PlainBut q
  failed  : ∀ id ∈ r.failed, id.PlainBut q
  details : ∀ d ∈ r.details, d.Legible q

theorem Legible.document (h : r.Legible q) : r.document.PlainBut q := by
  refine plainBut_record (by simp) ?_
  simp only [List.forall_mem_cons]
  have hd := List.forall_mem_map.mpr fun d hd => (h.details d hd).document
  exact ⟨plainBut_bool _, .list h.matched, .list h.failed, .list hd, plainBut_texts _, List.forall_mem_nil _⟩

end FilterResult

namespace FilterGroup

variable {g : FilterGroup}

structure Legible (q : ClockTime → Prop) (g : FilterGroup) : Prop where
  id      : g.id.PlainBut q
  name    : g.name.PlainBut q
  filters : ∀ f ∈ g.enabledFilters, f.Legible q

theorem failure_legible (h : g.Legible q) (fault : Fault) : (g.failure fault).Legible q where
  filterId    := h.id
  filterName  := h.name
  field       := .text _
  operator    := .text _
  expected    := plainBut_null.timesIn
  actual      := plainBut_null.timesIn
  transformed := plainBut_null.timesIn

-- However evaluation of a tree ends, what it leaves are the details of filters that it got to.
theorem run_legible (h : g.Legible q) (he : e.registry.TimesIn q) (hc : c.TimesIn q) (o : FilterOptions) :
    (g.run e c o).value.Legible q := by
  have ⟨fs, outcome, hx, _, hm, _⟩ := evaluate_isolated e c o.stopOnFirstFailure g
  have ht : (evaluate e c o.stopOnFirstFailure g).1.Legible q :=
    hx ▸ Filter.play_legible (fun f hf => h.filters f (hm f hf)) he hc
  unfold run
  generalize evaluate e c o.stopOnFirstFailure g = evaluated at ht
  obtain ⟨trace, outcome⟩ := evaluated
  refine ⟨ht.matched, ht.failed, ?_⟩
  dsimp only
  split
  case isFalse => exact List.forall_mem_nil _
  case isTrue =>
    cases outcome
    case ok    => exact ht.details
    case error =>
      exact List.forall_mem_append.mpr ⟨ht.details, List.forall_mem_singleton.mpr (failure_legible h _)⟩

end FilterGroup

end FlowGate
