import FlowGate.Proofs.Filter.Failure
import FlowGate.Proofs.Condition.Nodes

-- Filters that end in an error. Each of them fails alone: the tree is evaluated as if it had simply
-- failed, and what it leaves besides is its own error. Only an error that cannot be told puts an end to the
-- whole tree.

namespace FlowGate

open Value

variable {e : Engine} {c : Context} {stop : Bool}

namespace Filter

variable {α β : Type} {f : Filter} {fs gs front back : List Filter} {again : Fault} {a : α}
  {outcome : Except Fault α}

-- The same filter with a test that it never passes and that never ends in an error: to be among no values.
def failing (f : Filter) : Filter :=
  { f with field := text "", operator := .known .isIn, value := list [], rules := none, transformation := none }

-- A filter as it is if it does not end in an error, and otherwise one that simply fails.
def settled (e : Engine) (c : Context) (f : Filter) : Filter :=
  if (f.fault? e c).isSome then f.failing else f

theorem settled_of_no_fault (h : f.fault? e c = none) : f.settled e c = f := by
  simp [settled, h]

theorem settled_of_fault {fault : Fault} (h : f.fault? e c = some fault) :
    f.settled e c = f.failing := by
  simp [settled, h]

theorem settled_fields : (f.settled e c).id = f.id ∧ (f.settled e c).name = f.name ∧
    (f.settled e c).enabled = f.enabled ∧ (f.settled e c).priority = f.priority := by
  unfold settled
  split <;> exact ⟨rfl, rfl, rfl, rfl⟩

@[simp] theorem settled_isEnabled : (f.settled e c).isEnabled = f.isEnabled := by
  simp [isEnabled, settled_fields]

theorem failing_fault? : f.failing.fault? e c = none :=
  rfl

theorem settled_fault? : (f.settled e c).fault? e c = none := by
  cases h : f.fault? e c
  case none => rw [settled_of_no_fault h, h]
  case some => rw [settled_of_fault h, failing_fault?]

theorem settled_mute? : (f.settled e c).mute? = none :=
  have ⟨h, _⟩ := evaluate_of_no_fault (settled_fault? (e := e) (c := c))
  h

theorem settled_passes : (f.settled e c).passes e c = f.passes e c := by
  cases h : f.fault? e c
  case none => rw [settled_of_no_fault h]
  case some =>
    have ⟨hp, _⟩ := evaluate_of_fault h
    rw [settled_of_fault h, hp]
    rfl

-- Evaluates a filter and notes its id.
def noted (e : Engine) (c : Context) (f : Filter) : Traced Bool :=
  (f.evaluate e c).andThen fun passed =>
    (if passed then { matched := [f.id] } else { failed := [f.id] }, .ok passed)

-- Evaluates filters one after the other, with an outcome at the end unless one of them puts an end to it.
def play (e : Engine) (c : Context) (outcome : Except Fault α) : List Filter → Traced α
  | []        => ({}, outcome)
  | f :: rest => (f.noted e c).andThen fun _ => play e c outcome rest

theorem noted_of_not_mute (h : f.mute? = none) :
    f.noted e c = (f.entry e c, .ok (f.passes e c)) := by
  have ⟨d, calls, _, he⟩ := evaluate_reported e c h
  rw [noted, entry, he]
  rfl

theorem noted_of_mute (h : f.mute? = some again) :
    f.noted e c = ((f.evaluate e c).1, .error again) := by
  have ⟨_, calls, he⟩ := evaluate_mute e c h
  rw [noted, he]
  rfl

theorem noted_eq_play : f.noted e c = play e c (.ok (f.passes e c)) [f] := by
  cases h : f.mute?
  case none => simp [play, noted_of_not_mute h, Traced.andThen]
  case some => simp [play, noted_of_mute h, Traced.andThen]

theorem play_append {outcome : Except Fault β} {k : α → Traced β} (h : k a = play e c outcome gs) :
    (play e c (.ok a) fs).andThen k = play e c outcome (fs ++ gs) := by
  induction fs
  case nil => simp [play, Traced.andThen, h]
  case cons f rest hi => rw [play, Traced.andThen_assoc, hi, List.cons_append, play]

-- Nothing follows a fault.
theorem play_error {fault : Fault} {k : α → Traced β} :
    (play e c (.error fault) fs).andThen k = play e c (.error fault) fs := by
  induction fs
  case nil => rfl
  case cons f rest hi => rw [play, Traced.andThen_assoc, hi, play]

theorem play_of_not_mute (h : ∀ f ∈ fs, f.mute? = none) :
    play e c outcome fs = (.join (fs.map (entry e c)), outcome) := by
  induction fs
  case nil => rfl
  case cons f rest hi =>
    have ⟨hf, hr⟩ := List.forall_mem_cons.mp h
    rw [play, noted_of_not_mute hf, hi hr]
    rfl

theorem play_of_mute (h : ∀ f ∈ front, f.mute? = none) (hf : f.mute? = some again) :
    play e c outcome (front ++ f :: back) =
      (.join (front.map (entry e c)) ++ (f.evaluate e c).1, .error again) := by
  induction front
  case nil => simp [play, noted_of_mute hf, Traced.andThen, Trace.join]
  case cons x rest hi =>
    obtain ⟨hx, hr⟩ := List.forall_mem_cons.mp h
    rw [List.cons_append, play, noted_of_not_mute hx, hi hr]
    simp [Traced.andThen, Trace.join, Trace.append_assoc]

-- Two evaluations that get to the same filters among these, one as they are and one as they are settled.
-- Where it is whole, evaluation gets to all of them and comes to this result.
def Isolated (e : Engine) (c : Context) (whole : Prop) (own : List Filter) (result : α)
    (x y : Traced α) : Prop :=
  ∃ fs outcome, x = play e c outcome fs ∧ y = play e c outcome (fs.map (settled e c)) ∧
    (∀ f ∈ fs, f ∈ own) ∧ (whole → outcome = .ok result ∧ fs.Perm own)

theorem play_settled : play e c outcome (fs.map (settled e c)) =
    (.join (fs.map fun f => (f.settled e c).entry e c), outcome) := by
  rw [play_of_not_mute (List.forall_mem_map.mpr fun _ _ => settled_mute?), List.map_map]
  rfl

namespace Isolated

variable {whole whole' : Prop} {own own' rest : List Filter} {result result' : α} {b : β}
  {x y : Traced α} {k k' : α → Traced β}

theorem done (h : whole → outcome = .ok result ∧ own = []) :
    Isolated e c whole own result ({}, outcome) ({}, outcome) :=
  ⟨[], outcome, rfl, rfl, List.forall_mem_nil _, fun hw => ⟨(h hw).left, (h hw).right ▸ .refl _⟩⟩

theorem mono (h : Isolated e c whole own result x y) (hw : whole' → whole) :
    Isolated e c whole' own result x y :=
  have ⟨fs, outcome, hx, hy, hm, hp⟩ := h
  ⟨fs, outcome, hx, hy, hm, fun h => hp (hw h)⟩

theorem perm (h : Isolated e c whole own result x y) (hp : own.Perm own') :
    Isolated e c whole own' result x y :=
  have ⟨fs, outcome, hx, hy, hm, hw⟩ := h
  ⟨fs, outcome, hx, hy, fun f hf => hp.mem_iff.mp (hm f hf), fun h => ⟨(hw h).left, (hw h).right.trans hp⟩⟩

theorem congr (h : Isolated e c whole own result x y) (hr : whole → result = result') :
    Isolated e c whole own result' x y :=
  have ⟨fs, outcome, hx, hy, hm, hw⟩ := h
  ⟨fs, outcome, hx, hy, hm, fun h => ⟨hr h ▸ (hw h).left, (hw h).right⟩⟩

theorem andThen (h : Isolated e c whole own result x y)
    (hk : ∀ a, (whole → a = result) → Isolated e c whole rest b (k a) (k' a)) :
    Isolated e c whole (own ++ rest) b (x.andThen k) (y.andThen k') := by
  have ⟨fs, outcome, hx, hy, hm, hw⟩ := h
  rcases outcome with fault | a
  case error =>
    refine ⟨fs, .error fault, by rw [hx, play_error], by rw [hy, play_error], ?_, ?_⟩
    · exact fun f hf => List.mem_append_left _ (hm f hf)
    · intro h
      cases (hw h).left
  case ok =>
    have hr (h : whole) : a = result := Except.ok.inj (hw h).left
    have ⟨gs, outcome', hx', hy', hm', hw'⟩ := hk a hr
    refine ⟨fs ++ gs, outcome', ?_, ?_, ?_, ?_⟩
    · rw [hx, play_append hx']
    · rw [hy, play_append hy', List.map_append]
    · exact List.forall_mem_append.mpr
        ⟨fun f hf => List.mem_append_left _ (hm f hf), fun f hf => List.mem_append_right _ (hm' f hf)⟩
    · exact fun h => ⟨(hw' h).left, (hw h).right.append (hw' h).right⟩

theorem map (h : Isolated e c whole own result x y) (f : α → β) :
    Isolated e c whole own (f result) (x.andThen fun a => ({}, .ok (f a)))
      (y.andThen fun a => ({}, .ok (f a))) := by
  have hd : Isolated e c whole (own ++ []) (f result) (x.andThen fun a => ({}, .ok (f a)))
      (y.andThen fun a => ({}, .ok (f a))) :=
    h.andThen fun a hr => .done fun hw => ⟨by rw [hr hw], rfl⟩
  rwa [List.append_nil] at hd

theorem noted (f : Filter) :
    Isolated e c whole [f] (f.passes e c) (f.noted e c) ((f.settled e c).noted e c) := by
  refine ⟨[f], .ok (f.passes e c), noted_eq_play, ?_, by simp, fun _ => ⟨rfl, .refl _⟩⟩
  rw [noted_eq_play, settled_passes, List.map_singleton]

end Isolated

variable {whole : Prop}

theorem sweep_cons (h : f.isEnabled = true) :
    sweep e c stop (f :: fs) = (f.noted e c).andThen fun passed =>
      if !passed && stop then ({}, .ok ⟨[passed], true⟩)
      else (sweep e c stop fs).andThen fun s => ({}, .ok ⟨passed :: s.outcomes, s.stopped⟩) := by
  rw [sweep, noted, Traced.andThen_assoc]
  rcases f.evaluate e c with ⟨trace, _ | passed⟩
  case error => simp [h, Traced.andThen]
  case ok =>
    rcases sweep e c stop fs with ⟨more, _ | s⟩ <;> cases h' : !passed && stop <;>
      simp [h, h', Traced.andThen, Except.map, Trace.append_assoc]

theorem sweep_isolated (hw : whole → stop = false) :
    Isolated e c whole (fs.filter isEnabled) ⟨(fs.filter isEnabled).map (passes e c), false⟩
      (sweep e c stop fs) (sweep e c stop (fs.map (settled e c))) := by
  induction fs
  case nil => exact .done fun _ => ⟨rfl, rfl⟩
  case cons f rest hi =>
    cases h : f.isEnabled
    case false => simpa [sweep, h] using hi
    case true =>
      simp only [List.filter_cons_of_pos h, List.map_cons]
      rw [sweep_cons h, sweep_cons (settled_isEnabled.trans h)]
      refine (Isolated.noted f).andThen fun passed hp => ?_
      split
      case isTrue hs => exact .done fun h => by simp [hw h] at hs
      case isFalse   => exact (hi.map _).congr fun h => by rw [hp h]

end Filter

namespace FilterGroup

variable {g : FilterGroup} {gs : List FilterGroup} {whole : Prop}

mutual

-- A group tree in which all filters that end in an error simply fail.
def settled (e : Engine) (c : Context) : FilterGroup → FilterGroup
  | ⟨id, name, description, operator, filters, strayFilters, subGroups, straySubGroups, enabled, priority⟩ =>
    ⟨id, name, description, operator, filters.map (Filter.settled e c), strayFilters,
      settledAll e c subGroups, straySubGroups, enabled, priority⟩

def settledAll (e : Engine) (c : Context) : List FilterGroup → List FilterGroup
  | []        => []
  | g :: rest => settled e c g :: settledAll e c rest

end

mutual

-- The enabled filters of a group and of its enabled sub-groups.
def enabledFilters : FilterGroup → List Filter
  | ⟨_, _, _, _, filters, _, subGroups, _, enabled, _⟩ =>
    if enabled.truthy then filters.filter Filter.isEnabled ++ enabledFiltersAmong subGroups else []

def enabledFiltersAmong : List FilterGroup → List Filter
  | []        => []
  | g :: rest => enabledFilters g ++ enabledFiltersAmong rest

end

theorem settledAll_eq : settledAll e c gs = gs.map (settled e c) := by
  induction gs <;> simp [settledAll, *]

theorem enabledFiltersAmong_eq : enabledFiltersAmong gs = gs.flatMap enabledFilters := by
  induction gs <;> simp [enabledFiltersAmong, *]

theorem enabledFilters_disabled (h : g.isEnabled = false) : g.enabledFilters = [] := by
  cases g
  simp_all [enabledFilters, isEnabled]

theorem enabledFilters_enabled (h : g.isEnabled = true) : g.enabledFilters =
    g.filters.filter Filter.isEnabled ++ g.subGroups.flatMap enabledFilters := by
  cases g
  simp_all [enabledFilters, isEnabled, enabledFiltersAmong_eq]

@[simp] theorem settled_isEnabled : (g.settled e c).isEnabled = g.isEnabled := by
  cases g
  rfl

@[simp] theorem settled_priority : (g.settled e c).priority = g.priority := by
  cases g
  rfl

-- The sub-groups of a group in the order of their priorities.
def orderedSubGroups (g : FilterGroup) : Except Fault (List FilterGroup) := do
  strayMembers g.straySubGroups "priority"
  Priority.sort priority g.subGroups

-- All members that are to be evaluated can be put in order.
inductive Orderly : FilterGroup → Prop
  | disabled {g : FilterGroup} (h : g.isEnabled = false) : Orderly g
  | enabled {g : FilterGroup} {fs : List Filter} {gs : List FilterGroup}
    (filters : orderedFilters g.filters g.strayFilters = .ok fs)
    (subGroups : g.orderedSubGroups = .ok gs)
    (each : ∀ s ∈ g.subGroups, Orderly s) : Orderly g

theorem Orderly.of_enabled (h : g.Orderly) (he : g.isEnabled = true) :
    (∃ fs, orderedFilters g.filters g.strayFilters = .ok fs) ∧
      (∃ gs, g.orderedSubGroups = .ok gs) ∧ ∀ s ∈ g.subGroups, s.Orderly := by
  cases h
  case disabled h                    => simp [h] at he
  case enabled filters subGroups each => exact ⟨⟨_, filters⟩, ⟨_, subGroups⟩, each⟩

theorem settled_own : (g.settled e c).operator = g.operator ∧
    (g.settled e c).filters = g.filters.map (Filter.settled e c) ∧
    (g.settled e c).strayFilters = g.strayFilters := by
  cases g
  exact ⟨rfl, rfl, rfl⟩

theorem orderedFilters_settled {fs : List Filter} {stray : Option Value} :
    orderedFilters (fs.map (Filter.settled e c)) stray =
      (orderedFilters fs stray).map (List.map (Filter.settled e c)) := by
  have hp : (fun f => (Filter.settled e c f).priority) = Filter.priority := by
    funext f
    exact Filter.settled_fields.right.right.right
  rw [orderedFilters, orderedFilters, Priority.sort_map, hp]
  cases strayMembers stray "priority" <;> rfl

theorem orderedMembers_eq : orderedMembers (members e c stop g.subGroups) g.straySubGroups =
    g.orderedSubGroups.map (List.map (member e c stop)) := by
  rw [orderedMembers, orderedSubGroups, members_eq, Priority.sort_map]
  cases strayMembers g.straySubGroups "priority" <;> rfl

theorem orderedSubGroups_settled : (g.settled e c).orderedSubGroups =
    g.orderedSubGroups.map (List.map (settled e c)) := by
  have hp : (fun s => (settled e c s).priority) = priority := by
    funext s
    exact settled_priority
  rcases g with ⟨_, _, _, _, _, _, _, stray, _, _⟩
  simp only [settled, orderedSubGroups, settledAll_eq, Priority.sort_map, hp]
  cases strayMembers stray "priority" <;> rfl

theorem evaluate_of_enabled (h : g.isEnabled = true) :
    evaluate e c stop g = outcome e c stop g.operator (orderedFilters g.filters g.strayFilters)
      (g.orderedSubGroups.map (List.map (member e c stop))) := by
  rw [← orderedMembers_eq]
  cases g
  simp_all [evaluate, isEnabled]

theorem perm_of_orderedFilters {fs own : List Filter} {stray : Option Value}
    (h : orderedFilters own stray = .ok fs) : fs.Perm own :=
  have ⟨_, _, h⟩ := ok_of_bind h
  Priority.perm_of_sort h

theorem perm_of_orderedSubGroups (h : g.orderedSubGroups = .ok gs) : gs.Perm g.subGroups :=
  have ⟨_, _, h⟩ := ok_of_bind h
  Priority.perm_of_sort h

theorem gather_cons {m : Member} {ms : List Member} (h : m.enabled = true) :
    gather (m :: ms) = m.outcome.andThen fun passed =>
      (gather ms).andThen fun outcomes => ({}, .ok (passed :: outcomes)) := by
  rw [gather]
  rcases m.outcome with ⟨trace, _ | passed⟩
  case error => simp [h, Traced.andThen]
  case ok => rcases gather ms with ⟨more, _ | _⟩ <;> simp [h, Traced.andThen, Except.map]

theorem gather_isolated
    (h : ∀ s ∈ gs, Filter.Isolated e c whole s.enabledFilters (s.passes e c) (evaluate e c stop s)
      (evaluate e c stop (s.settled e c))) :
    Filter.Isolated e c whole (gs.flatMap enabledFilters) ((gs.filter isEnabled).map (passes e c))
      (gather (gs.map (member e c stop))) (gather ((gs.map (settled e c)).map (member e c stop))) := by
  induction gs
  case nil => exact .done fun _ => ⟨rfl, rfl⟩
  case cons s rest hi =>
    have ⟨hs, hr⟩ := List.forall_mem_cons.mp h
    rw [List.flatMap_cons, List.map_cons, List.map_cons, List.map_cons]
    cases he : s.isEnabled
    case false => simpa [gather, member, he, enabledFilters_disabled he] using hi hr
    case true =>
      rw [gather_cons (m := member e c stop s) he, gather_cons (settled_isEnabled.trans he),
        List.filter_cons_of_pos he, List.map_cons]
      exact hs.andThen fun _ hp => ((hi hr).map _).congr fun h => by rw [hp h]

theorem outcome_eq {operator : Slot Combination} {fs : List Filter} {ms : Except Fault (List Member)} :
    outcome e c stop operator (.ok fs) ms =
      (Filter.sweep e c (stop && operator.is .and) fs).andThen fun swept =>
        if swept.stopped then ({}, .ok false)
        else match ms with
          | .error fault => ({}, .error fault)
          | .ok ms => (gather ms).andThen fun inner =>
            ({}, .ok (combine operator (swept.outcomes ++ inner))) := by
  rw [outcome]
  rcases Filter.sweep e c (stop && operator.is .and) fs with ⟨trace, _ | swept⟩
  case error => rfl
  case ok =>
    cases hs : swept.stopped
    case true => simp [hs, Traced.andThen]
    case false =>
      rcases ms with _ | ms
      case error => simp [hs, Traced.andThen]
      case ok =>
        simp only [hs, Traced.andThen]
        rcases gather ms with ⟨_, _ | _⟩ <;> simp [Except.map]

theorem evaluate_isolated (e : Engine) (c : Context) (stop : Bool) (g : FilterGroup) :
    Filter.Isolated e c (stop = false ∧ g.Orderly) g.enabledFilters (g.passes e c) (evaluate e c stop g)
      (evaluate e c stop (g.settled e c)) := by
  induction g using bySubGroups
  case node g hi =>
    cases he : g.isEnabled
    case false =>
      rw [evaluate_disabled he, evaluate_disabled (settled_isEnabled.trans he)]
      exact .done fun _ => ⟨by rw [passes_disabled he], enabledFilters_disabled he⟩
    case true =>
      obtain ⟨ho, hfs, hsf⟩ := settled_own (e := e) (c := c) (g := g)
      rw [evaluate_of_enabled he, evaluate_of_enabled (settled_isEnabled.trans he), enabledFilters_enabled he,
        ho, hfs, hsf, orderedFilters_settled, orderedSubGroups_settled]
      have whole (h : stop = false ∧ g.Orderly) := h.right.of_enabled he
      cases hf : orderedFilters g.filters g.strayFilters
      case error =>
        refine .done fun h => ?_
        obtain ⟨⟨_, h⟩, _⟩ := whole h
        cases hf.symm.trans h
      case ok fs =>
        simp only [Except.map, outcome_eq]
        have hfp := perm_of_orderedFilters hf
        refine ((Filter.sweep_isolated fun h => by simp [h.left]).perm (hfp.filter _)).andThen
          fun swept hr => ?_
        split
        case isTrue hstop =>
          refine .done fun h => ?_
          simp [hr h] at hstop
        case isFalse =>
          cases hg : g.orderedSubGroups
          case error =>
            refine .done fun h => ?_
            obtain ⟨_, ⟨_, h⟩, _⟩ := whole h
            cases hg.symm.trans h
          case ok gs =>
            have hgp := perm_of_orderedSubGroups hg
            have hi (s) (hm : s ∈ gs) := (hi s (hgp.mem_iff.mp hm)).mono
              fun h => ⟨h.left, (whole h).right.right s (hgp.mem_iff.mp hm)⟩
            refine (((gather_isolated hi).perm (hgp.flatMap_right _)).map _).congr fun h => ?_
            rw [hr h, combine_eq he hfp hgp]

theorem Orderly.of_valid (hv : g.Valid) : g.Orderly := by
  induction hv
  case intro g hid hname ho hf hsf hs hss hen hpr hi =>
    have hfs : orderedFilters g.filters g.strayFilters =
        .ok (Priority.inOrder Filter.priority g.filters) := by
      rw [orderedFilters, hsf, Priority.sort_eq fun f hm => (hf f hm).priority]
      rfl
    have hgs : g.orderedSubGroups = .ok (Priority.inOrder priority g.subGroups) := by
      rw [orderedSubGroups, hss, Priority.sort_eq fun s hm => (hs s hm).priority]
      rfl
    exact .enabled hfs hgs hi

theorem valid_of_mem_enabledFilters (hv : g.Valid) {f : Filter} (hm : f ∈ g.enabledFilters) :
    f.Valid := by
  induction hv
  case intro g hid hname ho hf hsf hs hss hen hpr hi =>
    cases he : g.isEnabled
    case false => simp [enabledFilters_disabled he] at hm
    case true =>
      rw [enabledFilters_enabled he, List.mem_append, List.mem_flatMap] at hm
      rcases hm with hm | ⟨s, hs, hm⟩
      case inl => exact hf f (List.mem_of_mem_filter hm)
      case inr => exact hi s hs hm

end FilterGroup

namespace Filter

variable {f : Filter} {fs : List Filter} {t : Trace}

-- The details of one filter in two results, in the second of which it simply fails if it ends in an error.
structure Beside (e : Engine) (c : Context) (f : Filter) (p : FilterDetail × FilterDetail) : Prop where
  reported : f.Reported e c p.1
  same     : f.fault? e c = none → p.2 = p.1
  other    : (f.settled e c).Reported e c p.2

-- What a result says of filters that end in an error, beside a result in which they simply fail.
structure FailAlone (e : Engine) (c : Context) (fs : List Filter) (detailed : Bool)
    (r s : FilterResult) : Prop where
  passed  : r.passed = s.passed
  matched : r.matched = s.matched
  failed  : r.failed = s.failed
  listed  : ∀ f ∈ fs, (f.fault? e c).isSome → f.id ∈ r.failed
  errors  : r.errors = fs.filterMap (complaint? e c) ++ s.errors
  details : detailed = true → ∃ pairs rest, List.Forall₂ (Beside e c) fs pairs ∧
    r.details = pairs.map (·.1) ++ rest ∧ s.details = pairs.map (·.2) ++ rest

-- What is left of a tree when nothing can be told of this filter, which comes after these.
structure Abandoned (e : Engine) (c : Context) (g : FilterGroup) (front : List Filter) (f : Filter)
    (again : Fault) (detailed : Bool) (r : FilterResult) : Prop where
  passed  : r.passed = false
  matched : r.matched = (front.filter (passes e c)).map id
  failed  : r.failed = (front.filter fun f => !f.passes e c).map id
  errors  : r.errors = (front ++ [f]).filterMap (complaint? e c) ++ [again.message]
  details : detailed = true →
    ∃ ds, List.Forall₂ (Reported e c) front ds ∧ r.details = ds ++ [g.failure again]

theorem details_entry : (f.entry e c).details = (f.evaluate e c).1.details := by
  unfold entry
  split <;> simp

theorem join_beside (h : ∀ f ∈ fs, f.mute? = none) :
    ∃ pairs, List.Forall₂ (Beside e c) fs pairs ∧
      (Trace.join (fs.map (entry e c))).details = pairs.map (·.1) ∧
      (Trace.join (fs.map fun f => (f.settled e c).entry e c)).details = pairs.map (·.2) := by
  induction fs
  case nil => exact ⟨[], .nil, rfl, rfl⟩
  case cons f rest hi =>
    have ⟨hf, hr⟩ := List.forall_mem_cons.mp h
    have ⟨pairs, hp, hl, hs⟩ := hi hr
    have ⟨d, _, hd, _⟩ := evaluate_reported e c hf
    have ⟨d', _, hd', _⟩ := evaluate_reported e c (settled_mute? (e := e) (c := c) (f := f))
    have same (h : f.fault? e c = none) : d' = d := by
      have ho := hd'.own
      rw [settled_of_no_fault h, hd.own] at ho
      exact (List.singleton_inj.mp ho).symm
    refine ⟨(d, d') :: pairs, .cons ⟨hd, same, hd'⟩ hp, ?_, ?_⟩
    · simp [Trace.join, details_entry, hd.own, hl]
    · simp [Trace.join, details_entry, hd'.own, hs]

theorem failed_of_fault? (hr : Reports e c fs t) (hm : f ∈ fs) (h : (f.fault? e c).isSome) :
    f.id ∈ t.failed := by
  have ⟨fault, hf⟩ := Option.isSome_iff_exists.mp h
  have ⟨hp, _⟩ := evaluate_of_fault hf
  rw [hr.failed]
  exact List.mem_map_of_mem (List.mem_filter.mpr ⟨hm, by simp [hp]⟩)

-- Settled filters leave the same ids, and no errors.
theorem join_settled (fs : List Filter) :
    let t := Trace.join (fs.map fun f => (f.settled e c).entry e c)
    t.matched = (fs.filter (passes e c)).map id ∧
      t.failed = (fs.filter fun f => !f.passes e c).map id ∧ t.errors = [] := by
  have hs : Reports e c (fs.map (settled e c)) (.join ((fs.map (settled e c)).map (entry e c))) :=
    join_reports (List.forall_mem_map.mpr fun _ _ => settled_mute?)
  have hid (f : Filter) : (f.settled e c).id = f.id := settled_fields.left
  rw [List.map_map] at hs
  refine ⟨hs.matched.trans ?_, hs.failed.trans ?_, hs.errors.trans ?_⟩
  · simp [List.filter_map, Function.comp_def, settled_passes, hid]
  · simp [List.filter_map, Function.comp_def, settled_passes, hid]
  · simp [complaint?, settled_fault?]

end Filter

namespace FilterGroup

variable {g : FilterGroup} {f : Filter} {fs front : List Filter} {again : Fault} {o : FilterOptions}
  {outcome : Except Fault Bool}

theorem settled_failure {fault : Fault} : (g.settled e c).failure fault = g.failure fault := by
  cases g
  rfl

theorem run_failAlone (hn : ∀ f ∈ fs, f.mute? = none)
    (hx : evaluate e c o.stopOnFirstFailure g = (.join (fs.map (Filter.entry e c)), outcome))
    (hy : evaluate e c o.stopOnFirstFailure (g.settled e c) =
      (.join (fs.map fun f => (f.settled e c).entry e c), outcome)) :
    Filter.FailAlone e c fs o.includeDetails (g.run e c o).value
      ((g.settled e c).run e c o).value := by
  have hr := Filter.join_reports (e := e) (c := c) hn
  have ⟨hm, hf, he⟩ := Filter.join_settled (e := e) (c := c) fs
  have ⟨pairs, hp, hl, hd⟩ := Filter.join_beside (e := e) (c := c) hn
  have listed (f) (hm : f ∈ fs) (h : (f.fault? e c).isSome) := Filter.failed_of_fault? hr hm h
  simp only [run, hx, hy]
  rcases outcome with fault | passed
  case ok =>
    refine ⟨rfl, hr.matched.trans hm.symm, hr.failed.trans hf.symm, listed, ?_, ?_⟩
    · simp [hr.errors, he]
    · intro h
      exact ⟨pairs, [], hp, by simp [h, hl], by simp [h, hd]⟩
  case error =>
    refine ⟨rfl, hr.matched.trans hm.symm, hr.failed.trans hf.symm, listed, ?_, ?_⟩
    · simp [hr.errors, he]
    · intro h
      exact ⟨pairs, [g.failure fault], hp, by simp [h, hl], by simp [h, hd, settled_failure]⟩

theorem run_abandoned (hn : ∀ f ∈ front, f.mute? = none) (hf : f.mute? = some again)
    (hx : evaluate e c o.stopOnFirstFailure g =
      (.join (front.map (Filter.entry e c)) ++ (f.evaluate e c).1, .error again)) :
    Filter.Abandoned e c g front f again o.includeDetails (g.run e c o).value := by
  have hr := Filter.join_reports (e := e) (c := c) hn
  have ⟨_, calls, hl⟩ := Filter.evaluate_mute e c hf
  simp only [run, hx, hl]
  refine ⟨rfl, by simp [hr.matched], by simp [hr.failed], ?_, ?_⟩
  · cases h : f.complaint? e c <;> simp [hr.errors, h]
  · intro h
    exact ⟨_, hr.details, by simp [h]⟩

-- For every group tree, also one that was not checked, there are the filters that evaluation gets to when
-- all that end in an error simply fail. It gets to them in any case, up to the first that is mute.
theorem run_isolated (e : Engine) (c : Context) (g : FilterGroup) (o : FilterOptions) :
    let r := (g.run e c o).value
    let s := ((g.settled e c).run e c o).value
    ∃ fs : List Filter, (∀ f ∈ fs, f ∈ g.enabledFilters) ∧
      (o.stopOnFirstFailure = false → g.Orderly →
        fs.Perm g.enabledFilters ∧ s.passed = g.passes e c ∧ s.errors = []) ∧
      (g.Valid → g.Orderly ∧ ∀ f ∈ fs, f.mute? = none) ∧
      ((∀ f ∈ fs, f.mute? = none) → Filter.FailAlone e c fs o.includeDetails r s) ∧
      (∀ front f back again, fs = front ++ f :: back → (∀ x ∈ front, x.mute? = none) →
        f.mute? = some again → Filter.Abandoned e c g front f again o.includeDetails r) := by
  obtain ⟨fs, outcome, hx, hy, hm, hw⟩ := evaluate_isolated e c o.stopOnFirstFailure g
  rw [Filter.play_settled] at hy
  refine ⟨fs, hm, ?_, ?_, ?_, ?_⟩
  case refine_1 =>
    intro hs ho
    obtain ⟨rfl, hp⟩ := hw ⟨hs, ho⟩
    obtain ⟨_, _, he⟩ := Filter.join_settled (e := e) (c := c) fs
    refine ⟨hp, ?_, ?_⟩ <;> simp only [run, hy, he]
  case refine_2 =>
    intro hv
    exact ⟨.of_valid hv, fun f h => Filter.mute?_of_valid (valid_of_mem_enabledFilters hv (hm f h))⟩
  case refine_3 => exact fun hn => run_failAlone hn (hx.trans (Filter.play_of_not_mute hn)) hy
  case refine_4 =>
    rintro front f back again rfl hn hf
    exact run_abandoned hn hf (hx.trans (Filter.play_of_mute hn hf))

def passing : Filter where
  id       := text "passing"
  field    := text "x"
  operator := .known .isAbsent

-- Any of: a filter with this operator, and one that passes.
def either (o : Slot Operator) : FilterGroup where
  id       := text "either"
  operator := .known .or
  filters  := [{ passing with id := text "erring", operator := o }, passing]

theorem either_orderly (o : Slot Operator) : (either o).Orderly := by
  have hf : orderedFilters (either o).filters (either o).strayFilters =
      .ok (Priority.inOrder Filter.priority (either o).filters) := by
    rw [orderedFilters, Priority.sort_eq fun f hm => ?_]
    · rfl
    · rcases List.mem_pair.mp hm with rfl | rfl <;> exact ⟨0, rfl⟩
  have hg : (either o).orderedSubGroups = .ok (Priority.inOrder priority []) :=
    Priority.sort_eq (List.forall_mem_nil _)
  exact .enabled hf hg (List.forall_mem_nil _)

-- Filters cannot test for null. Of an operator without a name not even that can be told.
theorem either_isolated :
    ((either (.known .isNull)).run (.ofFunctions []) (.ofVars []) {}).value.passed = true ∧
    ((either (.stray (text "bogus"))).run (.ofFunctions []) (.ofVars []) {}).value.passed = false := by
  constructor
  case left =>
    have ⟨fs, hm, hw, _, hf, _⟩ :=
      run_isolated (.ofFunctions []) (.ofVars []) (either (.known .isNull)) {}
    have ⟨_, hs, _⟩ := hw rfl (either_orderly _)
    have hn : ∀ f ∈ fs, f.mute? = none := by
      intro f h
      rcases List.mem_pair.mp (hm f h) with rfl | rfl <;> rfl
    rw [(hf hn).passed, hs]
    decide
  case right =>
    have ⟨fs, _, hw, _, _, ha⟩ :=
      run_isolated (.ofFunctions []) (.ofVars []) (either (.stray (text "bogus"))) {}
    have ⟨hp, _⟩ := hw rfl (either_orderly _)
    have ⟨front, back, hfs⟩ := List.append_of_mem (hp.mem_iff.mpr (List.mem_cons_self ..))
    rw [hfs] at hp
    have hrest := (List.perm_middle.symm.trans hp).cons_inv
    refine (ha front _ back (.noAttribute "str" "value") hfs (fun x hx => ?_) rfl).passed
    rw [List.mem_singleton.mp (hrest.mem_iff.mp (List.mem_append_left _ hx))]
    rfl

end FilterGroup

end FlowGate
