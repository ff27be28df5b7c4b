import FlowGate.Proofs.Filter.Meaning
import FlowGate.Proofs.Filter.Trace
import FlowGate.Proofs.List

-- Evaluating valid groups gives what they mean, whether or not it stops at the first failure. What
-- stopping leaves out is missing from the trace, and nothing else is.

namespace FlowGate

variable {e : Engine} {c : Context} {stop : Bool}

namespace Filter

variable {f : Filter} {fs : List Filter}

-- No failure of a valid filter goes on to its group.
theorem evaluate_eq (hv : f.Valid) : ∃ trace, f.evaluate e c = (trace, .ok (f.passes e c)) := by
  have ⟨path, _, hf⟩ := hv.field
  have ⟨o, ho⟩ := hv.operator
  have hp : f.path = .ok path := by simp [Filter.path, hf]
  simp only [evaluate, passes, hp]
  cases (f.pipeline e c (c.resolveField path)).value
  case ok d        => exact ⟨_, rfl⟩
  case error fault => exact ⟨_, by simp [failure, hf, operatorName, ho]; rfl⟩

-- What an enabled filter adds to the trace of its group.
def entry (e : Engine) (c : Context) (f : Filter) : Trace :=
  (f.evaluate e c).1 ++ (if f.passes e c then { matched := [f.id] } else { failed := [f.id] })

-- The filters that are evaluated: the enabled ones, with `stop` only up to the first that fails.
def seen (e : Engine) (c : Context) (stop : Bool) (fs : List Filter) : List Filter :=
  through (fun f => stop && !f.passes e c) (fs.filter isEnabled)

theorem sweep_eq (hv : ∀ f ∈ fs, f.Valid) :
    sweep e c stop fs =
      (.join ((seen e c stop fs).map (entry e c)),
       .ok ⟨(seen e c stop fs).map (passes e c),
        (seen e c stop fs).any fun f => stop && !f.passes e c⟩) := by
  induction fs
  case nil => rfl
  case cons f rest hi =>
    have ⟨hf, hr⟩ := List.forall_mem_cons.mp hv
    have ⟨trace, ht⟩ := evaluate_eq (e := e) (c := c) hf
    specialize hi hr
    cases he : f.isEnabled
    case false => simpa [sweep, he, seen] using hi
    case true =>
      have hn : entry e c f =
          trace ++ (if f.passes e c then { matched := [f.id] } else { failed := [f.id] }) := by
        simp [entry, ht]
      cases hs : (!f.passes e c && stop)
      case true =>
        have ⟨hp, hstop⟩ := Bool.and_eq_true_iff.mp hs
        simp_all [sweep, seen, through, Trace.join]
      case false =>
        have hs' : (stop && !f.passes e c) = false := Bool.and_comm .. ▸ hs
        have hc : seen e c stop (f :: rest) = f :: seen e c stop rest := by
          simp [seen, he, through, hs']
        rw [hc]
        simp [sweep, he, ht, hs, hs', hi, hn, Trace.join, Except.map]

theorem seen_isPrefix : seen e c stop fs <+: fs.filter isEnabled :=
  through_isPrefix

end Filter

namespace FilterGroup

variable {g : FilterGroup} {gs : List FilterGroup}

def member (e : Engine) (c : Context) (stop : Bool) (g : FilterGroup) : Member :=
  ⟨g.priority, g.isEnabled, evaluate e c stop g⟩

theorem members_eq : members e c stop gs = gs.map (member e c stop) := by
  induction gs <;> simp [members, member, *]

theorem evaluate_disabled (he : g.isEnabled = false) : evaluate e c stop g = ({}, .ok true) := by
  cases g
  simp_all [evaluate, isEnabled]

theorem evaluate_enabled (hv : g.Valid) (he : g.isEnabled = true) :
    evaluate e c stop g =
      outcome e c stop g.operator (.ok (Priority.inOrder Filter.priority g.filters))
        (.ok ((Priority.inOrder priority g.subGroups).map (member e c stop))) := by
  have hof : orderedFilters g.filters g.strayFilters =
      .ok (Priority.inOrder Filter.priority g.filters) := by
    rw [orderedFilters, hv.noStrayFilters, Priority.sort_eq fun f hm => (hv.filters f hm).priority]
    rfl
  have hom : orderedMembers (members e c stop g.subGroups) g.straySubGroups =
      .ok ((Priority.inOrder priority g.subGroups).map (member e c stop)) := by
    rw [orderedMembers, hv.noStraySubGroups, members_eq, Priority.sort_eq, Priority.inOrder_map]
    · rfl
    · intro m hm
      have ⟨s, hm, hs⟩ := List.mem_map.mp hm
      exact hs ▸ (hv.subGroups s hm).priority
  cases g
  simp_all [evaluate, isEnabled]

-- The outcomes of all enabled members, in whatever order, combine to what the group means.
theorem combine_eq (he : g.isEnabled = true) {fs : List Filter} (hf : fs.Perm g.filters)
    (hs : gs.Perm g.subGroups) :
    combine g.operator ((fs.filter Filter.isEnabled).map (Filter.passes e c) ++
      (gs.filter isEnabled).map (passes e c)) = g.passes e c := by
  cases ho : g.operator.is .and
  case true  => simp [combine, ho, passes_and he ho, ← hf.all_eq, ← hs.all_eq]
  case false => simp [combine, ho, passes_or he ho, ← hf.any_eq, ← hs.any_eq]

-- With and without stopping, evaluation ends in what the group means, and stopping only leaves out.
def Agrees (e : Engine) (c : Context) (g : FilterGroup) : Prop :=
  ∃ fast slow, evaluate e c true g = (fast, .ok (g.passes e c)) ∧
    evaluate e c false g = (slow, .ok (g.passes e c)) ∧ fast.PartOf slow

theorem gather_eq (h : ∀ g ∈ gs, Agrees e c g) :
    ∃ fast slow,
      gather (gs.map (member e c true)) = (fast, .ok ((gs.filter isEnabled).map (passes e c))) ∧
      gather (gs.map (member e c false)) = (slow, .ok ((gs.filter isEnabled).map (passes e c))) ∧
      fast.PartOf slow := by
  induction gs
  case nil => exact ⟨{}, {}, rfl, rfl, .refl _⟩
  case cons g rest hi =>
    have ⟨⟨fast, slow, hf, hs, hp⟩, hr⟩ := List.forall_mem_cons.mp h
    have ⟨fast', slow', hf', hs', hp'⟩ := hi hr
    cases he : g.isEnabled
    case false =>
      exact ⟨fast', slow', by simp [gather, member, he, hf'], by simp [gather, member, he, hs'], hp'⟩
    case true =>
      refine ⟨fast ++ fast', slow ++ slow', ?_, ?_, hp.append hp'⟩
      · simp [gather, member, he, hf, hf', Except.map]
      · simp [gather, member, he, hs, hs', Except.map]

variable {fs : List Filter} {operator : Slot Combination} {members : List Member}
  {trace : Trace} {outcomes : List Bool}

-- A group whose filters are all evaluated goes on to its sub-groups.
theorem outcome_of_not_stopped (stop : Bool) (hv : ∀ f ∈ fs, f.Valid)
    (hs : ∀ f ∈ fs.filter Filter.isEnabled, ((stop && operator.is .and) && !f.passes e c) = false)
    (hg : gather members = (trace, .ok outcomes)) :
    outcome e c stop operator (.ok fs) (.ok members) =
      (.join ((fs.filter Filter.isEnabled).map (Filter.entry e c)) ++ trace,
       .ok (combine operator
        ((fs.filter Filter.isEnabled).map (Filter.passes e c) ++ outcomes))) := by
  have hseen : Filter.seen e c (stop && operator.is .and) fs = fs.filter Filter.isEnabled :=
    through_eq_self hs
  have hany : (fs.filter Filter.isEnabled).any
      (fun f => (stop && operator.is .and) && !f.passes e c) = false := by
    simpa only [List.any_eq_false, Bool.not_eq_true] using hs
  rw [outcome, Filter.sweep_eq hv]
  simp only [hseen, hany, hg]
  rfl

-- A failing filter ends the evaluation of an `and` group that stops.
theorem outcome_of_stopped (hv : ∀ f ∈ fs, f.Valid) (ho : operator.is .and = true)
    {f : Filter} (hm : f ∈ fs.filter Filter.isEnabled) (hf : f.passes e c = false) :
    outcome e c true operator (.ok fs) (.ok members) =
      (.join ((Filter.seen e c true fs).map (Filter.entry e c)), .ok false) := by
  have hany : (Filter.seen e c true fs).any (fun f => true && !f.passes e c) = true := by
    rw [Filter.seen, any_through]
    exact List.any_eq_true.mpr ⟨f, hm, by simp [hf]⟩
  rw [outcome, Filter.sweep_eq hv]
  simp only [ho, Bool.and_self, hany]
  rfl

-- One failing filter is enough for an `and` group not to pass.
theorem passes_eq_false (he : g.isEnabled = true) (ha : g.operator.is .and = true) {f : Filter}
    (hm : f ∈ g.filters) (hen : f.isEnabled = true) (hf : f.passes e c = false) :
    g.passes e c = false := by
  rw [passes_and he ha, Bool.and_eq_false_iff]
  exact .inl (List.all_eq_false.mpr ⟨f, hm, by simp [hen, hf]⟩)

theorem agrees_enabled (hv : g.Valid) (he : g.isEnabled = true)
    (hi : ∀ s ∈ g.subGroups, Agrees e c s) : Agrees e c g := by
  have hagrees : ∀ s ∈ Priority.inOrder priority g.subGroups, Agrees e c s :=
    fun s hm => hi s (Priority.mem_inOrder.mp hm)
  have ⟨fast, slow, hfast, hslow, hpart⟩ := gather_eq hagrees
  have hc := combine_eq (e := e) (c := c) he
    (Priority.inOrder_perm Filter.priority _) (Priority.inOrder_perm priority _)
  rw [Agrees, evaluate_enabled hv he, evaluate_enabled hv he]
  have hf : ∀ f ∈ Priority.inOrder Filter.priority g.filters, f.Valid :=
    fun f hm => hv.filters f (Priority.mem_inOrder.mp hm)
  generalize hfs : Priority.inOrder Filter.priority g.filters = fs at *
  rw [outcome_of_not_stopped false hf (by simp) hslow, hc]
  by_cases hfail :
    g.operator.is .and = true ∧ ∃ f ∈ fs.filter Filter.isEnabled, f.passes e c = false
  case pos =>
    obtain ⟨ha, f, hm, hp⟩ := hfail
    obtain ⟨hm', hen⟩ := List.mem_filter.mp hm
    have hg : g.passes e c = false :=
      passes_eq_false he ha (Priority.mem_inOrder.mp (hfs ▸ hm')) hen hp
    have hpre : (Filter.seen e c true fs).map (Filter.entry e c) <+: _ := Filter.seen_isPrefix.map _
    rw [outcome_of_stopped hf ha hm hp, hg]
    exact ⟨_, _, rfl, rfl, (Trace.join_partOf_of_isPrefix hpre).append_right⟩
  case neg =>
    rw [outcome_of_not_stopped true hf (fun f hm => ?_) hfast, hc]
    · exact ⟨_, _, rfl, rfl, (Trace.PartOf.refl _).append hpart⟩
    · cases ha : g.operator.is .and
      case false => simp
      case true  => simpa using fun hp => hfail ⟨ha, f, hm, hp⟩

theorem agrees (hv : g.Valid) : Agrees e c g := by
  induction hv
  case intro g hid hname ho hf hsf hs hss hen hpr hi =>
    cases he : g.isEnabled
    case true => exact agrees_enabled (.intro hid hname ho hf hsf hs hss hen hpr) he hi
    case false =>
      rw [Agrees, passes_disabled he, evaluate_disabled he, evaluate_disabled he]
      exact ⟨{}, {}, rfl, rfl, .refl _⟩

theorem evaluate_eq (hv : g.Valid) (stop : Bool) :
    ∃ trace, evaluate e c stop g = (trace, .ok (g.passes e c)) := by
  have ⟨fast, slow, hfast, hslow, _⟩ := agrees (e := e) (c := c) hv
  cases stop
  case false => exact ⟨slow, hslow⟩
  case true  => exact ⟨fast, hfast⟩

theorem run_passed (hv : g.Valid) (o : FilterOptions) :
    (g.run e c o).value.passed = g.passes e c := by
  have ⟨_, h⟩ := evaluate_eq (e := e) (c := c) hv o.stopOnFirstFailure
  simp [run, h]

end FilterGroup

end FlowGate
