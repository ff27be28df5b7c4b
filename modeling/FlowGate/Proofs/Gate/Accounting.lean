import FlowGate.Proofs.Filter.Accounting
import FlowGate.Proofs.Gate.Stopping

-- Accounting for the filters of an action. A decision that is a success counts each enabled filter of
-- each group once, as passed or as failed.

namespace FlowGate.Gate

open Value

variable {e : Engine} {g : Gate} {c : Context} {a : Action} {d : Decision} {gs : List FilterGroup}

theorem runGroups_value : (runGroups e c gs).value = gs.map fun g => (g.run e c {}).value := by
  induction gs
  case nil => rfl
  case cons g rest hi => simp [runGroups, Logged.bind, Logged.map, hi]

theorem filterTotal_eq (h : ∀ g ∈ gs, g.Valid) :
    filterTotal gs = .ok (gs.map FilterGroup.count).sum := by
  induction gs
  case nil => rfl
  case cons g rest hi =>
    have ⟨hg, hr⟩ := List.forall_mem_cons.mp h
    rw [filterTotal, FilterGroup.enabledFilterCount_eq hg, hi hr]
    rfl

-- Each filter of the groups has passed or failed.
theorem passed_add_failed (h : ∀ g ∈ gs, g.Valid) :
    ((runGroups e c gs).value.flatMap FilterResult.matched).length +
      ((runGroups e c gs).value.map (·.failed.length)).sum = (gs.map FilterGroup.count).sum := by
  rw [runGroups_value]
  induction gs
  case nil => rfl
  case cons g rest hi =>
    have ⟨hg, hr⟩ := List.forall_mem_cons.mp h
    have ha := FilterGroup.run_accounts e c hg
    have hc : g.count = (g.run e c {}).value.details.length := by
      have h := FilterGroup.enabledFilterCount_eq hg
      rw [ha.count] at h
      exact (Except.ok.inj h).symm
    have ht := ha.total
    have hi := hi hr
    simp only [List.map_cons, List.flatMap_cons, List.length_append, List.sum_cons]
    omega

-- A refusal is no success, so what a success comes from is the conclusion of a run.
theorem refuseAction_success {errors : List String} (h : g.refuseAction c a errors = .ok d) :
    d.success = false := by
  obtain ⟨_, rfl⟩ := refuseAction_eq h
  rfl

theorem ok_of_settle {outcome : Except Fault Decision} (h : (g.settle c a outcome).2 = .ok d)
    (hs : d.success = true) : ∃ d' errors, outcome = .ok d' ∧ d = { d' with errors } := by
  cases outcome
  case ok d' =>
    have ⟨errors, he⟩ := settle_ok (g := g) (c := c) (a := a) (d := d')
    exact ⟨d', errors, rfl, Except.ok.inj (h.symm.trans he)⟩
  case error fault =>
    cases hr : g.refuseAction c a [fault.message]
    case error => simp [settle, hr] at h
    case ok d' =>
      obtain ⟨errors, hk⟩ := keep_eq (g := g) (c := c) (a := a) (d := d')
      simp only [settle, hr, hk, Except.ok.injEq] at h
      rw [← h] at hs
      exact absurd hs (by simp [refuseAction_success hr])

theorem conclude_of_run (h : (g.run c a).2.value = some (.ok d)) :
    ∃ (g' : Gate) (rs : List ConditionResult), g'.engine = g.engine ∧
      g'.conclude c a rs (runGroups g.engine c a.filters).value = .ok d := by
  have he := evaluateAll_engine g c a.options a.conditions
  unfold run at h
  split at h
  case h_1 => cases h
  case h_2 => cases h
  case h_3 g' _ rs hr =>
    have he : g'.engine = g.engine := by simpa only [hr] using he
    exact ⟨g', rs, he, he ▸ Option.some.inj h⟩

theorem conclude_of_decide (h : (g.decide c a).2.value = some (.ok d)) (hs : d.success = true) :
    ∃ (g' : Gate) (rs : List ConditionResult) (d' : Decision) (errors : List String),
      g'.engine = g.engine ∧
      g'.conclude c a rs (runGroups g.engine c a.filters).value = .ok d' ∧ d = { d' with errors } := by
  unfold decide at h
  split at h
  case h_1 fault _ =>
    have h : some (g.settle c a (.error fault)).2 = some (.ok d) := h
    have ⟨_, _, h, _⟩ := ok_of_settle (Option.some.inj h) hs
    cases h
  case h_2 report _ =>
    split at h
    case isTrue =>
      have h : some (g.settle c a (g.refuseAction c a report.messages)).2 = some (.ok d) := h
      have ⟨_, _, h, hd⟩ := ok_of_settle (Option.some.inj h) hs
      rw [hd] at hs
      exact absurd hs (by simp [refuseAction_success h])
    case isFalse =>
      split at h
      case h_1 => cases h
      case h_2 g' calls outcome hr =>
        have h : some (g'.settle c a outcome).2 = some (.ok d) := h
        have ⟨d', errors, ho, hd⟩ := ok_of_settle (Option.some.inj h) hs
        have hrun : (g.run c a).2.value = some (.ok d') := by simp [hr, ho]
        have ⟨g', rs, he, hc⟩ := conclude_of_run hrun
        exact ⟨g', rs, d', errors, he, hc, hd⟩

theorem conclude_filters {rs : List ConditionResult} {fs : List FilterResult}
    (h : g.conclude c a rs fs = .ok d) :
    d.filterResults = fs ∧ d.summary.passedFilters = (fs.flatMap FilterResult.matched).length ∧
      filterTotal a.filters = .ok d.summary.totalFilters := by
  have ⟨n, hn, h⟩ := ok_of_bind h
  have ⟨_, _, h⟩ := ok_of_bind h
  cases h
  exact ⟨rfl, rfl, hn⟩

-- Every result of a valid group accounts for its enabled filters, also where their details are not
-- asked for, and every successful decision on a valid action for those of all its groups.
theorem filters_accounted :
    (∀ (e : Engine) (c : Context) (group : FilterGroup), group.Valid →
      group.Accounts e c (group.run e c {}).value ∧
      (group.run e c { includeDetails := false }).value =
        { (group.run e c {}).value with details := [] }) ∧
    (∀ (g : Gate) (c : Context) (offer : Offer) (a : Action) (d : Decision),
      offer.action? = some a → a.Valid → (g.execute c offer).2.value = some (.ok d) →
      d.success = true →
        d.filterResults = a.filters.map (fun group => (group.run g.engine c {}).value) ∧
        d.summary.passedFilters ≤ d.summary.totalFilters ∧
        d.summary.passedFilters + (d.filterResults.map (·.failed.length)).sum =
          d.summary.totalFilters) := by
  constructor
  case left => exact fun e c group hv => ⟨FilterGroup.run_accounts e c hv, rfl⟩
  case right =>
    intro g c offer a d ho hv hd hs
    rw [(execute_eq (g := g) (c := c) ho).left] at hd
    obtain ⟨g', rs, d, errors, -, hc, rfl⟩ := conclude_of_decide hd hs
    have ⟨hf, hp, ht⟩ := conclude_filters hc
    have hsum := passed_add_failed (e := g.engine) (c := c) hv.filters
    rw [filterTotal_eq hv.filters] at ht
    rw [← hp, ← hf, Except.ok.inj ht] at hsum
    exact ⟨hf.trans runGroups_value, by dsimp only at hsum ⊢; omega, hsum⟩

-- A filter of a low priority that fails, one of a high priority that passes and one that is not
-- enabled, and an error in a sub-group. Another sub-group is not enabled.
def tiered : FilterGroup :=
  .build "tiered" "" none .and [ask "low" .isAbsent true 0, ask "off" .isAbsent false 3,
      ask "high" .isPresent true 5]
    [.build "inner" "" none .or [ask "erring" .isNull true 0] [] true 0,
     .build "idle" "" none .or [ask "unseen" .isNull true 0] [] false 9] true 0
where
  ask (id : String) (operator : Operator) (enabled : Bool) (priority : Int) : Filter :=
    .build id "" "x" operator .null enabled priority none none

def screening : Action :=
  .build "screening" "" none
    [.simple ⟨.text "a", {}⟩ (.text "x") (.known .isPresent) .null] [tiered] {} none none {}

theorem tiered_valid : tiered.Valid := by
  have ask_valid {id : String} {operator : Operator} {enabled : Bool} {priority : Int}
      (h : id ≠ "") : (tiered.ask id operator enabled priority).Valid :=
    Filter.valid_build (Schema.isName_text h) (Schema.isName_text (by decide))
  refine FilterGroup.valid_build (Schema.isName_text (by decide)) ?_ ?_
  · simpa using ⟨ask_valid (by decide), ask_valid (by decide), ask_valid (by decide)⟩
  · simp only [List.forall_mem_cons]
    exact ⟨FilterGroup.valid_build (Schema.isName_text (by decide))
        (List.forall_mem_singleton.mpr (ask_valid (by decide))) (List.forall_mem_nil _),
      FilterGroup.valid_build (Schema.isName_text (by decide))
        (List.forall_mem_singleton.mpr (ask_valid (by decide))) (List.forall_mem_nil _),
      List.forall_mem_nil _⟩

theorem screening_undisturbed : Undisturbed plain screening where
  valid := {
    id                := ⟨"screening", rfl⟩
    name              := ⟨"", rfl⟩
    conditions        := List.forall_mem_singleton.mpr <|
      .simple (Schema.isName_text (by decide)) (Schema.isName_text (by decide))
    noStrayConditions := rfl
    filters           := List.forall_mem_singleton.mpr tiered_valid
    noStrayFilters    := rfl
    onTrue            := ⟨{}, rfl⟩
  }
  unblocked := ⟨_, rfl, by decide⟩
  uncached  := rfl
  works     := rfl
  answers   := Engine.ofFunctions_answers (List.forall_mem_nil _)

theorem tiered_accounted :
    tiered.Valid ∧ screening.Valid ∧
      (tiered.run plain.engine (.ofVars [(.text "x", .int 3)]) {}).value.details.length = 3 ∧
      ∃ d, (plain.execute (.ofVars [(.text "x", .int 3)]) (.action screening)).2.value =
          some (.ok d) ∧
        d.success = true ∧
        d.summary.passedFilters + (d.filterResults.map (·.failed.length)).sum =
          d.summary.totalFilters := by
  have ha := (filters_accounted.left plain.engine (.ofVars [(.text "x", .int 3)]) tiered
    tiered_valid).left
  have ⟨calls, rs, d, hd, _, _, hs⟩ :=
    decide_undisturbed (c := .ofVars [(.text "x", .int 3)]) screening_undisturbed
  have ⟨he, _⟩ := execute_eq (g := plain) (c := .ofVars [(.text "x", .int 3)]) <|
    show (Offer.action screening).action? = some screening from rfl
  have hd : (plain.execute (.ofVars [(.text "x", .int 3)]) (.action screening)).2.value =
      some (.ok d) := by rw [he, hd]
  have ⟨_, _, hsum⟩ := filters_accounted.right plain (.ofVars [(.text "x", .int 3)])
    (.action screening) screening d rfl screening_undisturbed.valid hd hs.success
  exact ⟨tiered_valid, screening_undisturbed.valid, (Except.ok.inj ha.count).symm, d, hd,
    hs.success, hsum⟩

end FlowGate.Gate
