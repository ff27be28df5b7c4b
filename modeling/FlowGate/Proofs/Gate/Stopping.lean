import Mathlib.Data.List.Forall2
import FlowGate.Proofs.Action.Check
import FlowGate.Proofs.Condition.Evaluation
import FlowGate.Proofs.Gate.Table

-- Stopping early. A mode that stops leaves conditions out, but never one that could have changed
-- the outcome, so the outcome is that of all conditions together, whatever their order.

namespace FlowGate

variable {e : Engine} {c : Context}

-- Whether a condition succeeds and holds when it is evaluated on its own.
def Condition.passes (e : Engine) (c : Context) (condition : Condition) : Bool :=
  match (condition.evaluate e c).value with
  | some (.ok r) => r.passed
  | _            => false

-- A result of a condition that is evaluated on its own.
def Condition.Gives (e : Engine) (c : Context) (condition : Condition) (r : ConditionResult) :
    Prop :=
  (condition.evaluate e c).value = some (.ok r)

theorem Condition.Gives.passed_eq {condition : Condition} {r : ConditionResult}
    (h : condition.Gives e c r) : r.passed = condition.passes e c := by
  rw [Gives] at h
  rw [passes, h]

theorem Condition.Gives.map_passed {conditions : List Condition} {rs : List ConditionResult}
    (h : List.Forall₂ (Gives e c) conditions rs) :
    rs.map ConditionResult.passed = conditions.map (passes e c) := by
  induction h
  case nil => rfl
  case cons h _ hi => simp [hi, h.passed_eq]

namespace Action

variable {a : Action} {cs : List Condition}

-- The outcome of all conditions, which no order can change.
def conditionsPass (e : Engine) (c : Context) (a : Action) : Bool :=
  match a.options.mode with
  | .any => a.conditions.any (Condition.passes e c)
  | _    => a.conditions.all (Condition.passes e c)

-- The conditions up to the one after which the mode stops.
def evaluated (e : Engine) (c : Context) (a : Action) : List Condition :=
  match a.options.mode, a.options.stopOnFirstFailure with
  | .any, _           => through (Condition.passes e c) a.conditions
  | .sequential, true => through (fun condition => !condition.passes e c) a.conditions
  | _, _              => a.conditions

theorem conditionsPass_perm (h : cs.Perm a.conditions) :
    { a with conditions := cs }.conditionsPass e c = a.conditionsPass e c := by
  simp only [conditionsPass, h.any_eq, h.all_eq]

theorem evaluated_eq : a.evaluated e c =
    through (fun condition =>
      a.options.mode.stopsAt a.options.stopOnFirstFailure (condition.passes e c)) a.conditions := by
  unfold evaluated Mode.stopsAt
  cases a.options.mode <;> cases a.options.stopOnFirstFailure <;> simp [through_eq_self]

-- What the mode makes of the evaluated conditions is what all conditions come to.
theorem combine_evaluated (hne : a.conditions ≠ []) :
    a.options.mode.combine ((a.evaluated e c).map (Condition.passes e c)) =
      a.conditionsPass e c := by
  have hne' : (a.evaluated e c).map (Condition.passes e c) ≠ [] := by
    simpa [evaluated_eq] using through_ne_nil hne
  have he : ((a.evaluated e c).map (Condition.passes e c)).isEmpty = false := by simpa using hne'
  unfold Mode.combine
  rw [he]
  unfold evaluated conditionsPass
  cases a.options.mode <;> cases a.options.stopOnFirstFailure <;>
    simp [List.any_map, List.all_map, Function.comp_def, any_through, all_through]

end Action

namespace Gate

variable {g : Gate} {a : Action} {d : Decision}

-- Without a cache and with an evaluator that works, conditions are evaluated one by one.
theorem evaluateAll_eq {options : Options} {cs : List Condition} (hr : g.refusal = none)
    (hc : options.cacheResults = false)
    (h : ∀ condition ∈ cs, ∃ calls r, condition.evaluate g.engine c = ⟨calls, some (.ok r)⟩) :
    ∃ calls rs, evaluateAll options c g cs = (g, ⟨calls, some (.ok rs)⟩) ∧
      List.Forall₂ (Condition.Gives g.engine c)
        (through (fun condition => options.mode.stopsAt options.stopOnFirstFailure
          (condition.passes g.engine c)) cs) rs := by
  induction cs
  case nil => exact ⟨[], [], rfl, .nil⟩
  case cons condition rest hi =>
    have ⟨⟨calls, r, he⟩, hrest⟩ := List.forall_mem_cons.mp h
    have ⟨calls', rs, he', hrs⟩ := hi hrest
    have hg : condition.Gives g.engine c r := by rw [Condition.Gives, he]
    have hev : g.evaluate c options.cacheResults condition = (g, ⟨calls, some (.ok r)⟩) := by
      unfold evaluate
      split
      case h_1 h => cases hr.symm.trans h
      case h_2   => simp [hc, Condition.lookUp, he]
    simp only [evaluateAll, hev, through, ← hg.passed_eq]
    cases options.mode.stopsAt options.stopOnFirstFailure r.passed
    case true  => exact ⟨calls, [r], rfl, .cons hg .nil⟩
    case false => exact ⟨calls ++ calls', r :: rs, by simp [he', Except.map], .cons hg hrs⟩

theorem filterTotal_ok {gs : List FilterGroup} (h : ∀ g ∈ gs, g.Valid) :
    ∃ n, filterTotal gs = .ok n := by
  induction gs
  case nil => exact ⟨0, rfl⟩
  case cons group rest hi =>
    have ⟨hg, hr⟩ := List.forall_mem_cons.mp h
    have ⟨n, hn⟩ := FilterGroup.enabledFilterCount_ok hg
    have ⟨m, hm⟩ := hi hr
    exact ⟨n + m, by rw [filterTotal, hn, hm]; rfl⟩

theorem conclude_ok {rs : List ConditionResult} {fs : List FilterResult} (hv : a.Valid) :
    ∃ d, g.conclude c a rs fs = .ok d := by
  have ⟨n, hn⟩ := filterTotal_ok hv.filters
  have ⟨b, hb⟩ := hv.onTrue
  have hb : ∀ way, ∃ branch, a.branch way = .ok branch := by
    intro way
    cases way
    case onTrue => exact ⟨b, by simp [Action.branch, hb]⟩
    all_goals exact ⟨_, rfl⟩
  have ⟨branch, hb⟩ := hb <| select a (a.options.mode.combine (rs.map ConditionResult.passed))
    (fs.all FilterResult.passed)
  simp only [conclude, hn, hb, bind, Except.bind]
  exact ⟨_, rfl⟩

-- What a decision says about the results that it follows from.
structure Sums (a : Action) (rs : List ConditionResult) (fs : List FilterResult) (d : Decision) :
    Prop where
  conditionResults    : d.conditionResults = rs
  conditionsPassed    : d.conditionsPassed = a.options.mode.combine (rs.map ConditionResult.passed)
  filtersPassed       : d.filtersPassed = fs.all FilterResult.passed
  way                 : d.way = select a d.conditionsPassed d.filtersPassed
  totalConditions     : d.summary.totalConditions = a.conditions.length
  evaluatedConditions : d.summary.evaluatedConditions = rs.length
  passedConditions    : d.summary.passedConditions = rs.countP ConditionResult.passed
  failedConditions    : d.summary.failedConditions = rs.length - rs.countP ConditionResult.passed

theorem conclude_sums {rs : List ConditionResult} {fs : List FilterResult}
    (h : g.conclude c a rs fs = .ok d) : Sums a rs fs d := by
  simp only [conclude, bind, Except.bind] at h
  split at h
  case h_1 => cases h
  case h_2 =>
    split at h
    case h_1 => cases h
    case h_2 =>
      cases h
      exact ⟨rfl, rfl, rfl, rfl, rfl, rfl, rfl, rfl⟩

theorem Sums.with_errors {rs : List ConditionResult} {fs : List FilterResult} (errors : List String)
    (h : Sums a rs fs d) : Sums a rs fs { d with errors } :=
  ⟨h.conditionResults, h.conditionsPassed, h.filtersPassed, h.way, h.totalConditions,
    h.evaluatedConditions, h.passedConditions, h.failedConditions⟩

-- What lets an action come to its outcomes without anything in the way: it is valid and not
-- blocked, nothing is cached, the evaluator works and every function answers.
structure Undisturbed (g : Gate) (a : Action) : Prop where
  valid     : a.Valid
  unblocked : a.Unblocked g.limits (some g.engine.registry.functionNames)
  uncached  : a.options.cacheResults = false
  works     : g.refusal = none
  answers   : g.engine.registry.Answers

theorem Undisturbed.perm {cs : List Condition} (h : Undisturbed g a) (hp : cs.Perm a.conditions) :
    Undisturbed g { a with conditions := cs } :=
  ⟨h.valid.perm hp, h.unblocked.perm h.valid hp, h.uncached, h.works, h.answers⟩

-- Once all conditions that count have results, an action that is not blocked is decided by them.
theorem decide_of_evaluateAll {calls : List Call} {rs : List ConditionResult} (hv : a.Valid)
    (hu : a.Unblocked g.limits (some g.engine.registry.functionNames))
    (he : (g.evaluateAll a.options c a.conditions).2 = ⟨calls, some (.ok rs)⟩) :
    ∃ calls d, (g.decide c a).2 = ⟨calls, some (.ok d)⟩ ∧
      Sums a rs (runGroups g.engine c a.filters).value d ∧
      Decided g.now c a.branchOf a.onFalse.isSome d := by
  have hg := evaluateAll_engine g c a.options a.conditions
  rcases hx : g.evaluateAll a.options c a.conditions with ⟨g', run⟩
  rw [hx] at he hg
  subst he
  have ⟨d, hd⟩ : ∃ d, g'.conclude c a rs (runGroups g'.engine c a.filters).value = .ok d :=
    conclude_ok hv
  have ⟨report, hc, hvalid⟩ := hu
  have ⟨errors, hs⟩ := settle_ok (g := g') (c := c) (a := a) (d := d)
  have hn : g'.now = g.now := by rw [now, hg, now]
  have hr : g.run c a =
      (g', ⟨calls ++ (runGroups g'.engine c a.filters).calls, some (.ok d)⟩) := by
    simp [run, hx, hd]
  refine ⟨calls ++ (runGroups g'.engine c a.filters).calls, { d with errors }, ?_, ?_, ?_⟩
  · simp [decide, hc, hvalid, hr, hs]
  · exact hg ▸ (conclude_sums hd).with_errors errors
  · exact hn ▸ (conclude_decided hd).with_errors errors

theorem decide_undisturbed (h : Undisturbed g a) :
    ∃ calls rs d, (g.decide c a).2 = ⟨calls, some (.ok d)⟩ ∧
      List.Forall₂ (Condition.Gives g.engine c) (a.evaluated g.engine c) rs ∧
      Sums a rs (runGroups g.engine c a.filters).value d ∧
      Decided g.now c a.branchOf a.onFalse.isSome d := by
  have hall : ∀ condition ∈ a.conditions,
      ∃ calls r, condition.evaluate g.engine c = ⟨calls, some (.ok r)⟩ := by
    intro condition hm
    have ⟨calls, r, he, _⟩ :=
      Condition.evaluates (c := c) (h.valid.conditions condition hm) h.answers
    exact ⟨calls, r, he⟩
  have ⟨calls, rs, he, hrs⟩ := evaluateAll_eq h.works h.uncached hall
  have ⟨calls, d, hg, hs, hd⟩ :=
    decide_of_evaluateAll (c := c) h.valid h.unblocked (congrArg Prod.snd he)
  exact ⟨calls, rs, d, hg, Action.evaluated_eq ▸ hrs, hs, hd⟩

theorem conditionsPassed_eq {rs : List ConditionResult} {fs : List FilterResult}
    (h : Undisturbed g a)
    (hrs : List.Forall₂ (Condition.Gives g.engine c) (a.evaluated g.engine c) rs)
    (hs : Sums a rs fs d) : d.conditionsPassed = a.conditionsPass g.engine c := by
  rw [hs.conditionsPassed, Condition.Gives.map_passed hrs]
  exact Action.combine_evaluated <| h.unblocked.conditions_ne_nil h.valid

-- An action with its conditions in another order comes to the same.
theorem decide_perm {cs : List Condition} {rs : List ConditionResult} (h : Undisturbed g a)
    (hp : cs.Perm a.conditions)
    (hrs : List.Forall₂ (Condition.Gives g.engine c) (a.evaluated g.engine c) rs)
    (hs : Sums a rs (runGroups g.engine c a.filters).value d)
    (hd : Decided g.now c a.branchOf a.onFalse.isSome d) :
    ∃ calls d', (g.decide c { a with conditions := cs }).2 = ⟨calls, some (.ok d')⟩ ∧
      d'.success = true ∧ d'.conditionsPassed = d.conditionsPassed ∧ d'.way = d.way ∧
      d'.nextActionIds = d.nextActionIds ∧ d'.continueWorkflow = d.continueWorkflow ∧
      d'.vars = d.vars := by
  have ⟨calls, rs', d', he, hrs', hs', hd'⟩ := decide_undisturbed (c := c) (h.perm hp)
  have hc : d'.conditionsPassed = d.conditionsPassed := by
    rw [conditionsPassed_eq (h.perm hp) hrs' hs', conditionsPassed_eq h hrs hs,
      Action.conditionsPass_perm hp]
  have hf : d'.filtersPassed = d.filtersPassed := hs'.filtersPassed.trans hs.filtersPassed.symm
  have hw : d'.way = d.way := by
    rw [hs'.way, hs.way, hc, hf]
    rfl
  have hb : { a with conditions := cs }.branchOf = a.branchOf := by
    funext way
    cases way <;> rfl
  refine ⟨calls, d', he, hd'.success, hc, hw, ?_, ?_, ?_⟩
  · rw [hd'.nextActionIds, hd.nextActionIds, hb, hw]
  · rw [hd'.continueWorkflow, hd.continueWorkflow, hb, hw]
  · rw [hd'.vars, hd.vars, hb, hw, hc, hf]

-- Whatever the mode and whether or not it stops early, an action passes its conditions exactly when
-- all of them together do, and putting them in another order changes nothing that follows.
theorem execute_undisturbed (offer : Offer) (ho : offer.action? = some a) (h : Undisturbed g a) :
    ∃ calls d, (g.execute c offer).2 = ⟨calls, some (.ok d)⟩ ∧
      d.success = true ∧
      d.conditionsPassed = (match a.options.mode with
        | .any               => a.conditions.any (Condition.passes g.engine c)
        | .all | .sequential => a.conditions.all (Condition.passes g.engine c)) ∧
      List.Forall₂ (Condition.Gives g.engine c)
        (match a.options.mode, a.options.stopOnFirstFailure with
          | .any, _           => through (Condition.passes g.engine c) a.conditions
          | .sequential, true => through (fun x => !x.passes g.engine c) a.conditions
          | _, _              => a.conditions) d.conditionResults ∧
      d.summary.evaluatedConditions = d.conditionResults.length ∧
      d.summary.passedConditions = d.conditionResults.countP ConditionResult.passed ∧
      d.summary.passedConditions + d.summary.failedConditions = d.summary.evaluatedConditions ∧
      d.summary.evaluatedConditions ≤ d.summary.totalConditions ∧
      d.summary.totalConditions = a.conditions.length ∧
      ∀ cs : List Condition, cs.Perm a.conditions →
        ∃ calls' d',
          (g.execute c (.action { a with conditions := cs })).2 = ⟨calls', some (.ok d')⟩ ∧
          d'.success = true ∧ d'.conditionsPassed = d.conditionsPassed ∧ d'.way = d.way ∧
          d'.nextActionIds = d.nextActionIds ∧ d'.continueWorkflow = d.continueWorkflow ∧
          d'.vars = d.vars := by
  have ⟨he, _, _, _⟩ := execute_eq (g := g) (c := c) ho
  have ⟨calls, rs, d, hd, hrs, hs, hdec⟩ := decide_undisturbed (c := c) h
  have hpassed := conditionsPassed_eq h hrs hs
  have hcount : rs.countP ConditionResult.passed ≤ rs.length := List.countP_le_length
  have hlength : rs.length ≤ a.conditions.length := by
    rw [← hrs.length_eq, Action.evaluated_eq]
    exact through_length_le
  refine ⟨calls, d, by rw [he, hd], hdec.success, ?_, ?_, ?_, ?_, ?_, ?_, hs.totalConditions, ?_⟩
  case refine_1 =>
    rw [hpassed, Action.conditionsPass]
    cases a.options.mode <;> rfl
  case refine_2 =>
    rw [hs.conditionResults]
    exact hrs
  case refine_3 => rw [hs.evaluatedConditions, hs.conditionResults]
  case refine_4 => rw [hs.passedConditions, hs.conditionResults]
  case refine_5 => rw [hs.passedConditions, hs.failedConditions, hs.evaluatedConditions]; omega
  case refine_6 => rw [hs.evaluatedConditions, hs.totalConditions]; exact hlength
  case refine_7 => exact fun cs hp => decide_perm h hp hrs hs hdec

-- One condition that faults, one that fails and two that hold, of which any will do.
def choosy : Action :=
  .build "choosy" "" none
    [ask "a" .jsonPathExists, ask "b" .isAbsent, ask "c" .isPresent, ask "d" .isPresent]
    [] {} none none { mode := .any }
where
  ask (id : String) (operator : Operator) : Condition :=
    .simple ⟨.text id, {}⟩ (.text "x") (.known operator) .null

def plain : Gate where
  engine := .ofFunctions []
  limits := {}
  cache  := .empty 1
  audit  := .discarding

theorem choosy_undisturbed : Undisturbed plain choosy where
  valid := {
    id                := ⟨"choosy", rfl⟩
    name              := ⟨"", rfl⟩
    conditions        := by
      have ask_valid {id : String} {operator : Operator} (h : id ≠ "") :
          (choosy.ask id operator).Valid :=
        .simple (Schema.isName_text h) (Schema.isName_text (by decide))
      simp only [choosy, Action.build, List.forall_mem_cons]
      exact ⟨ask_valid (by decide), ask_valid (by decide), ask_valid (by decide),
        ask_valid (by decide), List.forall_mem_nil _⟩
    noStrayConditions := rfl
    filters           := List.forall_mem_nil _
    noStrayFilters    := rfl
    onTrue            := ⟨{}, rfl⟩
  }
  unblocked := ⟨_, rfl, by decide⟩
  uncached  := rfl
  works     := rfl
  answers   := Engine.ofFunctions_answers (List.forall_mem_nil _)

theorem choosy_stopping :
    Undisturbed plain choosy ∧
      ∃ calls d, (plain.execute (.ofVars [(.text "x", .int 3)]) (.action choosy)).2 =
          ⟨calls, some (.ok d)⟩ ∧
        d.conditionsPassed = true ∧ d.conditionResults.length = 3 := by
  have ⟨calls, d, he, _, hc, hr, _⟩ := execute_undisturbed (c := .ofVars [(.text "x", .int 3)])
    (.action choosy) rfl choosy_undisturbed
  refine ⟨choosy_undisturbed, calls, d, he, hc.trans (by decide), hr.length_eq.symm.trans ?_⟩
  decide

end Gate

end FlowGate
