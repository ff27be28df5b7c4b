import FlowGate.Proofs.Condition.Key
import FlowGate.Proofs.Condition.LookUp
import FlowGate.Proofs.Gate.Stopping
import FlowGate.Proofs.List

-- What a cache changes about the decision on an action, if there was nothing in it. A result can be given
-- to another condition of the action only if both have the same id.

namespace FlowGate

open Value

-- Outcomes that are the same but for what the values of both leave out.
inductive Parallel {α : Type} (R : α → α → Prop) :
    Option (Except Fault α) → Option (Except Fault α) → Prop
  | never : Parallel R none none
  | fault (fault : Fault) : Parallel R (some (.error fault)) (some (.error fault))
  | value {a a' : α} (h : R a a') : Parallel R (some (.ok a)) (some (.ok a'))

theorem Parallel.refl {α : Type} {R : α → α → Prop} (h : ∀ a, R a a) :
    ∀ outcome : Option (Except Fault α), Parallel R outcome outcome
  | none            => .never
  | some (.error f) => .fault f
  | some (.ok a)    => .value (h a)

theorem Parallel.map {α β : Type} {R : α → α → Prop} {S : β → β → Prop} {f f' : α → β}
    {outcome outcome' : Option (Except Fault α)} (h : Parallel R outcome outcome')
    (hf : ∀ a a', R a a' → S (f a) (f' a')) :
    Parallel S (outcome.map (Except.map f)) (outcome'.map (Except.map f')) := by
  cases h
  case never   => exact .never
  case fault   => exact .fault _
  case value h => exact .value (hf _ _ h)

-- An action with another choice whether results are kept.
def Action.caching (a : Action) (cacheResults : Bool) : Action :=
  { a with options := { a.options with cacheResults } }

-- Results that count the same.
structure ConditionResult.Agrees (r r' : ConditionResult) : Prop where
  success : r.success = r'.success
  result  : r.result = r'.result
  errors  : Gate.conditionErrors r = Gate.conditionErrors r'

-- Decisions that are the same but for what the results of conditions tell besides their outcomes.
structure Decision.Agrees (d d' : Decision) : Prop where
  success          : d.success = d'.success
  conditionsPassed : d.conditionsPassed = d'.conditionsPassed
  filtersPassed    : d.filtersPassed = d'.filtersPassed
  way              : d.way = d'.way
  nextActionIds    : d.nextActionIds = d'.nextActionIds
  continueWorkflow : d.continueWorkflow = d'.continueWorkflow
  vars             : d.vars = d'.vars
  filterResults    : d.filterResults = d'.filterResults
  errors           : d.errors = d'.errors
  summary          : d.summary = d'.summary
  outcomes         : d.conditionResults.map (fun r => (r.success, r.result)) =
    d'.conditionResults.map fun r => (r.success, r.result)

theorem Decision.Agrees.refl (d : Decision) : d.Agrees d :=
  ⟨rfl, rfl, rfl, rfl, rfl, rfl, rfl, rfl, rfl, rfl, rfl⟩

namespace Condition

variable {e : Engine} {c : Context} {x y : Condition} {conditions : List Condition}
variable {cache : Cache ConditionResult}

-- Whenever one condition is a success, the other is one with the same result.
def StandsFor (e : Engine) (c : Context) (x y : Condition) : Prop :=
  ∀ r, x.Gives e c r → r.success = true → ∃ r', y.Gives e c r' ∧ r'.success = true ∧ r'.result = r.result

-- A cache that knows these conditions from this context only.
def Known (e : Engine) (c : Context) (conditions : List Condition) (cache : Cache ConditionResult) : Prop :=
  ∀ entry ∈ cache.entries, entry.2.success = true ∧
    ∃ x ∈ conditions, c.cacheKey? x.id = some entry.1 ∧ x.Gives e c entry.2

theorem lookUp_known (h : Known e c conditions cache) (hy : y ∈ conditions) :
    Known e c conditions (y.lookUp e c true cache).1 := by
  intro entry hm
  rcases entry_of_lookUp hm with hm | ⟨hk, _, hv, hs⟩
  case inl => exact h entry hm
  case inr => exact ⟨hs, y, hy, hk, hv⟩

theorem lookUp_parallel (h : Known e c conditions cache)
    (hs : ∀ x ∈ conditions, x.id.plain = y.id.plain → x.StandsFor e c y) :
    Parallel ConditionResult.Agrees (y.lookUp e c true cache).2.value (y.evaluate e c).value := by
  have hsame : Parallel ConditionResult.Agrees (y.evaluate e c).value (y.evaluate e c).value :=
    .refl (fun _ => ⟨rfl, rfl, rfl⟩) _
  cases hk : y.key? c true
  case none => rwa [lookUp_keyless hk]
  case some key =>
    cases hf : cache.find? key
    case none => rwa [lookUp_miss hk hf]
    case some r =>
      have ⟨hr, x, hx, hxk, hg⟩ := h (key, r) (Cache.mem_of_find? hf)
      have hid := (Context.writtenAlike_of_cacheKey? hxk hk).left
      have ⟨r', hg', hr', he⟩ := hs x hx hid r hg hr
      rw [lookUp_hit hk hf, hg']
      have hr : r.success = true := hr
      exact .value ⟨hr.trans hr'.symm, he.symm, by
        rw [Gate.conditionErrors, Gate.conditionErrors, if_pos hr, if_pos hr']⟩

end Condition

namespace Gate

open Condition

variable {g g' : Gate} {c : Context} {a : Action} {conditions chosen : List Condition} {options : Options}

theorem evaluate_gate (g : Gate) (c : Context) (useCache : Bool) (condition : Condition) :
    ∃ cache, (g.evaluate c useCache condition).1 = { g with cache } := by
  unfold evaluate
  split
  case h_1 => exact ⟨g.cache, rfl⟩
  case h_2 => exact ⟨_, rfl⟩

theorem evaluateAll_gate (options : Options) (c : Context) (g : Gate) (chosen : List Condition) :
    ∃ cache, (evaluateAll options c g chosen).1 = { g with cache } := by
  induction chosen generalizing g
  case nil => exact ⟨g.cache, rfl⟩
  case cons condition rest hi =>
    have ⟨cache, hg⟩ := evaluate_gate g c options.cacheResults condition
    have ⟨cache', hi⟩ := hi { g with cache }
    rw [evaluateAll]
    split
    case h_1 he => exact ⟨cache, by rw [← hg, he]⟩
    case h_2 he => exact ⟨cache, by rw [← hg, he]⟩
    case h_3 he =>
      split
      case isTrue  => exact ⟨cache, by rw [← hg, he]⟩
      case isFalse =>
        rw [he] at hg
        have hg : _ = { g with cache } := hg
        subst hg
        exact ⟨cache', hi⟩

-- Conditions with one id stand for each other.
def Shares (e : Engine) (c : Context) (conditions : List Condition) : Prop :=
  ∀ x ∈ conditions, ∀ y ∈ conditions, x.id.plain = y.id.plain → x.StandsFor e c y

-- A gate that keeps results, beside one that works like it.
structure Beside (e : Engine) (c : Context) (conditions : List Condition) (g g' : Gate) : Prop where
  known   : Known e c conditions g.cache
  engine  : g.engine = e
  engine' : g'.engine = e
  refusal : g.refusal = g'.refusal

theorem evaluate_parallel {e : Engine} {y : Condition} (h : Beside e c conditions g g')
    (hs : Shares e c conditions) (hy : y ∈ conditions) :
    Parallel ConditionResult.Agrees (g.evaluate c true y).2.value (g'.evaluate c false y).2.value ∧
      Beside e c conditions (g.evaluate c true y).1 (g'.evaluate c false y).1 := by
  unfold evaluate
  rw [← h.refusal, h.engine, h.engine']
  cases hr : g.refusal
  case some fault => exact ⟨.fault fault, h⟩
  case none =>
    refine ⟨lookUp_parallel h.known fun x hx => hs x hx y hy, ?_⟩
    exact ⟨lookUp_known h.known hy, rfl, rfl, rfl⟩

theorem evaluateAll_parallel {e : Engine} (options : Options) (h : Beside e c conditions g g')
    (hs : Shares e c conditions) (hc : chosen ⊆ conditions) :
    Parallel (List.Forall₂ ConditionResult.Agrees)
      (evaluateAll { options with cacheResults := true } c g chosen).2.value
      (evaluateAll { options with cacheResults := false } c g' chosen).2.value := by
  induction chosen generalizing g g'
  case nil => exact .value .nil
  case cons y rest hi =>
    have ⟨hy, hrest⟩ := List.cons_subset.mp hc
    have ⟨hp, hb⟩ := evaluate_parallel h hs hy
    rw [evaluateAll, evaluateAll]
    dsimp only
    generalize g.evaluate c true y = found at hp hb ⊢
    generalize g'.evaluate c false y = found' at hp hb ⊢
    rcases found with ⟨g₁, calls, outcome⟩
    rcases found' with ⟨g₂, calls', outcome'⟩
    cases hp
    case never => exact .never
    case fault => exact .fault _
    case value r r' hr =>
      have hpassed : r.passed = r'.passed := by rw [ConditionResult.passed, hr.success, hr.result]; rfl
      dsimp only
      rw [hpassed]
      split
      case isTrue  => exact .value (.cons hr .nil)
      case isFalse => exact (hi hb hrest).map fun _ _ hrs => .cons hr hrs

theorem branch_caching (b : Bool) (way : Way) : (a.caching b).branch way = a.branch way := by
  cases way <;> rfl

variable {rs rs' : List ConditionResult} {fs : List FilterResult} {d d' : Decision}

theorem conclude_caching (b : Bool) : g.conclude c (a.caching b) rs fs = g.conclude c a rs fs := by
  simp only [conclude, branch_caching]
  rfl

theorem conclude_parallel (hrs : List.Forall₂ ConditionResult.Agrees rs rs') (hn : g.now = g'.now) :
    Parallel Decision.Agrees (some (g.conclude c a rs fs)) (some (g'.conclude c a rs' fs)) := by
  have hpassed : rs.map ConditionResult.passed = rs'.map ConditionResult.passed :=
    map_eq_of_forall₂ (hrs.imp fun _ _ h => by rw [ConditionResult.passed, h.success, h.result]; rfl)
  have hcount : rs.countP ConditionResult.passed = rs'.countP ConditionResult.passed := by
    have h := congrArg (List.countP id) hpassed
    rwa [List.countP_map, List.countP_map] at h
  have herrors : rs.flatMap conditionErrors = rs'.flatMap conditionErrors := by
    rw [List.flatMap_def, List.flatMap_def, map_eq_of_forall₂ (hrs.imp fun _ _ h => h.errors)]
  have houtcomes : rs.map (fun r => (r.success, r.result)) = rs'.map fun r => (r.success, r.result) :=
    map_eq_of_forall₂ (hrs.imp fun _ _ h => Prod.ext h.success h.result)
  simp only [conclude, hpassed, hcount, herrors, hrs.length_eq, hn]
  cases filterTotal a.filters
  case error => exact .fault _
  case ok n =>
    generalize select a _ _ = way
    dsimp only [bind, Except.bind]
    cases a.branch way
    case error     => exact .fault _
    case ok branch => exact .value ⟨rfl, rfl, rfl, rfl, rfl, rfl, rfl, rfl, rfl, rfl, houtcomes⟩

theorem run_gate (g : Gate) (c : Context) (a : Action) : ∃ cache, (g.run c a).1 = { g with cache } := by
  rw [run_fst]
  exact evaluateAll_gate a.options c g a.conditions

-- What becomes of the results of conditions.
def judge (g : Gate) (c : Context) (a : Action) :
    Option (Except Fault (List ConditionResult)) → Option (Except Fault Decision)
  | none            => none
  | some (.error f) => some (.error f)
  | some (.ok rs)   => some (g.conclude c a rs (runGroups g.engine c a.filters).value)

theorem run_value : (g.run c a).2.value =
    (evaluateAll a.options c g a.conditions).1.judge c a (evaluateAll a.options c g a.conditions).2.value := by
  unfold run
  rcases evaluateAll a.options c g a.conditions with ⟨_, _, _ | _ | _⟩ <;> rfl

theorem judge_parallel {outcome outcome' : Option (Except Fault (List ConditionResult))}
    (he : g.engine = g'.engine) (h : Parallel (List.Forall₂ ConditionResult.Agrees) outcome outcome') :
    Parallel Decision.Agrees (g.judge c (a.caching true) outcome)
      (g'.judge c (a.caching false) outcome') := by
  cases h
  case never => exact .never
  case fault => exact .fault _
  case value hrs =>
    have hn : g.now = g'.now := by rw [now, now, he]
    rw [judge, judge, conclude_caching, conclude_caching, he]
    exact conclude_parallel hrs hn

theorem run_parallel (h : Beside g.engine c a.conditions g g) (hs : Shares g.engine c a.conditions) :
    Parallel Decision.Agrees (g.run c (a.caching true)).2.value (g.run c (a.caching false)).2.value := by
  have he := evaluateAll_engine g c (a.caching true).options a.conditions
  have he' := evaluateAll_engine g c (a.caching false).options a.conditions
  rw [run_value, run_value]
  exact judge_parallel (he.trans he'.symm) (evaluateAll_parallel a.options h hs fun _ hm => hm)

-- What recording a decision adds to its errors.
def auditErrors (g : Gate) (c : Context) (a : Action) (d : Decision) : List String :=
  if a.options.detail = .none then []
  else match g.save (auditRecord c a d) with
    | .ok _        => []
    | .error fault => ["Audit write failed: " ++ fault.message]

theorem keep_errors : (g.keep c a d).2 = { d with errors := d.errors ++ g.auditErrors c a d } := by
  by_cases hd : a.options.detail = .none
  case pos => simp [keep, auditErrors, hd]
  case neg => cases hs : g.save (auditRecord c a d) <;> simp [keep, auditErrors, hd, hs]

-- A store of the host that does not refuse a record for the results in it.
def Unread (g : Gate) : Prop :=
  ∀ r details, g.auditRefusal { r with details } = g.auditRefusal r

theorem save_details (h : g.Unread) (r : AuditRecord) (details : Option Value) :
    (g.save { r with details }).map (fun _ => ()) = (g.save r).map fun _ => () := by
  unfold save
  rw [h]
  cases g.auditRefusal r
  case some fault => rfl
  case none       => cases g.audit <;> rfl

theorem auditErrors_eq
    (h : (g.save (auditRecord c a d)).map (fun _ => ()) = (g'.save (auditRecord c a d')).map fun _ => ()) :
    g.auditErrors c a d = g'.auditErrors c a d' := by
  unfold auditErrors
  generalize g.save (auditRecord c a d) = saved at h ⊢
  generalize g'.save (auditRecord c a d') = saved' at h ⊢
  cases saved <;> cases saved' <;> cases h <;> rfl

theorem auditErrors_agrees (hx : g.Unread) (h : d.Agrees d') :
    g.auditErrors c a d = g.auditErrors c a d' := by
  have hr : auditRecord c a d = { auditRecord c a d' with details := (auditRecord c a d).details } := by
    simp only [auditRecord, h.way, h.conditionsPassed, h.filtersPassed, h.errors]
  have hs := save_details hx (auditRecord c a d') (auditRecord c a d).details
  exact auditErrors_eq (hr ▸ hs)

theorem keep_agrees (hx : g.Unread) (cache cache' : Cache ConditionResult) (h : d.Agrees d') :
    ({ g with cache }.keep c (a.caching true) d).2.Agrees
      ({ g with cache := cache' }.keep c (a.caching false) d').2 := by
  have hb {cache b d} : { g with cache }.auditErrors c (a.caching b) d = g.auditErrors c a d := rfl
  rw [keep_errors, keep_errors, hb, hb, auditErrors_agrees hx h]
  exact { h with errors := congrArg (· ++ _) h.errors }

theorem settle_parallel {outcome outcome' : Except Fault Decision} (hx : g.Unread)
    (cache cache' : Cache ConditionResult) (h : Parallel Decision.Agrees (some outcome) (some outcome')) :
    Parallel Decision.Agrees (some ({ g with cache }.settle c (a.caching true) outcome).2)
      (some ({ g with cache := cache' }.settle c (a.caching false) outcome').2) := by
  cases h
  case value h => exact .value (keep_agrees hx cache cache' h)
  case fault fault =>
    have hr {cache b} : { g with cache }.refuseAction c (a.caching b) [fault.message] =
        g.refuseAction c a [fault.message] := rfl
    simp only [settle, hr]
    cases g.refuseAction c a [fault.message]
    case error => exact .fault _
    case ok d => exact .value (keep_agrees hx cache cache' (.refl d))

theorem decide_parallel (hx : g.Unread) (h : Known g.engine c a.conditions g.cache)
    (hs : Shares g.engine c a.conditions) :
    Parallel Decision.Agrees (g.decide c (a.caching true)).2.value (g.decide c (a.caching false)).2.value := by
  have hc {b} : (a.caching b).check g.limits (some g.engine.registry.functionNames) =
      a.check g.limits (some g.engine.registry.functionNames) := rfl
  have hrefl (outcome : Except Fault Decision) : Parallel Decision.Agrees (some outcome) (some outcome) :=
    .refl (fun d => .refl d) _
  unfold decide
  rw [hc, hc]
  cases a.check g.limits (some g.engine.registry.functionNames)
  case error fault => exact settle_parallel hx g.cache g.cache (hrefl (.error fault))
  case ok report =>
    dsimp only
    split
    case isTrue => exact settle_parallel hx g.cache g.cache (hrefl (g.refuseAction c a report.messages))
    case isFalse =>
      have hp := run_parallel ⟨h, rfl, rfl, rfl⟩ hs
      have ⟨cache, hg⟩ := run_gate g c (a.caching true)
      have ⟨cache', hg'⟩ := run_gate g c (a.caching false)
      generalize g.run c (a.caching true) = found at hp hg ⊢
      generalize g.run c (a.caching false) = found' at hp hg' ⊢
      rcases found with ⟨g₁, calls, outcome⟩
      rcases found' with ⟨g₂, calls', outcome'⟩
      obtain rfl : g₁ = { g with cache } := hg
      obtain rfl : g₂ = { g with cache := cache' } := hg'
      cases hp
      case never   => exact .never
      case fault f => exact settle_parallel hx cache cache' (.fault f)
      case value h => exact settle_parallel hx cache cache' (.value h)

-- A gate that has kept nothing yet comes to the same decision whether it keeps results or not, if the
-- conditions of the action with one id stand for each other.
theorem execute_parallel (g : Gate) (c : Context) (a : Action) (kept unkept : Offer)
    (hkept : kept.action? = some (a.caching true)) (hunkept : unkept.action? = some (a.caching false))
    (hf : g.cache.entries = []) (hx : g.Unread) (hs : Shares g.engine c a.conditions) :
    Parallel Decision.Agrees (g.execute c kept).2.value (g.execute c unkept).2.value := by
  rw [(execute_eq hkept).left, (execute_eq hunkept).left]
  refine decide_parallel hx (fun entry hm => ?_) hs
  rw [hf] at hm
  cases hm

theorem shares_of_ids {e : Engine} (h : ∀ x ∈ conditions, ∀ y ∈ conditions, x.id.plain = y.id.plain → x = y) :
    Shares e c conditions := by
  intro x hx y hy hid r hr hs
  exact ⟨r, h x hx y hy hid ▸ hr, hs, rfl⟩

-- Two conditions with these ids, of which the first holds and the second does not.
def opposed (first second : String) : Action :=
  .build "opposed" "" none [ask first .isAbsent, ask second .isPresent] [] {} none none {}
where
  ask (id : String) (operator : Operator) : Condition :=
    .simple ⟨.text id, {}⟩ (.text "x") (.known operator) .null

def passedOf : Option (Except Fault Decision) → Option Bool
  | some (.ok d) => some d.conditionsPassed
  | _            => none

theorem Parallel.passedOf {outcome outcome' : Option (Except Fault Decision)}
    (h : Parallel Decision.Agrees outcome outcome') : passedOf outcome = passedOf outcome' := by
  cases h
  case value h => exact congrArg some h.conditionsPassed
  all_goals rfl

theorem execute_opposed :
    passedOf (plain.execute (.ofVars []) (.action ((opposed "a" "b").caching true))).2.value = some false := by
  have hs : Shares plain.engine (.ofVars []) (opposed "a" "b").conditions :=
    shares_of_ids (by simp [opposed, opposed.ask, Action.build, Condition.id, Scalar.plain, Value.plain])
  have h := execute_parallel plain (.ofVars []) (opposed "a" "b") (.action _) (.action _) rfl rfl rfl
    (fun _ _ => rfl) hs
  exact (Parallel.passedOf h).trans rfl

-- Under one id, the second condition is taken for the first. Nothing forbids that.
theorem execute_confused :
    (opposed "a" "a").Unblocked plain.limits (some plain.engine.registry.functionNames) ∧
      ((Context.ofVars []).cacheKey? (.text "a")).isSome = true ∧ plain.cache.entries = [] ∧
      passedOf (plain.execute (.ofVars []) (.action ((opposed "a" "a").caching true))).2.value = some true ∧
      passedOf (plain.execute (.ofVars []) (.action ((opposed "a" "a").caching false))).2.value =
        some false := by
  exact ⟨⟨_, rfl, by decide⟩, by decide +kernel, rfl, by decide +kernel, rfl⟩

end Gate

end FlowGate
