import FlowGate.Proofs.Condition.LookUp
import FlowGate.Proofs.Gate.Stopping

-- Where the results of an action come from that keeps them. Each is that of its condition, evaluated on
-- its own in the context at hand or in an earlier one with the same variables and index.

namespace FlowGate

open Value

variable {e : Engine} {c : Context} {condition : Condition} {conditions : List Condition}
  {seen : List Context} {r : ConditionResult}

-- What a key tells of a context: how its variables are written, and the index of its step.
def Context.stamp? (c : Context) : Option String :=
  match Json.printSorted (.map c.vars) with
  | .ok vars => some s!"{vars}_{c.stepIndex}"
  | .error _ => none

-- The contexts whose results can be taken for those of this one: itself, and those that have been seen
-- with the same stamp.
def Context.Alike (seen : List Context) (c c' : Context) : Prop :=
  c' = c ∨ c' ∈ seen ∧ c'.stamp? = c.stamp? ∧ c.stamp?.isSome = true

theorem Context.Alike.of_cons {c' : Context} (h : Alike (c :: seen) c c') : Alike seen c c' := by
  cases h
  case inl h => exact .inl h
  case inr h =>
    cases List.mem_cons.mp h.left
    case inl hc => exact .inl hc
    case inr hc => exact .inr ⟨hc, h.right⟩

namespace Condition

def keyOf (condition : Condition) (stamp : String) : String :=
  condition.id.plain ++ "_" ++ stamp

theorem cacheKey?_eq : c.cacheKey? condition.id = c.stamp?.map condition.keyOf := by
  unfold Context.cacheKey? Context.stamp?
  cases Json.printSorted (.map c.vars)
  case error => rfl
  case ok    => simp [keyOf, toString, String.append_assoc]

theorem key_eq {useCache : Bool} {key : String}
    (h : (if useCache then c.cacheKey? condition.id else none) = some key) :
    ∃ stamp, c.stamp? = some stamp ∧ condition.keyOf stamp = key := by
  cases useCache
  case false => cases h
  case true  => rwa [if_pos rfl, cacheKey?_eq, Option.map_eq_some_iff] at h

theorem keyOf_inj {stamp stamp' : String} (h : condition.keyOf stamp = condition.keyOf stamp') :
    stamp = stamp' := by
  simpa [keyOf] using h

-- No two of these conditions can have the same key.
def Apart (conditions : List Condition) : Prop :=
  ∀ x ∈ conditions, ∀ y ∈ conditions, ∀ stamp stamp', x.keyOf stamp = y.keyOf stamp' → x = y

-- What is kept under the keys of these conditions are their results in these contexts.
def Sourced (e : Engine) (conditions : List Condition) (seen : List Context)
    (cache : Cache ConditionResult) : Prop :=
  ∀ condition ∈ conditions, ∀ stamp r, (condition.keyOf stamp, r) ∈ cache.entries →
    ∃ c ∈ seen, c.stamp? = some stamp ∧ condition.Gives e c r

-- A result of a condition in this context or in one that is taken for it.
def From (e : Engine) (seen : List Context) (c : Context) (condition : Condition)
    (r : ConditionResult) : Prop :=
  ∃ c', c.Alike seen c' ∧ condition.Gives e c' r

theorem From.of_cons : condition.From e (c :: seen) c r → condition.From e seen c r
  | ⟨c', hc, hr⟩ => ⟨c', hc.of_cons, hr⟩

theorem From.passed_eq (h : condition.From e seen c r) :
    ∃ c', c.Alike seen c' ∧ r.passed = condition.passes e c' :=
  have ⟨c', hc, hr⟩ := h
  ⟨c', hc, hr.passed_eq⟩

variable {cache : Cache ConditionResult}

theorem Sourced.mono {more : List Context} (h : Sourced e conditions seen cache) (hs : seen ⊆ more) :
    Sourced e conditions more cache := by
  intro condition hm stamp r hr
  have ⟨c, hc, h⟩ := h condition hm stamp r hr
  exact ⟨c, hs hc, h⟩

-- Looking a condition up adds one entry at most, and then its own result in this context.
theorem mem_of_lookUp {useCache : Bool} {entry : String × ConditionResult}
    (h : entry ∈ (condition.lookUp e c useCache cache).1.entries) :
    entry ∈ cache.entries ∨ ∃ stamp, c.stamp? = some stamp ∧ condition.keyOf stamp = entry.1 ∧
      condition.Gives e c entry.2 := by
  rcases entry_of_lookUp h with h | ⟨hk, _, hr, _⟩
  case inl => exact .inl h
  case inr =>
    have ⟨stamp, hs, hk⟩ := key_eq hk
    exact .inr ⟨stamp, hs, hk, hr⟩

theorem lookUp_sourced (h : Sourced e conditions seen cache) (ha : Apart conditions)
    (hm : condition ∈ conditions) (hc : c ∈ seen) (useCache : Bool) :
    Sourced e conditions seen (condition.lookUp e c useCache cache).1 := by
  intro other ho stamp r hr
  cases mem_of_lookUp hr
  case inl hr => exact h other ho stamp r hr
  case inr hr =>
    have ⟨own, hs, hk, hr⟩ := hr
    -- the key alone tells whose result it is
    have hx := ha condition hm other ho own stamp hk
    subst hx
    exact ⟨c, hc, keyOf_inj hk ▸ hs, hr⟩

theorem lookUp_from (h : Sourced e conditions seen cache) (hm : condition ∈ conditions)
    (hr : condition.Gives e c r) (useCache : Bool) :
    ∃ calls r, (condition.lookUp e c useCache cache).2 = ⟨calls, some (.ok r)⟩ ∧
      condition.From e seen c r := by
  rw [lookUp_run]
  cases hk : condition.remembered? c useCache cache
  case none => exact ⟨_, r, by rw [← hr], c, .inl rfl, hr⟩
  case some kept =>
    have ⟨key, hk, hf⟩ := Option.bind_eq_some_iff.mp hk
    have ⟨stamp, hs, hk⟩ := key_eq hk
    have ⟨c', hc, hs', hr⟩ := h condition hm stamp kept (hk ▸ Cache.mem_of_find? hf)
    exact ⟨[], kept, rfl, c', .inr ⟨hc, hs'.trans hs.symm, by rw [hs]; rfl⟩, hr⟩

-- A success that is kept in one context is given back in any other with the same stamp.
theorem lookUp_again {c' : Context} {stamp : String} (hs : c.stamp? = some stamp)
    (hs' : c'.stamp? = some stamp) (hr : condition.Gives e c r) (ht : r.success = true)
    (hn : cache.find? (condition.keyOf stamp) = none) :
    (condition.lookUp e c' true (condition.lookUp e c true cache).1).2 = ⟨[], some (.ok r)⟩ := by
  have hk : c.cacheKey? condition.id = some (condition.keyOf stamp) := by
    rw [cacheKey?_eq, hs]
    rfl
  have hk' : c'.cacheKey? condition.id = some (condition.keyOf stamp) := by
    rw [cacheKey?_eq, hs']
    rfl
  have hkept : (condition.lookUp e c true cache).1.find? (condition.keyOf stamp) = some r := by
    have hr : (condition.evaluate e c).value = some (.ok r) := hr
    simp only [lookUp, if_true, hk, Cache.get, hn, hr, remember, ht]
    exact Cache.find?_set
  have hk' : condition.remembered? c' true (condition.lookUp e c true cache).1 = some r := by
    rw [remembered?, if_pos rfl, hk', Option.bind_some, hkept]
  rw [lookUp_run, hk']
  rfl

end Condition

namespace Gate

open Condition

variable {limits : Limits} {g : Gate} {a : Action}

-- A gate whose evaluator works, and whose cache knows these conditions from these contexts only.
structure Remembers (e : Engine) (limits : Limits) (conditions : List Condition)
    (seen : List Context) (g : Gate) : Prop where
  engine  : g.engine = e
  limits  : g.limits = limits
  works   : g.refusal = none
  sourced : Sourced e conditions seen g.cache

theorem Remembers.mono {more : List Context} (h : Remembers e limits conditions seen g)
    (hs : seen ⊆ more) : Remembers e limits conditions more g :=
  { h with sourced := h.sourced.mono hs }

theorem evaluate_remembers (h : Remembers e limits conditions seen g) (ha : Apart conditions)
    (hm : condition ∈ conditions) (hc : c ∈ seen) (useCache : Bool) :
    Remembers e limits conditions seen (g.evaluate c useCache condition).1 := by
  unfold evaluate
  split
  case h_1 => exact h
  case h_2 =>
    have hs := lookUp_sourced h.sourced ha hm hc useCache
    exact { h with sourced := by simpa only [h.engine] using hs }

theorem evaluate_from (h : Remembers e limits conditions seen g) (hm : condition ∈ conditions)
    (hr : condition.Gives e c r) (useCache : Bool) :
    ∃ calls r, (g.evaluate c useCache condition).2 = ⟨calls, some (.ok r)⟩ ∧
      condition.From e seen c r := by
  unfold evaluate
  rw [h.works, h.engine]
  exact lookUp_from h.sourced hm hr useCache

theorem evaluateAll_remembers {chosen : List Condition} (options : Options)
    (h : Remembers e limits conditions seen g) (ha : Apart conditions) (hs : chosen ⊆ conditions)
    (hc : c ∈ seen) : Remembers e limits conditions seen (evaluateAll options c g chosen).1 := by
  induction chosen generalizing g
  case nil => exact h
  case cons condition rest hi =>
    have ⟨hm, hs⟩ := List.cons_subset.mp hs
    have h := evaluate_remembers h ha hm hc options.cacheResults
    rw [evaluateAll]
    split
    case h_1 he => simpa only [he] using h
    case h_2 he => simpa only [he] using h
    case h_3 he =>
      rw [he] at h
      split
      case isTrue  => exact h
      case isFalse => exact hi h hs

-- Without stopping, each condition gets a result, though not always one of its own.
theorem evaluateAll_from {options : Options} {chosen : List Condition}
    (h : Remembers e limits conditions seen g) (ha : Apart conditions) (hs : chosen ⊆ conditions)
    (hc : c ∈ seen) (hall : ∀ passed, options.mode.stopsAt options.stopOnFirstFailure passed = false)
    (hr : ∀ condition ∈ conditions, ∃ r, condition.Gives e c r) :
    ∃ calls rs, (evaluateAll options c g chosen).2 = ⟨calls, some (.ok rs)⟩ ∧
      List.Forall₂ (From e seen c) chosen rs := by
  induction chosen generalizing g
  case nil => exact ⟨[], [], rfl, .nil⟩
  case cons condition rest hi =>
    have ⟨hm, hs⟩ := List.cons_subset.mp hs
    have ⟨r, hgives⟩ := hr condition hm
    have h' := evaluate_remembers h ha hm hc options.cacheResults
    have ⟨calls, r, he, hf⟩ := evaluate_from h hm hgives options.cacheResults
    have ⟨calls', rs, he', hrs⟩ := hi h' hs
    refine ⟨calls ++ calls', r :: rs, ?_, .cons hf hrs⟩
    have he : g.evaluate c options.cacheResults condition =
        ((g.evaluate c options.cacheResults condition).1, ⟨calls, some (.ok r)⟩) := Prod.ext rfl he
    rw [evaluateAll, he]
    simp [hall, he', Except.map]

theorem run_remembers (h : Remembers e limits a.conditions seen g) (ha : Apart a.conditions)
    (hc : c ∈ seen) : Remembers e limits a.conditions seen (g.run c a).1 := by
  rw [run_fst]
  exact evaluateAll_remembers a.options h ha (fun _ hm => hm) hc

-- Recording a decision touches nothing but the record.
theorem settle_eq (outcome : Except Fault Decision) :
    ∃ audit, (g.settle c a outcome).1 = { g with audit } := by
  unfold settle
  dsimp only
  split
  case h_1 => exact ⟨g.audit, rfl⟩
  case h_2 => exact keep_gate

theorem settle_remembers {outcome : Except Fault Decision}
    (h : Remembers e limits conditions seen g) :
    Remembers e limits conditions seen (g.settle c a outcome).1 := by
  have ⟨audit, hs⟩ := settle_eq (g := g) (c := c) (a := a) outcome
  exact hs ▸ ⟨h.engine, h.limits, h.works, h.sourced⟩

theorem decide_remembers (h : Remembers e limits a.conditions seen g) (ha : Apart a.conditions)
    (hc : c ∈ seen) : Remembers e limits a.conditions seen (g.decide c a).1 := by
  have hr := run_remembers h ha hc
  unfold decide
  split
  case h_1 => exact settle_remembers h
  case h_2 =>
    split
    case isTrue => exact settle_remembers h
    case isFalse =>
      split
      case h_1 hg => simpa only [hg] using hr
      case h_2 hg => exact settle_remembers (by simpa only [hg] using hr)

-- The gate after an action was decided in these contexts, one after the other.
def after (g : Gate) (a : Action) (cs : List Context) : Gate :=
  cs.foldl (fun g c => (g.execute c (.action a)).1) g

theorem after_remembers (h : Remembers e limits a.conditions seen g) (ha : Apart a.conditions)
    (cs : List Context) :
    Remembers e limits a.conditions (seen ++ cs) (g.after a cs) := by
  -- a context counts as seen before its own step, since the step puts its results into the cache
  induction cs generalizing g seen
  case nil => exact h.mono (List.subset_append_left ..)
  case cons c rest hi =>
    have h : Remembers e limits a.conditions (seen ++ [c]) g := h.mono (List.subset_append_left ..)
    have h := hi (decide_remembers h ha (c := c) (by simp))
    rwa [List.append_assoc] at h

-- A gate that has kept nothing of the conditions of an action.
def Forgets (g : Gate) (a : Action) : Prop :=
  ∀ condition ∈ a.conditions, ∀ stamp r, (condition.keyOf stamp, r) ∉ g.cache.entries

theorem remembers_of_forgets (hf : g.Forgets a) (hw : g.refusal = none) :
    Remembers g.engine g.limits a.conditions [] g :=
  ⟨rfl, rfl, hw, fun condition hm stamp r hr => absurd hr (hf condition hm stamp r)⟩

-- An action that is not blocked is decided by such results.
theorem decide_from (h : Remembers e limits a.conditions seen g) (ha : Apart a.conditions)
    (hv : a.Valid) (hu : a.Unblocked limits (some e.registry.functionNames))
    (hall : ∀ passed, a.options.mode.stopsAt a.options.stopOnFirstFailure passed = false)
    (hr : ∀ condition ∈ a.conditions, ∃ r, condition.Gives e c r) :
    ∃ calls rs d, (g.decide c a).2 = ⟨calls, some (.ok d)⟩ ∧
      List.Forall₂ (From e seen c) a.conditions rs ∧
      Sums a rs (runGroups e c a.filters).value d := by
  have h := h.mono (List.subset_cons_self c seen)
  have ⟨calls, rs, he, hf⟩ := evaluateAll_from h ha (fun _ hm => hm) List.mem_cons_self hall hr
  rw [← h.limits, ← h.engine] at hu
  have ⟨calls, d, hd, hs, _⟩ := decide_of_evaluateAll hv hu he
  exact ⟨calls, rs, d, hd, hf.imp fun _ _ h => h.of_cons, h.engine ▸ hs⟩

-- An action that is blocked takes the error branch.
theorem decide_blocked (hv : a.Valid)
    (hu : ¬a.Unblocked g.limits (some g.engine.registry.functionNames)) :
    ∃ calls d, (g.decide c a).2 = ⟨calls, some (.ok d)⟩ ∧ d.way = .onError := by
  have hc := Action.countFault?_of_valid hv
  cases hr : a.check g.limits (some g.engine.registry.functionNames)
  case error fault =>
    obtain ⟨d, hd, hx⟩ := settle_fault (g := g) (c := c) hc fault
    exact ⟨[], d, by simp [decide, hr, hd, Run.pure], hx.way⟩
  case ok report =>
    have hi : report.isValid = false := by simpa [Action.Unblocked, hr] using hu
    obtain ⟨d, hd, hx⟩ := refuseAction_refused (g := g) (c := c) hc report.messages
    obtain ⟨errors, hs⟩ := settle_ok (g := g) (c := c) (a := a) (d := d)
    exact ⟨[], { d with errors }, by simp [decide, hr, hi, hd, hs, Run.pure], hx.way⟩

-- What an action with one condition leaves of a gate, and the result that it goes by.
theorem evaluateAll_single {options : Options} (hw : g.refusal = none) :
    (g.evaluateAll options c [condition]).1 =
        { g with cache := (condition.lookUp g.engine c options.cacheResults g.cache).1 } ∧
      ∀ calls r, (condition.lookUp g.engine c options.cacheResults g.cache).2 =
          ⟨calls, some (.ok r)⟩ →
        (g.evaluateAll options c [condition]).2 = ⟨calls, some (.ok [r])⟩ := by
  have he : g.evaluate c options.cacheResults condition =
      ({ g with cache := (condition.lookUp g.engine c options.cacheResults g.cache).1 },
        (condition.lookUp g.engine c options.cacheResults g.cache).2) := by
    simp only [evaluate, hw]
  generalize condition.lookUp g.engine c options.cacheResults g.cache = found at he ⊢
  rcases found with ⟨cache, calls, outcome⟩
  rw [evaluateAll, he]
  rcases outcome with _ | _ | r
  case none       => exact ⟨rfl, fun _ _ h => by cases h⟩
  case some.error => exact ⟨rfl, fun _ _ h => by cases h⟩
  case some.ok =>
    cases h : options.mode.stopsAt options.stopOnFirstFailure r.passed <;>
      simp [h, evaluateAll, Except.map, Run.pure]

theorem decide_single (hw : g.refusal = none) (hs : a.conditions = [condition])
    (hu : a.Unblocked g.limits (some g.engine.registry.functionNames)) :
    ∃ audit, (g.decide c a).1 =
      { g with cache := (condition.lookUp g.engine c a.options.cacheResults g.cache).1, audit } := by
  have hr := run_fst g c a
  rw [hs, (evaluateAll_single hw).left] at hr
  have ⟨report, hc, hvalid⟩ := hu
  unfold decide
  simp only [hc, hvalid, Bool.not_true, Bool.false_eq_true, if_false]
  split
  case h_1 g' _ hg =>
    have hr : g' = _ := hg ▸ hr
    subst hr
    exact ⟨g.audit, rfl⟩
  case h_2 g' _ outcome hg =>
    have hr : g' = _ := hg ▸ hr
    subst hr
    exact settle_eq outcome

-- An action with one condition, whose result is kept, is decided by it again in any other context
-- with the same stamp.
theorem decide_again {c' : Context} {stamp : String} (hw : g.refusal = none) (hv : a.Valid)
    (hu : a.Unblocked g.limits (some g.engine.registry.functionNames))
    (hs : a.conditions = [condition]) (hk : a.options.cacheResults = true) (hf : g.Forgets a)
    (hc : c.stamp? = some stamp) (hc' : c'.stamp? = some stamp) (hr : condition.Gives g.engine c r)
    (ht : r.success = true) :
    ∃ calls d, ((g.decide c a).1.decide c' a).2 = ⟨calls, some (.ok d)⟩ ∧
      Sums a [r] (runGroups g.engine c' a.filters).value d := by
  have ⟨audit, hg⟩ := decide_single (c := c) hw hs hu
  have hn : g.cache.find? (condition.keyOf stamp) = none := by
    cases h : g.cache.find? (condition.keyOf stamp)
    case none => rfl
    case some r => exact absurd (Cache.mem_of_find? h) (hf condition (by simp [hs]) stamp r)
  have hl := lookUp_again hc hc' hr ht hn
  rw [← hk] at hl
  have he := hs ▸ (evaluateAll_single (g := (g.decide c a).1) (by rw [hg]; exact hw)).right _ _
    (by rw [hg]; exact hl)
  have ⟨calls, d, hd, hx, _⟩ :=
    decide_of_evaluateAll (g := (g.decide c a).1) hv (by rw [hg]; exact hu) he
  exact ⟨calls, d, hd, by rw [hg] at hx; exact hx⟩

end Gate

end FlowGate
