import FlowGate.Proofs.Condition.Hanging
import FlowGate.Proofs.Gate.Caching

-- Actions whose evaluation comes to no end: in their order it gets to a condition that hangs. What the
-- conditions before it have left in the cache stays there.

namespace FlowGate.Gate

open Condition

variable {g g' : Gate} {c : Context} {a : Action} {options : Options} {useCache : Bool}
  {condition : Condition} {conditions done : List Condition}

-- Conditions that have got results one after the other, none of which was the last one to be evaluated.
inductive Done (options : Options) (c : Context) : Gate → List Condition → Gate → Prop
  | nil {g : Gate} : Done options c g [] g
  | cons {g g' g'' : Gate} {condition : Condition} {rest : List Condition} {calls : List Call}
      {r : ConditionResult}
      (he : g.evaluate c options.cacheResults condition = (g', ⟨calls, some (.ok r)⟩))
      (hs : options.mode.stopsAt options.stopOnFirstFailure r.passed = false)
      (h : Done options c g' rest g'') : Done options c g (condition :: rest) g''

-- A gate that waits for a condition. It works and does not know the result, and the condition hangs.
structure WaitsFor (g : Gate) (c : Context) (useCache : Bool) (condition : Condition) : Prop where
  works   : g.refusal = none
  unknown : condition.remembered? c useCache g.cache = none
  hangs   : condition.Hangs g.engine c

-- Conditions of which those in front are done when the gate waits for the next one.
structure Waits (options : Options) (c : Context) (g : Gate) (conditions done : List Condition) (g' : Gate)
    (condition : Condition) : Prop where
  order : ∃ rest, conditions = done ++ condition :: rest
  done  : Done options c g done g'
  waits : g'.WaitsFor c options.cacheResults condition

theorem evaluate_eq_none_iff :
    (g.evaluate c useCache condition).2.value = none ↔ g.WaitsFor c useCache condition := by
  have hiff : g.WaitsFor c useCache condition ↔ g.refusal = none ∧
      condition.remembered? c useCache g.cache = none ∧ condition.Hangs g.engine c :=
    ⟨fun h => ⟨h.works, h.unknown, h.hangs⟩, fun h => ⟨h.left, h.right.left, h.right.right⟩⟩
  rw [hiff, evaluate]
  split
  case h_1 hr => simp [hr, Run.pure]
  case h_2 hr =>
    rw [lookUp_run]
    cases condition.remembered? c useCache g.cache
    case some r => simp [Run.pure]
    case none   => simp [hr, Condition.evaluate_eq_none_iff]

theorem WaitsFor.evaluate_entries (h : g.WaitsFor c useCache condition) :
    (g.evaluate c useCache condition).1.cache.entries = g.cache.entries := by
  have hn := Condition.evaluate_eq_none_iff.mpr h.hangs
  rw [evaluate, h.works]
  cases hk : condition.key? c useCache
  case none => exact congrArg (·.1.entries) (lookUp_keyless hk)
  case some key =>
    have hu : (condition.key? c useCache).bind g.cache.find? = none := h.unknown
    rw [hk, Option.bind_some] at hu
    dsimp only
    rw [lookUp_miss hk hu, hn, remember_eq]
    simp [success?, Cache.get, hu]

-- Going through conditions comes to no end only where the gate waits for one of them.
theorem evaluateAll_eq_none_iff : (evaluateAll options c g conditions).2.value = none ↔
    ∃ done g' condition, Waits options c g conditions done g' condition := by
  constructor
  case mp =>
    intro h
    induction conditions generalizing g
    case nil => cases h
    case cons condition rest hi =>
      rw [evaluateAll] at h
      split at h
      case h_1 he =>
        exact ⟨[], g, condition, ⟨rest, rfl⟩, .nil, evaluate_eq_none_iff.mp (by rw [he])⟩
      case h_2 => cases h
      case h_3 he =>
        split at h
        case isTrue     => cases h
        case isFalse hs =>
          obtain ⟨done, g', last, hw⟩ := hi (Option.map_eq_none_iff.mp h)
          obtain ⟨back, rfl⟩ := hw.order
          exact ⟨condition :: done, g', last, ⟨back, rfl⟩, .cons he (by simpa using hs) hw.done, hw.waits⟩
  case mpr =>
    rintro ⟨done, g', condition, ⟨rest, rfl⟩, hd, hw⟩
    induction hd
    case nil =>
      have hn := evaluate_eq_none_iff.mpr hw
      rw [List.nil_append, evaluateAll]
      split <;> simp_all
    case cons he hs _ hi => simp [evaluateAll, he, hs, hi hw]

-- What is kept when a gate has to wait is what was kept before the condition it waits for.
theorem Waits.evaluateAll_entries (h : Waits options c g conditions done g' condition) :
    (evaluateAll options c g conditions).1.cache.entries = g'.cache.entries := by
  obtain ⟨⟨rest, rfl⟩, hd, hw⟩ := h
  induction hd
  case nil g =>
    have hn := evaluate_eq_none_iff.mpr hw
    have hk := hw.evaluate_entries
    rw [List.nil_append, evaluateAll]
    split <;> simp_all
  case cons he hs _ hi => simp [evaluateAll, he, hs, hi hw]

-- A condition that has become known in the meantime, with its own result.
def Learnt (g : Gate) (c : Context) (useCache : Bool) (conditions : List Condition)
    (entry : String × ConditionResult) : Prop :=
  ∃ condition ∈ conditions, condition.key? c useCache = some entry.1 ∧
    condition.Gives g.engine c entry.2 ∧ entry.2.success = true

theorem entry_of_evaluate {entry : String × ConditionResult}
    (h : entry ∈ (g.evaluate c useCache condition).1.cache.entries) :
    entry ∈ g.cache.entries ∨ g.Learnt c useCache [condition] entry := by
  unfold evaluate at h
  split at h
  case h_1 => exact .inl h
  case h_2 =>
    rcases entry_of_lookUp h with h | ⟨hk, _, hv, hs⟩
    case inl => exact .inl h
    case inr => exact .inr ⟨condition, List.mem_singleton_self _, hk, hv, hs⟩

theorem Done.entry {entry : String × ConditionResult} (h : Done options c g done g')
    (hm : entry ∈ g'.cache.entries) :
    entry ∈ g.cache.entries ∨ g.Learnt c options.cacheResults done entry := by
  induction h
  case nil => exact .inl hm
  case cons g g₁ _ condition rest _ _ he _ _ hi =>
    have hg := evaluate_engine g c options.cacheResults condition
    rw [he] at hg
    rcases hi hm with hm | ⟨other, ho, hk, hv, hs⟩
    case inr => exact .inr ⟨other, .tail _ ho, hk, by rwa [← hg], hs⟩
    case inl =>
      rcases entry_of_evaluate (c := c) (by rwa [he]) with hm | ⟨other, ho, hl⟩
      case inl => exact .inl hm
      case inr => exact .inr ⟨other, List.mem_singleton.mp ho ▸ List.mem_cons_self, hl⟩

-- An action for which a gate has to wait. Its check does not block it.
structure HangsAt (g : Gate) (c : Context) (a : Action) (done : List Condition) (g' : Gate)
    (condition : Condition) : Prop where
  unblocked : a.Unblocked g.limits (some g.engine.registry.functionNames)
  waits     : Waits a.options c g a.conditions done g' condition

theorem run_eq_none_iff : (g.run c a).2.value = none ↔
    ∃ done g' condition, Waits a.options c g a.conditions done g' condition := by
  rw [← evaluateAll_eq_none_iff, run_value]
  rcases (evaluateAll a.options c g a.conditions).2.value with _ | _ | _ <;> simp [judge]

theorem decide_eq_none_iff : (g.decide c a).2.value = none ↔
    ∃ done g' condition, g.HangsAt c a done g' condition := by
  have hiff : (∃ done g' condition, g.HangsAt c a done g' condition) ↔
      a.Unblocked g.limits (some g.engine.registry.functionNames) ∧ (g.run c a).2.value = none := by
    rw [run_eq_none_iff]
    constructor
    case mp =>
      rintro ⟨done, g', condition, h⟩
      exact ⟨h.unblocked, done, g', condition, h.waits⟩
    case mpr =>
      rintro ⟨hu, done, g', condition, h⟩
      exact ⟨done, g', condition, hu, h⟩
  rw [hiff, decide, Action.Unblocked]
  cases a.check g.limits (some g.engine.registry.functionNames)
  case error fault => simp [Run.pure]
  case ok report   =>
    cases hv : report.isValid
    case false => simp [hv, Run.pure]
    case true  => rcases g.run c a with ⟨_, _, _ | _⟩ <;> simp [hv]

theorem HangsAt.decide_eq (h : g.HangsAt c a done g' condition) :
    ∃ cache, (g.decide c a).1 = { g with cache } ∧ cache.entries = g'.cache.entries := by
  have ⟨report, hc, hv⟩ := h.unblocked
  have hn := run_eq_none_iff.mpr ⟨done, g', condition, h.waits⟩
  have hk := h.waits.evaluateAll_entries
  have ⟨cache, hg⟩ := run_gate g c a
  rw [← run_fst, hg] at hk
  refine ⟨cache, ?_, hk⟩
  rw [decide, hc]
  generalize g.run c a = run at hn hg
  rcases run with ⟨g'', calls, _ | _⟩
  case none => simpa [hv] using hg
  case some => cases hn

end FlowGate.Gate
