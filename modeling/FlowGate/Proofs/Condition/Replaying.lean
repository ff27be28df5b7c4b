import FlowGate.Proofs.Condition.Evaluation
import FlowGate.Proofs.Condition.Stalling
import FlowGate.Proofs.Condition.Unchecked

-- What evaluating a valid condition comes to can be told from what the condition means and from the leaves
-- that evaluation gets to, even where the function of one of these never answers.

namespace FlowGate.Condition

open Value

variable {e : Engine} {c : Context} {condition : Condition} {children : List Condition} {k : Connective}

-- The calls that evaluation makes.
def calls (e : Engine) (c : Context) (condition : Condition) : List Call :=
  (condition.evaluate e c).calls

-- Evaluation never comes to an end.
def Waits (e : Engine) (c : Context) (condition : Condition) : Prop :=
  (condition.evaluate e c).value = none

-- Where evaluation ends, the result shows what the condition means. Where it does not, the condition means
-- a fault, since nothing is evaluated after it either.
inductive Ending (e : Engine) (c : Context) (condition : Condition) : Prop
  | answers {r}
    (value : (condition.evaluate e c).value = some (.ok r))
    (shows : r.Shows (condition.meaning e c))
  | waits
    (value : condition.Waits e c)
    (fault : (condition.meaning e c).isFault = true)

structure Replays (e : Engine) (c : Context) (condition : Condition) : Prop where
  ending : condition.Ending e c
  calls  : condition.calls e c = (condition.reached e c).flatMap (Condition.calls e c)
  silent : condition.Waits e c ↔ ∃ leaf ∈ condition.reached e c, leaf.Waits e c

theorem Ending.of_evaluates (h : Evaluates e c condition) : condition.Ending e c :=
  have ⟨_, _, he, hr, _⟩ := h
  .answers (by rw [he]) hr.shows

theorem Ending.isFault_of_waits (h : condition.Ending e c) (hw : condition.Waits e c) :
    (condition.meaning e c).isFault = true := by
  cases h
  case answers hv _ => cases hv.symm.trans hw
  case waits hf     => exact hf

theorem Ending.replays_leaf (h : condition.Ending e c) (hl : condition.isLeaf = true) :
    Replays e c condition := by
  have hr : condition.reached e c = [condition] := by
    cases condition
    case complex => cases hl
    all_goals rfl
  exact ⟨h, by simp [hr], by simp [hr]⟩

theorem call_cases (e : Engine) (c : Context) (name : String) (params : Value) :
    (∃ answer, (call e c (text name) params).value = some answer ∧
      meetsFunction e c params (text name) = .ofAnswer answer) ∨
    ((call e c (text name) params).value = none ∧
      (meetsFunction e c params (text name)).isFault = true) := by
  simp only [call, meetsFunction]
  cases e.registry.function? name
  case none => exact .inl ⟨_, rfl, rfl⟩
  case some f =>
    cases hv : f e.comparer.now c params
    case value v     => exact .inl ⟨.ok v.truthy, by simp [hv], by simp [hv, Outcome.ofAnswer]⟩
    case fault fault => exact .inl ⟨.error fault, by simp [hv], by simp [hv, Outcome.ofAnswer]⟩
    case never       => exact .inr ⟨by simp [hv], by simp [hv, Outcome.isFault]⟩

theorem ending_custom {header : Header} {function params : Value} (hf : function.IsName) :
    (custom header function params).Ending e c := by
  obtain ⟨name, _, rfl⟩ := hf
  rcases call_cases e c name params with ⟨answer, hv, hm⟩ | ⟨hv, hm⟩
  case inl =>
    refine .answers (by rw [evaluate, Run.map, hv, Option.map_some]) ?_
    rw [meaning, hm]
    exact conclude_shows
  case inr => exact .waits (by rw [Waits, evaluate, Run.map, hv, Option.map_none]) hm

-- What goes for the children as far as they are evaluated goes for the sweep over them.
structure Sweeps (e : Engine) (c : Context) (k : Connective) (children : List Condition) : Prop where
  calls   : (evaluateUntil e c k.decides children).calls =
    (evaluated e c k children).flatMap (Condition.calls e c)
  silent  : (evaluateUntil e c k.decides children).value = none ↔
    ∃ child ∈ evaluated e c k children, child.Waits e c
  failure : ∀ sweep, (evaluateUntil e c k.decides children).value = some sweep →
    sweep.failure = ((evaluated e c k children).map (meaning e c)).findSome? Outcome.fault?
  results : ∀ sweep, (evaluateUntil e c k.decides children).value = some sweep → sweep.failure = none →
    sweep.results.map (·.result) = ((evaluated e c k children).map (meaning e c)).map Outcome.truth

-- The sweep stops at a child that settles the matter, with its fault if it has one.
theorem evaluateUntil_settled {child : Condition} {rest : List Condition} {r : ConditionResult}
    (hv : (child.evaluate e c).value = some (.ok r)) (hr : r.Shows (child.meaning e c))
    (hs : k.settles (child.meaning e c) = true) :
    evaluateUntil e c k.decides (child :: rest) =
      ⟨child.calls e c, some ⟨[r], (child.meaning e c).fault?⟩⟩ := by
  rw [evaluateUntil, Run.bind, hv, calls]
  cases hm : child.meaning e c
  case faults es =>
    rw [hm] at hr
    simp [hr.success, hr.errors, Outcome.isFault, Outcome.errors, Outcome.fault?, Run.pure]
  all_goals
    rw [hm] at hr hs
    have hd : k.decides r.result = true := by
      rw [hr.result, ← Connective.settles_ofBool, Outcome.ofBool_truth rfl, hs]
    simp [hr.success, hd, Outcome.isFault, Outcome.fault?, Run.pure]

theorem evaluateUntil_unsettled {child : Condition} {rest : List Condition} {r : ConditionResult}
    (hv : (child.evaluate e c).value = some (.ok r)) (hr : r.Shows (child.meaning e c))
    (hs : k.settles (child.meaning e c) = false) :
    evaluateUntil e c k.decides (child :: rest) =
      ⟨child.calls e c ++ (evaluateUntil e c k.decides rest).calls,
        (evaluateUntil e c k.decides rest).value.map (Sweep.cons r)⟩ := by
  have hf := Connective.isFault_of_not_settles hs
  have hd : k.decides r.result = false := by
    rw [hr.result, ← Connective.settles_ofBool, Outcome.ofBool_truth hf, hs]
  rw [evaluateUntil, Run.bind, hv, calls]
  simp [hr.success, hf, hd, Run.map]

theorem sweeps (h : ∀ child ∈ children, child.Ending e c) : Sweeps e c k children := by
  induction children
  case nil =>
    refine ⟨rfl, by simp [evaluateUntil, evaluated, through, Run.pure], ?_, ?_⟩ <;> rintro _ ⟨⟩
    all_goals simp [evaluated, through]
  case cons child rest hi =>
    obtain ⟨hchild, hrest⟩ := List.forall_mem_cons.mp h
    have hi := hi hrest
    cases hs : k.settles (child.meaning e c)
    case true =>
      have he : evaluated e c k (child :: rest) = [child] := by simp [evaluated, through, hs]
      cases hchild
      case waits hw _ =>
        rw [Waits] at hw
        constructor <;> simp [evaluateUntil, Run.bind, hw, he, calls, Waits]
      case answers r hv hr =>
        constructor <;> simp [evaluateUntil_settled hv hr hs, he, Waits, hv, hr.result]
    case false =>
      have he : evaluated e c k (child :: rest) = child :: evaluated e c k rest := by
        simp [evaluated, through, hs]
      have hf := Connective.isFault_of_not_settles hs
      cases hchild
      case waits h => cases hf.symm.trans h
      case answers r hv hr =>
        constructor
        case calls  => simp [evaluateUntil_unsettled hv hr hs, he, hi.calls]
        case silent => simp [evaluateUntil_unsettled hv hr hs, he, hi.silent, Waits, hv]
        all_goals
          intro sweep h
          rw [evaluateUntil_unsettled hv hr hs] at h
          obtain ⟨more, hmore, rfl⟩ := Option.map_eq_some_iff.mp h
        case failure =>
          have hn := Outcome.fault?_eq_none_iff.mpr hf
          rw [he, List.map_cons, List.findSome?_cons, hn]
          exact hi.failure more hmore
        case results =>
          intro hn
          simp [he, Sweep.cons, hr.result, hi.results more hmore hn]

theorem Sweeps.shows {record : NodeRecord} {sweep : Sweep} (h : Sweeps e c k children)
    (hv : (evaluateUntil e c k.decides children).value = some sweep) :
    (concludeChildren record k sweep).Shows (k.combine (children.map (meaning e c))) := by
  have hfailure := h.failure sweep hv
  cases hf : sweep.failure
  case none =>
    rw [hf] at hfailure
    have hn := Outcome.findSome?_eq_none_iff.mp hfailure.symm
    rw [← combine_evaluated, Connective.combine_of_no_fault hn, ← h.results sweep hv hf, concludeChildren, hf]
    exact conclude_shows
  case some es =>
    rw [hf, map_evaluated] at hfailure
    obtain ⟨_, _, _, hc⟩ := Connective.through_of_fault hfailure.symm
    rw [hc, concludeChildren, hf]
    exact ⟨rfl, rfl, rfl⟩

theorem evaluate_complex (header : Header) (k : Connective) (children : List Condition) :
    ∃ record, (complex header (.known k) children none).evaluate e c =
      Run.map (fun sweep => .ok (concludeChildren record k sweep)) (evaluateUntil e c k.decides children) :=
  evaluate_swept header children rfl

theorem ending_complex {header : Header} (h : ∀ child ∈ children, child.Ending e c) :
    (complex header (.known k) children none).Ending e c := by
  have hsweep := sweeps (k := k) h
  obtain ⟨record, he⟩ := evaluate_complex (e := e) (c := c) header k children
  cases hv : (evaluateUntil e c k.decides children).value
  case some sweep =>
    refine .answers (by rw [he, Run.map, hv, Option.map_some]) ?_
    rw [meaning_complex]
    exact hsweep.shows hv
  case none =>
    refine .waits (by rw [Waits, he, Run.map, hv, Option.map_none]) ?_
    obtain ⟨child, hm, hw⟩ := hsweep.silent.mp hv
    have hf := (h child (through_isPrefix.subset hm)).isFault_of_waits hw
    cases hs : ((evaluated e c k children).map (meaning e c)).findSome? Outcome.fault?
    case none =>
      cases (Outcome.findSome?_eq_none_iff.mp hs _ (List.mem_map_of_mem hm)).symm.trans hf
    case some es =>
      rw [map_evaluated] at hs
      obtain ⟨_, _, _, hc⟩ := Connective.through_of_fault hs
      rw [meaning_complex, hc]
      rfl

theorem replays_complex {header : Header} (h : ∀ child ∈ children, Replays e c child) :
    Replays e c (complex header (.known k) children none) := by
  have hending : ∀ child ∈ children, child.Ending e c := fun child hm => (h child hm).ending
  have hsweep := sweeps (k := k) hending
  obtain ⟨record, he⟩ := evaluate_complex (e := e) (c := c) header k children
  have hm : ∀ child ∈ evaluated e c k children, child ∈ children := through_isPrefix.subset
  refine ⟨ending_complex hending, ?calls, ?silent⟩
  case calls =>
    rw [calls, he, Run.map, hsweep.calls, reached_complex, List.flatMap_assoc]
    exact List.flatMap_congr fun child hc => (h child (hm child hc)).calls
  case silent =>
    rw [Waits, he, Run.map, Option.map_eq_none_iff, hsweep.silent, reached_complex]
    constructor
    · rintro ⟨child, hc, hw⟩
      obtain ⟨leaf, hl, hw⟩ := (h child (hm child hc)).silent.mp hw
      exact ⟨leaf, List.mem_flatMap.mpr ⟨child, hc, hl⟩, hw⟩
    · rintro ⟨leaf, hl, hw⟩
      obtain ⟨child, hc, hl⟩ := List.mem_flatMap.mp hl
      exact ⟨child, hc, (h child (hm child hc)).silent.mpr ⟨leaf, hl, hw⟩⟩

theorem replays (hv : condition.Valid) : Replays e c condition := by
  induction hv
  case simple hfield         => exact (Ending.of_evaluates (evaluates_simple hfield)).replays_leaf rfl
  case filter hgroup         => exact (Ending.of_evaluates (evaluates_filter hgroup)).replays_leaf rfl
  case custom hfunction      => exact (ending_custom hfunction).replays_leaf rfl
  case complex _ _ _ _ hi    => exact replays_complex hi

-- Two runs that cannot be told apart by what they answer and whom they call.
inductive Agree (e : Engine) (c : Context) : (one other : Run (Except Fault ConditionResult)) → Prop
  | answer {calls r s}
    (success : r.success = s.success)
    (result : r.result = s.result)
    (errors : r.errors = s.errors) : Agree e c ⟨calls, some (.ok r)⟩ ⟨calls, some (.ok s)⟩
  | wait {calls}
    (stalls : e.Stalls c calls) : Agree e c ⟨calls, none⟩ ⟨calls, none⟩

-- Valid conditions that mean the same and get to the same leaves cannot be told apart.
theorem agree_of_meaning_eq {one other : Condition} (hone : one.Valid) (hother : other.Valid)
    (hm : one.meaning e c = other.meaning e c) (hr : one.reached e c = other.reached e c) :
    Agree e c (one.evaluate e c) (other.evaluate e c) := by
  have h := replays (e := e) (c := c) hone
  have h' := replays (e := e) (c := c) hother
  have hcalls : one.calls e c = other.calls e c := by rw [h.calls, h'.calls, hr]
  have hsilent : one.Waits e c ↔ other.Waits e c := by rw [h.silent, h'.silent, hr]
  change Agree e c ⟨one.calls e c, (one.evaluate e c).value⟩ ⟨other.calls e c, (other.evaluate e c).value⟩
  rw [hcalls]
  cases h.ending
  case waits hw _ =>
    have hw' := hsilent.mp hw
    rw [Waits] at hw hw'
    rw [hw, hw']
    exact .wait (evaluate_ends hw')
  case answers r hv hr =>
    cases h'.ending
    case waits hw _ => cases hv.symm.trans (hsilent.mpr hw)
    case answers s hv' hs =>
      rw [hv, hv']
      rw [hm] at hr
      exact .answer (hr.success.trans hs.success.symm) (hr.result.trans hs.result.symm)
        (hr.errors.trans hs.errors.symm)

end FlowGate.Condition
