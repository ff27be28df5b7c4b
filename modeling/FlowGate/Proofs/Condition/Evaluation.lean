import FlowGate.Condition.Lookup
import FlowGate.Proofs.Condition.Meaning
import FlowGate.Proofs.Engine
import FlowGate.Proofs.Filter.Calls
import FlowGate.Proofs.Filter.Evaluation

-- Evaluating a valid condition reports what it means, node by node, and asks exactly the functions
-- of the leaves that it gets to.

namespace FlowGate

open Value

structure ConditionResult.Shows (r : ConditionResult) (o : Outcome) : Prop where
  success : r.success = !o.isFault
  result  : r.result = o.truth
  errors  : r.errors = o.errors

namespace Condition

-- The result of a node shows what the node means. It has those of the evaluated children under it,
-- just as these would be on their own, and nothing else. Where the node faults, the last of them is
-- the reason.
inductive Reports (e : Engine) (c : Context) : Condition → ConditionResult → Prop
  | leaf {condition r}
    (kind : condition.isLeaf = true)
    (own : (condition.evaluate e c).value = some (.ok r))
    (id : r.record.conditionId = condition.id)
    (shows : r.Shows (condition.meaning e c))
    (alone : r.subResults = []) : Reports e c condition r
  | node {header k children stray r}
    (own : (evaluate e c (complex header (.known k) children stray)).value = some (.ok r))
    (id : r.record.conditionId = header.id)
    (shows : r.Shows (meaning e c (complex header (.known k) children stray)))
    (parts : List.Forall₂ (Reports e c) (evaluated e c k children) r.subResults)
    (reason : r.success = false →
      ∃ last, r.subResults.getLast? = some last ∧ last.success = false ∧ last.errors = r.errors) :
    Reports e c (complex header (.known k) children stray) r

variable {e : Engine} {c : Context} {condition : Condition} {children : List Condition}

theorem Reports.shows {r : ConditionResult} :
    Reports e c condition r → r.Shows (condition.meaning e c)
  | leaf _ _ _ h _ | node _ _ h _ _ => h

theorem Reports.results_eq {rs : List ConditionResult}
    (h : List.Forall₂ (Reports e c) children rs) :
    rs.map (·.result) = (children.map (meaning e c)).map Outcome.truth := by
  induction h
  case nil => rfl
  case cons h _ hi => simp [hi, h.shows.result]

theorem conclude_shows {record : NodeRecord} {subResults : List ConditionResult}
    {answer : Except Fault Bool} :
    (conclude record subResults answer).Shows (.ofAnswer answer) := by
  cases answer
  case error => exact ⟨rfl, rfl, rfl⟩
  case ok b =>
    exact ⟨by simp [conclude, Outcome.ofAnswer, Outcome.isFault_ofBool],
      Outcome.truth_ofBool.symm, Outcome.errors_ofBool.symm⟩

theorem Reports.of_answer {record : NodeRecord} {answer : Except Fault Bool}
    (hl : condition.isLeaf = true)
    (ho : (condition.evaluate e c).value = some (.ok (conclude record [] answer)))
    (hi : record.conditionId = condition.id) (hm : condition.meaning e c = .ofAnswer answer) :
    Reports e c condition (conclude record [] answer) := by
  refine .leaf hl ho ?_ (hm ▸ conclude_shows) ?_ <;> cases answer
  case refine_1.ok | refine_1.error => exact hi
  all_goals rfl

-- What evaluating a condition comes to.
def Evaluates (e : Engine) (c : Context) (condition : Condition) : Prop :=
  ∃ calls r, condition.evaluate e c = ⟨calls, some (.ok r)⟩ ∧ Reports e c condition r ∧
    calls.filter Call.isFunction = (condition.reached e c).filterMap (asked? e)

theorem evaluates_simple {header : Header} {field value : Value} {operator : Operator}
    (hf : field.IsName) : Evaluates e c (simple header field (.known operator) value) := by
  have ⟨path, _, hp⟩ := hf
  subst hp
  exact ⟨_, _, rfl, .of_answer rfl rfl rfl rfl, rfl⟩

theorem evaluates_filter {header : Header} {group : FilterGroup} (hg : group.Valid) :
    Evaluates e c (filter header (.known group)) := by
  refine ⟨_, _, rfl, .of_answer rfl rfl rfl ?_, FilterGroup.run_quiet.filter_eq_nil⟩
  simp only [askGroup, Logged.map, FilterGroup.run_passed hg]
  rfl

theorem call_eq (c : Context) (name : String) (params : Value) (ha : e.registry.Answers) :
    ∃ calls answer, call e c (text name) params = ⟨calls, some answer⟩ ∧
      meetsFunction e c params (text name) = .ofAnswer answer ∧
      calls.filter Call.isFunction =
        ((e.registry.function? name).map fun _ => Call.function name).toList := by
  simp only [call, meetsFunction]
  cases hr : e.registry.function? name
  case none => exact ⟨_, _, rfl, rfl, rfl⟩
  case some f =>
    cases hv : f e.comparer.now c params
    case never => exact absurd hv (ha name f hr _ _ _)
    case value v =>
      exact ⟨[.function name], .ok v.truthy, by simp [hv], by simp [hv, Outcome.ofAnswer], rfl⟩
    case fault fault =>
      exact ⟨[.function name], .error fault, by simp [hv], by simp [hv, Outcome.ofAnswer], rfl⟩

theorem evaluates_custom {header : Header} {function params : Value} (ha : e.registry.Answers)
    (hf : function.IsName) : Evaluates e c (custom header function params) := by
  have ⟨name, _, hn⟩ := hf
  subst hn
  have ⟨calls, answer, hcall, hmeaning, hcalls⟩ := call_eq c name params ha
  let record := newRecord (custom header (text name) params) (text "custom")
  have heval : (custom header (text name) params).evaluate e c =
      ⟨calls, some (.ok (conclude record [] answer))⟩ := by
    rw [evaluate, hcall]
    rfl
  refine ⟨calls, _, heval, .of_answer rfl (by rw [heval]) rfl hmeaning, ?_⟩
  · rw [hcalls]
    cases h : e.registry.function? name <;> simp [reached, asked?, h]

-- Going through the children gives the results of those that are evaluated, and the errors of the
-- last of them if it faults.
theorem evaluateUntil_eq {k : Connective} (h : ∀ child ∈ children, Evaluates e c child) :
    ∃ calls results,
      evaluateUntil e c k.decides children = ⟨calls, some ⟨results,
        ((evaluated e c k children).map (meaning e c)).findSome? Outcome.fault?⟩⟩ ∧
      List.Forall₂ (Reports e c) (evaluated e c k children) results ∧
      calls.filter Call.isFunction =
        ((evaluated e c k children).flatMap (reached e c)).filterMap (asked? e) := by
  induction children
  case nil => exact ⟨[], [], rfl, .nil, rfl⟩
  case cons child rest hi =>
    have ⟨⟨calls, r, he, hr, hc⟩, hrest⟩ := List.forall_mem_cons.mp h
    have ⟨calls', results, he', hr', hc'⟩ := hi hrest
    have ⟨hsuccess, hresult, herrors⟩ := hr.shows
    simp only [evaluateUntil, Run.bind, he, Run.pure]
    cases hm : child.meaning e c
    case faults es =>
      have hv : evaluated e c k (child :: rest) = [child] := by
        simp [evaluated, through, hm, Connective.settles_of_isFault (o := .faults es) rfl]
      refine ⟨calls, [r], ?_, hv ▸ .cons hr .nil, by simp [hv, hc]⟩
      simp [hv, hsuccess, herrors, hm, Outcome.isFault, Outcome.errors, Outcome.fault?]
    all_goals
      have hd : k.decides r.result = k.settles (child.meaning e c) := by
        rw [hresult, ← Connective.settles_ofBool, Outcome.ofBool_truth (by rw [hm]; rfl)]
      cases hs : k.settles (child.meaning e c)
      all_goals rw [hs] at hd
    case holds.true | fails.true =>
      have hv : evaluated e c k (child :: rest) = [child] := by simp [evaluated, through, hs]
      refine ⟨calls, [r], ?_, hv ▸ .cons hr .nil, by simp [hv, hc]⟩
      simp [hv, hsuccess, hd, hm, Outcome.isFault, Outcome.fault?]
    case holds.false | fails.false =>
      have hv : evaluated e c k (child :: rest) = child :: evaluated e c k rest := by
        simp [evaluated, through, hs]
      refine ⟨calls ++ calls', r :: results, ?_, hv ▸ .cons hr hr', by simp [hv, hc, hc']⟩
      simp [hv, hsuccess, hd, hm, he', Run.map, Sweep.cons, Outcome.isFault, Outcome.fault?,
        List.findSome?_cons]

theorem concludeChildren_parts (record : NodeRecord) (k : Connective) (sweep : Sweep) :
    (concludeChildren record k sweep).record = record ∧
      (concludeChildren record k sweep).subResults = sweep.results := by
  unfold concludeChildren
  split
  case h_1 => exact ⟨rfl, rfl⟩
  case h_2 => cases k.conclude (sweep.results.map (·.result)) <;> exact ⟨rfl, rfl⟩

-- The result that a parent makes of those of its children.
theorem concludeChildren_shows {k : Connective} {results : List ConditionResult}
    (record : NodeRecord) (hr : List.Forall₂ (Reports e c) (evaluated e c k children) results) :
    (concludeChildren record k
      ⟨results, ((evaluated e c k children).map (meaning e c)).findSome? Outcome.fault?⟩).Shows
      (k.combine (children.map (meaning e c))) := by
  cases hf : ((evaluated e c k children).map (meaning e c)).findSome? Outcome.fault?
  case none =>
    have hn := Outcome.findSome?_eq_none_iff.mp hf
    rw [← combine_evaluated, Connective.combine_of_no_fault hn, ← Reports.results_eq hr]
    exact conclude_shows
  case some es =>
    rw [map_evaluated] at hf
    have ⟨_, _, _, hc⟩ := Connective.through_of_fault hf
    rw [hc]
    exact ⟨rfl, rfl, rfl⟩

theorem Reports.getLast?_eq {child : Condition} {results : List ConditionResult}
    (h : List.Forall₂ (Reports e c) children results) (hl : children.getLast? = some child) :
    ∃ last, results.getLast? = some last ∧ Reports e c child last := by
  induction h
  case nil => cases hl
  case cons r _ _ hr hrest hi =>
    cases hrest
    case nil =>
      cases hl
      exact ⟨r, rfl, hr⟩
    case cons => simpa using hi (by simpa using hl)

-- A complex condition that faults does so because of the child that was evaluated last.
theorem Reports.reason_eq {k : Connective} {results : List ConditionResult} {r : ConditionResult}
    (hne : children ≠ []) (hp : List.Forall₂ (Reports e c) (evaluated e c k children) results)
    (hs : r.Shows (k.combine (children.map (meaning e c)))) (hf : r.success = false) :
    ∃ last, results.getLast? = some last ∧ last.success = false ∧ last.errors = r.errors := by
  cases h : ((evaluated e c k children).map (meaning e c)).findSome? Outcome.fault?
  case none =>
    have hn := Connective.isFault_combine (k := k) (by simpa [evaluated] using through_ne_nil hne)
      (Outcome.findSome?_eq_none_iff.mp h)
    rw [combine_evaluated] at hn
    simp [hs.success, hn] at hf
  case some es =>
    rw [map_evaluated] at h
    obtain ⟨front, ht, _, hc⟩ := Connective.through_of_fault h
    have hl : ((evaluated e c k children).map (meaning e c)).getLast? = some (.faults es) := by
      simp [map_evaluated, ht]
    rw [List.getLast?_map, Option.map_eq_some_iff] at hl
    obtain ⟨child, hl, hm⟩ := hl
    obtain ⟨last, hl, hr⟩ := getLast?_eq hp hl
    refine ⟨last, hl, ?_, ?_⟩
    · rw [hr.shows.success, hm, Outcome.isFault, Bool.not_true]
    · rw [hr.shows.errors, hs.errors, hm, hc]

theorem evaluates_complex {header : Header} {k : Connective} (hne : children ≠ [])
    (h : ∀ child ∈ children, Evaluates e c child) :
    Evaluates e c (complex header (.known k) children none) := by
  have ⟨calls, results, he, hp, hc⟩ := evaluateUntil_eq (k := k) h
  let record := newRecord (complex header (.known k) children none) (text k.name)
  have hs := concludeChildren_shows record hp
  generalize hsweep : Sweep.mk results _ = sweep at hs he
  have ⟨hrecord, hparts⟩ := concludeChildren_parts record k sweep
  have heval : (complex header (.known k) children none).evaluate e c =
      ⟨calls, some (.ok (concludeChildren record k sweep))⟩ := by
    simp only [evaluate, label, slotLabel, Connective.ofSlot, Connective.strayChildren, he]
    rfl
  have hparts : (concludeChildren record k sweep).subResults = results := by
    rw [hparts, ← hsweep]
  refine ⟨calls, _, heval, .node (by rw [heval]) ?_ (meaning_complex ▸ hs) (hparts ▸ hp) ?_, ?_⟩
  · rw [hrecord]
    rfl
  · rw [hparts]
    exact Reports.reason_eq hne hp hs
  · rw [hc, reached_complex]

theorem evaluates (hv : condition.Valid) (ha : e.registry.Answers) : Evaluates e c condition := by
  induction hv
  case simple hfield           => exact evaluates_simple hfield
  case filter hgroup           => exact evaluates_filter hgroup
  case custom hfunction        => exact evaluates_custom ha hfunction
  case complex _ _ hne _ hi    => exact evaluates_complex hne hi

end Condition

end FlowGate
