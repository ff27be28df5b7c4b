import FlowGate.Proofs.Action.Ready
import FlowGate.Proofs.Condition.Evaluation
import FlowGate.Proofs.Context

-- The documents of condition results. Each result in a tree of results shows the node that was evaluated and,
-- for a comparison, the two values.

namespace FlowGate

open Value

variable {q : ClockTime → Prop}

structure NodeRecord.Legible (q : ClockTime → Prop) (r : NodeRecord) : Prop where
  conditionId : r.conditionId.PlainBut q
  kind        : r.kind.PlainBut q
  operator    : r.operator.PlainBut q
  field       : r.field.PlainBut q
  expected    : r.expected.TimesIn q
  actual      : r.actual.TimesIn q

namespace ConditionResult

variable {r : ConditionResult} {rs : List ConditionResult} {record : NodeRecord}

mutual

-- Induction over a tree of results.
theorem bySubResults {motive : ConditionResult → Prop}
    (node : ∀ r : ConditionResult, (∀ sub ∈ r.subResults, motive sub) → motive r) : ∀ r, motive r
  | ⟨_, _, _, subResults, _⟩ => node _ (bySubResults_among node subResults)

theorem bySubResults_among {motive : ConditionResult → Prop}
    (node : ∀ r : ConditionResult, (∀ sub ∈ r.subResults, motive sub) → motive r) :
    ∀ rs : List ConditionResult, ∀ r ∈ rs, motive r
  | []        => List.forall_mem_nil _
  | r :: rest => List.forall_mem_cons.mpr ⟨bySubResults node r, bySubResults_among node rest⟩

end

theorem documents_eq : documents rs = rs.map document := by
  induction rs <;> simp [documents, *]

theorem document_eq : r.document = Value.record (
    [("success", bool r.success), ("result", bool r.result),
     ("metadata", Value.record (recordFields r.record ++
       if r.subResults.isEmpty then [] else [("subResults", list (r.subResults.map document))]))] ++
    if r.errors.isEmpty then [] else [("errors", texts r.errors)]) := by
  obtain ⟨success, result, record, subResults, errors⟩ := r
  simp [document, documents_eq]

theorem document_plainBut (h : ∀ s, r.Holds s → s.record.Legible q) : r.document.PlainBut q := by
  induction r using bySubResults
  case node r hi =>
    have hr := h r .self
    have hs : (list (r.subResults.map document)).PlainBut q :=
      .list (List.forall_mem_map.mpr fun sub hm => hi sub hm fun s hs => h s (.under hm hs))
    rw [document_eq]
    refine plainBut_record_append (by simp) ?_ (plainBut_texts _)
    simp only [List.forall_mem_cons]
    refine ⟨plainBut_bool _, plainBut_bool _, plainBut_record_append (by simp [recordFields]) ?_ hs,
      List.forall_mem_nil _⟩
    simp only [recordFields, List.forall_mem_cons]
    exact ⟨hr.conditionId, hr.kind, hr.operator, hr.field, Json.document_plainBut hr.expected,
      Json.document_plainBut hr.actual, List.forall_mem_nil _⟩

end ConditionResult

namespace Condition

variable {e : Engine} {c : Context} {node root : Condition} {r : ConditionResult} {record : NodeRecord}
  {label : Value}

-- A node that shows in its record what a document can show.
structure Legible (q : ClockTime → Prop) (node : Condition) : Prop where
  id    : node.id.PlainBut q
  kind  : node.kind.PlainBut q
  label : ∀ v, node.label = .ok v → v.PlainBut q
  field : node.field.PlainBut q
  value : ∀ header field operator v, node = simple header field operator v → v.TimesIn q

theorem newRecord_legible (h : node.Legible q) (hl : label.PlainBut q) :
    (node.newRecord label).Legible q where
  conditionId := h.id
  kind        := h.kind
  operator    := hl
  field       := h.field
  expected    := plainBut_null.timesIn
  actual      := plainBut_null.timesIn

theorem record_conclude {rs : List ConditionResult} {outcome : Except Fault Bool} :
    (conclude record rs outcome).record = record := by
  cases outcome <;> rfl

theorem compare_legible {field value : Value} {operator : Slot Operator} (h : record.Legible q)
    (hc : c.TimesIn q) (hv : value.TimesIn q) :
    (compare e c record field operator value).record.Legible q := by
  unfold compare
  split
  case h_1 path =>
    dsimp only
    have hr : NodeRecord.Legible q
        { record with actual := c.resolveField path, expected := c.resolveValue value } :=
      { h with actual := hc.resolveField path, expected := hc.resolveValue hv }
    split <;> rwa [record_conclude]
  case h_2 => rwa [record_conclude]
  case h_3 => rwa [record_conclude]

-- What evaluating a node leaves of itself.
theorem evaluate_record (h : node.Legible q) (hc : c.TimesIn q)
    (hr : (node.evaluate e c).value = some (.ok r)) : r.record.Legible q := by
  cases node
  case simple header field operator value =>
    rw [evaluate] at hr
    split at hr
    case h_1 => cases hr
    case h_2 label hl =>
      cases hr
      exact compare_legible (newRecord_legible h (h.label label hl)) hc (h.value _ _ _ _ rfl)
  case complex header operator children stray =>
    simp only [evaluate] at hr
    split at hr
    case h_1 => cases hr
    case h_2 label hl =>
      have hn := newRecord_legible h (h.label label hl)
      split at hr
      case h_1 => cases hr; exact hn
      case h_2 => cases hr; exact hn
      case h_3 =>
        obtain ⟨sweep, _, hr⟩ := Option.map_eq_some_iff.mp hr
        cases hr
        rwa [(concludeChildren_parts ..).left]
  case filter =>
    cases hr
    rw [record_conclude]
    exact newRecord_legible h h.kind
  case custom =>
    obtain ⟨outcome, _, hr⟩ := Option.map_eq_some_iff.mp hr
    cases hr
    rw [record_conclude]
    exact newRecord_legible h h.kind
  case foreign id kind label =>
    cases hr
    exact newRecord_legible h (h.label label rfl)

-- Whatever results a result consists of, they are those of nodes of the tree.
theorem evaluate_document {depth : Nat} (h : ∀ p ∈ root.nodes depth, p.2.Legible q) (hc : c.TimesIn q)
    (hr : (root.evaluate e c).value = some (.ok r)) : r.document.PlainBut q := by
  refine ConditionResult.document_plainBut fun s hs => ?_
  obtain ⟨node, hv, hs⟩ := Visits.of_holds hr hs
  obtain ⟨d, hd⟩ := hv.mem_nodes depth
  exact evaluate_record (h (d, node) hd) hc hs

end Condition

end FlowGate
