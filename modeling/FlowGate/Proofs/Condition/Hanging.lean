import FlowGate.Proofs.Condition.Nodes
import FlowGate.Proofs.Condition.Visited

-- Conditions whose evaluation comes to no end: those in which it gets to a function that never answers.

namespace FlowGate.Condition

open Value

variable {e : Engine} {c : Context} {condition root node : Condition} {children : List Condition}
  {k : Connective}

-- A node that calls a function which never answers.
def Mute (e : Engine) (c : Context) (node : Condition) : Prop :=
  ∃ header name f params, node = custom header (text name) params ∧
    e.registry.function? name = some f ∧ f e.comparer.now c params = .never

-- Evaluation gets to such a node. Whatever decides or fails before it keeps evaluation away from it.
def Hangs (e : Engine) (c : Context) (condition : Condition) : Prop :=
  ∃ node, Visits e c condition node ∧ node.Mute e c

theorem call_eq_none_iff {function params : Value} : (call e c function params).value = none ↔
    ∃ name f, function = text name ∧ e.registry.function? name = some f ∧
      f e.comparer.now c params = .never := by
  unfold call
  split
  case h_1 name =>
    cases hf : e.registry.function? name
    case none   => simp [Run.pure, hf]
    case some f => cases hr : f e.comparer.now c params <;> simp [hf, hr]
  all_goals simp_all [Run.pure]

theorem custom_eq_none_iff {header : Header} {function params : Value} :
    ((custom header function params).evaluate e c).value = none ↔
      (custom header function params).Mute e c := by
  rw [evaluate, Run.map, Option.map_eq_none_iff, call_eq_none_iff]
  constructor
  · rintro ⟨name, f, rfl, hf, hn⟩
    exact ⟨header, name, f, params, rfl, hf, hn⟩
  · rintro ⟨_, name, f, _, hc, hf, hn⟩
    cases hc
    exact ⟨name, f, rfl, hf, hn⟩

-- Going through children comes to no end only at one that it gets to.
theorem evaluateUntil_eq_none_iff : (evaluateUntil e c k.decides children).value = none ↔
    ∃ child ∈ through (isLast e c k) children, (child.evaluate e c).value = none := by
  induction children
  case nil => simp [evaluateUntil, through, Run.pure]
  case cons first rest hi =>
    rw [evaluateUntil, Run.bind, through]
    rcases hv : (first.evaluate e c).value with _ | _ | r
    case none       => simp [isLast, hv]
    case some.error => simp [isLast, hv, Run.pure]
    case some.ok    =>
      cases hs : r.success <;> cases hd : k.decides r.result <;>
        simp [isLast, hv, hs, hd, Run.pure, Run.map, hi]

theorem Visits.evaluate_eq_none (h : Visits e c root node) (hn : (node.evaluate e c).value = none) :
    (root.evaluate e c).value = none := by
  induction h
  case root => exact hn
  case under header _ _ _ children child _ hs hb _ hi =>
    have ⟨record, he⟩ := evaluate_swept (e := e) (c := c) header children hs
    have hc := evaluateUntil_eq_none_iff.mpr ⟨child, hb, hi hn⟩
    rw [he, Run.map, hc, Option.map_none]

theorem hangs_of_evaluate (h : (condition.evaluate e c).value = none) : condition.Hangs e c := by
  induction condition using byChildren
  case node condition hi =>
    cases condition
    case complex header operator children stray =>
      rcases evaluate_complex_cases e c header operator children stray with ⟨k, hs⟩ | hv | hv
      case inl =>
        obtain ⟨record, he⟩ := evaluate_swept (e := e) (c := c) header children hs
        rw [he, Run.map, Option.map_eq_none_iff, evaluateUntil_eq_none_iff] at h
        obtain ⟨child, hb, hn⟩ := h
        obtain ⟨node, hv, hm⟩ := hi child (through_isPrefix.subset hb) hn
        exact ⟨node, .under hs hb hv, hm⟩
      case inr.inl => obtain ⟨_, hv⟩ := hv; cases hv.symm.trans h
      case inr.inr => obtain ⟨_, hv, _⟩ := hv; cases hv.symm.trans h
    case custom => exact ⟨_, .root, custom_eq_none_iff.mp h⟩
    case simple =>
      rw [evaluate] at h
      split at h <;> cases h
    all_goals cases h

theorem evaluate_eq_none_iff : (condition.evaluate e c).value = none ↔ condition.Hangs e c := by
  refine ⟨hangs_of_evaluate, ?_⟩
  rintro ⟨node, hv, hm⟩
  obtain ⟨header, name, f, params, rfl, hf, hn⟩ := hm
  exact hv.evaluate_eq_none (custom_eq_none_iff.mpr ⟨header, name, f, params, rfl, hf, hn⟩)

end FlowGate.Condition
