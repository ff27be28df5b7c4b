import FlowGate.Proofs.Condition.Meaning
import FlowGate.Proofs.Condition.Unchecked

-- Where results come from. Each result in a tree of results is that of a node that evaluation has got to.

namespace FlowGate

open Value

-- The results that a result consists of.
inductive ConditionResult.Holds : ConditionResult → ConditionResult → Prop
  | self {r : ConditionResult} : Holds r r
  | under {r sub s : ConditionResult} (hm : sub ∈ r.subResults) (h : Holds sub s) : Holds r s

namespace Condition

variable {e : Engine} {c : Context} {root node : Condition} {k : Connective} {children : List Condition}
  {r s sub : ConditionResult} {sweep : Sweep}

theorem subResults_conclude {record : NodeRecord} {rs : List ConditionResult} {outcome : Except Fault Bool} :
    (conclude record rs outcome).subResults = rs := by
  cases outcome <;> rfl

theorem subResults_concludeChildren {record : NodeRecord} :
    (concludeChildren record k sweep).subResults = sweep.results := by
  unfold concludeChildren
  split
  case h_1 => rfl
  case h_2 => exact subResults_conclude

-- A sweep has no result of the first child, or none but that, or it goes on.
theorem sweep_cons {first : Condition} {rest : List Condition}
    (h : (evaluateUntil e c k.decides (first :: rest)).value = some sweep) :
    sweep.results = [] ∨ ∃ r, (first.evaluate e c).value = some (.ok r) ∧
      (sweep.results = [r] ∨ isLast e c k first = false ∧
        ∃ more, (evaluateUntil e c k.decides rest).value = some more ∧
          sweep.results = r :: more.results) := by
  rw [evaluateUntil, Run.bind] at h
  split at h
  case h_2 => cases h
  case h_1 outcome hv =>
    cases outcome
    case error => cases h; exact .inl rfl
    case ok r =>
      refine .inr ⟨r, hv, ?_⟩
      dsimp only at h
      split at h
      case isTrue => cases h; exact .inl rfl
      case isFalse hs =>
        split at h
        case isTrue => cases h; exact .inl rfl
        case isFalse hd =>
          obtain ⟨more, hr, rfl⟩ := Option.map_eq_some_iff.mp h
          exact .inr ⟨by simp_all [isLast], more, hr, rfl⟩

-- The results of a sweep are those of children that evaluation gets to.
theorem mem_of_sweep (h : (evaluateUntil e c k.decides children).value = some sweep)
    (hm : sub ∈ sweep.results) :
    ∃ child ∈ through (isLast e c k) children, (child.evaluate e c).value = some (.ok sub) := by
  induction children generalizing sweep
  case nil =>
    rw [evaluateUntil] at h
    cases h
    cases hm
  case cons first rest hi =>
    have hf : first ∈ through (isLast e c k) (first :: rest) := by
      rw [through]
      split <;> simp
    obtain hn | ⟨r, hv, hn | ⟨hl, more, hr, hn⟩⟩ := sweep_cons h <;> rw [hn] at hm
    · cases hm
    · cases List.mem_singleton.mp hm
      exact ⟨first, hf, hv⟩
    · cases List.mem_cons.mp hm
      case inl hs => exact ⟨first, hf, hs ▸ hv⟩
      case inr hm =>
        obtain ⟨child, hc, hv⟩ := hi hr hm
        exact ⟨child, by rw [through, hl]; exact .tail _ hc, hv⟩

theorem subResults_leaf (h : (root.evaluate e c).value = some (.ok r)) (hl : root.isLeaf = true) :
    r.subResults = [] := by
  cases root
  case complex => cases hl
  case simple =>
    rw [evaluate] at h
    split at h <;> cases h
    unfold compare
    repeat' split
    all_goals exact subResults_conclude
  case filter =>
    cases h
    exact subResults_conclude
  case custom =>
    obtain ⟨outcome, _, h⟩ := Option.map_eq_some_iff.mp h
    cases h
    exact subResults_conclude
  case foreign =>
    cases h
    rfl

theorem sweeper?_of_label {header : Header} {operator : Slot Connective} {stray : Option Value} {shown : Value}
    (hl : (complex header operator children stray).label = .ok shown) (ho : operator ≠ .stray missing)
    (hs : (Connective.ofSlot operator).strayChildren stray = .ok ()) :
    sweeper? operator stray = some (Connective.ofSlot operator) := by
  unfold sweeper?
  dsimp only
  rw [hs]
  rcases operator with _ | v
  case known => rfl
  case stray =>
    have hv : v.isNothing = true := by
      by_contra hv
      simp [label, slotLabel, hv] at hl
    unfold isNothing at hv
    split at hv
    case h_1 => exact absurd rfl ho
    case h_2 => rfl
    case h_3 => cases hv

-- A complex condition goes through its children, or it faults or has a result without any of them.
theorem evaluate_complex_cases (e : Engine) (c : Context) (header : Header) (operator : Slot Connective)
    (children : List Condition) (stray : Option Value) :
    (∃ k, sweeper? operator stray = some k) ∨
      (∃ fault, ((complex header operator children stray).evaluate e c).value = some (.error fault)) ∨
      ∃ r, ((complex header operator children stray).evaluate e c).value = some (.ok r) ∧
        r.subResults = [] := by
  simp only [evaluate]
  split
  case h_1 fault _ => exact .inr <| .inl ⟨fault, rfl⟩
  case h_2 hl =>
    split
    case h_1 => exact .inr <| .inr ⟨_, rfl, subResults_conclude⟩
    case h_2 => exact .inr <| .inr ⟨_, rfl, subResults_conclude⟩
    case h_3 ho => exact .inl ⟨_, sweeper?_of_label hl (by rintro rfl; exact ho rfl rfl .rfl) ‹_›⟩

theorem swept_of_subResult (h : (root.evaluate e c).value = some (.ok r)) (hm : sub ∈ r.subResults) :
    ∃ header operator children stray k child, root = complex header operator children stray ∧
      sweeper? operator stray = some k ∧ child ∈ through (isLast e c k) children ∧
      (child.evaluate e c).value = some (.ok sub) := by
  cases root
  case complex header operator children stray =>
    refine ⟨header, operator, children, stray, ?_⟩
    rcases evaluate_complex_cases e c header operator children stray with ⟨k, hs⟩ | hv | hv
    case inl =>
      have ⟨record, he⟩ := evaluate_swept (e := e) (c := c) header children hs
      rw [he] at h
      obtain ⟨sweep, hv, h⟩ := Option.map_eq_some_iff.mp h
      cases h
      rw [subResults_concludeChildren] at hm
      obtain ⟨child, hc, hv⟩ := mem_of_sweep hv hm
      exact ⟨k, child, rfl, hs, hc, hv⟩
    case inr.inl => obtain ⟨_, hv⟩ := hv; cases hv.symm.trans h
    case inr.inr =>
      obtain ⟨r', hv, hr⟩ := hv
      cases hv.symm.trans h
      rw [hr] at hm
      cases hm
  all_goals
    rw [subResults_leaf h rfl] at hm
    cases hm

-- A result that another one consists of is that of a node of its tree.
theorem Visits.of_holds (h : (root.evaluate e c).value = some (.ok r)) (hs : r.Holds s) :
    ∃ node, Visits e c root node ∧ (node.evaluate e c).value = some (.ok s) := by
  induction hs generalizing root
  case self => exact ⟨root, .root, h⟩
  case under hm _ hi =>
    obtain ⟨header, operator, children, stray, k, child, rfl, hk, hc, hv⟩ := swept_of_subResult h hm
    obtain ⟨node, hn, hs⟩ := hi hv
    exact ⟨node, .under hk hc hn, hs⟩

end Condition

end FlowGate
