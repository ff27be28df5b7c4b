import FlowGate.Proofs.Condition.Stalling
import FlowGate.Proofs.List

-- Conditions that nothing has validated. What is wrong with a node is reported by whatever evaluates
-- it, except that an operator without a label is a fault that the node itself does not report.

namespace FlowGate

open Value

variable {e : Engine} {c : Context}

-- A failure that a result tells of, with these errors.
def Run.FailsWith (x : Run (Except Fault ConditionResult)) (errors : List String) : Prop :=
  ∃ r, x.value = some (.ok r) ∧ r.success = false ∧ r.errors = errors

namespace Condition

variable {condition root node child : Condition} {children : List Condition}
  {errors : List String} {k : Connective}

-- The value in place of the operator, if there is one.
def strayOperator? : Condition → Option Value
  | simple _ _ (.stray v) _  => some v
  | complex _ (.stray v) _ _ => some v
  | _                        => none

theorem slotLabel_eq_error_iff {α : Type} {name : α → String} {kind : String} {slot : Slot α}
    {fault : Fault} : slotLabel name kind slot = .error fault ↔
      ∃ v, slot = .stray v ∧ v.isNothing = false ∧ fault = .noAttribute v.kindName "value" := by
  cases slot
  case known => simp [slotLabel]
  case stray v =>
    rw [slotLabel]
    cases h : v.isNothing
    case true  => simp [h]
    case false =>
      constructor
      · exact fun hf => ⟨v, rfl, h, (Except.error.inj hf).symm⟩
      · rintro ⟨_, hv, _, rfl⟩
        cases hv
        rfl

theorem label_eq_error_iff {fault : Fault} : condition.label = .error fault ↔
    ∃ v, condition.strayOperator? = some v ∧ v.isNothing = false ∧
      fault = .noAttribute v.kindName "value" := by
  cases condition
  case simple _ _ operator _ | complex _ operator _ _ =>
    rw [label, slotLabel_eq_error_iff]
    cases operator <;> simp [strayOperator?]
  all_goals simp [label, strayOperator?]

-- A node faults by itself only where it has no label.
theorem evaluate_error_iff {fault : Fault} :
    (condition.evaluate e c).value = some (.error fault) ↔ condition.label = .error fault := by
  cases condition
  case simple =>
    rw [evaluate]
    split <;> simp [*, Run.pure]
  case complex =>
    rw [evaluate]
    split
    case h_1 h => simp [h, Run.pure]
    case h_2 h =>
      dsimp only
      rw [h]
      split <;> simp [Run.pure, Run.map]
  case filter  => simp [evaluate, label, Logged.map, Run.ofLogged]
  case custom  => simp [evaluate, label, Run.map]
  case foreign => simp [evaluate, label, Run.pure]

-- What a parent makes of a child that has failed, whether the child reports it or faults.
def Fails (e : Engine) (c : Context) (node : Condition) (errors : List String) : Prop :=
  (node.evaluate e c).FailsWith errors ∨
    ∃ fault, (node.evaluate e c).value = some (.error fault) ∧ errors = [fault.message]

-- Whether a child is the last to be evaluated.
def isLast (e : Engine) (c : Context) (k : Connective) (child : Condition) : Bool :=
  match (child.evaluate e c).value with
  | some (.ok r) => !r.success || k.decides r.result
  | _            => true

-- The connective by which evaluation goes through the children, if it gets that far. An operator
-- that is null is no reason to stop.
def sweeper? (operator : Slot Connective) (stray : Option Value) : Option Connective :=
  let k := Connective.ofSlot operator
  match operator, k.strayChildren stray with
  | .known _, .ok ()     => some k
  | .stray null, .ok ()  => some k
  | _, _                 => none

-- The nodes of a tree that evaluation gets to.
inductive Visits (e : Engine) (c : Context) : Condition → Condition → Prop
  | root {node : Condition} : Visits e c node node
  | under {header : Header} {operator : Slot Connective} {stray : Option Value} {k : Connective}
    {children : List Condition} {child node : Condition}
    (sweeps : sweeper? operator stray = some k)
    (before : child ∈ through (isLast e c k) children)
    (below : Visits e c child node) : Visits e c (complex header operator children stray) node

theorem evaluate_swept {operator : Slot Connective} {stray : Option Value} (header : Header)
    (children : List Condition) (h : sweeper? operator stray = some k) :
    ∃ record, (complex header operator children stray).evaluate e c =
      Run.map (fun sweep => .ok (concludeChildren record k sweep))
        (evaluateUntil e c k.decides children) := by
  unfold sweeper? at h
  dsimp only at h
  split at h
  case h_1 hs =>
    cases h
    exact ⟨_, by simp only [evaluate, label, slotLabel, hs]; rfl⟩
  case h_2 hs =>
    cases h
    exact ⟨_, by simp only [evaluate, label, slotLabel, isNothing, if_true, hs]; rfl⟩
  case h_3 => cases h

theorem isLast_of_fails (h : Fails e c child errors) : isLast e c k child = true := by
  cases h
  case inl h =>
    have ⟨r, hr, hs, _⟩ := h
    simp [isLast, hr, hs]
  case inr h =>
    have ⟨fault, hf, _⟩ := h
    simp [isLast, hf]

-- A child that fails and that evaluation gets to makes an end of it.
theorem evaluateUntil_of_fails (hm : child ∈ through (isLast e c k) children)
    (hf : Fails e c child errors) :
    ∃ rs, (evaluateUntil e c k.decides children).value = some ⟨rs, some errors⟩ := by
  induction children
  case nil => cases hm
  case cons first rest hi =>
    simp only [through] at hm
    split at hm
    case isTrue =>
      have hm := List.mem_singleton.mp hm
      subst hm
      cases hf
      case inl h =>
        obtain ⟨r, hr, hs, he⟩ := h
        exact ⟨[r], by simp [evaluateUntil, Run.bind, hr, hs, he, Run.pure]⟩
      case inr h =>
        obtain ⟨fault, hr, he⟩ := h
        exact ⟨[], by simp [evaluateUntil, Run.bind, hr, he, Run.pure]⟩
    case isFalse hl =>
      have hm : child ∈ through (isLast e c k) rest := by
        cases List.mem_cons.mp hm
        case inl h => exact absurd (isLast_of_fails (h ▸ hf)) hl
        case inr h => exact h
      obtain ⟨rs, hr⟩ := hi hm
      unfold isLast at hl
      split at hl
      case h_1 r he =>
        obtain ⟨hs, hd⟩ : r.success = true ∧ k.decides r.result = false := by simpa using hl
        exact ⟨r :: rs, by simp [evaluateUntil, Run.bind, he, hs, hd, Run.map, hr, Sweep.cons]⟩
      case h_2 => exact absurd rfl hl

-- The failure of a node that evaluation gets to is that of each node above it.
theorem Visits.reported (h : Visits e c root node) (hf : Fails e c node errors) :
    node = root ∨ (root.evaluate e c).FailsWith errors := by
  -- on the way to the node: the child on it fails as well, and so ends the evaluation of its siblings
  induction h
  case root => exact .inl rfl
  case under header operator stray k children child node hs hb _ hi =>
    have hf : Fails e c child errors := by
      cases hi hf
      case inl h => exact h ▸ hf
      case inr h => exact .inl h
    have ⟨record, he⟩ := evaluate_swept (e := e) (c := c) header children hs
    have ⟨rs, hr⟩ := evaluateUntil_of_fails hb hf
    exact .inr ⟨⟨false, false, record, rs, errors⟩,
      by simp [he, Run.map, hr, concludeChildren], rfl, rfl⟩

-- What a node finds wrong with itself, other than an operator without a label.
def complaint? : Condition → Option Fault
  | foreign _ kind _                     => some (.unknownKind kind.plain)
  | simple _ (text _) (.stray null) _    => some (.unknownOperator (plain null))
  | simple _ (text _) (.stray missing) _ => some (.noAttribute "SimpleCondition" "operator")
  | complex _ (.stray missing) _ _       => some (.noAttribute "ComplexCondition" "operator")
  | complex _ (.known .not) [] none      => some .noChild
  | _                                    => none

theorem reports_complaint {fault : Fault} (h : node.complaint? = some fault) :
    (node.evaluate e c).FailsWith [fault.message] := by
  unfold complaint? at h
  split at h
  case h_6 => cases h
  all_goals
    cases h
    exact ⟨_, by rw [evaluate]; rfl, rfl, rfl⟩

theorem Visits.reports_complaint {fault : Fault} (h : Visits e c root node)
    (hn : node.complaint? = some fault) : (root.evaluate e c).FailsWith [fault.message] := by
  have hr := Condition.reports_complaint (e := e) (c := c) hn
  cases h.reported (.inl hr)
  case inl h => exact h ▸ hr
  case inr h => exact h

-- An operator that is null makes an exclusive choice of a complex condition.
theorem evaluate_nullOperator {header : Header} {stray : Option Value} :
    (complex header (.stray null) children stray).evaluate e c =
      Run.map (Except.map fun r => { r with record := { r.record with operator := text "complex" } })
        ((complex header (.known .xor) children stray).evaluate e c) := by
  simp only [evaluate, label, slotLabel, isNothing, if_true, Connective.ofSlot]
  cases Connective.xor.strayChildren stray
  case error => rfl
  case ok =>
    simp only [Run.map, Option.map_map, Function.comp_def, Except.map, concludeChildren]
    congr 2
    funext sweep
    congr 1
    cases sweep.failure
    case some => rfl
    case none => cases Connective.xor.conclude (sweep.results.map (·.result)) <;> rfl

-- Looking up a condition of any kind gives a result unless a function never answers, and it faults
-- only where nothing is known of a condition whose own operator has no label. Anywhere below, such an
-- operator makes the whole fail like anything else that is wrong, only not with the message of an
-- unknown operator, and a null operator passes for an exclusive choice.
theorem lookUp_unchecked (e : Engine) (c : Context) (useCache : Bool) (condition : Condition)
    (cache : Cache ConditionResult) :
    (condition.lookUp e c useCache cache).2.Ends e c ∧
    (∀ fault, (condition.lookUp e c useCache cache).2.value = some (.error fault) ↔
      condition.remembered? c useCache cache = none ∧
      ∃ v, condition.strayOperator? = some v ∧ v.isNothing = false ∧
        fault = .noAttribute v.kindName "value") ∧
    (∀ r, condition.remembered? c useCache cache = some r →
      (condition.lookUp e c useCache cache).2.value = some (.ok r)) ∧
    (condition.remembered? c useCache cache = none → ∀ node, Visits e c condition node →
      (∀ fault, node.complaint? = some fault →
        (condition.lookUp e c useCache cache).2.FailsWith [fault.message]) ∧
      (∀ v, node.strayOperator? = some v → v.isNothing = false → node ≠ condition →
        (condition.lookUp e c useCache cache).2.FailsWith
          [(Fault.noAttribute v.kindName "value").message])) ∧
    (∀ header children stray, (complex header (.stray null) children stray).evaluate e c =
      Run.map (Except.map fun r => { r with record := { r.record with operator := text "complex" } })
        ((complex header (.known .xor) children stray).evaluate e c)) := by
  refine ⟨lookUp_ends, ?_, ?_, ?_, fun _ _ _ => evaluate_nullOperator⟩
  all_goals
    rw [lookUp_run]
    cases hr : condition.remembered? c useCache cache
  case refine_1.some => simp [Run.pure]
  case refine_1.none => simpa using fun fault => evaluate_error_iff.trans label_eq_error_iff
  case refine_2.some => simp [Run.pure]
  case refine_2.none => nofun
  case refine_3.some => nofun
  case refine_3.none =>
    intro _ node hn
    constructor
    case left => exact fun fault hf => hn.reports_complaint hf
    case right =>
      intro v hv hl hne
      have hf := evaluate_error_iff (e := e) (c := c) |>.mpr <|
        label_eq_error_iff.mpr ⟨v, hv, hl, rfl⟩
      exact (hn.reported (.inr ⟨_, hf, rfl⟩)).resolve_left hne

def bogus : Condition :=
  .simple ⟨text "bogus", {}⟩ (text "x") (.stray (text "bogus")) null

def negated (child : Condition) : Condition :=
  .complex ⟨text "negated", {}⟩ (.known .not) [child] none

-- The same node faults at the root and is reported below it.
theorem bogus_unchecked :
    (bogus.lookUp (.ofFunctions []) (.ofVars []) false (.empty 1)).2.value =
        some (.error (.noAttribute "str" "value")) ∧
      ((negated bogus).lookUp (.ofFunctions []) (.ofVars []) false (.empty 1)).2.FailsWith
        ["'str' object has no attribute 'value'"] ∧
      ((negated (.foreign null (text "odd") null)).lookUp (.ofFunctions []) (.ofVars []) false
        (.empty 1)).2.FailsWith ["Unknown condition kind: odd"] := by
  have ⟨_, hroot, _, _, _⟩ :=
    lookUp_unchecked (.ofFunctions []) (.ofVars []) false bogus (.empty 1)
  have ⟨_, _, _, hbelow, _⟩ :=
    lookUp_unchecked (.ofFunctions []) (.ofVars []) false (negated bogus) (.empty 1)
  have ⟨_, _, _, hodd, _⟩ := lookUp_unchecked (.ofFunctions []) (.ofVars []) false
    (negated (.foreign null (text "odd") null)) (.empty 1)
  have hne : bogus ≠ negated bogus := nofun
  have visits (child : Condition) :
      Visits (.ofFunctions []) (.ofVars []) (negated child) child :=
    .under (k := .not) rfl (by simp [through]) .root
  exact ⟨(hroot _).mpr ⟨rfl, text "bogus", rfl, rfl, rfl⟩,
    (hbelow rfl bogus (visits bogus)).right (text "bogus") rfl rfl hne,
    (hodd rfl _ (visits _)).left _ rfl⟩

end Condition

end FlowGate
