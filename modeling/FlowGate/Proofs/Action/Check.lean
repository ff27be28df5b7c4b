import FlowGate.Proofs.Filter.Check

-- Checking valid actions. The check of a valid condition always comes to an end, and what it adds
-- to the blocking findings and to the number of nodes does not depend on what it has seen before. So
-- it does not matter in which order conditions are checked.

namespace FlowGate

open Value

-- The findings that block.
def Finding.blocking (fs : List Finding) : List Finding :=
  fs.filter fun f => !f.isWarning

namespace Condition

def Survey.blocking (s : Survey) : List Finding :=
  Finding.blocking s.findings

-- A step of a check that adds these blocking findings and as many nodes, whatever has been seen.
def Adds (step : Survey → Except Fault Survey) (fs : List Finding) (n : Nat) : Prop :=
  ∀ s, ∃ s', step s = .ok s' ∧ s'.blocking = s.blocking ++ fs ∧ s'.nodes = s.nodes + n

variable {limits : Limits} {known : Option (List String)} {condition : Condition}

namespace Adds

variable {step next : Survey → Except Fault Survey} {fs gs : List Finding} {n m : Nat}

theorem none : Adds .ok [] 0 :=
  fun s => ⟨s, rfl, (List.append_nil _).symm, rfl⟩

theorem andThen (h : Adds step fs n) (h' : Adds next gs m) :
    Adds (fun s => step s >>= next) (fs ++ gs) (n + m) := by
  intro s
  have ⟨s₁, hs₁, hf₁, hn₁⟩ := h s
  have ⟨s₂, hs₂, hf₂, hn₂⟩ := h' s₁
  refine ⟨s₂, ?_, ?_, ?_⟩
  · simp [hs₁, hs₂, bind, Except.bind]
  · rw [hf₂, hf₁, List.append_assoc]
  · rw [hn₂, hn₁, Nat.add_assoc]

theorem add (found : List Finding) : Adds (fun s => .ok (s.add found)) (Finding.blocking found) 0 :=
  fun _ => ⟨_, rfl, List.filter_append .., rfl⟩

-- A node that was seen before is no more than a reason to warn.
theorem enter {id : Value} (hid : id.IsName) : Adds (fun s => s.enter id) [] 1 := by
  have ht := hid.truthy
  have ⟨name, _, hn⟩ := hid
  subst hn
  intro s
  refine ⟨_, rfl, ?_, rfl⟩
  simp only [Survey.blocking, Finding.blocking, ht, List.filter_append]
  cases s.ids.any (Scalar.text name).same <;> rfl

end Adds

theorem checkField_ok {id field : Value} (hf : field.IsName) :
    checkField id field = .ok [] := by
  have ht := hf.truthy
  have ⟨name, _, hn⟩ := hf
  subst hn
  simp [checkField, ht]

theorem checkFunction_ok {function : Value} (known : Option (List String)) (id : Value)
    (hf : function.IsName) :
    ∃ found, checkFunction known id function = .ok found := by
  have ht := hf.truthy
  have ⟨name, _, hn⟩ := hf
  subst hn
  cases known <;> simp [checkFunction, ht]

theorem checkArity_ok {id : Value} {k : Connective} {children : List Condition}
    (hn : k = .not → children.length = 1) (hne : children ≠ []) :
    checkArity id (.known k) children none = .ok [] := by
  cases k
  case not => simp [checkArity, childCount, hn rfl, hne, bind, Except.bind, pure, Except.pure]
  all_goals simp [checkArity, hne]

theorem checkAll_adds {depth : Nat} {cs : List Condition}
    (h : ∀ condition ∈ cs, ∃ fs n, Adds (check limits known depth · condition) fs n) :
    ∃ fs n, Adds (checkAll limits known depth · cs) fs n := by
  induction cs
  case nil => exact ⟨[], 0, by simpa only [checkAll] using .none⟩
  case cons condition rest hi =>
    have ⟨⟨fs, n, hc⟩, hr⟩ := List.forall_mem_cons.mp h
    have ⟨gs, m, hr⟩ := hi hr
    exact ⟨fs ++ gs, n + m, by simpa only [checkAll] using hc.andThen hr⟩

-- Entering a node is followed either by the finding that it lies too deep or by what is below it.
theorem adds_of_node {id : Value} {depth : Nat} {rest : Survey → Except Fault Survey}
    (hid : id.IsName) (h : ∃ fs n, Adds rest fs n) :
    ∃ fs n, Adds (fun s => do
      let s ← s.enter id
      if limits.maxConditionDepth < depth then return s.add [.tooDeep id limits.maxConditionDepth]
      rest s) fs n := by
  by_cases hd : limits.maxConditionDepth < depth
  case pos => exact ⟨_, _, by simp only [hd, if_true]; exact (Adds.enter hid).andThen (.add _)⟩
  case neg =>
    have ⟨fs, n, h⟩ := h
    exact ⟨_, _, by simpa only [hd, if_false] using (Adds.enter hid).andThen h⟩

theorem check_adds (limits : Limits) (known : Option (List String)) (hv : condition.Valid) :
    ∀ depth, ∃ fs n, Adds (check limits known depth · condition) fs n := by
  induction hv <;> intro depth <;> simp only [check]
  case simple hid hf =>
    refine adds_of_node hid ?_
    rw [checkField_ok hf]
    exact ⟨_, _, .add []⟩
  case filter group hid hg =>
    have ⟨found, h⟩ := FilterGroup.check_ok limits hg
    refine adds_of_node hid ?_
    rw [checkGroup, h]
    exact ⟨_, _, .add found⟩
  case custom header _ _ hid hf =>
    have ⟨found, h⟩ := checkFunction_ok known header.id hf
    refine adds_of_node hid ?_
    rw [h]
    exact ⟨_, _, .add found⟩
  case complex hid arity hne _ hi =>
    refine adds_of_node hid ?_
    rw [checkArity_ok arity hne]
    have ⟨fs, n, h⟩ := checkAll_adds fun child hm => hi child hm (depth + 1)
    exact ⟨_, _, (Adds.add []).andThen h⟩

-- What the check of a condition adds to that of its action.
def ownFindings (limits : Limits) (known : Option (List String)) (condition : Condition) :
    List Finding :=
  match check limits known 1 ⟨[], [], 0⟩ condition with
  | .ok s    => s.blocking
  | .error _ => []

def ownNodes (limits : Limits) (known : Option (List String)) (condition : Condition) : Nat :=
  match check limits known 1 ⟨[], [], 0⟩ condition with
  | .ok s    => s.nodes
  | .error _ => 0

def nodesOf (limits : Limits) (known : Option (List String)) : List Condition → Nat
  | []                => 0
  | condition :: rest => ownNodes limits known condition + nodesOf limits known rest

theorem nodesOf_perm {cs ds : List Condition} (h : cs.Perm ds) :
    nodesOf limits known cs = nodesOf limits known ds := by
  induction h
  case nil            => rfl
  case cons hi        => rw [nodesOf, nodesOf, hi]
  case swap           => simp only [nodesOf, Nat.add_left_comm]
  case trans hi₁ hi₂  => exact hi₁.trans hi₂

theorem check_adds_own (hv : condition.Valid) :
    Adds (check limits known 1 · condition)
      (ownFindings limits known condition) (ownNodes limits known condition) := by
  have ⟨fs, n, h⟩ := check_adds limits known hv 1
  have ⟨s, hs, hf, hn⟩ := h ⟨[], [], 0⟩
  have hf : ownFindings limits known condition = fs := by
    simp only [ownFindings, hs]
    exact hf
  have hn : ownNodes limits known condition = n := by
    simpa only [ownNodes, hs, Nat.zero_add] using hn
  rwa [hf, hn]

theorem checkAll_adds_own {cs : List Condition} (limits : Limits) (known : Option (List String))
    (h : ∀ condition ∈ cs, condition.Valid) :
    Adds (checkAll limits known 1 · cs)
      (cs.flatMap (ownFindings limits known)) (nodesOf limits known cs) := by
  induction cs
  case nil => simpa only [checkAll] using .none
  case cons condition rest hi =>
    have ⟨hc, hr⟩ := List.forall_mem_cons.mp h
    simp only [checkAll, List.flatMap_cons, nodesOf]
    exact (check_adds_own hc).andThen (hi hr)

-- All that the check can have against a comparison is where it stands.
theorem own_simple {header : Header} {field value : Value} {operator : Slot Operator}
    (hid : header.id.IsName) (hf : field.IsName) :
    (ownFindings limits known (simple header field operator value) = [] ↔
      1 ≤ limits.maxConditionDepth) ∧
    ownNodes limits known (simple header field operator value) = 1 := by
  have ⟨s, hs, hb, hn⟩ := Adds.enter hid ⟨[], [], 0⟩
  have hn : s.nodes = 1 := hn
  have hb : s.blocking = [] := hb
  have hadd (found : List Finding) : (s.add found).blocking = Finding.blocking found := by
    simpa [Survey.blocking, Survey.add, Finding.blocking] using hb
  by_cases hd : limits.maxConditionDepth < 1
  case pos =>
    have hc : check limits known 1 ⟨[], [], 0⟩ (simple header field operator value) =
        .ok (s.add [.tooDeep header.id limits.maxConditionDepth]) := by
      simp [check, hs, hd, bind, Except.bind, pure, Except.pure]
    simp only [ownFindings, ownNodes, hc, hadd]
    exact ⟨by simp [Finding.blocking, Finding.isWarning, hd], hn⟩
  case neg =>
    have hc : check limits known 1 ⟨[], [], 0⟩ (simple header field operator value) =
        .ok (s.add []) := by
      simp [check, hs, hd, checkField_ok hf, bind, Except.bind, pure, Except.pure]
    simp only [ownFindings, ownNodes, hc, hadd]
    exact ⟨by simpa [Finding.blocking] using hd, hn⟩

theorem nodesOf_eq_length {cs : List Condition}
    (h : ∀ condition ∈ cs, ownNodes limits known condition = 1) :
    nodesOf limits known cs = cs.length := by
  induction cs
  case nil => rfl
  case cons condition rest hi =>
    have ⟨hc, hr⟩ := List.forall_mem_cons.mp h
    rw [nodesOf, hc, hi hr, List.length_cons, Nat.add_comm]

end Condition

namespace Action

variable {a : Action} {limits : Limits} {known : Option (List String)} {cs : List Condition}

-- A check of the action comes to an end and finds nothing that blocks it.
def Unblocked (limits : Limits) (known : Option (List String)) (a : Action) : Prop :=
  ∃ report, a.check limits known = .ok report ∧ report.isValid = true

theorem isValid_append {fs gs : List Finding} : Report.isValid ⟨fs ++ gs⟩ = true ↔
    Finding.blocking fs = [] ∧ Report.isValid ⟨gs⟩ = true := by
  simp [Report.isValid, Report.errors, Finding.blocking]

-- What findings come from: the action itself, its conditions, their number and its filter groups.
theorem unblocked_iff (hv : a.Valid) : a.Unblocked limits known ↔
    ∃ own groups, a.checkOwn = .ok own ∧ FilterGroup.checkAll limits a.filters = .ok groups ∧
      Finding.blocking own = [] ∧ Finding.blocking groups = [] ∧
      a.conditions.flatMap (Condition.ownFindings limits known) = [] ∧
      Condition.nodesOf limits known a.conditions ≤ limits.maxConditions := by
  have ⟨survey, hs, hf, hn⟩ :=
    Condition.checkAll_adds_own limits known hv.conditions ⟨[], [], 0⟩
  have hf : Finding.blocking survey.findings =
      a.conditions.flatMap (Condition.ownFindings limits known) := hf
  rw [Nat.zero_add] at hn
  unfold Unblocked check
  rw [hv.noStrayConditions, hv.noStrayFilters]
  cases a.checkOwn
  case error => simp [bind, Except.bind]
  case ok own =>
    cases FilterGroup.checkAll limits a.filters
    case error => simp [hs, strayMembers, bind, Except.bind]
    case ok groups =>
      have hg : Report.isValid ⟨groups⟩ = true ↔ Finding.blocking groups = [] := List.isEmpty_iff
      have hc : Finding.blocking (if limits.maxConditions < survey.nodes then
          [.tooManyConditions survey.nodes limits.maxConditions] else []) = [] ↔
          survey.nodes ≤ limits.maxConditions := by
        split <;> simp_all [Finding.blocking, Finding.isWarning]
      rw [hn] at hc
      simp only [hs, strayMembers, bind, Except.bind, pure, Except.pure, Except.ok.injEq,
        exists_eq_left', List.append_assoc, isValid_append, hf, hg, hn]
      constructor
      case mp =>
        rintro ⟨ho, hcs, hcount, hgs⟩
        exact ⟨own, groups, rfl, rfl, ho, hgs, hcs, hc.mp hcount⟩
      case mpr =>
        rintro ⟨_, _, rfl, rfl, ho, hgs, hcs, hcount⟩
        exact ⟨ho, hcs, hc.mpr hcount, hgs⟩

theorem Valid.perm (hv : a.Valid) (hp : cs.Perm a.conditions) : { a with conditions := cs }.Valid :=
  { hv with conditions := fun condition hm => hv.conditions condition (hp.mem_iff.mp hm) }

theorem Unblocked.perm (hv : a.Valid) (hp : cs.Perm a.conditions) (h : a.Unblocked limits known) :
    { a with conditions := cs }.Unblocked limits known := by
  have ⟨own, groups, ho, hg, hown, hgroups, hcs, hcount⟩ := unblocked_iff hv |>.mp h
  have ho' : { a with conditions := cs }.checkOwn = a.checkOwn := by
    simp only [checkOwn, hasConditions, hv.noStrayConditions, hp.isEmpty_eq]
  refine unblocked_iff (hv.perm hp) |>.mpr
    ⟨own, groups, ho'.trans ho, hg, hown, hgroups, ?_, ?_⟩
  · exact List.perm_nil.mp <| hcs ▸ hp.flatMap_right _
  · exact Condition.nodesOf_perm hp ▸ hcount

-- An action without conditions is blocked.
theorem Unblocked.conditions_ne_nil (hv : a.Valid) (h : a.Unblocked limits known) :
    a.conditions ≠ [] := by
  intro hn
  have ⟨own, _, ho, _, hown, _⟩ := unblocked_iff hv |>.mp h
  have ⟨branch, hb⟩ := hv.onTrue
  have hc : a.hasConditions = false := by simp [hasConditions, hv.noStrayConditions, hn]
  simp only [checkOwn, hc, hb, pure, Except.pure, bind, Except.bind, Except.ok.injEq] at ho
  rw [← ho] at hown
  simp [Finding.blocking, Finding.isWarning] at hown

end Action

end FlowGate
