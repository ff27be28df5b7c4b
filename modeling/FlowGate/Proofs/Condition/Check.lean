import FlowGate.Proofs.Filter.Check

-- Checking condition trees. The check goes from node to node and looks at each by itself, except that it
-- warns of ids that it has seen before; below a node that lies too deep it does not look.

namespace FlowGate

open Value

def Finding.isDuplicate : Finding → Bool
  | duplicateId _ => true
  | _             => false

-- Whether the check looks at what a node at this depth holds.
def Limits.reaches (limits : Limits) (depth : Nat) : Bool :=
  depth ≤ limits.maxConditionDepth

namespace Condition

variable {limits : Limits} {known : Option (List String)} {depth : Nat} {c : Condition}
  {cs : List Condition} {s s' s₁ : Survey} {found : List Finding} {f : Finding} {p : Nat × Condition}
  {ps qs : List (Nat × Condition)}

-- What the check finds of a node by itself, whatever its kind.
def checkNode (limits : Limits) (known : Option (List String)) :
    Condition → Except Fault (List Finding)
  | simple header field _ _                 => checkField header.id field
  | complex header operator children stray => do
    let found ← checkArity header.id operator children stray
    strayChildren stray
    return found
  | filter _ group                          => checkGroup limits group
  | custom header function _                => checkFunction known header.id function
  | foreign ..                              => return []

theorem check_eq : c.check limits known depth s = (do
    let s ← s.enter c.id
    if limits.maxConditionDepth < depth then return s.add [.tooDeep c.id limits.maxConditionDepth]
    let found ← checkNode limits known c
    checkAll limits known (depth + 1) (s.add found) c.children) := by
  have hadd (s : Survey) : s.add [] = s := by simp [Survey.add]
  cases c <;> simp [check, checkNode, children, checkAll, id, hadd] <;> rfl

-- The nodes that the check gets to.
def surveyed (limits : Limits) (depth : Nat) (c : Condition) : List (Nat × Condition) :=
  c.nodesWhile limits.reaches depth

theorem surveyed_eq : c.surveyed limits depth =
    (depth, c) :: if limits.reaches depth then c.children.flatMap (surveyed limits (depth + 1)) else [] :=
  nodesWhile_eq

-- What the check finds at a node that it gets to.
def foundAt (limits : Limits) (known : Option (List String)) (p : Nat × Condition) : List Finding :=
  (if p.2.id.truthy then [] else [.conditionWithoutId]) ++
    if limits.reaches p.1 then
      match checkNode limits known p.2 with
      | .ok found => found
      | .error _  => []
    else [.tooDeep p.2.id limits.maxConditionDepth]

namespace Survey

theorem enter_ok_iff {id : Value} : (∃ s', s.enter id = .ok s') ↔ ∃ key, id = scalar key := by
  cases id <;> simp [enter]

theorem mem_of_enter {id : Value} (h : s.enter id = .ok s') (hf : f.isDuplicate = false) :
    f ∈ s'.findings ↔
      f ∈ s.findings ∨ f ∈ if id.truthy then [] else [Finding.conditionWithoutId] := by
  obtain ⟨key, rfl⟩ := enter_ok_iff.mp ⟨s', h⟩
  have hd : f ≠ .duplicateId (scalar key) := fun h => by simp [h, Finding.isDuplicate] at hf
  cases h
  cases (scalar key).truthy
  case false => simp
  case true  => cases s.ids.any key.same <;> simp [hd]

theorem nodes_of_enter {id : Value} (h : s.enter id = .ok s') : s'.nodes = s.nodes + 1 := by
  obtain ⟨key, rfl⟩ := enter_ok_iff.mp ⟨s', h⟩
  cases h
  rfl

end Survey

-- What has been added where these nodes have been checked, apart from ids that were seen before.
structure Surveys (limits : Limits) (known : Option (List String)) (ps : List (Nat × Condition))
    (s s' : Survey) : Prop where
  findings : ∀ f, f.isDuplicate = false →
    (f ∈ s'.findings ↔ f ∈ s.findings ∨ ∃ p ∈ ps, f ∈ foundAt limits known p)
  nodes    : s'.nodes = s.nodes + ps.length

namespace Surveys

theorem nil : Surveys limits known [] s s where
  findings := by simp
  nodes    := rfl

theorem append (h : Surveys limits known ps s s₁) (h' : Surveys limits known qs s₁ s') :
    Surveys limits known (ps ++ qs) s s' where
  findings f hf := by
    simp only [h'.findings f hf, h.findings f hf, List.mem_append, or_and_right, exists_or, or_assoc]
  nodes := by rw [h'.nodes, h.nodes, List.length_append, Nat.add_assoc]

-- A node has been checked where it was entered and what was found there added.
theorem single (he : s.enter c.id = .ok s₁)
    (hf : foundAt limits known (depth, c) =
      (if c.id.truthy then [] else [.conditionWithoutId]) ++ found) :
    Surveys limits known [(depth, c)] s (s₁.add found) where
  findings f hd := by
    simp only [Survey.add, List.mem_append, Survey.mem_of_enter he hd, List.mem_singleton,
      exists_eq_left, hf, or_assoc]
  nodes := (Survey.nodes_of_enter he :)

end Surveys

theorem checkAll_surveys
    (hc : ∀ c ∈ cs, ∀ {s s'}, c.check limits known depth s = .ok s' →
      Surveys limits known (c.surveyed limits depth) s s')
    (h : checkAll limits known depth s cs = .ok s') :
    Surveys limits known (cs.flatMap (surveyed limits depth)) s s' := by
  induction cs generalizing s
  case nil =>
    rw [checkAll] at h
    cases h
    exact .nil
  case cons c rest hi =>
    obtain ⟨hc, hr⟩ := List.forall_mem_cons.mp hc
    rw [checkAll] at h
    obtain ⟨s₁, h₁, h⟩ := ok_of_bind h
    exact (hc h₁).append (hi hr h)

theorem check_surveys (h : c.check limits known depth s = .ok s') :
    Surveys limits known (c.surveyed limits depth) s s' := by
  induction c using byChildren generalizing depth s s'
  case node c hi =>
    rw [check_eq] at h
    obtain ⟨s₁, he, h⟩ := ok_of_bind h
    rw [surveyed_eq]
    split at h
    case isTrue hd =>
      have hr : limits.reaches depth = false := by simpa [Limits.reaches] using hd
      cases h
      rw [hr]
      exact .single he (by simp [foundAt, hr])
    case isFalse hd =>
      have hr : limits.reaches depth = true := by simpa [Limits.reaches] using hd
      obtain ⟨found, hf, h⟩ := ok_of_bind h
      rw [if_pos hr]
      have hs := checkAll_surveys (fun child hm => hi child hm) h
      exact (Surveys.single he (by simp [foundAt, hr, hf])).append hs

-- A node stops the check unless its id can be remembered and what it holds can be looked at.
def Passable (limits : Limits) (known : Option (List String)) (p : Nat × Condition) : Prop :=
  (∃ key, p.2.id = scalar key) ∧
    (limits.reaches p.1 = true → ∃ found, checkNode limits known p.2 = .ok found)

theorem checkAll_ok_iff
    (hc : ∀ c ∈ cs, ∀ s, (∃ s', c.check limits known depth s = .ok s') ↔
      ∀ p ∈ c.surveyed limits depth, Passable limits known p) :
    (∃ s', checkAll limits known depth s cs = .ok s') ↔
      ∀ p ∈ cs.flatMap (surveyed limits depth), Passable limits known p := by
  induction cs generalizing s
  case nil => simp [checkAll]
  case cons c rest hi =>
    obtain ⟨hc, hr⟩ := List.forall_mem_cons.mp hc
    rw [List.flatMap_cons, List.forall_mem_append, ← hc s, checkAll, bind_ok_iff]
    simp only [hi hr, exists_and_right]

theorem check_ok_iff : (∃ s', c.check limits known depth s = .ok s') ↔
    ∀ p ∈ c.surveyed limits depth, Passable limits known p := by
  induction c using byChildren generalizing depth s
  case node c hi =>
    have hi (s : Survey) : (∃ s', checkAll limits known (depth + 1) s c.children = .ok s') ↔ _ :=
      checkAll_ok_iff fun child hm _ => hi child hm
    rw [check_eq, surveyed_eq, List.forall_mem_cons, bind_ok_iff, Passable,
      ← Survey.enter_ok_iff (s := s)]
    by_cases hd : limits.maxConditionDepth < depth
    case pos =>
      have hr : limits.reaches depth = false := by simpa [Limits.reaches] using hd
      simp [hd, hr, pure, Except.pure]
    case neg =>
      have hr : limits.reaches depth = true := by simpa [Limits.reaches] using hd
      simp only [hd, if_false, hr, if_true, forall_true_left, bind_ok_iff, hi, exists_and_right,
        and_assoc]

-- What a check has to find of a node to look at it.
def Readable (known : Option (List String)) : Condition → Prop
  | simple _ field _ _                 => field.isMissing = false
  | complex _ operator children stray =>
    (∀ v, stray = some v → v.truthy = false) ∧ (children ≠ [] → operator ≠ .stray missing)
  | filter _ group                     => ∃ g, group = .known g ∧ ∀ s ∈ g.tree, s.Readable
  | custom _ function _                =>
    function.isMissing = false ∧
      (known.isSome → function.truthy = true → ∃ key, function = scalar key)
  | foreign ..                         => True

-- What blocks an action with this node in it, wherever the node stands.
inductive Lacks (limits : Limits) : Condition → Finding → Prop
  | field {header field operator value} (h : Value.truthy field = false) :
    Lacks limits (simple header field operator value) (.noField header.id)
  | function {header function params} (h : Value.truthy function = false) :
    Lacks limits (custom header function params) (.noFunction header.id)
  | children {header operator stray} :
    Lacks limits (complex header operator [] stray) (.noChildren header.id)
  | arity {header children stray} (hne : children ≠ []) (h : children.length ≠ 1) :
    Lacks limits (complex header (.known .not) children stray) (.notOneChild header.id)
  | group {header} {g s : FilterGroup} {f} (hm : s ∈ g.tree) (h : s.Blames limits f) :
    Lacks limits (filter header (.known g)) f

-- What blocks an action with a node at this depth.
inductive Blames (limits : Limits) (p : Nat × Condition) : Finding → Prop
  | id (h : p.2.id.truthy = false) : Blames limits p .conditionWithoutId
  | depth (h : limits.reaches p.1 = false) :
    Blames limits p (.tooDeep p.2.id limits.maxConditionDepth)
  | own {f : Finding} (hr : limits.reaches p.1 = true) (h : Lacks limits p.2 f) : Blames limits p f

section Names

variable {id field function : Value}

theorem checkGroup_stray {v : Value} : checkGroup limits (.stray v) ≠ .ok found := by
  rcases v with (_ | _) | _ | _ <;> nofun

theorem checkField_ok_iff : (∃ found, checkField id field = .ok found) ↔ field.isMissing = false := by
  unfold checkField
  split
  case h_1 => simp [isMissing]
  case h_2 => simp [isMissing]

theorem mem_of_checkField (h : checkField id field = .ok found) :
    f ∈ found ↔ field.truthy = false ∧ f = .noField id := by
  unfold checkField at h
  split at h
  case h_1 => cases h
  case h_2 => cases h; cases field.truthy <;> simp

theorem checkFunction_ok_iff : (∃ found, checkFunction known id function = .ok found) ↔
    function.isMissing = false ∧
      (known.isSome → function.truthy = true → ∃ key, function = scalar key) := by
  unfold checkFunction
  split
  case h_1 => simp [isMissing]
  case h_2 hm =>
    have hm : function.isMissing = false := by simp [isMissing]
    split
    case isTrue ht  => simp_all
    case isFalse ht =>
      split
      case h_1 => simp [hm]
      case h_2 => split <;> simp_all

-- A name that is registered, or of which nothing is known, is as good as any.
theorem mem_of_checkFunction (h : checkFunction known id function = .ok found) :
    f ∈ found ↔ (function.truthy = false ∧ f = .noFunction id) ∨
      (function.truthy = true ∧ f = .unknownFunction id function ∧
        ∃ names, known = some names ∧ ∀ name ∈ names, function ≠ text name) := by
  unfold checkFunction at h
  split at h
  case h_1 => cases h
  case h_2 =>
    split at h
    case isTrue ht => cases h; simp_all
    case isFalse ht =>
      have ht : function.truthy = true := by simpa using ht
      split at h
      case h_1 => cases h; simp [ht]
      case h_2 names =>
        split at h
        case h_1 =>
          cases h
          simp [ht, List.forall_mem_ne, and_comm]
        case h_2 hne =>
          cases h
          simp_all
        case h_3 => cases h

end Names

section Complex

variable {id : Value} {operator : Slot Connective} {children : List Condition} {stray : Option Value}

-- A value in place of the children that counts as true stops the check in any case.
theorem strayChildren_eq_ok_iff (hp : FlowGate.Placed children stray) :
    strayChildren stray = .ok () ↔ ∀ v, stray = some v → v.truthy = false := by
  rcases stray with _ | v
  case none => simp [strayChildren]
  case some =>
    cases hv : v.truthy
    case false => simp [strayChildren, hv]
    case true  =>
      have hn : ¬ Vacant (some v) := by
        intro h
        cases h v rfl <;> subst v <;> cases hv
      simp [strayChildren, hv, strayMembers_eq_ok_iff hp, hn]

theorem checkArity_eq (hp : FlowGate.Placed children stray) (hs : strayChildren stray = .ok ()) :
    checkArity id operator children stray =
      if children = [] then .ok [.noChildren id]
      else match operator with
        | .stray missing => .error (.noAttribute "ComplexCondition" "operator")
        | .known .not    => .ok (if children.length = 1 then [] else [.notOneChild id])
        | _              => .ok [] := by
  rcases stray with _ | v
  case none =>
    cases children
    case nil  => rfl
    case cons =>
      rcases operator with k | v
      case known => cases k <;> simp [checkArity, childCount, bind, Except.bind, pure, Except.pure]
      case stray =>
        rcases v with s | _ | _
        case scalar => cases s <;> rfl
        all_goals rfl
  case some =>
    obtain ⟨hn, _⟩ := hp v rfl
    have hv := strayChildren_eq_ok_iff hp |>.mp hs v rfl
    simp [checkArity, hn, hv]

theorem checkComplex_ok_iff {header : Header} (hp : FlowGate.Placed children stray) :
    (∃ found, checkNode limits known (complex header operator children stray) = .ok found) ↔
      Readable known (complex header operator children stray) := by
  simp only [checkNode, Readable, bind_ok_iff, ← strayChildren_eq_ok_iff hp]
  constructor
  case mp =>
    rintro ⟨found, ha, _, hs, -⟩
    refine ⟨hs, fun hn ho => ?_⟩
    rw [checkArity_eq hp hs, if_neg hn, ho] at ha
    cases ha
  case mpr =>
    rintro ⟨hs, ho⟩
    rw [checkArity_eq hp hs, hs]
    split
    case isTrue     => exact ⟨_, rfl, (), rfl, _, rfl⟩
    case isFalse hn =>
      split
      case h_1 => exact absurd rfl (ho hn)
      case h_2 => exact ⟨_, rfl, (), rfl, _, rfl⟩
      case h_3 => exact ⟨_, rfl, (), rfl, _, rfl⟩

theorem mem_of_checkComplex {header : Header} (hp : FlowGate.Placed children stray)
    (h : checkNode limits known (complex header operator children stray) = .ok found) :
    f ∈ found ↔ Lacks limits (complex header operator children stray) f := by
  obtain ⟨_, ha, h⟩ := ok_of_bind h
  obtain ⟨_, hs, h⟩ := ok_of_bind h
  cases h
  rw [checkArity_eq hp hs] at ha
  constructor
  case mp =>
    intro hm
    split at ha
    case isTrue hn =>
      cases ha
      exact hn ▸ List.mem_singleton.mp hm ▸ .children
    case isFalse hn =>
      split at ha <;> cases ha
      case h_2 =>
        split at hm
        case isTrue     => cases hm
        case isFalse hl => exact List.mem_singleton.mp hm ▸ .arity hn hl
      case h_3 => cases hm
  case mpr =>
    intro hl
    cases hl
    case children => cases ha; exact List.mem_singleton_self _
    case arity hn hl =>
      rw [if_neg hn] at ha
      cases ha
      simp [hl]

end Complex

theorem checkNode_ok_iff (hp : c.Placed) :
    (∃ found, checkNode limits known c = .ok found) ↔ c.Readable known := by
  cases c
  case simple => simp only [checkNode, checkField_ok_iff, Readable]
  case complex header operator children stray =>
    exact checkComplex_ok_iff (hp.children header operator children stray rfl)
  case filter header group =>
    rcases group with g | v
    case known =>
      have hg : ∀ s ∈ g.tree, s.Placed := hp.groups
      simpa [checkNode, checkGroup, Readable] using FilterGroup.check_ok_iff hg
    case stray => simp [checkNode, checkGroup_stray, Readable]
  case custom => simp only [checkNode, checkFunction_ok_iff, Readable]
  case foreign => simp [checkNode, Readable, pure, Except.pure]

theorem mem_of_checkNode (hp : c.Placed) (h : checkNode limits known c = .ok found)
    (hf : f.isWarning = false) : f ∈ found ↔ Lacks limits c f := by
  cases c
  case simple =>
    rw [mem_of_checkField h]
    constructor
    case mp  => rintro ⟨ht, rfl⟩; exact .field ht
    case mpr => rintro ⟨⟩; exact ⟨‹_›, rfl⟩
  case complex header operator children stray =>
    exact mem_of_checkComplex (hp.children header operator children stray rfl) h
  case filter header group =>
    rcases group with g | v
    case known =>
      have hg : ∀ s ∈ g.tree, s.Placed := hp.groups
      rw [FilterGroup.mem_of_check hg h hf]
      constructor
      case mp  => exact fun ⟨s, hm, hb⟩ => .group hm hb
      case mpr => rintro ⟨⟩; exact ⟨_, ‹_›, ‹_›⟩
    case stray => exact absurd h checkGroup_stray
  case custom =>
    rw [mem_of_checkFunction h]
    constructor
    case mp =>
      rintro (⟨ht, rfl⟩ | ⟨_, rfl, _⟩)
      · exact .function ht
      · cases hf
    case mpr => rintro ⟨⟩; exact .inl ⟨‹_›, rfl⟩
  case foreign =>
    cases h
    constructor <;> nofun

-- At a node that does not stop the check, what blocks is what the node is to be blamed for.
theorem mem_foundAt (hp : p.2.Placed) (h : Passable limits known p) (hf : f.isWarning = false) :
    f ∈ foundAt limits known p ↔ Blames limits p f := by
  unfold foundAt
  rw [List.mem_append]
  constructor
  case mp =>
    rintro (hm | hm)
    · split at hm
      case isTrue     => cases hm
      case isFalse hi => exact List.mem_singleton.mp hm ▸ .id (by simpa using hi)
    · split at hm
      case isTrue hr =>
        obtain ⟨found, hn⟩ := h.right hr
        rw [hn] at hm
        exact .own hr (mem_of_checkNode hp hn hf |>.mp hm)
      case isFalse hr => exact List.mem_singleton.mp hm ▸ .depth (by simpa using hr)
  case mpr =>
    intro hb
    cases hb
    case id hi    => exact .inl (by simp [hi])
    case depth hr => exact .inr (by simp [hr])
    case own hr hl =>
      obtain ⟨found, hn⟩ := h.right hr
      rw [if_pos hr, hn]
      exact .inr (mem_of_checkNode hp hn hf |>.mpr hl)

end Condition

end FlowGate
