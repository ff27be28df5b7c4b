import FlowGate.Proofs.Condition.Check

-- The rules of the check. What it reports of an action is what the action, its conditions and its groups are to
-- be blamed for, and it reports at all if it can look at everything that it gets to. It does not look below
-- nodes that lie too deep, but then it has something to report.

namespace FlowGate

open Value

-- What the rules ask of a group by itself.
structure FilterGroup.Complete (limits : Limits) (g : FilterGroup) : Prop where
  id      : g.id.truthy = true
  room    : g.filters.length ≤ limits.maxFiltersPerGroup
  filters : ∀ x ∈ g.filters, x.id.truthy = true

-- What the rules ask of a condition by itself.
def Condition.Complete : Condition → Prop
  | .simple _ field _ _              => field.truthy = true
  | .complex _ operator children _   => children ≠ [] ∧ (operator = .known .not → children.length = 1)
  | .custom _ function _             => function.truthy = true
  | .filter .. | .foreign ..         => True

namespace Action

-- What the rules ask of an action.
structure Complete (limits : Limits) (a : Action) : Prop where
  id         : a.id.truthy = true
  conditions : a.conditions ≠ []
  onTrue     : ∃ b, a.onTrue = .known b
  timeout    : ∀ n, a.options.timeoutMs = some n → 0 < n
  ids        : ∀ p ∈ a.nodes, p.2.id.truthy = true
  depth      : ∀ p ∈ a.nodes, p.1 ≤ limits.maxConditionDepth
  nodes      : ∀ p ∈ a.nodes, p.2.Complete
  count      : a.nodes.length ≤ limits.maxConditions
  groups     : ∀ g ∈ a.groups, g.Complete limits

-- The nodes that the check gets to.
def surveyed (limits : Limits) (a : Action) : List (Nat × Condition) :=
  a.conditions.flatMap (Condition.surveyed limits 1)

-- What the check has to find to look through an action. Lists have to be lists, or else values without members,
-- ids of conditions have to be values that can be remembered, and names have to be there.
structure Readable (limits : Limits) (known : Option (List String)) (a : Action) : Prop where
  onTrue     : a.onTrue ≠ .stray missing
  conditions : Vacant a.strayConditions
  filters    : Vacant a.strayFilters
  ids        : ∀ p ∈ a.surveyed limits, ∃ key, p.2.id = scalar key
  nodes      : ∀ p ∈ a.surveyed limits, p.1 ≤ limits.maxConditionDepth → p.2.Readable known
  groups     : ∀ g ∈ a.filters, ∀ s ∈ g.tree, s.Readable

-- What blocks an action.
inductive Blames (limits : Limits) (a : Action) : Finding → Prop
  | id (h : a.id.truthy = false) : Blames limits a .actionWithoutId
  | conditions (h : a.conditions = []) : Blames limits a .noConditions
  | onTrue (h : ∀ b, a.onTrue ≠ .known b) : Blames limits a .noTrueBranch
  | timeout {n : Int} (h : a.options.timeoutMs = some n) (hn : n ≤ 0) : Blames limits a (.timeout n)
  | node {p : Nat × Condition} {f : Finding} (hm : p ∈ a.surveyed limits)
    (h : Condition.Blames limits p f) : Blames limits a f
  | count (h : limits.maxConditions < (a.surveyed limits).length) :
    Blames limits a (.tooManyConditions (a.surveyed limits).length limits.maxConditions)
  | group {g s : FilterGroup} {f : Finding} (hm : g ∈ a.filters) (hs : s ∈ g.tree)
    (h : s.Blames limits f) : Blames limits a f

end Action

section Blame

variable {limits : Limits} {f : Finding}

theorem FilterGroup.Blames.isWarning {g : FilterGroup} (h : g.Blames limits f) : f.isWarning = false := by
  cases h <;> rfl

theorem Condition.Blames.isWarning {p : Nat × Condition} (h : Condition.Blames limits p f) :
    f.isWarning = false := by
  obtain ⟨_, c⟩ := p
  cases h
  case own hl =>
    cases hl
    case group hb => exact hb.isWarning
    all_goals rfl
  all_goals rfl

theorem Action.Blames.isWarning {a : Action} (h : a.Blames limits f) : f.isWarning = false := by
  cases h
  case node hb  => exact hb.isWarning
  case group hb => exact hb.isWarning
  all_goals rfl

-- Nothing is to be blamed for anything where it keeps the rules, and only there.

theorem FilterGroup.complete_iff {g : FilterGroup} :
    g.Complete limits ↔ ∀ f, ¬ g.Blames limits f := by
  constructor
  case mp =>
    intro hc f hb
    cases hb
    case id h          => simp [hc.id] at h
    case room h        => exact absurd hc.room (by omega)
    case filter x hm h => simp [hc.filters x hm] at h
  case mpr =>
    intro h
    constructor
    case id      => simpa using fun hi => h _ (.id hi)
    case room    => simpa using fun hr => h _ (.room hr)
    case filters => simpa using fun x hm hi => h _ (.filter hm hi)

theorem Condition.complete_iff {c : Condition} :
    (c.Complete ∧ ∀ g ∈ c.groups, g.Complete limits) ↔ ∀ f, ¬ Lacks limits c f := by
  constructor
  case mp =>
    rintro ⟨hc, hg⟩ f hl
    cases hl
    case field h       => simp [Complete, h] at hc
    case function h    => simp [Complete, h] at hc
    case children      => exact hc.left rfl
    case arity hne h   => exact h (hc.right rfl)
    case group s hm hb => exact FilterGroup.complete_iff.mp (hg s hm) f hb
  case mpr =>
    intro h
    cases c
    case simple => exact ⟨by simpa [Complete] using fun hf => h _ (.field hf), nofun⟩
    case custom => exact ⟨by simpa [Complete] using fun hf => h _ (.function hf), nofun⟩
    case foreign => exact ⟨trivial, nofun⟩
    case filter header group =>
      refine ⟨trivial, fun s hm => FilterGroup.complete_iff.mpr fun f hb => ?_⟩
      cases group
      case known => exact h f (.group hm hb)
      case stray => cases hm
    case complex header operator children stray =>
      have hn : children ≠ [] := by
        rintro rfl
        exact h _ .children
      refine ⟨⟨hn, ?_⟩, nofun⟩
      rintro rfl
      exact by_contra fun hl => h _ (.arity hn hl)

end Blame

namespace Action

variable {limits : Limits} {known : Option (List String)} {a : Action} {own : List Finding}
  {report : Report} {f : Finding}

theorem surveyed_subset : a.surveyed limits ⊆ a.nodes := by
  intro p hp
  obtain ⟨c, hm, hp⟩ := List.mem_flatMap.mp hp
  exact List.mem_flatMap.mpr ⟨c, hm, Condition.nodesWhile_subset hp⟩

-- Where nothing lies too deep, the check gets to everything.
theorem surveyed_eq_nodes (h : ∀ p ∈ a.surveyed limits, limits.reaches p.1 = true) :
    a.surveyed limits = a.nodes :=
  List.flatMap_congr fun c hm => Condition.nodesWhile_eq_nodes fun p hp =>
    h p (List.mem_flatMap.mpr ⟨c, hm, hp⟩)

theorem Complete.surveyed_eq (hc : a.Complete limits) : a.surveyed limits = a.nodes :=
  surveyed_eq_nodes fun p hp => by simpa [Limits.reaches] using hc.depth p (surveyed_subset hp)

theorem Complete.not_blames (hc : a.Complete limits) : ¬ a.Blames limits f := by
  intro hb
  cases hb
  case id h            => simp [hc.id] at h
  case conditions h    => exact hc.conditions h
  case onTrue h        => exact hc.onTrue.elim h
  case timeout n h hn  => exact absurd (hc.timeout n h) (by omega)
  case count h         => exact absurd hc.count (by rw [← hc.surveyed_eq]; omega)
  case group g s hm hs h =>
    have hg := List.mem_append_right (a.nodes.flatMap fun p => p.2.groups) <|
      List.mem_flatMap.mpr ⟨g, hm, hs⟩
    exact FilterGroup.complete_iff.mp (hc.groups s hg) f h
  case node p hm h =>
    have hm := surveyed_subset hm
    have hg : ∀ g ∈ p.2.groups, g.Complete limits := fun g hg =>
      hc.groups g (List.mem_append_left _ (List.mem_flatMap.mpr ⟨p, hm, hg⟩))
    cases h
    case id h     => simp [hc.ids p hm] at h
    case depth h  => simp [Limits.reaches, hc.depth p hm] at h
    case own _ h  => exact Condition.complete_iff.mp ⟨hc.nodes p hm, hg⟩ f h

-- What is blamed for nothing has no node that lies too deep, so the check has got to everything.
theorem complete_of_not_blames (h : ∀ f, ¬ a.Blames limits f) : a.Complete limits := by
  have hr : ∀ p ∈ a.surveyed limits, limits.reaches p.1 = true := by
    intro p hp
    simpa using fun hr => h _ (.node hp (.depth hr))
  have he := surveyed_eq_nodes hr
  have hn : ∀ p ∈ a.nodes, ∀ f, ¬ Condition.Blames limits p f := fun p hp f hb =>
    h f (.node (he ▸ hp) hb)
  rw [he] at hr
  have hc : ∀ p ∈ a.nodes, p.2.Complete ∧ ∀ g ∈ p.2.groups, g.Complete limits := fun p hp =>
    Condition.complete_iff.mpr fun f hl => hn p hp f (.own (hr p hp) hl)
  have hg : ∀ g ∈ a.filters, ∀ s ∈ g.tree, s.Complete limits := fun g hm s hs =>
    FilterGroup.complete_iff.mpr fun f hb => h f (.group hm hs hb)
  exact {
    id         := by simpa using fun hi => h _ (.id hi)
    conditions := fun hi => h _ (.conditions hi)
    onTrue     := by simpa using fun ho => h _ (.onTrue ho)
    timeout    := fun n ht => by simpa using fun hl => h _ (.timeout ht hl)
    ids        := fun p hp => by simpa using fun hi => hn p hp _ (.id hi)
    depth      := fun p hp => by simpa [Limits.reaches] using hr p hp
    nodes      := fun p hp => (hc p hp).left
    count      := by simpa [he] using fun hl => h _ (.count hl)
    groups     := List.forall_mem_append.mpr
      ⟨List.forall_mem_flatMap.mpr fun p hp => (hc p hp).right, List.forall_mem_flatMap.mpr hg⟩
  }

-- The finding about the true branch, where there is a place for one at all.
def trueFindings (a : Action) : Except Fault (List Finding) :=
  match a.onTrue with
  | .known _       => return []
  | .stray missing => .error (.noAttribute "ConditionalActionConfig" "on_true")
  | .stray _       => return [.noTrueBranch]

def timeFindings (a : Action) : List Finding :=
  match a.options.timeoutMs with
  | some n => if n ≤ 0 then [.timeout n] else []
  | none   => []

theorem checkOwn_eq : a.checkOwn = (do
    let trueFindings ← a.trueFindings
    return (if a.id.truthy then [] else [.actionWithoutId]) ++
      (if a.hasConditions then [] else [.noConditions]) ++ trueFindings ++
      (if a.onFalse.isNone && a.hasConditions then [.noFalseBranch] else []) ++ a.timeFindings) := by
  unfold checkOwn trueFindings
  rcases a.onTrue with _ | s | _ | _
  case stray.scalar => cases s <;> rfl
  all_goals rfl

theorem trueFindings_ok_iff : (∃ found, a.trueFindings = .ok found) ↔ a.onTrue ≠ .stray missing := by
  unfold trueFindings
  split <;> simp_all [pure, Except.pure]

theorem mem_of_trueFindings {found : List Finding} (h : a.trueFindings = .ok found) :
    f ∈ found ↔ (∀ b, a.onTrue ≠ .known b) ∧ f = .noTrueBranch := by
  unfold trueFindings at h
  split at h <;> cases h <;> simp [*]

theorem mem_timeFindings :
    f ∈ a.timeFindings ↔ ∃ n, a.options.timeoutMs = some n ∧ n ≤ 0 ∧ f = .timeout n := by
  unfold timeFindings
  split
  case h_1 n h => by_cases hn : n ≤ 0 <;> simp [h, hn]
  case h_2 h   => simp [h]

theorem checkOwn_ok_iff : (∃ own, a.checkOwn = .ok own) ↔ a.onTrue ≠ .stray missing := by
  rw [checkOwn_eq, bind_ok_iff, ← trueFindings_ok_iff]
  simp [pure, Except.pure]

theorem mem_of_checkOwn (h : a.checkOwn = .ok own) (hf : f.isWarning = false) : f ∈ own ↔
    (a.id.truthy = false ∧ f = .actionWithoutId) ∨ (a.hasConditions = false ∧ f = .noConditions) ∨
    ((∀ b, a.onTrue ≠ .known b) ∧ f = .noTrueBranch) ∨
    ∃ n, a.options.timeoutMs = some n ∧ n ≤ 0 ∧ f = .timeout n := by
  rw [checkOwn_eq] at h
  obtain ⟨found, ht, h⟩ := ok_of_bind h
  cases h
  have hw : f ≠ .noFalseBranch := fun h => by simp [h, Finding.isWarning] at hf
  have hfalse (b : Bool) : f ∉ if b then [Finding.noFalseBranch] else [] := by
    cases b <;> simp [hw]
  simp only [List.mem_append, mem_of_trueFindings ht, mem_timeFindings, hfalse, or_false, or_assoc]
  cases a.id.truthy <;> cases a.hasConditions <;> simp

theorem readable_iff (hp : a.Placed) : a.Readable limits known ↔
    a.onTrue ≠ .stray missing ∧ Vacant a.strayConditions ∧
    (∀ p ∈ a.surveyed limits, Condition.Passable limits known p) ∧ Vacant a.strayFilters ∧
    ∀ g ∈ a.filters, ∀ s ∈ g.tree, s.Readable := by
  have hn : ∀ p ∈ a.surveyed limits, Condition.Passable limits known p ↔
      (∃ key, p.2.id = scalar key) ∧ (p.1 ≤ limits.maxConditionDepth → p.2.Readable known) := by
    intro p hs
    rw [Condition.Passable, Condition.checkNode_ok_iff (hp.nodes p (surveyed_subset hs))]
    simp [Limits.reaches]
  constructor
  case mp =>
    intro h
    have hps p (hs : p ∈ a.surveyed limits) := (hn p hs).mpr ⟨h.ids p hs, h.nodes p hs⟩
    exact ⟨h.onTrue, h.conditions, hps, h.filters, h.groups⟩
  case mpr =>
    rintro ⟨ho, hc, hps, hf, hg⟩
    have hps p (hs : p ∈ a.surveyed limits) := (hn p hs).mp (hps p hs)
    exact ⟨ho, hc, hf, fun p hs => (hps p hs).left, fun p hs => (hps p hs).right, hg⟩

-- The parts of a check that comes to an end.
structure Checked (limits : Limits) (known : Option (List String)) (a : Action) (own : List Finding)
    (survey : Condition.Survey) (groups : List Finding) : Prop where
  own        : a.checkOwn = .ok own
  conditions : strayMembers a.strayConditions "id" = .ok ()
  survey     : Condition.checkAll limits known 1 ⟨[], [], 0⟩ a.conditions = .ok survey
  filters    : strayMembers a.strayFilters "id" = .ok ()
  groups     : FilterGroup.checkAll limits a.filters = .ok groups

def countFindings (limits : Limits) (nodes : Nat) : List Finding :=
  if limits.maxConditions < nodes then [.tooManyConditions nodes limits.maxConditions] else []

theorem mem_countFindings {n : Nat} : f ∈ countFindings limits n ↔
    limits.maxConditions < n ∧ f = .tooManyConditions n limits.maxConditions := by
  unfold countFindings
  split <;> simp [*]

theorem check_eq_ok_iff : a.check limits known = .ok report ↔
    ∃ own survey groups, Checked limits known a own survey groups ∧
      report = ⟨own ++ survey.findings ++ countFindings limits survey.nodes ++ groups⟩ := by
  constructor
  case mp =>
    intro h
    obtain ⟨own, ho, h⟩ := ok_of_bind h
    obtain ⟨_, hc, h⟩ := ok_of_bind h
    obtain ⟨survey, hs, h⟩ := ok_of_bind h
    obtain ⟨_, hf, h⟩ := ok_of_bind h
    obtain ⟨groups, hg, h⟩ := ok_of_bind h
    cases h
    exact ⟨own, survey, groups, ⟨ho, hc, hs, hf, hg⟩, rfl⟩
  case mpr =>
    rintro ⟨own, survey, groups, ⟨ho, hc, hs, hf, hg⟩, rfl⟩
    rw [check, ho, hc, hs, hf, hg]
    rfl

theorem survey_ok_iff :
    (∃ survey, Condition.checkAll limits known 1 ⟨[], [], 0⟩ a.conditions = .ok survey) ↔
      ∀ p ∈ a.surveyed limits, Condition.Passable limits known p :=
  Condition.checkAll_ok_iff fun _ _ _ => Condition.check_ok_iff

theorem groups_ok_iff (hp : a.Placed) : (∃ groups, FilterGroup.checkAll limits a.filters = .ok groups) ↔
    ∀ g ∈ a.filters, ∀ s ∈ g.tree, s.Readable :=
  FilterGroup.checkAll_ok_iff.trans <| forall₂_congr fun g hm => FilterGroup.check_ok_iff (hp.groups g hm)

theorem check_ok_iff (hp : a.Placed) :
    (∃ report, a.check limits known = .ok report) ↔ a.Readable limits known := by
  have hc : strayMembers a.strayConditions "id" = .ok () ↔ _ := strayMembers_eq_ok_iff hp.conditions
  have hf : strayMembers a.strayFilters "id" = .ok () ↔ _ := strayMembers_eq_ok_iff hp.filters
  have hg : (∃ groups, FilterGroup.checkAll limits a.filters = .ok groups) ↔ _ := groups_ok_iff hp
  simp only [readable_iff hp, ← hc, ← hf, ← hg, ← checkOwn_ok_iff, ← survey_ok_iff, check_eq_ok_iff]
  constructor
  case mp =>
    rintro ⟨_, own, survey, groups, h, -⟩
    exact ⟨⟨own, h.own⟩, h.conditions, ⟨survey, h.survey⟩, h.filters, ⟨groups, h.groups⟩⟩
  case mpr =>
    rintro ⟨⟨own, ho⟩, hc, ⟨survey, hs⟩, hf, ⟨groups, hg⟩⟩
    exact ⟨_, own, survey, groups, ⟨ho, hc, hs, hf, hg⟩, rfl⟩

theorem hasConditions_of_vacant (hp : a.Placed) (h : Vacant a.strayConditions) :
    a.hasConditions = false ↔ a.conditions = [] := by
  unfold hasConditions
  split
  case h_1     => simp
  case h_2 v hv =>
    have hn := (hp.conditions v hv).left
    cases h v hv <;> simp_all [truthy]

theorem mem_of_check (hp : a.Placed) (h : a.check limits known = .ok report)
    (hf : f.isWarning = false) : f ∈ report.findings ↔ a.Blames limits f := by
  obtain ⟨own, survey, groups, hc, rfl⟩ := check_eq_ok_iff.mp h
  have hd : f.isDuplicate = false := by cases f <;> first | rfl | cases hf
  have hv := strayMembers_eq_ok_iff hp.conditions |>.mp hc.conditions
  have hps := survey_ok_iff.mp ⟨survey, hc.survey⟩
  obtain ⟨hs, hn⟩ := Condition.checkAll_surveys (fun _ _ => Condition.check_surveys) hc.survey
  have hs : f ∈ survey.findings ↔ ∃ p ∈ a.surveyed limits, Condition.Blames limits p f := by
    rw [hs f hd]
    simp only [List.not_mem_nil, false_or]
    refine exists_congr fun p => and_congr_right fun hm => ?_
    exact Condition.mem_foundAt (hp.nodes p (surveyed_subset hm)) (hps p hm) hf
  have hn : survey.nodes = (a.surveyed limits).length := hn.trans (Nat.zero_add _)
  have hg := FilterGroup.mem_of_checkAll hc.groups fun g hm _ h =>
    FilterGroup.mem_of_check (hp.groups g hm) h hf
  simp only [List.mem_append, mem_of_checkOwn hc.own hf, hasConditions_of_vacant hp hv, hs, hn, hg,
    mem_countFindings]
  constructor
  case mp =>
    rintro (((ho | ⟨p, hm, hb⟩) | ⟨hl, rfl⟩) | ⟨g, hm, s, hs, hb⟩)
    · obtain ⟨h, rfl⟩ | ⟨h, rfl⟩ | ⟨h, rfl⟩ | ⟨n, h, hn, rfl⟩ := ho
      · exact .id h
      · exact .conditions h
      · exact .onTrue h
      · exact .timeout h hn
    · exact .node hm hb
    · exact .count hl
    · exact .group hm hs hb
  case mpr =>
    intro hb
    cases hb
    case id h            => exact .inl (.inl (.inl (.inl ⟨h, rfl⟩)))
    case conditions h    => exact .inl (.inl (.inl (.inr (.inl ⟨h, rfl⟩))))
    case onTrue h        => exact .inl (.inl (.inl (.inr (.inr (.inl ⟨h, rfl⟩)))))
    case timeout n h hn  => exact .inl (.inl (.inl (.inr (.inr (.inr ⟨n, h, hn, rfl⟩)))))
    case node p hm hb    => exact .inl (.inl (.inr ⟨p, hm, hb⟩))
    case count h         => exact .inl (.inr ⟨h, rfl⟩)
    case group g s hm hs hb => exact .inr ⟨g, hm, s, hs, hb⟩

-- An action passes the check if it is to be blamed for nothing.
theorem isValid_iff (hp : a.Placed) (h : a.check limits known = .ok report) :
    report.isValid = true ↔ ∀ f, ¬ a.Blames limits f := by
  have hv : report.isValid = true ↔ ∀ f ∈ report.findings, f.isWarning = true := by
    simp [Report.isValid, Report.errors]
  rw [hv]
  constructor
  case mp =>
    intro hw f hb
    have hf := hb.isWarning
    exact absurd (hw f (mem_of_check hp h hf |>.mpr hb)) (by simp [hf])
  case mpr =>
    intro hn f hm
    by_contra hf
    exact hn f (mem_of_check hp h (by simpa using hf) |>.mp hm)

theorem complete_iff : a.Complete limits ↔ ∀ f, ¬ a.Blames limits f :=
  ⟨fun hc _ => hc.not_blames, complete_of_not_blames⟩

end Action

-- What is valid can be looked through.

theorem Value.IsName.isMissing {v : Value} : v.IsName → v.isMissing = false
  | ⟨_, _, hv⟩ => hv ▸ rfl

theorem FilterGroup.Valid.id {g : FilterGroup} : g.Valid → g.id.IsName
  | intro h .. => h

theorem Condition.Valid.id {c : Condition} (hv : c.Valid) : c.id.IsName := by
  cases hv <;> assumption

theorem Condition.Valid.readable {known : Option (List String)} {c : Condition} (hv : c.Valid) :
    c.Readable known := by
  cases hv
  case simple hf        => exact hf.isMissing
  case complex          => exact ⟨nofun, nofun⟩
  case filter hg        => exact ⟨_, rfl, fun s hm => (hg.tree s hm).readable⟩
  case custom _ hf      =>
    have ⟨_, _, hn⟩ := hf
    exact ⟨hf.isMissing, fun _ _ => ⟨_, hn⟩⟩

theorem Action.Valid.readable {limits : Limits} {known : Option (List String)} {a : Action} (hv : a.Valid) :
    a.Readable limits known where
  onTrue     := by
    have ⟨_, h⟩ := hv.onTrue
    exact h ▸ nofun
  conditions := hv.noStrayConditions ▸ nofun
  filters    := hv.noStrayFilters ▸ nofun
  ids p hp   :=
    have ⟨_, _, h⟩ := (hv.nodes p (surveyed_subset hp)).id
    ⟨_, h⟩
  nodes p hp _ := (hv.nodes p (surveyed_subset hp)).readable
  groups g hg s hs := ((hv.filters g hg).tree s hs).readable

namespace Action

-- The check reports if it can look through an action, as it can through any that was read, and whenever it
-- reports, it lets through what keeps all the rules and nothing else.
theorem check_judges {v : Value} {a : Action} (limits : Limits) (known : Option (List String))
    (h : Action.read v = .done a ∨ Action.draft v = .done a) :
    (∀ report, a.check limits known = .ok report → (report.isValid = true ↔ a.Complete limits)) ∧
    ((∃ report, a.check limits known = .ok report) ↔ a.Readable limits known) ∧
    (Action.read v = .done a → a.Readable limits known) := by
  have hp := placed_of_offered h
  refine ⟨fun report hr => ?_, check_ok_iff hp, fun h => (valid_of_read h).readable⟩
  rw [isValid_iff hp hr, complete_iff]

-- An action that asks a group under a negation, and the configuration that it is read from.
def asking : Action where
  id         := text "asking"
  conditions := [.complex ⟨text "negated", {}⟩ (.known .not) [.filter ⟨text "asked", {}⟩ (.known {
    id      := text "adults"
    filters := [{ id := text "grown", field := text "age", operator := .known .equals }] })] none]
  onTrue     := .known {}

def askingRaw : Value := record [
  ("id", text "asking"),
  ("conditions", list [record [("kind", text "complex"), ("id", text "negated"), ("operator", text "not"),
    ("children", list [record [("kind", text "filter"), ("id", text "asked"), ("group", record [
      ("id", text "adults"),
      ("filters", list [record [
        ("id", text "grown"), ("field", text "age"), ("operator", text "equals")]])])]])]]),
  ("onTrue", map [])]

-- It passes unless it lies too deep.
theorem asking_judged : Action.read askingRaw = .done asking ∧
    (∃ report, asking.check {} none = .ok report ∧ report.isValid = true) ∧
    ∃ report, asking.check { maxConditionDepth := 1 } none = .ok report ∧ report.isValid = false := by
  have hr : Action.read askingRaw = .done asking := rfl
  have hc : asking.Complete {} := {
    id         := rfl
    conditions := nofun
    onTrue     := ⟨{}, rfl⟩
    timeout    := nofun
    ids        := by decide
    depth      := by decide
    nodes      := List.forall_mem_cons.mpr
      ⟨⟨nofun, fun _ => rfl⟩, List.forall_mem_singleton.mpr trivial⟩
    count      := by decide
    groups     := List.forall_mem_singleton.mpr ⟨rfl, by decide, by decide⟩
  }
  obtain ⟨hv, hok, hread⟩ := check_judges {} none (.inl hr)
  obtain ⟨hv₁, hok₁, hread₁⟩ := check_judges { maxConditionDepth := 1 } none (.inl hr)
  obtain ⟨report, h⟩ := hok.mpr (hread hr)
  obtain ⟨report₁, h₁⟩ := hok₁.mpr (hread₁ hr)
  refine ⟨hr, ⟨report, h, (hv report h).mpr hc⟩, report₁, h₁, ?_⟩
  rw [Bool.eq_false_iff, ne_eq, hv₁ report₁ h₁]
  exact fun h => absurd (h.depth (2, .filter ⟨text "asked", {}⟩ _) (.tail _ (.head _))) (by decide)

-- Nothing is wrong with an action by the rules if the id of its condition is a list, but a list cannot be
-- remembered.
def listed : Action where
  id         := text "listed"
  conditions := [.simple ⟨list [text "x"], {}⟩ (text "x") (.known .isPresent) null]
  onTrue     := .known { actionIds := ["go"] }
  onFalse    := some { actionIds := ["stop"] }

def listedRaw : Value := record [
  ("id", text "listed"),
  ("conditions", list [record [
    ("kind", text "simple"), ("id", list [text "x"]), ("field", text "x"), ("operator", text "exists")]]),
  ("on_true", record [("actionIds", texts ["go"])]),
  ("on_false", record [("actionIds", texts ["stop"])])]

theorem listed_unjudged : Action.draft listedRaw = .done listed ∧ listed.Complete {} ∧
    ∀ known, listed.check {} known = .error (.unhashable "list") := by
  refine ⟨rfl, ?_, ?_⟩
  case refine_1 => exact {
    id         := rfl
    conditions := nofun
    onTrue     := ⟨_, rfl⟩
    timeout    := nofun
    ids        := by decide
    depth      := by decide
    nodes      := List.forall_mem_singleton.mpr rfl
    count      := by decide
    groups     := List.forall_mem_nil _
  }
  case refine_2 => exact fun _ => rfl

end Action

end FlowGate
