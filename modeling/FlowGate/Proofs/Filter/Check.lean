import FlowGate.Action.Check
import FlowGate.Proofs.Engine
import FlowGate.Proofs.Schema.Placement

-- Checking filter groups. The check comes to an end if whatever stands in place of a list has no members
-- and no filter lacks both an id and a field, and it blames each group for itself alone.

namespace FlowGate

open Value

-- What stands in place of a list, if anything does, has no members.
def Vacant (stray : Option Value) : Prop :=
  ∀ v, stray = some v → v = text "" ∨ v = map []

theorem strayMembers_eq_ok_iff {α : Type} {members : List α} {stray : Option Value} {wanted : String}
    (hp : Placed members stray) : strayMembers stray wanted = .ok () ↔ Vacant stray := by
  rcases stray with _ | v
  case none => simp [strayMembers, Vacant]
  case some =>
    obtain ⟨_, hl⟩ := hp v rfl
    simp only [strayMembers, Vacant, Option.some.injEq, forall_eq']
    split
    case h_1 s => by_cases hs : s = "" <;> simp [hs]
    case h_2   => simp
    case h_3   => simp
    case h_4   => exact absurd rfl (hl _)
    case h_5 hs hm _ _ => simp only [reduceCtorEq, false_iff]; exact not_or.mpr ⟨hs "", hm⟩

namespace FilterGroup

variable {limits : Limits} {g : FilterGroup} {found : List Finding} {f : Finding}

-- What a check has to find of a group to look through it.
structure Readable (g : FilterGroup) : Prop where
  filters   : Vacant g.strayFilters
  subGroups : Vacant g.straySubGroups
  fields    : ∀ x ∈ g.filters, x.id.truthy = true ∨ x.field.isMissing = false

-- What blocks an action with this group in it.
inductive Blames (limits : Limits) (g : FilterGroup) : Finding → Prop
  | id (h : g.id.truthy = false) : Blames limits g .groupWithoutId
  | room (h : limits.maxFiltersPerGroup < g.filters.length) :
    Blames limits g (.tooManyFilters g.id g.filters.length limits.maxFiltersPerGroup)
  | filter {x : Filter} (hm : x ∈ g.filters) (h : x.id.truthy = false) :
    Blames limits g (.filterWithoutId x.field)

theorem size_of_vacant {v : Value} (h : Vacant (some v)) : v.size = .ok 0 := by
  cases h v rfl
  case inl h => subst h; rfl
  case inr h => subst h; rfl

theorem strayMembers_of_vacant {stray : Option Value} {wanted : String} (h : Vacant stray) :
    strayMembers stray wanted = .ok () := by
  rcases stray with _ | v
  case none => rfl
  case some =>
    cases h v rfl
    case inl h => subst h; rfl
    case inr h => subst h; rfl

theorem enabledFilterCounts_ok {gs : List FilterGroup} (h : ∀ g ∈ gs, ∃ n, g.enabledFilterCount = .ok n) :
    ∃ n, enabledFilterCounts gs = .ok n := by
  induction gs
  case nil => exact ⟨0, by rw [enabledFilterCounts]⟩
  case cons g rest hi =>
    have ⟨⟨n, hn⟩, hr⟩ := List.forall_mem_cons.mp h
    have ⟨m, hm⟩ := hi hr
    exact ⟨n + m, by rw [enabledFilterCounts, hn, hm]; rfl⟩

theorem enabledFilterCount_of_vacant
    (h : ∀ s ∈ g.tree, Vacant s.strayFilters ∧ Vacant s.straySubGroups) :
    ∃ n, g.enabledFilterCount = .ok n := by
  induction g using bySubGroups
  case node g hi =>
    have ⟨⟨hf, hs⟩, h⟩ := forall_mem_tree.mp h
    have ⟨n, hn⟩ := enabledFilterCounts_ok fun sub hm => hi sub hm (h sub hm)
    rcases g with ⟨_, _, _, _, filters, strayFilters, subGroups, straySubGroups, enabled, _⟩
    rw [enabledFilterCount]
    split
    case isTrue  => exact ⟨0, rfl⟩
    case isFalse =>
      have hf : strayMembers strayFilters "enabled" = .ok () := strayMembers_of_vacant hf
      have hs : strayMembers straySubGroups "enabled_filter_count" = .ok () :=
        strayMembers_of_vacant hs
      exact ⟨_, by simp only [hf, hs, hn]; rfl⟩

section Filters

variable {x : Filter} {xs : List Filter}

theorem checkFilter_ok_iff : (∃ found, checkFilter x = .ok found) ↔
    x.id.truthy = true ∨ x.field.isMissing = false := by
  unfold checkFilter
  cases x.id.truthy <;> cases x.field.isMissing <;> simp

theorem mem_of_checkFilter (h : checkFilter x = .ok found) :
    f ∈ found ↔ x.id.truthy = false ∧ f = .filterWithoutId x.field := by
  unfold checkFilter at h
  split at h
  case isTrue ht => cases h; simp [ht]
  case isFalse ht =>
    split at h
    case isTrue  => cases h
    case isFalse => cases h; simp [ht]

theorem checkFilters_ok_iff : (∃ found, checkFilters xs = .ok found) ↔
    ∀ x ∈ xs, x.id.truthy = true ∨ x.field.isMissing = false := by
  induction xs
  case nil => simp [checkFilters]
  case cons x rest hi =>
    rw [List.forall_mem_cons, ← hi, ← checkFilter_ok_iff, checkFilters]
    simp only [bind_ok_iff, pure, Except.pure, Except.ok.injEq, exists_eq', and_true, exists_and_right]

theorem mem_of_checkFilters (h : checkFilters xs = .ok found) :
    f ∈ found ↔ ∃ x ∈ xs, x.id.truthy = false ∧ f = .filterWithoutId x.field := by
  induction xs generalizing found
  case nil => cases h; simp
  case cons x rest hi =>
    have ⟨here, hh, h⟩ := ok_of_bind h
    have ⟨others, ho, h⟩ := ok_of_bind h
    cases h
    simp only [List.mem_append, mem_of_checkFilter hh, hi ho, List.exists_mem_cons_iff]

end Filters

-- The number of filters as the check counts them.
def filterCount (g : FilterGroup) : Except Fault Nat :=
  match g.strayFilters with
  | none   => pure g.filters.length
  | some v => v.size

theorem filterCount_of_vacant (hp : g.Placed) (h : Vacant g.strayFilters) :
    g.filterCount = .ok g.filters.length := by
  have hp := hp.filters
  unfold filterCount
  cases hs : g.strayFilters
  case none   => rfl
  case some v =>
    have ⟨hn, _⟩ := hp v hs
    rw [hn]
    exact size_of_vacant (hs ▸ h)

-- The warning of a group that has no filters to evaluate.
def emptyFindings (g : FilterGroup) : Except Fault (List Finding) :=
  if g.isEnabled then do
    let n ← g.enabledFilterCount
    return if n = 0 then [.emptyGroup g.id] else []
  else return []

theorem checkOwn_eq : g.checkOwn limits = (do
    let count ← g.filterCount
    strayMembers g.strayFilters "id"
    let filterFindings ← checkFilters g.filters
    let emptyFindings ← g.emptyFindings
    strayMembers g.straySubGroups "id"
    return (if g.id.truthy then [] else [.groupWithoutId]) ++
      (if limits.maxFiltersPerGroup < count then
        [.tooManyFilters g.id count limits.maxFiltersPerGroup] else []) ++
      filterFindings ++ emptyFindings) := by
  unfold checkOwn filterCount emptyFindings
  cases g.strayFilters <;> cases g.isEnabled <;> simp

theorem isWarning_of_emptyFindings (h : g.emptyFindings = .ok found) (hm : f ∈ found) :
    f.isWarning = true := by
  unfold emptyFindings at h
  split at h
  case isFalse => cases h; cases hm
  case isTrue =>
    obtain ⟨n, _, h⟩ := ok_of_bind h
    cases h
    split at hm
    case isTrue  => exact List.mem_singleton.mp hm ▸ rfl
    case isFalse => cases hm

-- What the check of a group by itself has gone through when it comes to an end.
structure Looked (limits : Limits) (g : FilterGroup) (found : List Finding) : Prop where
  filters   : strayMembers g.strayFilters "id" = .ok ()
  subGroups : strayMembers g.straySubGroups "id" = .ok ()
  found     : ∃ (count : Nat) (filterFindings emptyFindings : List Finding),
    g.filterCount = .ok count ∧ checkFilters g.filters = .ok filterFindings ∧
    (∀ f ∈ emptyFindings, f.isWarning = true) ∧
    found = (if g.id.truthy then [] else [.groupWithoutId]) ++
      (if limits.maxFiltersPerGroup < count then
        [.tooManyFilters g.id count limits.maxFiltersPerGroup] else []) ++
      filterFindings ++ emptyFindings

theorem looked_of_checkOwn (h : g.checkOwn limits = .ok found) : Looked limits g found := by
  rw [checkOwn_eq] at h
  obtain ⟨count, hc, h⟩ := ok_of_bind h
  obtain ⟨_, hf, h⟩ := ok_of_bind h
  obtain ⟨filterFindings, hff, h⟩ := ok_of_bind h
  obtain ⟨emptyFindings, he, h⟩ := ok_of_bind h
  obtain ⟨_, hs, h⟩ := ok_of_bind h
  cases h
  exact ⟨hf, hs, count, filterFindings, emptyFindings, hc, hff,
    fun f hm => isWarning_of_emptyFindings he hm, rfl⟩

theorem readable_of_checkOwn (hp : g.Placed) (h : g.checkOwn limits = .ok found) : g.Readable := by
  obtain ⟨hf, hs, _, _, _, _, hff, _⟩ := looked_of_checkOwn h
  exact ⟨strayMembers_eq_ok_iff hp.filters |>.mp hf, strayMembers_eq_ok_iff hp.subGroups |>.mp hs,
    checkFilters_ok_iff.mp ⟨_, hff⟩⟩

theorem mem_of_checkOwn (hp : g.Placed) (h : g.checkOwn limits = .ok found)
    (hf : f.isWarning = false) : f ∈ found ↔ g.Blames limits f := by
  have hr := readable_of_checkOwn hp h
  obtain ⟨_, _, count, filterFindings, emptyFindings, hc, hff, he, rfl⟩ := looked_of_checkOwn h
  have hc : g.filters.length = count :=
    Except.ok.inj ((filterCount_of_vacant hp hr.filters).symm.trans hc)
  subst hc
  have he : f ∉ emptyFindings := fun hm => by simp [he f hm] at hf
  simp only [List.mem_append, mem_of_checkFilters hff, he, or_false]
  constructor
  case mp =>
    rintro ((hm | hm) | ⟨x, hx, hm, rfl⟩)
    · split at hm
      case isTrue => cases hm
      case isFalse hid => exact List.mem_singleton.mp hm ▸ .id (by simpa using hid)
    · split at hm
      case isTrue hl => exact List.mem_singleton.mp hm ▸ .room hl
      case isFalse   => cases hm
    · exact .filter hx hm
  case mpr =>
    intro hb
    cases hb
    case id h          => exact .inl (.inl (by simp [h]))
    case room h        => exact .inl (.inr (by simp [h]))
    case filter x hx h => exact .inr ⟨x, hx, h, rfl⟩

theorem checkOwn_of_readable (limits : Limits) (hp : g.Placed) (h : g.Readable)
    (hn : ∃ n, g.enabledFilterCount = .ok n) : ∃ found, g.checkOwn limits = .ok found := by
  have ⟨n, hn⟩ := hn
  have ⟨filterFindings, hff⟩ := checkFilters_ok_iff.mpr h.fields
  have hc := filterCount_of_vacant hp h.filters
  have hf : strayMembers g.strayFilters "id" = .ok () := strayMembers_of_vacant h.filters
  have hs : strayMembers g.straySubGroups "id" = .ok () := strayMembers_of_vacant h.subGroups
  have ⟨emptyFindings, he⟩ : ∃ found, g.emptyFindings = .ok found := by
    unfold emptyFindings
    split
    case isTrue  => exact ⟨_, by rw [hn]; rfl⟩
    case isFalse => exact ⟨[], rfl⟩
  exact ⟨_, by rw [checkOwn_eq, hc, hf, hff, he, hs]; rfl⟩

theorem ok_of_check (h : g.check limits = .ok found) :
    ∃ own inner, g.checkOwn limits = .ok own ∧ checkAll limits g.subGroups = .ok inner ∧
      found = own ++ inner := by
  cases g
  rw [check] at h
  obtain ⟨own, ho, h⟩ := ok_of_bind h
  obtain ⟨inner, hi, h⟩ := ok_of_bind h
  cases h
  exact ⟨own, inner, ho, hi, rfl⟩

variable {gs : List FilterGroup}

theorem checkAll_ok_iff : (∃ found, checkAll limits gs = .ok found) ↔
    ∀ g ∈ gs, ∃ found, g.check limits = .ok found := by
  induction gs
  case nil => simp [checkAll]
  case cons g rest hi =>
    rw [List.forall_mem_cons, ← hi, checkAll]
    simp only [bind_ok_iff, pure, Except.pure, Except.ok.injEq, exists_eq', and_true, exists_and_right]

theorem mem_of_checkAll {P : FilterGroup → Prop} (h : checkAll limits gs = .ok found)
    (hg : ∀ g ∈ gs, ∀ {own}, g.check limits = .ok own → (f ∈ own ↔ P g)) :
    f ∈ found ↔ ∃ g ∈ gs, P g := by
  induction gs generalizing found
  case nil =>
    rw [checkAll] at h
    cases h
    simp
  case cons g rest hi =>
    obtain ⟨hg, hr⟩ := List.forall_mem_cons.mp hg
    rw [checkAll] at h
    obtain ⟨here, hh, h⟩ := ok_of_bind h
    obtain ⟨others, ho, h⟩ := ok_of_bind h
    cases h
    rw [List.mem_append, hg hh, hi ho hr, List.exists_mem_cons_iff]

theorem check_ok_iff (hp : ∀ s ∈ g.tree, s.Placed) :
    (∃ found, g.check limits = .ok found) ↔ ∀ s ∈ g.tree, s.Readable := by
  induction g using bySubGroups
  case node g hi =>
    obtain ⟨hg, hp⟩ := forall_mem_tree.mp hp
    rw [forall_mem_tree]
    constructor
    case mp =>
      rintro ⟨_, h⟩
      obtain ⟨own, inner, ho, hin, _⟩ := ok_of_check h
      refine ⟨readable_of_checkOwn hg ho, fun sub hm => ?_⟩
      exact hi sub hm (hp sub hm) |>.mp (checkAll_ok_iff.mp ⟨inner, hin⟩ sub hm)
    case mpr =>
      intro h
      have hn := enabledFilterCount_of_vacant fun s hs =>
        have hr := forall_mem_tree.mpr h s hs
        ⟨hr.filters, hr.subGroups⟩
      obtain ⟨own, ho⟩ := checkOwn_of_readable limits hg h.left hn
      obtain ⟨inner, hin⟩ := checkAll_ok_iff.mpr fun sub hm =>
        hi sub hm (hp sub hm) |>.mpr (h.right sub hm)
      cases g
      exact ⟨own ++ inner, by rw [check, ho, hin]; rfl⟩

-- A group is blamed for what is wrong with it and with the groups below it.
theorem mem_of_check (hp : ∀ s ∈ g.tree, s.Placed) (h : g.check limits = .ok found)
    (hf : f.isWarning = false) : f ∈ found ↔ ∃ s ∈ g.tree, s.Blames limits f := by
  induction g using bySubGroups generalizing found
  case node g hi =>
    obtain ⟨hg, hp⟩ := forall_mem_tree.mp hp
    obtain ⟨own, inner, ho, hin, rfl⟩ := ok_of_check h
    have hin := mem_of_checkAll hin fun sub hm _ h => hi sub hm (hp sub hm) h
    rw [List.mem_append, mem_of_checkOwn hg ho hf, hin, tree_eq, List.exists_mem_cons_iff]
    refine or_congr_right ?_
    constructor
    case mp  => exact fun ⟨sub, hm, s, hs, hb⟩ => ⟨s, List.mem_flatMap.mpr ⟨sub, hm, hs⟩, hb⟩
    case mpr =>
      rintro ⟨s, hs, hb⟩
      obtain ⟨sub, hm, hs⟩ := List.mem_flatMap.mp hs
      exact ⟨sub, hm, s, hs, hb⟩

-- What is valid can be looked through.

theorem Valid.readable (hv : g.Valid) : g.Readable where
  filters    := hv.noStrayFilters ▸ nofun
  subGroups  := hv.noStraySubGroups ▸ nofun
  fields x hm := .inl (hv.filters x hm).id.truthy

theorem enabledFilterCount_ok (hv : g.Valid) : ∃ n, g.enabledFilterCount = .ok n :=
  enabledFilterCount_of_vacant fun s hs =>
    have hr := (hv.tree s hs).readable
    ⟨hr.filters, hr.subGroups⟩

theorem check_ok (limits : Limits) (hv : g.Valid) : ∃ found, g.check limits = .ok found :=
  check_ok_iff (fun s hs => (hv.tree s hs).placed) |>.mpr fun s hs => (hv.tree s hs).readable

end FilterGroup

end FlowGate
