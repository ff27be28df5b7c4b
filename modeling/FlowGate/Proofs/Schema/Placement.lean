import FlowGate.Proofs.Condition.Nodes
import FlowGate.Proofs.Schema.Validity
import FlowGate.Schema.Draft

-- Values in place of lists. They come from configurations that are taken as they stand. Such a value is no list,
-- and there are no members beside it.

namespace FlowGate

open Schema Parsed

def Placed {α : Type} (members : List α) (stray : Option Value) : Prop :=
  ∀ v, stray = some v → members = [] ∧ ∀ vs, v ≠ .list vs

theorem Placed.none {α : Type} {members : List α} : Placed members none :=
  nofun

structure FilterGroup.Placed (g : FilterGroup) : Prop where
  filters   : FlowGate.Placed g.filters g.strayFilters
  subGroups : FlowGate.Placed g.subGroups g.straySubGroups

structure Condition.Placed (c : Condition) : Prop where
  children : ∀ header operator children stray, c = complex header operator children stray →
    FlowGate.Placed children stray
  groups   : ∀ g ∈ c.groups, g.Placed

structure Action.Placed (a : Action) : Prop where
  conditions : FlowGate.Placed a.conditions a.strayConditions
  filters    : FlowGate.Placed a.filters a.strayFilters
  nodes      : ∀ p ∈ a.nodes, p.2.Placed
  groups     : ∀ g ∈ a.filters, ∀ s ∈ g.tree, s.Placed

namespace Drafts

variable {α : Type} {d : Drafts α} {x : Parsed (List α)}

def Placed (d : Drafts α) : Prop :=
  FlowGate.Placed d.members d.stray

theorem placed_of_members (h : x.map (Drafts.mk · .none) = .done d) : d.Placed := by
  obtain ⟨as, -, rfl⟩ := map_eq_done.mp h
  exact .none

theorem members_of_map (h : x.map (Drafts.mk · .none) = .done d) : x = .done d.members := by
  obtain ⟨as, hx, rfl⟩ := map_eq_done.mp h
  exact hx

theorem placed_of_stray {v : Value} (hv : ∀ vs, v ≠ .list vs)
    (h : Parsed.done (Drafts.mk [] (some v)) = .done d) : d.Placed := by
  cases h
  rintro _ ⟨⟩
  exact ⟨rfl, hv⟩

end Drafts

theorem Filter.placed_of_drafts {v : Value} {d : Drafts Filter} (h : Filter.drafts v = .done d) :
    d.Placed := by
  unfold drafts at h
  split at h
  case h_1    => exact Drafts.placed_of_members h
  case h_2 hv => exact Drafts.placed_of_stray hv h

namespace FilterGroup

-- Drafts of groups in which all lists are placed.
structure AllPlaced (d : Drafts FilterGroup) : Prop where
  own     : d.Placed
  members : ∀ g ∈ d.members, ∀ s ∈ g.tree, s.Placed

theorem placed_of_draftOf {entries : Entries} {subGroups : Option (Parsed (Drafts FilterGroup))}
    {g : FilterGroup} (hs : ∀ d, subGroups = some (.done d) → AllPlaced d)
    (h : draftOf entries subGroups = .done g) : ∀ s ∈ g.tree, s.Placed := by
  simp only [draftOf, seq_eq_done, map_eq_done] at h
  obtain ⟨_, ⟨fs, hf, rfl⟩, d, hd, rfl⟩ := h
  have hd : AllPlaced d := by
    cases subGroups
    case none   => cases hd; exact ⟨.none, List.forall_mem_nil _⟩
    case some x => exact hs d (congrArg some hd)
  exact forall_mem_tree.mpr ⟨⟨Filter.placed_of_drafts hf, hd.own⟩, hd.members⟩

mutual

theorem placed_of_draft : ∀ {v : Value} {g : FilterGroup}, draft v = .done g → ∀ s ∈ g.tree, s.Placed
  | .map entries, _, h => by
    rw [draft] at h
    refine placed_of_draftOf (fun d hd => ?_) h
    cases (Option.orElse_eq_some ..).mp hd
    case inl h => exact placed_of_draftUnder h
    case inr h => exact placed_of_draftUnder h.right
  | .scalar _, _, h | .list _, _, h => by
    rw [draft] at h
    · refine placed_of_draftOf ?_ h
      nofun
    · nofun

theorem placed_of_draftUnder {name : String} : ∀ {entries : Entries} {d : Drafts FilterGroup},
    draftUnder name entries = some (.done d) → AllPlaced d
  | [], _, h => by simp [draftUnder] at h
  | (k, v) :: rest, _, h => by
    rw [draftUnder] at h
    split at h
    · exact placed_of_draftList (Option.some.inj h)
    · exact placed_of_draftUnder h

theorem placed_of_draftList : ∀ {v : Value} {d : Drafts FilterGroup},
    draftList v = .done d → AllPlaced d
  | .list vs, _, h => by
    rw [draftList] at h
    exact ⟨Drafts.placed_of_members h, placed_of_draftItems (Drafts.members_of_map h)⟩
  | .scalar _, _, h | .map _, _, h => by
    rw [draftList] at h
    · refine ⟨Drafts.placed_of_stray ?_ h, ?_⟩
      · nofun
      · cases h
        exact List.forall_mem_nil _
    · nofun

theorem placed_of_draftItems : ∀ {vs : List Value} {gs : List FilterGroup},
    draftItems vs = .done gs → ∀ g ∈ gs, ∀ s ∈ g.tree, s.Placed
  | [], _, h => by
    rw [draftItems] at h
    cases h
    exact List.forall_mem_nil _
  | v :: vs, _, h => by
    simp only [draftItems, seq_eq_done, map_eq_done] at h
    obtain ⟨_, ⟨g, hg, rfl⟩, gs, hgs, rfl⟩ := h
    exact List.forall_mem_cons.mpr ⟨placed_of_draft hg, placed_of_draftItems hgs⟩

end

end FilterGroup

namespace Condition

structure AllPlaced (d : Drafts Condition) : Prop where
  own     : d.Placed
  members : ∀ c ∈ d.members, ∀ depth, ∀ p ∈ c.nodes depth, p.2.Placed

theorem placed_of_isLeaf {c : Condition} (hc : c.children = []) (hp : c.Placed) :
    ∀ depth, ∀ p ∈ c.nodes depth, p.2.Placed := by
  intro depth
  rw [nodes_eq, hc]
  exact List.forall_mem_singleton.mpr hp

theorem placed_complex {header : Header} {operator : Slot Connective} {d : Drafts Condition}
    (hd : AllPlaced d) : ∀ depth, ∀ p ∈ (complex header operator d.members d.stray).nodes depth,
      p.2.Placed := by
  intro depth
  rw [nodes_eq]
  refine List.forall_mem_cons.mpr ⟨⟨?_, List.forall_mem_nil _⟩, ?_⟩
  · rintro _ _ _ _ ⟨⟩
    exact hd.own
  · exact List.forall_mem_flatMap.mpr fun child hm => hd.members child hm _

theorem placed_filter {header : Header} {slot : Slot FilterGroup} {v : Value}
    (h : FilterGroup.draftSlot v = .done slot) : (filter header slot).Placed := by
  refine ⟨nofun, ?_⟩
  unfold FilterGroup.draftSlot at h
  split at h
  case h_1 =>
    obtain ⟨g, hg, rfl⟩ := map_eq_done.mp h
    exact FilterGroup.placed_of_draft hg
  case h_2 =>
    cases h
    exact List.forall_mem_nil _

theorem placed_of_draftOf {entries : Entries} {children : Option (Parsed (Drafts Condition))}
    {c : Condition} (hs : ∀ d, children = some (.done d) → AllPlaced d)
    (h : draftOf entries children = .done c) : ∀ depth, ∀ p ∈ c.nodes depth, p.2.Placed := by
  unfold draftOf at h
  split at h
  case h_5 =>
    cases h
    exact placed_of_isLeaf rfl ⟨nofun, List.forall_mem_nil _⟩
  all_goals simp only [seq_eq_done, map_eq_done] at h
  case h_1 =>
    obtain ⟨_, -, rfl⟩ := h
    exact placed_of_isLeaf rfl ⟨nofun, List.forall_mem_nil _⟩
  case h_2 =>
    obtain ⟨_, ⟨_, -, rfl⟩, d, hd, rfl⟩ := h
    refine placed_complex ?_
    cases children
    case none   => cases hd; exact ⟨.none, List.forall_mem_nil _⟩
    case some x => exact hs d (congrArg some hd)
  case h_3 =>
    obtain ⟨_, ⟨_, -, rfl⟩, slot, hslot, rfl⟩ := h
    exact placed_of_isLeaf rfl (placed_filter hslot)
  case h_4 =>
    obtain ⟨_, -, rfl⟩ := h
    exact placed_of_isLeaf rfl ⟨nofun, List.forall_mem_nil _⟩

mutual

theorem placed_of_draft : ∀ {v : Value} {c : Condition},
    draft v = .done c → ∀ depth, ∀ p ∈ c.nodes depth, p.2.Placed
  | .map entries, _, h => by
    rw [draft] at h
    refine placed_of_draftOf (fun d hd => ?_) h
    cases (Option.orElse_eq_some ..).mp hd
    case inl h => exact placed_of_draftUnder h
    case inr h => exact placed_of_draftUnder h.right
  | .scalar _, _, h | .list _, _, h => by
    rw [draft] at h
    · refine placed_of_draftOf ?_ h
      nofun
    · nofun

theorem placed_of_draftUnder {name : String} : ∀ {entries : Entries} {d : Drafts Condition},
    draftUnder name entries = some (.done d) → AllPlaced d
  | [], _, h => by simp [draftUnder] at h
  | (k, v) :: rest, _, h => by
    rw [draftUnder] at h
    split at h
    · exact placed_of_draftList (Option.some.inj h)
    · exact placed_of_draftUnder h

theorem placed_of_draftList : ∀ {v : Value} {d : Drafts Condition},
    draftList v = .done d → AllPlaced d
  | .list vs, _, h => by
    rw [draftList] at h
    exact ⟨Drafts.placed_of_members h, placed_of_draftItems (Drafts.members_of_map h)⟩
  | .scalar _, _, h | .map _, _, h => by
    rw [draftList] at h
    · refine ⟨Drafts.placed_of_stray ?_ h, ?_⟩
      · nofun
      · cases h
        exact List.forall_mem_nil _
    · nofun

theorem placed_of_draftItems : ∀ {vs : List Value} {cs : List Condition},
    draftItems vs = .done cs → ∀ c ∈ cs, ∀ depth, ∀ p ∈ c.nodes depth, p.2.Placed
  | [], _, h => by
    rw [draftItems] at h
    cases h
    exact List.forall_mem_nil _
  | v :: vs, _, h => by
    simp only [draftItems, seq_eq_done, map_eq_done] at h
    obtain ⟨_, ⟨c, hc, rfl⟩, cs, hcs, rfl⟩ := h
    exact List.forall_mem_cons.mpr ⟨placed_of_draft hc, placed_of_draftItems hcs⟩

end

end Condition

namespace Action

theorem placed_of_draft {v : Value} {a : Action} (h : draft v = .done a) : a.Placed := by
  simp only [draft, seq_eq_done, map_eq_done] at h
  obtain ⟨_, ⟨_, ⟨_, ⟨_, ⟨_, ⟨cs, hc, rfl⟩, gs, hg, rfl⟩, _, -, rfl⟩, _, -, rfl⟩, _, -, rfl⟩,
    _, -, rfl⟩ := h
  have hc := Condition.placed_of_draftList hc
  have hg := FilterGroup.placed_of_draftList hg
  exact ⟨hc.own, hg.own, List.forall_mem_flatMap.mpr fun c hm => hc.members c hm 1, hg.members⟩

end Action

-- The parts of what is valid are valid at every depth, and nothing is in place of their lists.

theorem FilterGroup.Valid.tree {g : FilterGroup} (hv : g.Valid) : ∀ s ∈ g.tree, s.Valid := by
  induction hv
  case intro g hid hname ho hf hsf hs hss hen hpr hi =>
    exact forall_mem_tree.mpr ⟨.intro hid hname ho hf hsf hs hss hen hpr, hi⟩

theorem FilterGroup.Valid.placed {g : FilterGroup} (hv : g.Valid) : g.Placed :=
  ⟨hv.noStrayFilters ▸ .none, hv.noStraySubGroups ▸ .none⟩

namespace Condition.Valid

variable {c : Condition}

theorem children (hv : c.Valid) : ∀ child ∈ c.children, child.Valid := by
  cases hv
  case complex each => exact each
  all_goals exact List.forall_mem_nil _

theorem nodes (hv : c.Valid) : ∀ depth, ∀ p ∈ c.nodes depth, p.2.Valid := by
  induction c using byChildren
  case node c hi =>
    intro depth
    rw [nodes_eq]
    refine List.forall_mem_cons.mpr ⟨hv, List.forall_mem_flatMap.mpr fun child hm => ?_⟩
    exact hi child hm (hv.children child hm) _

theorem groups (hv : c.Valid) : ∀ g ∈ c.groups, g.Valid := by
  cases hv
  case filter hgroup => exact hgroup.tree
  all_goals exact List.forall_mem_nil _

theorem placed (hv : c.Valid) : c.Placed := by
  refine ⟨?_, fun g hm => (hv.groups g hm).placed⟩
  rintro _ _ _ _ rfl
  cases hv
  exact .none

end Condition.Valid

namespace Action.Valid

variable {a : Action}

theorem nodes (hv : a.Valid) : ∀ p ∈ a.nodes, p.2.Valid :=
  List.forall_mem_flatMap.mpr fun c hm => (hv.conditions c hm).nodes 1

theorem groups (hv : a.Valid) : ∀ g ∈ a.groups, g.Valid := by
  refine List.forall_mem_append.mpr ⟨?_, ?_⟩
  · exact List.forall_mem_flatMap.mpr fun p hm => (hv.nodes p hm).groups
  · exact List.forall_mem_flatMap.mpr fun g hm => (hv.filters g hm).tree

theorem placed (hv : a.Valid) : a.Placed where
  conditions := hv.noStrayConditions ▸ .none
  filters    := hv.noStrayFilters ▸ .none
  nodes p hm := (hv.nodes p hm).placed
  groups     := fun g hg s hs => ((hv.filters g hg).tree s hs).placed

end Action.Valid

-- However a configuration was taken in.
theorem Action.placed_of_offered {v : Value} {a : Action}
    (h : Action.read v = .done a ∨ Action.draft v = .done a) : a.Placed :=
  h.elim (fun h => (valid_of_read h).placed) placed_of_draft

end FlowGate
