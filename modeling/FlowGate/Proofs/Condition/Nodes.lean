import FlowGate.Action.Basic
import Mathlib.Data.List.Basic

-- The nodes of condition trees with the depths at which they lie, and the groups of filter trees, each tree
-- from the top and its parts from left to right.

namespace FlowGate

namespace FilterGroup

mutual

-- A group and all groups below it.
def tree : FilterGroup → List FilterGroup
  | g@⟨_, _, _, _, _, _, subGroups, _, _, _⟩ => g :: trees subGroups

def trees : List FilterGroup → List FilterGroup
  | []        => []
  | g :: rest => tree g ++ trees rest

end

variable {g s : FilterGroup} {gs : List FilterGroup}

theorem trees_eq : trees gs = gs.flatMap tree := by
  induction gs <;> simp [trees, *]

theorem tree_eq : g.tree = g :: g.subGroups.flatMap tree := by
  cases g
  rw [tree, trees_eq]

theorem forall_mem_tree {P : FilterGroup → Prop} :
    (∀ s ∈ g.tree, P s) ↔ P g ∧ ∀ sub ∈ g.subGroups, ∀ s ∈ sub.tree, P s := by
  rw [tree_eq, List.forall_mem_cons, List.forall_mem_flatMap]

mutual

-- Induction over a group tree, whatever its lists look like.
theorem bySubGroups {motive : FilterGroup → Prop}
    (node : ∀ g : FilterGroup, (∀ sub ∈ g.subGroups, motive sub) → motive g) : ∀ g, motive g
  | ⟨_, _, _, _, _, _, subGroups, _, _, _⟩ => node _ (bySubGroups_among node subGroups)

theorem bySubGroups_among {motive : FilterGroup → Prop}
    (node : ∀ g : FilterGroup, (∀ sub ∈ g.subGroups, motive sub) → motive g) :
    ∀ gs : List FilterGroup, ∀ g ∈ gs, motive g
  | []        => List.forall_mem_nil _
  | g :: rest => List.forall_mem_cons.mpr ⟨bySubGroups node g, bySubGroups_among node rest⟩

end

end FilterGroup

namespace Condition

def children : Condition → List Condition
  | complex _ _ children _ => children
  | _                      => []

-- The groups that a node asks.
def groups : Condition → List FilterGroup
  | filter _ (.known g) => g.tree
  | _                   => []

mutual

-- The nodes of a tree that lie below none that stops, where the root lies at this depth.
def nodesWhile (goesOn : Nat → Bool) (depth : Nat) : Condition → List (Nat × Condition)
  | c@(complex _ _ children _) =>
    (depth, c) :: if goesOn depth then nodesWhileAmong goesOn (depth + 1) children else []
  | c => [(depth, c)]

def nodesWhileAmong (goesOn : Nat → Bool) (depth : Nat) : List Condition → List (Nat × Condition)
  | []        => []
  | c :: rest => nodesWhile goesOn depth c ++ nodesWhileAmong goesOn depth rest

end

-- All nodes of a tree.
def nodes (depth : Nat) (c : Condition) : List (Nat × Condition) :=
  c.nodesWhile (fun _ => true) depth

mutual

theorem byChildren {motive : Condition → Prop}
    (node : ∀ c : Condition, (∀ child ∈ c.children, motive child) → motive c) : ∀ c, motive c
  | complex header operator children stray =>
    node (complex header operator children stray) (byChildren_among node children)
  | simple .. | filter .. | custom .. | foreign .. => node _ (List.forall_mem_nil _)

theorem byChildren_among {motive : Condition → Prop}
    (node : ∀ c : Condition, (∀ child ∈ c.children, motive child) → motive c) :
    ∀ cs : List Condition, ∀ c ∈ cs, motive c
  | []        => List.forall_mem_nil _
  | c :: rest => List.forall_mem_cons.mpr ⟨byChildren node c, byChildren_among node rest⟩

end

variable {goesOn : Nat → Bool} {depth : Nat} {c : Condition} {cs : List Condition}
  {p : Nat × Condition}

theorem nodesWhileAmong_eq :
    nodesWhileAmong goesOn depth cs = cs.flatMap (nodesWhile goesOn depth) := by
  induction cs <;> simp [nodesWhileAmong, *]

theorem nodesWhile_eq : c.nodesWhile goesOn depth =
    (depth, c) :: if goesOn depth then c.children.flatMap (nodesWhile goesOn (depth + 1)) else [] := by
  cases c
  case complex => rw [nodesWhile, nodesWhileAmong_eq, children]
  all_goals simp [nodesWhile, children]

theorem nodes_eq : c.nodes depth = (depth, c) :: c.children.flatMap (nodes (depth + 1)) :=
  nodesWhile_eq

theorem nodesWhile_subset : c.nodesWhile goesOn depth ⊆ c.nodes depth := by
  induction c using byChildren generalizing depth
  case node c hi =>
    rw [nodesWhile_eq, nodes_eq]
    refine List.cons_subset_cons _ ?_
    split
    case isFalse => exact List.nil_subset _
    case isTrue  =>
      intro p hp
      have ⟨child, hm, hp⟩ := List.mem_flatMap.mp hp
      exact List.mem_flatMap.mpr ⟨child, hm, hi child hm hp⟩

-- Where no node stops, nothing is left out.
theorem nodesWhile_eq_nodes (h : ∀ p ∈ c.nodesWhile goesOn depth, goesOn p.1 = true) :
    c.nodesWhile goesOn depth = c.nodes depth := by
  induction c using byChildren generalizing depth
  case node c hi =>
    rw [nodesWhile_eq] at h
    have ⟨hd, h⟩ := List.forall_mem_cons.mp h
    rw [if_pos hd] at h
    rw [nodesWhile_eq, nodes_eq, if_pos hd]
    refine congrArg _ (List.flatMap_congr fun child hm => hi child hm fun p hp => ?_)
    exact h p (List.mem_flatMap.mpr ⟨child, hm, hp⟩)

end Condition

namespace Action

def nodes (a : Action) : List (Nat × Condition) :=
  a.conditions.flatMap (Condition.nodes 1)

def groups (a : Action) : List FilterGroup :=
  a.nodes.flatMap (fun p => p.2.groups) ++ a.filters.flatMap FilterGroup.tree

end Action

end FlowGate
