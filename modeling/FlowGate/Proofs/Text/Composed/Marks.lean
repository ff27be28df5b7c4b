import FlowGate.Proofs.List
import FlowGate.Proofs.Text.CodeSet
import FlowGate.Text.Composed
import Mathlib.Data.List.Chain

-- The order of marks. Lists that are the same but for the order of marks of different classes become the same list
-- when their marks are put in order.

namespace FlowGate.Text

variable {k n m : Nat} {marks ns xs ys zs xs' ys' : List Nat}

-- What is left when the marks of all classes but one are taken out.
def only (k : Nat) (ns : List Nat) : List Nat :=
  ns.filter fun n => combiningClass n = 0 ∨ combiningClass n = k

def Rearranged (xs ys : List Nat) : Prop :=
  ∀ k, only k xs = only k ys

-- Between two characters that start anew the classes of the marks ascend.
def Ordered (ns : List Nat) : Prop :=
  ns.IsChain fun m n => combiningClass n = 0 ∨ combiningClass m ≤ combiningClass n

theorem only_append : only k (xs ++ ys) = only k xs ++ only k ys :=
  List.filter_append ..

theorem only_cons_of_class (h : combiningClass n = 0 ∨ combiningClass n = k) : only k (n :: ns) = n :: only k ns :=
  List.filter_cons_of_pos (decide_eq_true h)

theorem only_cons_of_not_class (h : ¬(combiningClass n = 0 ∨ combiningClass n = k)) : only k (n :: ns) = only k ns :=
  List.filter_cons_of_neg (by simpa using h)

namespace Rearranged

theorem refl (ns : List Nat) : Rearranged ns ns :=
  fun _ => rfl

theorem symm (h : Rearranged xs ys) : Rearranged ys xs :=
  fun k => (h k).symm

theorem trans (h : Rearranged xs ys) (h' : Rearranged ys zs) : Rearranged xs zs :=
  fun k => (h k).trans (h' k)

theorem append (h : Rearranged xs ys) (h' : Rearranged xs' ys') : Rearranged (xs ++ xs') (ys ++ ys') := by
  intro k
  rw [only_append, only_append, h, h']

theorem reverse (h : Rearranged xs ys) : Rearranged xs.reverse ys.reverse := by
  intro k
  rw [only, only, List.filter_reverse, List.filter_reverse]
  exact congrArg List.reverse (h k)

-- A mark may change places with marks of other classes.
theorem swap (hn : combiningClass n ≠ 0) (h : ∀ m ∈ marks, combiningClass m ≠ 0 ∧ combiningClass m ≠ combiningClass n) :
    Rearranged (n :: marks) (marks ++ [n]) := by
  intro k
  rw [only_append]
  by_cases hk : combiningClass n = k
  case pos =>
    have hnone : only k marks = [] := by
      rw [only, List.filter_eq_nil_iff]
      intro m hm
      have := h m hm
      grind
    rw [only_cons_of_class (.inr hk), only_cons_of_class (.inr hk), hnone]
    rfl
  case neg =>
    have hk : ¬(combiningClass n = 0 ∨ combiningClass n = k) := by grind
    rw [only_cons_of_not_class hk, only_cons_of_not_class hk]
    exact (List.append_nil _).symm

theorem ne_nil (h : Rearranged (n :: xs) ys) : ys ≠ [] := by
  rintro rfl
  have h := h (combiningClass n)
  rw [only_cons_of_class (.inr rfl)] at h
  cases h

theorem tail (h : Rearranged (n :: xs) (n :: ys)) : Rearranged xs ys := by
  intro k
  have h := h k
  by_cases hk : combiningClass n = 0 ∨ combiningClass n = k
  case pos =>
    rw [only_cons_of_class hk, only_cons_of_class hk] at h
    exact (List.cons.inj h).right
  case neg => rwa [only_cons_of_not_class hk, only_cons_of_not_class hk] at h

theorem head_eq (h : Rearranged (n :: xs) (m :: ys)) (hn : combiningClass n = 0 ∨ combiningClass n = combiningClass m) :
    n = m := by
  have h := h (combiningClass m)
  rw [only_cons_of_class hn, only_cons_of_class (.inr rfl)] at h
  exact (List.cons.inj h).left

-- What starts anew stays first, and last.
theorem eq_cons (h : Rearranged (n :: xs) ys) (hn : combiningClass n = 0) : ∃ zs, ys = n :: zs := by
  obtain ⟨m, zs, rfl⟩ := List.exists_cons_of_ne_nil h.ne_nil
  exact ⟨zs, by rw [h.head_eq (.inl hn)]⟩

theorem eq_concat (h : Rearranged (xs ++ [n]) ys) (hn : combiningClass n = 0) : ∃ zs, ys = zs ++ [n] := by
  have h := h.reverse
  rw [List.reverse_append] at h
  obtain ⟨zs, hz⟩ := h.eq_cons hn
  exact ⟨zs.reverse, by rw [← List.reverse_reverse ys, hz, List.reverse_cons]⟩

end Rearranged

namespace Ordered

-- In front of the first mark that is left there are only marks of classes that are no greater.
theorem class_le (h : Ordered (m :: ns)) (ho : only k (m :: ns) = n :: zs) (hn : combiningClass n ≠ 0) :
    combiningClass m ≤ combiningClass n := by
  induction ns generalizing m
  case nil =>
    have hmem : n ∈ only k [m] := ho ▸ .head _
    obtain rfl := List.mem_singleton.mp (List.mem_of_mem_filter hmem)
    exact Nat.le_refl _
  case cons x ns hi =>
    by_cases hm : combiningClass m = 0 ∨ combiningClass m = k
    case pos =>
      rw [only_cons_of_class hm] at ho
      exact Nat.le_of_eq (congrArg combiningClass (List.cons.inj ho).left)
    case neg =>
      rw [only_cons_of_not_class hm] at ho
      obtain ⟨hx, hns⟩ := List.isChain_cons_cons.mp h
      obtain hx | hx := hx
      case inl =>
        rw [only_cons_of_class (.inl hx)] at ho
        exact absurd ((List.cons.inj ho).left ▸ hx) hn
      case inr => exact Nat.le_trans hx (hi hns ho)

-- What comes first starts anew in both lists or in neither, and of the marks that may come first there is one of the
-- least class.
theorem head_eq (hx : Ordered (n :: xs)) (hy : Ordered (m :: ys)) (h : Rearranged (n :: xs) (m :: ys)) : n = m := by
  by_cases hn : combiningClass n = 0
  case pos => exact h.head_eq (.inl hn)
  case neg =>
    have hm : combiningClass m ≠ 0 := fun hm => hn (h.symm.head_eq (.inl hm) ▸ hm)
    have hle := hy.class_le ((h _).symm.trans (only_cons_of_class (.inr rfl))) hn
    have hge := hx.class_le ((h _).trans (only_cons_of_class (.inr rfl))) hm
    exact h.head_eq (.inr (Nat.le_antisymm hge hle))

theorem eq_of_rearranged (hx : Ordered xs) (hy : Ordered ys) (h : Rearranged xs ys) : xs = ys := by
  induction xs generalizing ys
  case nil =>
    cases ys
    case nil  => rfl
    case cons => exact absurd rfl h.symm.ne_nil
  case cons n xs hi =>
    obtain ⟨m, ys, rfl⟩ := List.exists_cons_of_ne_nil h.ne_nil
    obtain rfl := hx.head_eq hy h
    rw [hi hx.of_cons hy.of_cons h.tail]

end Ordered

-- The ranges of the marks whose classes are these.
def classRanges (p : Nat → Bool) : Ranges :=
  (combiningClasses.filter fun row => p row.2.2).map fun row => (row.1, row.2.1)

theorem has_classRanges {p : Nat → Bool} (h : combiningClass n ≠ 0) (hp : p (combiningClass n) = true) :
    (classRanges p).Has n := by
  have hrow : ∃ row ∈ combiningClasses, row.2.2 = combiningClass n ∧ row.1 ≤ n ∧ n ≤ row.2.1 := by
    rw [combiningClass] at h ⊢
    split at h
    case isTrue => exact absurd rfl h
    case isFalse hn =>
      rw [if_neg hn]
      cases hf : combiningClasses.find? fun row => row.1 ≤ n && n ≤ row.2.1
      case none => rw [hf] at h; exact absurd rfl h
      case some row =>
        have hb := List.find?_some hf
        rw [Bool.and_eq_true, decide_eq_true_iff, decide_eq_true_iff] at hb
        exact ⟨row, List.mem_of_find?_eq_some hf, rfl, hb⟩
  obtain ⟨row, hm, hk, hb⟩ := hrow
  exact ⟨_, List.mem_map_of_mem (List.mem_filter.mpr ⟨hm, by rw [hk]; exact hp⟩), hb⟩

theorem sorted_eq : orderMarks.sorted marks = marks.mergeSort fun a b => combiningClass a ≤ combiningClass b :=
  rfl

theorem mem_sorted : n ∈ orderMarks.sorted marks ↔ n ∈ marks :=
  (List.mergeSort_perm ..).mem_iff

theorem ordered_sorted (marks : List Nat) : Ordered (orderMarks.sorted marks) :=
  (Sorting.pairwise_mergeSort combiningClass marks).isChain.imp fun _ _ h => .inr h

theorem rearranged_sorted (h : ∀ m ∈ marks, combiningClass m ≠ 0) : Rearranged (orderMarks.sorted marks) marks := by
  intro k
  have honly {ms : List Nat} (h : ∀ m ∈ ms, combiningClass m ≠ 0) :
      only k ms = ms.filter fun m => combiningClass m = k :=
    List.filter_congr fun m hm => by simp [h m hm]
  rw [honly h, honly fun m hm => h m (mem_sorted.mp hm), sorted_eq, Sorting.filter_mergeSort]

-- Putting marks in order changes nothing but the places of marks of different classes.
theorem orderMarks_orders (h : ∀ m ∈ marks, combiningClass m ≠ 0) :
    Ordered (orderMarks marks ns) ∧ Rearranged (orderMarks marks ns) (marks ++ ns) := by
  induction ns generalizing marks
  case nil =>
    rw [List.append_nil]
    exact ⟨ordered_sorted marks, rearranged_sorted h⟩
  case cons n ns hi =>
    rw [orderMarks]
    split
    case isTrue hn =>
      obtain ⟨ho, hr⟩ := @hi [] (List.forall_mem_nil _)
      refine ⟨?_, (rearranged_sorted h).append (.append (.refl [n]) hr)⟩
      refine List.isChain_append.mpr ⟨ordered_sorted marks, ho.cons fun _ _ => ?_, fun _ _ m hm => ?_⟩
      · right
        rw [hn]
        exact Nat.zero_le _
      · left
        cases hm
        exact hn
    case isFalse hn =>
      have h : ∀ m ∈ marks ++ [n], combiningClass m ≠ 0 :=
        List.forall_mem_append.mpr ⟨h, List.forall_mem_singleton.mpr hn⟩
      rw [List.append_cons marks n ns]
      exact hi h

end FlowGate.Text
