import Mathlib.Data.Int.Order.Basic
import Mathlib.Data.List.Basic
import Mathlib.Order.OrderDual
import FlowGate.Filter.Basic
import FlowGate.Proofs.Engine
import FlowGate.Proofs.List

-- Putting the members of a group in order. Priorities that are whole numbers can always be
-- compared, so sorting succeeds, and it depends on nothing but the priorities.

namespace FlowGate.Priority

variable {α β : Type} {priority : α → Value} {as : List α}

def level : Value → Int
  | .int n => n
  | _      => 0

def inOrder (priority : α → Value) (as : List α) : List α :=
  as.mergeSort fun a b => level (priority b) ≤ level (priority a)

theorem inOrder_perm (priority : α → Value) (as : List α) : (inOrder priority as).Perm as :=
  List.mergeSort_perm ..

theorem mem_inOrder {a : α} : a ∈ inOrder priority as ↔ a ∈ as :=
  inOrder_perm priority as |>.mem_iff

theorem rank_int (n : Int) : (Value.int n).rank = .ok (.int n) := by
  unfold Value.rank
  by_cases h : n = 0 <;> simp [Value.truthy, h]

theorem noLater_int (m n : Int) : noLater (.int m) (.int n) = decide (n ≤ m) := by
  rw [Bool.eq_iff_iff]
  simp [noLater, Scalar.numericOrder?, Std.compare_eq_lt]

theorem ranked_eq (h : ∀ a ∈ as, ∃ n, priority a = .int n) :
    ranked priority as = .ok (as.map fun a => (.int (level (priority a)), a)) := by
  induction as
  case nil => rfl
  case cons a rest hi =>
    have ⟨⟨n, hn⟩, hr⟩ := List.forall_mem_cons.mp h
    simp [ranked, hi hr, hn, rank_int, level, bind, Except.bind, pure, Except.pure]

theorem sort_eq (h : ∀ a ∈ as, ∃ n, priority a = .int n) :
    sort priority as = .ok (inOrder priority as) := by
  rw [sort, ranked_eq h, Except.map]
  congr 1
  rw [← List.map_mergeSort (r := fun a b => level (priority b) ≤ level (priority a))]
  · simp [inOrder, Function.comp_def]
  · simp [noLater_int]

-- Members in the order of their priorities: higher ones come first, and those with the same priority
-- stay as they were.
structure Ordered (priority : α → Value) (as bs : List α) : Prop where
  descending : bs.Pairwise fun a b => level (priority b) ≤ level (priority a)
  stable     : ∀ n, bs.filter (fun b => level (priority b) = n) =
    as.filter (fun a => level (priority a) = n)

theorem Ordered.filter {bs : List α} (h : Ordered priority as bs) (p : α → Bool) :
    Ordered priority (as.filter p) (bs.filter p) where
  descending := h.descending.filter p
  stable n   := by rw [List.filter_comm, h.stable n, List.filter_comm]

-- Higher priorities come first, so the key that is sorted by has the order turned round.
theorem ordered_inOrder (priority : α → Value) (as : List α) : Ordered priority as (inOrder priority as) where
  descending := Sorting.pairwise_mergeSort (fun a => OrderDual.toDual (level (priority a))) as
  stable n   := Sorting.filter_mergeSort (fun a => OrderDual.toDual (level (priority a))) as (OrderDual.toDual n)

theorem inOrder_map (f : β → α) (bs : List β) :
    inOrder priority (bs.map f) = (inOrder (fun b => priority (f b)) bs).map f :=
  (List.map_mergeSort (f := f) fun _ _ _ _ => rfl).symm

theorem ranked_map (f : β → α) (bs : List β) :
    ranked priority (bs.map f) =
      (ranked (fun b => priority (f b)) bs).map (List.map fun p => (p.1, f p.2)) := by
  induction bs
  case nil => rfl
  case cons b rest hi =>
    simp only [List.map_cons, ranked, hi]
    cases (priority (f b)).rank
    case error => rfl
    case ok =>
      cases ranked (fun b => priority (f b)) rest <;> rfl

theorem sort_map (f : β → α) (bs : List β) :
    sort priority (bs.map f) = (sort (fun b => priority (f b)) bs).map (List.map f) := by
  rw [sort, sort, ranked_map]
  cases ranked (fun b => priority (f b)) bs
  case error => rfl
  case ok pairs =>
    simp only [Except.map, Except.ok.injEq]
    rw [← List.map_mergeSort (r := fun a b => noLater a.1 b.1) fun _ _ _ _ => rfl]
    simp

theorem map_snd_ranked {pairs : List (Scalar × α)} (h : ranked priority as = .ok pairs) :
    pairs.map (·.2) = as := by
  induction as generalizing pairs
  case nil => cases h; rfl
  case cons a rest hi =>
    obtain ⟨rank, _, h⟩ := ok_of_bind h
    obtain ⟨others, ho, h⟩ := ok_of_bind h
    cases h
    rw [List.map_cons, hi ho]

-- Sorting, where it succeeds, leaves nothing out.
theorem perm_of_sort {bs : List α} (h : sort priority as = .ok bs) : bs.Perm as := by
  obtain ⟨pairs, hr, rfl⟩ := ok_of_map h
  rw [← map_snd_ranked hr]
  exact (List.mergeSort_perm ..).map _

end FlowGate.Priority
