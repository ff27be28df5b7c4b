import Mathlib.Data.List.Basic
import Mathlib.Data.List.Forall2
import Mathlib.Order.Lattice

-- Lists as programs go through them: initial parts, members that match one by one, and sorting.

namespace FlowGate

section InitialPart

-- Evaluation that stops early looks at an initial part of a list: everything up to the first member
-- that stops it, that member included, or the whole list if there is none.

variable {α β : Type}

def through (stops : α → Bool) : List α → List α
  | []        => []
  | a :: rest => if stops a then [a] else a :: through stops rest

variable {stops : α → Bool} {as : List α}

theorem through_isPrefix : through stops as <+: as := by
  induction as <;> simp only [through, List.prefix_rfl]
  case cons a rest hi =>
    split
    case isTrue  => exact ⟨rest, rfl⟩
    case isFalse => exact List.prefix_cons_inj a |>.mpr hi

theorem through_length_le : (through stops as).length ≤ as.length :=
  through_isPrefix.length_le

theorem through_ne_nil (h : as ≠ []) : through stops as ≠ [] := by
  cases as
  case nil => exact absurd rfl h
  case cons =>
    rw [through]
    split <;> simp

-- The two ways in which evaluation can end.
theorem through_cases (stops : α → Bool) (as : List α) :
    ((∀ a ∈ as, stops a = false) ∧ through stops as = as) ∨
    (∃ front last back, as = front ++ last :: back ∧ (∀ a ∈ front, stops a = false) ∧
      stops last = true ∧ through stops as = front ++ [last]) := by
  induction as
  case nil => exact .inl ⟨by simp, rfl⟩
  case cons a rest hi =>
    cases ha : stops a
    case true => exact .inr ⟨[], a, rest, rfl, by simp, ha, by simp [through, ha]⟩
    case false =>
      cases hi
      case inl h =>
        have ⟨hr, ht⟩ := h
        exact .inl ⟨List.forall_mem_cons.mpr ⟨ha, hr⟩, by simp [through, ha, ht]⟩
      case inr h =>
        have ⟨front, last, back, hr, hf, hl, ht⟩ := h
        refine .inr ⟨a :: front, last, back, by simp [hr], ?_, hl, by simp [through, ha, ht]⟩
        exact List.forall_mem_cons.mpr ⟨ha, hf⟩

theorem through_eq_self (h : ∀ a ∈ as, stops a = false) : through stops as = as := by
  induction as <;> simp only [through]
  case cons a rest hi =>
    have ⟨ha, hr⟩ := List.forall_mem_cons.mp h
    simp [ha, hi hr]

theorem through_map (f : β → α) (bs : List β) :
    through stops (bs.map f) = (through (fun b => stops (f b)) bs).map f := by
  induction bs <;> simp only [through, List.map_nil, List.map_cons]
  case cons b rest hi => split <;> simp [hi]

-- Whether some member stops the evaluation can be seen from the part that was evaluated.
theorem any_through : (through stops as).any stops = as.any stops := by
  induction as <;> simp only [through]
  case cons a rest hi => cases ha : stops a <;> simp [ha, hi]

theorem all_through {passes : α → Bool} :
    (through (fun a => !passes a) as).all passes = as.all passes := by
  induction as <;> simp only [through]
  case cons a rest hi => by_cases ha : passes a <;> simp [ha, hi]

end InitialPart

section Matching

variable {α β γ : Type} {R S : α → β → Prop} {as : List α} {bs : List β} {cs : List γ} {b : β}

theorem exists_of_mem (h : List.Forall₂ R as bs) (hb : b ∈ bs) : ∃ a ∈ as, R a b := by
  induction h
  case nil => cases hb
  case cons a b' as bs hr _ hi =>
    cases List.mem_cons.mp hb
    case inl hb => exact ⟨a, List.mem_cons_self, hb ▸ hr⟩
    case inr hb =>
      have ⟨a, ha, hr⟩ := hi hb
      exact ⟨a, List.mem_cons_of_mem _ ha, hr⟩

theorem exists_forall₂ (h : ∀ a ∈ as, ∃ b, R a b) : ∃ bs, List.Forall₂ R as bs := by
  induction as
  case nil => exact ⟨[], .nil⟩
  case cons a rest hi =>
    have ⟨⟨b, hb⟩, hr⟩ := List.forall_mem_cons.mp h
    have ⟨bs, hbs⟩ := hi hr
    exact ⟨b :: bs, .cons hb hbs⟩

theorem forall₂_of_mem (h : List.Forall₂ R as bs) (hrs : ∀ a ∈ as, ∀ b ∈ bs, R a b → S a b) :
    List.Forall₂ S as bs := by
  induction h
  case nil => exact .nil
  case cons a b as bs hab _ hi =>
    exact .cons (hrs a List.mem_cons_self b List.mem_cons_self hab)
      (hi fun a ha b hb => hrs a (List.mem_cons_of_mem _ ha) b (List.mem_cons_of_mem _ hb))

theorem forall₂_trans {T : β → γ → Prop} {U : α → γ → Prop} (h : List.Forall₂ R as bs) (h' : List.Forall₂ T bs cs)
    (ht : ∀ a ∈ as, ∀ b c, R a b → T b c → U a c) : List.Forall₂ U as cs := by
  induction h generalizing cs
  case nil =>
    cases h'
    exact .nil
  case cons a b as bs hab _ hi =>
    cases h'
    case cons hbc h' =>
      exact .cons (ht a List.mem_cons_self b _ hab hbc)
        (hi h' fun a ha => ht a (List.mem_cons_of_mem _ ha))

theorem map_eq_of_forall₂ {f : α → γ} {g : β → γ} (h : List.Forall₂ (fun a b => f a = g b) as bs) :
    as.map f = bs.map g := by
  induction h
  case nil           => rfl
  case cons hab _ hi => rw [List.map_cons, List.map_cons, hab, hi]

end Matching

-- Sorting by a key keeps the order of what has the same key.

namespace Sorting

variable {α κ : Type} [LinearOrder κ] (key : α → κ) (as : List α)

theorem key_trans (a b c : α) (h : decide (key a ≤ key b) = true) (h' : decide (key b ≤ key c) = true) :
    decide (key a ≤ key c) = true :=
  decide_eq_true ((of_decide_eq_true h).trans (of_decide_eq_true h'))

theorem key_total (a b : α) : (decide (key a ≤ key b) || decide (key b ≤ key a)) = true := by
  rw [Bool.or_eq_true, decide_eq_true_iff, decide_eq_true_iff]
  exact le_total _ _

theorem pairwise_mergeSort : (as.mergeSort fun a b => key a ≤ key b).Pairwise fun a b => key a ≤ key b :=
  (List.pairwise_mergeSort (key_trans key) (key_total key) as).imp of_decide_eq_true

theorem filter_mergeSort (k : κ) :
    (as.mergeSort fun a b => key a ≤ key b).filter (fun a => key a = k) = as.filter fun a => key a = k := by
  have hp : (as.filter fun a => key a = k).Pairwise fun a b => decide (key a ≤ key b) = true := by
    refine List.pairwise_of_forall_mem_list fun a ha b hb => decide_eq_true ?_
    have ha := of_decide_eq_true (List.mem_filter.mp ha).right
    have hb := of_decide_eq_true (List.mem_filter.mp hb).right
    rw [ha, hb]
  have hs := (List.sublist_mergeSort (key_trans key) (key_total key) hp List.filter_sublist).filter fun a => key a = k
  rw [List.filter_filter] at hs
  simp only [Bool.and_self] at hs
  exact (hs.eq_of_length ((List.mergeSort_perm ..).filter _).length_eq.symm).symm

end Sorting

end FlowGate
