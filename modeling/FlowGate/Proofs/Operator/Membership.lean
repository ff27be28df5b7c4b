import FlowGate.Proofs.List
import FlowGate.Proofs.Operator.Equality
import Mathlib.Data.List.Forall2

-- The strict equality is an equivalence, and what membership makes of it. Lists may have their items replaced
-- by strictly equal ones. Strictly equal lists may differ in that a truth value of one stands for a number of
-- the other, and then they do not have the same members.

namespace FlowGate

namespace Value

-- The values that the strict equality is an equivalence of.
abbrev Proper : Type := {v : Value // v.Definite}

namespace Proper

instance strictly : Setoid Proper where
  r v w := v.val.strictEquals w.val = true
  iseqv := {
    refl v := (strictEquals_iff v.property v.property).mpr ⟨hereditary_alike_refl.holds v.val, rfl⟩
    symm {v w} h := by
      have ⟨halike, htruth⟩ := (strictEquals_iff v.property w.property).mp h
      exact (strictEquals_iff w.property v.property).mpr ⟨hereditary_alike_symm.holds _ _ halike, htruth.symm⟩
    trans {u v w} h h' := by
      have ⟨halike, htruth⟩ := (strictEquals_iff u.property v.property).mp h
      have ⟨halike', htruth'⟩ := (strictEquals_iff v.property w.property).mp h'
      exact (strictEquals_iff u.property w.property).mpr
        ⟨hereditary_alike_trans.holds _ _ _ halike halike', htruth.trans htruth'⟩
  }

def list (xs : List Proper) : Proper :=
  ⟨.list (xs.map (·.val)), .list (List.forall_mem_map.mpr fun x _ => x.property)⟩

variable {v w v' w' : Proper} {xs ys zs xs' ys' : List Proper}

theorem equiv_iff : v ≈ w ↔ v.val.strictEquals w.val = true := .rfl

theorem strictEquals_congr (h : v ≈ v') (h' : w ≈ w') : v.val.strictEquals w.val = v'.val.strictEquals w'.val :=
  Bool.eq_iff_iff.mpr ⟨fun hvw => Setoid.trans (Setoid.symm h) (Setoid.trans hvw h'),
    fun hvw => Setoid.trans h (Setoid.trans hvw (Setoid.symm h'))⟩

theorem list_inj : list xs = list ys ↔ xs = ys := by
  rw [list, list, Subtype.mk.injEq, Value.list.injEq]
  exact (List.map_injective_iff.mpr Subtype.val_injective).eq_iff

theorem exists_eq_list {items : List Value} (h : v.val = .list items) : ∃ xs, v = list xs := by
  obtain ⟨_, hv⟩ := v
  subst h
  cases hv
  case list hv => exact ⟨items.pmap Subtype.mk hv, by simp [list, List.map_pmap]⟩

theorem list_of_equiv (h : list xs ≈ v) : ∃ ys, v = list ys := by
  rw [equiv_iff, strictEquals_eq, Bool.and_eq_true] at h
  obtain ⟨v, hv⟩ := v
  cases v
  case list => exact exists_eq_list rfl
  all_goals simp [list, same] at h

theorem list_equiv_iff : list xs ≈ list ys ↔ List.Forall₂ (fun x y => x.val.same y.val = true) xs ys := by
  rw [equiv_iff, strictEquals_eq, list, list, same, Bool.and_eq_true, sameItems_iff, List.forall₂_map_left_iff,
    List.forall₂_map_right_iff]
  simp [isTruth]

-- A list is replaced item by item, and any other value as a whole.
inductive Replaces : Proper → Proper → Prop
  | items {xs ys : List Proper} (h : List.Forall₂ (· ≈ ·) xs ys) : Replaces (list xs) (list ys)
  | whole {v w : Proper} (hv : ∀ xs, v ≠ list xs) (hw : ∀ ys, w ≠ list ys) (h : v ≈ w) : Replaces v w

-- What keeps strictly equal lists from replacing each other is only that truth values count as numbers.
theorem replaces_iff : Replaces v w ↔ v ≈ w ∧
    ∀ xs ys, v = list xs → w = list ys → List.Forall₂ (fun x y => x.val.isTruth = y.val.isTruth) xs ys := by
  have hitem {x y : Proper} : x ≈ y ↔ x.val.same y.val = true ∧ x.val.isTruth = y.val.isTruth := by
    rw [equiv_iff, strictEquals_eq, Bool.and_eq_true, beq_iff_eq]
  constructor
  case mp =>
    intro h
    cases h
    case items xs ys h =>
      refine ⟨list_equiv_iff.mpr (h.imp fun _ _ h => (hitem.mp h).left), fun xs' ys' hx hy => ?_⟩
      obtain rfl := list_inj.mp hx
      obtain rfl := list_inj.mp hy
      exact h.imp fun _ _ h => (hitem.mp h).right
    case whole hv hw h => exact ⟨h, fun xs _ h => absurd h (hv xs)⟩
  case mpr =>
    rintro ⟨h, hitems⟩
    by_cases hv : ∃ xs, v = list xs
    case pos =>
      obtain ⟨xs, rfl⟩ := hv
      obtain ⟨ys, rfl⟩ := list_of_equiv h
      exact .items ((list_equiv_iff.mp h).mp (fun _ _ hs ht => hitem.mpr ⟨hs, ht⟩) (hitems xs ys rfl rfl))
    case neg =>
      have hw (ys) (hw : w = list ys) : False := hv (list_of_equiv (Setoid.symm (hw ▸ h)))
      exact .whole (fun xs hx => hv ⟨xs, hx⟩) hw h

-- One list has all the items of another, or some of them.
def Includes (xs ys : List Proper) : Prop :=
  ∀ y ∈ ys, ∃ x ∈ xs, x ≈ y

def Meets (xs ys : List Proper) : Prop :=
  ∃ y ∈ ys, ∃ x ∈ xs, x ≈ y

theorem Includes.refl (xs : List Proper) : Includes xs xs :=
  fun x hx => ⟨x, hx, Setoid.refl x⟩

theorem Includes.trans (h : Includes xs ys) (h' : Includes ys zs) : Includes xs zs := by
  intro z hz
  obtain ⟨y, hy, hyz⟩ := h' z hz
  obtain ⟨x, hx, hxy⟩ := h y hy
  exact ⟨x, hx, Setoid.trans hxy hyz⟩

theorem Meets.symm (h : Meets xs ys) : Meets ys xs := by
  obtain ⟨y, hy, x, hx, hxy⟩ := h
  exact ⟨x, hx, y, hy, Setoid.symm hxy⟩

theorem Meets.mono (h : Meets xs ys) (hi : Includes ys' ys) : Meets xs ys' := by
  obtain ⟨y, hy, x, hx, hxy⟩ := h
  obtain ⟨y', hy', hyy⟩ := hi y hy
  exact ⟨y', hy', x, hx, Setoid.trans hxy (Setoid.symm hyy)⟩

-- Neither list has an item that the other lacks.
def SameMembers (xs ys : List Proper) : Prop :=
  Includes xs ys ∧ Includes ys xs

theorem SameMembers.symm (h : SameMembers xs ys) : SameMembers ys xs :=
  ⟨h.right, h.left⟩

theorem SameMembers.of_forall₂ (h : List.Forall₂ (· ≈ ·) xs ys) : SameMembers xs ys where
  left _ hy  := exists_of_mem h hy
  right x hx := by
    obtain ⟨y, hy, hxy⟩ := exists_of_mem h.flip hx
    exact ⟨y, hy, Setoid.symm hxy⟩

theorem Includes.congr (h : SameMembers xs xs') (h' : SameMembers ys ys') : Includes xs ys ↔ Includes xs' ys' where
  mp hi  := h.right.trans (hi.trans h'.left)
  mpr hi := h.left.trans (hi.trans h'.right)

theorem Meets.of_sameMembers (h : SameMembers xs xs') (h' : SameMembers ys ys') (hm : Meets xs ys) :
    Meets xs' ys' :=
  ((hm.mono h'.right).symm.mono h.right).symm

theorem Meets.congr (h : SameMembers xs xs') (h' : SameMembers ys ys') : Meets xs ys ↔ Meets xs' ys' :=
  ⟨.of_sameMembers h h', .of_sameMembers h.symm h'.symm⟩

theorem meets_singleton : Meets [v] ys ↔ ∃ y ∈ ys, v ≈ y := by
  simp [Meets]

theorem sameMembers_iff : SameMembers xs ys ↔ ∀ v, Meets [v] xs ↔ Meets [v] ys := by
  have hself {zs : List Proper} {z : Proper} (hz : z ∈ zs) : Meets [z] zs :=
    meets_singleton.mpr ⟨z, hz, Setoid.refl z⟩
  constructor
  case mp  => exact fun h v => Meets.congr ⟨.refl _, .refl _⟩ h
  case mpr =>
    refine fun h => ⟨fun y hy => ?_, fun x hx => ?_⟩
    · obtain ⟨x, hx, hyx⟩ := meets_singleton.mp ((h y).mpr (hself hy))
      exact ⟨x, hx, Setoid.symm hyx⟩
    · obtain ⟨y, hy, hxy⟩ := meets_singleton.mp ((h x).mp (hself hx))
      exact ⟨y, hy, Setoid.symm hxy⟩

end Proper

end Value

namespace Comparison

open Value Proper

variable {v w v' w' : Proper} {xs ys : List Proper}

theorem includesAll_list : includesAll (Proper.list xs).val (Proper.list ys).val = true ↔ Includes xs ys := by
  simp [includesAll, Proper.list, Includes, equiv_iff]

theorem includesAny_list : includesAny (Proper.list xs).val (Proper.list ys).val = true ↔ Meets xs ys := by
  simp [includesAny, Proper.list, Meets, equiv_iff]

theorem isIn_eq_includesAny {v w : Value} : isIn v w = includesAny (.list [v]) w := by
  cases w <;> simp [isIn, includesAny]

theorem isIn_list : isIn v.val (Proper.list ys).val = true ↔ Meets [v] ys := by
  rw [isIn_eq_includesAny, ← includesAny_list]
  rfl

-- Operators that need two lists and only look at their members do not notice what is replaced.
theorem eq_of_replaces {f : Value → Value → Bool} {P : List Proper → List Proper → Prop}
    (hf : ∀ v w, f v w = true → ∃ xs ys, v = .list xs ∧ w = .list ys)
    (hlist : ∀ xs ys, f (Proper.list xs).val (Proper.list ys).val = true ↔ P xs ys)
    (hcongr : ∀ {xs ys xs' ys'}, SameMembers xs xs' → SameMembers ys ys' → (P xs ys ↔ P xs' ys'))
    (h : Replaces v v') (h' : Replaces w w') : f v.val w.val = f v'.val w'.val := by
  have hnone {v w : Proper} (hn : (∀ xs, v ≠ .list xs) ∨ ∀ ys, w ≠ .list ys) : f v.val w.val = false := by
    refine Bool.eq_false_iff.mpr fun h => ?_
    obtain ⟨_, _, hv, hw⟩ := hf _ _ h
    obtain ⟨xs, rfl⟩ := exists_eq_list hv
    obtain ⟨ys, rfl⟩ := exists_eq_list hw
    exact hn.elim (fun hn => hn xs rfl) fun hn => hn ys rfl
  cases h
  case items h =>
    cases h'
    case items h' =>
      rw [Bool.eq_iff_iff, hlist, hlist]
      exact hcongr (.of_forall₂ h) (.of_forall₂ h')
    case whole hn hn' _ => rw [hnone (.inr hn), hnone (.inr hn')]
  case whole hn hn' _ => rw [hnone (.inl hn), hnone (.inl hn')]

theorem includesAny_replaced (h : Replaces v v') (h' : Replaces w w') :
    includesAny v.val w.val = includesAny v'.val w'.val := by
  refine eq_of_replaces (fun v w h => ?_) (fun _ _ => includesAny_list) Meets.congr h h'
  obtain ⟨_, _, ⟨xs, ys, hv, hw, _⟩, _⟩ := includesAny_iff.mp h
  exact ⟨xs, ys, hv, hw⟩

theorem includesAll_replaced (h : Replaces v v') (h' : Replaces w w') :
    includesAll v.val w.val = includesAll v'.val w'.val := by
  refine eq_of_replaces (fun v w h => ?_) (fun _ _ => includesAll_list) Includes.congr h h'
  obtain ⟨xs, ys, hv, hw, _⟩ := includesAll_iff.mp h
  exact ⟨xs, ys, hv, hw⟩

theorem isIn_replaced (h : v ≈ v') (h' : Replaces w w') : isIn v.val w.val = isIn v'.val w'.val := by
  rw [isIn_eq_includesAny, isIn_eq_includesAny]
  exact includesAny_replaced (.items (.cons h .nil)) h'

end Comparison

namespace Comparer

open Comparison Value Proper

variable {v w v' w' : Proper} {xs ys zs : List Proper}

-- What replacing both operands leaves as it is. The two equalities may have any operand replaced by one that
-- strictly equals it, the others need the items of a list to be replaced.
structure Respects (t : Comparer) (v w v' w' : Proper) : Prop where
  equality   : v ≈ v' → w ≈ w' →
    ∀ o ∈ [Operator.equals, .notEquals], t.applyKnown o v.val w.val = t.applyKnown o v'.val w'.val
  membership : v ≈ v' → Replaces w w' →
    ∀ o ∈ [Operator.isIn, .isNotIn], t.applyKnown o v.val w.val = t.applyKnown o v'.val w'.val
  inclusion  : Replaces v v' → Replaces w w' →
    ∀ o ∈ [Operator.includesAny, .includesAll], t.applyKnown o v.val w.val = t.applyKnown o v'.val w'.val

theorem respects (t : Comparer) (v w v' w' : Proper) : t.Respects v w v' w' where
  equality h h' := by
    have heq := strictEquals_congr h h'
    simp [applyKnown, heq]
  membership h h' := by
    have heq := isIn_replaced h h'
    simp [applyKnown, heq]
  inclusion h h' := by
    have hany := includesAny_replaced h h'
    have hall := includesAll_replaced h h'
    simp [applyKnown, hany, hall]

-- An operator finds that two lists belong together.
def Relates (t : Comparer) (o : Operator) (xs ys : List Proper) : Prop :=
  t.applyKnown o (Proper.list xs).val (Proper.list ys).val = .ok true

-- The laws of the strict equality and of membership.
structure Lawful (t : Comparer) : Prop where
  equivalence : Equivalence fun v w : Proper => v.val.strictEquals w.val = true
  refl        : ∀ xs, t.Relates .includesAll xs xs
  trans       : ∀ xs ys zs, t.Relates .includesAll xs ys → t.Relates .includesAll ys zs →
    t.Relates .includesAll xs zs
  symm        : ∀ xs ys, t.Relates .includesAny xs ys → t.Relates .includesAny ys xs
  singleton   : ∀ v w, t.applyKnown .isIn v w = t.applyKnown .includesAny (.list [v]) w
  members     : ∀ xs ys, t.Relates .includesAll xs ys ∧ t.Relates .includesAll ys xs ↔
    ∀ v : Proper, t.applyKnown .isIn v.val (Proper.list xs).val = t.applyKnown .isIn v.val (Proper.list ys).val
  respects    : ∀ v w v' w', t.Respects v w v' w'
  replaces    : ∀ v w : Proper, Replaces v w ↔ v ≈ w ∧
    ∀ xs ys, v = .list xs → w = .list ys → List.Forall₂ (fun x y => x.val.isTruth = y.val.isTruth) xs ys

theorem membership_lawful (t : Comparer) : t.Lawful := by
  have hall {xs ys : List Proper} : t.Relates .includesAll xs ys ↔ Includes xs ys := by
    rw [← includesAll_list, Relates, applyKnown, Except.ok.injEq]
  have hany {xs ys : List Proper} : t.Relates .includesAny xs ys ↔ Meets xs ys := by
    rw [← includesAny_list, Relates, applyKnown, Except.ok.injEq]
  have hin {xs ys : List Proper} {v : Proper} :
      t.applyKnown .isIn v.val (Proper.list xs).val = t.applyKnown .isIn v.val (Proper.list ys).val ↔
        (Meets [v] xs ↔ Meets [v] ys) := by
    rw [applyKnown, applyKnown, Except.ok.injEq, Bool.eq_iff_iff, isIn_list, isIn_list]
  exact {
    equivalence          := strictly.iseqv
    refl xs              := hall.mpr (.refl xs)
    trans xs ys zs h h'  := hall.mpr ((hall.mp h).trans (hall.mp h'))
    symm xs ys h         := hany.mpr (hany.mp h).symm
    singleton v w        := congrArg Except.ok isIn_eq_includesAny
    members xs ys        := by
      simp only [hall, hin]
      exact sameMembers_iff
    respects             := t.respects
    replaces v w         := replaces_iff
  }

-- Strictly equal lists of which only one has the number.
example : (Value.list [bool true]).strictEquals (.list [int 1]) = true ∧
    isIn (int 1) (.list [bool true]) = false ∧ isIn (int 1) (.list [int 1]) = true := by decide

end Comparer

end FlowGate
