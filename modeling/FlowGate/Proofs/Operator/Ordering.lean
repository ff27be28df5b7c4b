import FlowGate.Proofs.Number.Rounding
import FlowGate.Proofs.Operator.Coercion

-- The operators that compare numbers, on whole numbers. These are compared as doubles, so two of them are only
-- told apart when they do not round to the same one.

namespace FlowGate

open Value

namespace Double

variable {a b : Int}

theorem lt_ofInt (ha : Reaches a) (hb : Reaches b) :
    (ofInt a).lt (ofInt b) = decide (a < b ∧ ofInt a ≠ ofInt b) := by
  rw [Bool.eq_iff_iff, decide_eq_true_iff, lt, order?_ofInt ha hb, beq_iff_eq, Option.some_inj]
  split
  case isTrue h  => simp [h]
  case isFalse h => simp [h, compare_lt_iff_lt]

theorem le_ofInt (ha : Reaches a) (hb : Reaches b) :
    (ofInt a).le (ofInt b) = decide (a ≤ b ∨ ofInt a = ofInt b) := by
  rw [Bool.eq_iff_iff, decide_eq_true_iff, le, Bool.or_eq_true, lt_ofInt ha hb, decide_eq_true_iff, eq,
    order?_ofInt ha hb, beq_iff_eq, Option.some_inj]
  split
  case isTrue h  => simp [h]
  case isFalse h => simp [h, le_iff_lt_or_eq]

theorem le_ofInt_eq_not (ha : Reaches a) (hb : Reaches b) : (ofInt a).le (ofInt b) = !(ofInt b).lt (ofInt a) := by
  rw [le_ofInt ha hb, lt_ofInt hb ha, ← decide_not, decide_eq_decide, not_and_or, not_lt, not_ne_iff,
    eq_comm (a := ofInt b)]

end Double

namespace Comparer

open Comparison Double

variable {a b c : Int}

def ordering : List Operator := [.lessThan, .equals, .greaterThan]

-- How whole numbers are compared. Of two that round to the same double, neither is less than the other.
structure Orders (t : Comparer) (a b c : Int) : Prop where
  equals             : t.applyKnown .equals (int a) (int b) = .ok (decide (a = b))
  lessThan           : t.applyKnown .lessThan (int a) (int b) = .ok (decide (a < b ∧ ofInt a ≠ ofInt b))
  greaterThan        : t.applyKnown .greaterThan (int a) (int b) = .ok (decide (b < a ∧ ofInt b ≠ ofInt a))
  lessThanOrEqual    : t.applyKnown .lessThanOrEqual (int a) (int b) =
    (t.applyKnown .greaterThan (int a) (int b)).map (!·)
  greaterThanOrEqual : t.applyKnown .greaterThanOrEqual (int a) (int b) =
    (t.applyKnown .lessThan (int a) (int b)).map (!·)
  between            : t.applyKnown .between (int a) (.list [int b, int c]) =
    .ok (decide ((b ≤ a ∨ ofInt b = ofInt a) ∧ (a ≤ c ∨ ofInt a = ofInt c)))
  notBetween         : t.applyKnown .notBetween (int a) (.list [int b, int c]) =
    (t.applyKnown .between (int a) (.list [int b, int c])).map (!·)
  unique             : ∀ o ∈ ordering, ∀ o' ∈ ordering, t.applyKnown o (int a) (int b) = .ok true →
    t.applyKnown o' (int a) (int b) = .ok true → o = o'
  total              : (∃ o ∈ ordering, t.applyKnown o (int a) (int b) = .ok true) ↔
    a = b ∨ ofInt a ≠ ofInt b
  exact              : a.natAbs ≤ 2 ^ 53 → b.natAbs ≤ 2 ^ 53 → ofInt a = ofInt b → a = b

theorem numeric_int {holds : Double → Double → Bool} (ha : Reaches a) (hb : Reaches b) :
    numeric holds (int a) (int b) = .ok (holds (ofInt a) (ofInt b)) :=
  numeric_of_denotes (.int (ofInt?_eq_some ha)) (.int (ofInt?_eq_some hb))

theorem applyKnown_equals_int (t : Comparer) (a b : Int) :
    t.applyKnown .equals (int a) (int b) = .ok (decide (a = b)) := by
  rw [applyKnown, Except.ok.injEq, Bool.eq_iff_iff]
  simp [strictEquals, same, Scalar.same, Scalar.numericOrder?, Scalar.countsAs]

theorem applyKnown_lessThan_int (t : Comparer) (ha : Reaches a) (hb : Reaches b) :
    t.applyKnown .lessThan (int a) (int b) = .ok (decide (a < b ∧ ofInt a ≠ ofInt b)) := by
  rw [applyKnown, numeric_int ha hb, lt_ofInt ha hb]

theorem applyKnown_greaterThan_int (t : Comparer) (ha : Reaches a) (hb : Reaches b) :
    t.applyKnown .greaterThan (int a) (int b) = .ok (decide (b < a ∧ ofInt b ≠ ofInt a)) := by
  rw [applyKnown, numeric_int ha hb, lt_ofInt hb ha]

theorem applyKnown_between_int (t : Comparer) (ha : Reaches a) (hb : Reaches b) (hc : Reaches c) :
    t.applyKnown .between (int a) (.list [int b, int c]) =
      .ok (decide ((b ≤ a ∨ ofInt b = ofInt a) ∧ (a ≤ c ∨ ofInt a = ofInt c))) := by
  rw [applyKnown, between_pair, numeric_int ha hb, numeric_int ha hc, le_ofInt hb ha, le_ofInt ha hc,
    Bool.decide_and]
  cases decide (b ≤ a ∨ ofInt b = ofInt a) <;> rfl

theorem ordered (t : Comparer) (ha : Reaches a) (hb : Reaches b) {o : Operator} (ho : o ∈ ordering)
    (h : t.applyKnown o (int a) (int b) = .ok true) :
    o = .lessThan ∧ a < b ∨ o = .equals ∧ a = b ∨ o = .greaterThan ∧ b < a := by
  simp only [ordering, List.mem_cons, List.not_mem_nil, or_false] at ho
  rcases ho with rfl | rfl | rfl
  · rw [applyKnown_lessThan_int t ha hb, Except.ok.injEq, decide_eq_true_iff] at h
    exact .inl ⟨rfl, h.left⟩
  · rw [applyKnown_equals_int, Except.ok.injEq, decide_eq_true_iff] at h
    exact .inr (.inl ⟨rfl, h⟩)
  · rw [applyKnown_greaterThan_int t ha hb, Except.ok.injEq, decide_eq_true_iff] at h
    exact .inr (.inr ⟨rfl, h.left⟩)

theorem orders_rounded (t : Comparer) (ha : Reaches a) (hb : Reaches b) (hc : Reaches c) : t.Orders a b c := by
  have hequals := applyKnown_equals_int t a b
  have hless := applyKnown_lessThan_int t ha hb
  have hgreater := applyKnown_greaterThan_int t ha hb
  exact {
    equals             := hequals
    lessThan           := hless
    greaterThan        := hgreater
    lessThanOrEqual    := by
      rw [applyKnown, applyKnown, numeric_int ha hb, numeric_int ha hb, le_ofInt_eq_not ha hb, Except.map]
    greaterThanOrEqual := by
      rw [applyKnown, applyKnown, numeric_int ha hb, numeric_int ha hb, le_ofInt_eq_not hb ha, Except.map]
    between            := applyKnown_between_int t ha hb hc
    notBetween         := rfl
    unique             := by
      intro o ho o' ho' h h'
      rcases t.ordered ha hb ho h with ⟨rfl, _⟩ | ⟨rfl, _⟩ | ⟨rfl, _⟩ <;>
        rcases t.ordered ha hb ho' h' with ⟨rfl, _⟩ | ⟨rfl, _⟩ | ⟨rfl, _⟩ <;>
        first | rfl | omega
    total              := by
      simp only [ordering, List.exists_mem_cons_iff, List.not_mem_nil, false_and, exists_false, or_false, hless,
        hequals, hgreater, Except.ok.injEq, decide_eq_true_iff]
      rcases lt_trichotomy a b with h | rfl | h
      · simp [h, h.ne, h.asymm]
      · simp
      · simp [h, h.ne', h.asymm, eq_comm]
    exact              := eq_of_ofInt_eq
  }

-- The first two whole numbers that are one double.
theorem neighbours_reach : Reaches (2 ^ 53) ∧ Reaches (2 ^ 53 + 1) :=
  ⟨reaches_of_lt (by decide), reaches_of_lt (by decide)⟩

theorem neighbours_round : ofInt (2 ^ 53) = ofInt (2 ^ 53 + 1) := by
  decide +kernel

theorem neighbours_unordered :
    (Engine.ofFunctions []).comparer.applyKnown .lessThan (int (2 ^ 53)) (int (2 ^ 53 + 1)) = .ok false ∧
      (Engine.ofFunctions []).comparer.applyKnown .equals (int (2 ^ 53)) (int (2 ^ 53 + 1)) = .ok false ∧
      (Engine.ofFunctions []).comparer.applyKnown .greaterThan (int (2 ^ 53)) (int (2 ^ 53 + 1)) = .ok false := by
  have ⟨ha, hb⟩ := neighbours_reach
  have hless : ¬((2 : Int) ^ 53 < 2 ^ 53 + 1 ∧ ofInt (2 ^ 53) ≠ ofInt (2 ^ 53 + 1)) :=
    fun h => h.right neighbours_round
  have hgreater : ¬((2 : Int) ^ 53 + 1 < 2 ^ 53 ∧ ofInt (2 ^ 53 + 1) ≠ ofInt (2 ^ 53)) :=
    fun h => h.right neighbours_round.symm
  refine ⟨?_, ?_, ?_⟩
  · rw [applyKnown_lessThan_int _ ha hb, decide_eq_false hless]
  · rw [applyKnown_equals_int, decide_eq_false (by decide)]
  · rw [applyKnown_greaterThan_int _ ha hb, decide_eq_false hgreater]

theorem neighbours_ordered : Reaches (2 ^ 53) ∧ Reaches (2 ^ 53 + 1) ∧
    (Engine.ofFunctions []).comparer.Orders (2 ^ 53) (2 ^ 53 + 1) (2 ^ 53) ∧
      (Engine.ofFunctions []).comparer.applyKnown .between (int (2 ^ 53))
        (.list [int (2 ^ 53 + 1), int (2 ^ 53)]) = .ok true := by
  have ⟨ha, hb⟩ := neighbours_reach
  have h := orders_rounded (Engine.ofFunctions []).comparer ha hb ha
  refine ⟨ha, hb, h, ?_⟩
  rw [h.between, decide_eq_true ⟨.inr neighbours_round.symm, .inr rfl⟩]

end Comparer

end FlowGate
