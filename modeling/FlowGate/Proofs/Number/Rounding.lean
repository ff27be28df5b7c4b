import FlowGate.Proofs.Number.Whole

-- Rounding finds a nearest double: what is rounded lies around what comes out. So it never turns the order
-- of two numbers round.

namespace FlowGate

namespace Decimal.Interval

open Grid

variable {i : Interval} {u num : Nat}

theorem has_natCast : i.Has num ↔
    if i.closed then i.lower ≤ num ∧ num ≤ i.upper else i.lower < num ∧ num < i.upper := by
  unfold Has
  norm_cast

theorem upper_eq : (around u).upper = 4 * u + 2 * step u := rfl

theorem closed_eq : (around u).closed = (u / step u % 2 == 0) := rfl

theorem lower_le : (around u).lower ≤ 4 * u - step u := by
  have hs := step_pos (u := u)
  unfold around
  dsimp only
  split <;> omega

theorem around_self (u : Nat) : (around u).Has (4 * u : Nat) := by
  have hs := step_pos (u := u)
  rw [has_natCast, upper_eq]
  rcases Nat.eq_zero_or_pos u with rfl | hu
  · simp [around]
  · have hlower := lower_le (u := u)
    split <;> omega

end Decimal.Interval

namespace Grid

open Decimal Decimal.Interval

variable {num num' u v q k : Nat}

theorem nearest_of_dvd (h : step num ∣ num) : nearest num 1 = num := by
  rw [nearest_eq, divRound, Nat.mod_eq_zero_of_dvd h]
  simp [step_pos, Nat.div_mul_cancel h]

theorem step_mul_pow (hl : 2 ^ 52 ≤ q) (hq : q < 2 ^ 53) : step (q * 2 ^ k) = 2 ^ k ∧
    (q * 2 ^ k = 2 ^ (q * 2 ^ k).log2 ↔ q = 2 ^ 52) := by
  have hk : 0 < 2 ^ k := Nat.two_pow_pos k
  have hlog : (q * 2 ^ k).log2 = 52 + k := by
    rw [Nat.log2_eq_iff (by positivity), pow_add, Nat.add_right_comm, pow_add]
    exact ⟨Nat.mul_le_mul_right _ hl, Nat.mul_lt_mul_of_pos_right hq hk⟩
  rw [step_eq, hlog, Nat.add_sub_cancel_left, pow_add, Nat.mul_left_inj hk.ne']
  exact ⟨rfl, .rfl⟩

-- From a power of two on the steps are twice as long, and its last bit is even.
theorem around_of_near_pow (hup : 2 * num ≤ 2 * (2 ^ 53 * 2 ^ k) + 2 ^ k)
    (hdown : 2 * (2 ^ 53 * 2 ^ k) ≤ 2 * num + 2 ^ k) : (around (2 ^ 53 * 2 ^ k)).Has (4 * num : Nat) := by
  have hu : 2 ^ 53 * 2 ^ k = 2 ^ 52 * 2 ^ (k + 1) := by rw [pow_succ]; omega
  have ⟨hs, hp⟩ := step_mul_pow (k := k + 1) (le_refl (2 ^ 52)) (by norm_num)
  rw [← hu] at hs hp
  have hlower := lower_of_pow (hp.mpr rfl) (hs ▸ Nat.one_lt_two_pow (by omega))
  have hclosed : (around (2 ^ 53 * 2 ^ k)).closed = true := by
    rw [closed_eq, hs, hu, Nat.mul_div_cancel _ (Nat.two_pow_pos _)]
    rfl
  rw [has_natCast, if_pos hclosed, hlower, upper_eq, hs, pow_succ]
  omega

-- A number within half a step lies around a magnitude, one at half a step only if the last bit is even. Below
-- a power of two the steps are half as long, but what is rounded down to it is no smaller than it.
theorem around_of_near (hl : 2 ^ 52 ≤ q) (hq : q < 2 ^ 53) (hlow : 2 ^ 52 * 2 ^ k ≤ num)
    (hup : 2 * num ≤ 2 * (q * 2 ^ k) + 2 ^ k) (hdown : 2 * (q * 2 ^ k) ≤ 2 * num + 2 ^ k)
    (heven : 2 * num = 2 * (q * 2 ^ k) + 2 ^ k ∨ 2 * (q * 2 ^ k) = 2 * num + 2 ^ k → q % 2 = 0) :
    (around (q * 2 ^ k)).Has (4 * num : Nat) := by
  have hpos : 0 < 2 ^ k := Nat.two_pow_pos k
  have ⟨hs, hp⟩ := step_mul_pow (k := k) hl hq
  have hlower : (around (q * 2 ^ k)).lower ≤ 4 * num ∧
      (2 * (q * 2 ^ k) < 2 * num + 2 ^ k → (around (q * 2 ^ k)).lower < 4 * num) := by
    rcases hl.eq_or_lt with rfl | hl
    · have hlower := lower_le (u := 2 ^ 52 * 2 ^ k)
      rw [hs] at hlower
      omega
    · have hlower := lower_of_not_pow fun h => hl.ne' (hp.mp h.left)
      rw [hs] at hlower
      omega
  rw [has_natCast, closed_eq, upper_eq, hs, Nat.mul_div_cancel _ hpos]
  split
  case isTrue  => omega
  case isFalse h =>
    rw [beq_iff_eq] at h
    omega

theorem around_nearest (num : Nat) : (around (nearest num 1)).Has (4 * num : Nat) := by
  rcases Nat.eq_zero_or_pos (num.log2 - 52) with hk | hk
  case inl =>
    have hs : step num = 1 := by rw [step_eq, hk, pow_zero]
    rw [nearest_of_dvd (hs ▸ Nat.one_dvd _)]
    exact around_self num
  case inr =>
    have ⟨hup, hdown, heven⟩ := divRound_near num (step_pos (u := num))
    have hle := divRound_step_le num
    have hlow : 2 ^ 52 * step num ≤ num := by
      rw [step_eq, ← pow_add, Nat.add_sub_cancel' (by omega)]
      exact Nat.log2_self_le (by rintro rfl; simp at hk)
    have hs : 2 ≤ step num := Nat.le_self_pow hk.ne' 2
    have hq : 2 ^ 52 ≤ divRound num (step num) := by
      by_contra hc
      have hm := Nat.mul_le_mul_right (step num) (Nat.le_sub_one_of_lt (Nat.lt_of_not_le hc))
      omega
    rw [nearest_eq]
    rcases hle.eq_or_lt with hle | hlt
    · rw [hle] at hup hdown ⊢
      exact around_of_near_pow hup hdown
    · exact around_of_near hq hlt hlow hup hdown heven

-- Rounding keeps the order, where it does not make two numbers one.
theorem lt_of_nearest_lt (hu : Representable (nearest num 1)) (hv : Representable (nearest num' 1))
    (h : nearest num 1 < nearest num' 1) : num < num' := by
  have hlt := (precedes hu hv h).lt (around_nearest num) (around_nearest num')
  have hlt : 4 * num < 4 * num' := by exact_mod_cast hlt
  omega

theorem nearest_eq_zero_iff : nearest num 1 = 0 ↔ num = 0 := by
  constructor
  case mp =>
    intro h
    have hb := has_natCast.mp (h ▸ around_nearest num)
    have hs : step 0 = 1 := by rw [step_eq, Nat.log2_zero, Nat.zero_sub, pow_zero]
    rw [upper_eq, hs] at hb
    split at hb <;> omega
  case mpr =>
    rintro rfl
    exact nearest_of_dvd (Nat.dvd_zero _)

end Grid

namespace Double

open Grid

variable {a b n : Int}

theorem representable_of_reaches (h : Reaches n) : Representable (nearest (n.natAbs * one) 1) := by
  have hr := representable_nearest_iff (n.natAbs * one)
  rw [limit_eq_units, Nat.mul_lt_mul_right Grid.one_pos] at hr
  exact hr.mpr h

-- The units that a whole number is rounded to.
def unitsOf (n : Int) : Int :=
  order?.signed (n < 0) (nearest (n.natAbs * one) 1)

theorem ofInt_eq (h : Reaches n) :
    ofInt n = finite (n < 0) (nearest (n.natAbs * one) 1) (representable_of_reaches h) := by
  rw [ofInt, ofRatio, ofUnits, dif_pos (representable_of_reaches h)]

theorem nearest_natAbs_eq_zero_iff : nearest (n.natAbs * one) 1 = 0 ↔ n = 0 := by
  rw [nearest_eq_zero_iff, Nat.mul_eq_zero, Int.natAbs_eq_zero, or_iff_left Grid.one_pos.ne']

theorem natAbs_lt_of_nearest_lt (ha : Reaches a) (hb : Reaches b)
    (h : nearest (a.natAbs * one) 1 < nearest (b.natAbs * one) 1) : a.natAbs < b.natAbs :=
  Nat.lt_of_mul_lt_mul_right (lt_of_nearest_lt (representable_of_reaches ha) (representable_of_reaches hb) h)

theorem lt_of_unitsOf_lt (ha : Reaches a) (hb : Reaches b) (h : unitsOf a < unitsOf b) : a < b := by
  have hlt := natAbs_lt_of_nearest_lt ha hb
  have hgt := natAbs_lt_of_nearest_lt hb ha
  simp only [unitsOf, order?.signed, decide_eq_true_eq] at h
  split at h <;> split at h <;> omega

theorem ofInt_eq_iff (ha : Reaches a) (hb : Reaches b) : ofInt a = ofInt b ↔ unitsOf a = unitsOf b := by
  rw [ofInt_eq ha, ofInt_eq hb, finite.injEq, unitsOf, unitsOf]
  have hza := nearest_natAbs_eq_zero_iff (n := a)
  have hzb := nearest_natAbs_eq_zero_iff (n := b)
  simp only [order?.signed, decide_eq_true_eq, decide_eq_decide]
  split <;> split <;> omega

-- Whole numbers are ordered as they are, unless they round to one double.
theorem order?_ofInt (ha : Reaches a) (hb : Reaches b) :
    (ofInt a).order? (ofInt b) = some (if ofInt a = ofInt b then .eq else compare a b) := by
  have horder : (ofInt a).order? (ofInt b) = some (compare (unitsOf a) (unitsOf b)) := by
    rw [ofInt_eq ha, ofInt_eq hb]
    rfl
  have heq := ofInt_eq_iff ha hb
  rw [horder, Option.some_inj]
  rcases lt_trichotomy (unitsOf a) (unitsOf b) with h | h | h
  · rw [if_neg (heq.not.mpr h.ne), compare_lt_iff_lt.mpr h, compare_lt_iff_lt.mpr (lt_of_unitsOf_lt ha hb h)]
  · rw [if_pos (heq.mpr h), compare_eq_iff_eq.mpr h]
  · rw [if_neg (heq.not.mpr h.ne'), compare_gt_iff_gt.mpr h, compare_gt_iff_gt.mpr (lt_of_unitsOf_lt hb ha h)]

-- The first whole number that no double equals comes after two to the power of 53.
theorem nearest_natAbs (h : n.natAbs ≤ 2 ^ 53) : nearest (n.natAbs * one) 1 = n.natAbs * one := by
  have ⟨k, hk⟩ : ∃ k, one = 2 ^ k := by
    unfold one
    generalize 1074 = k
    exact ⟨k, rfl⟩
  rw [hk]
  generalize n.natAbs = m at h
  apply nearest_of_dvd
  rcases h.eq_or_lt with rfl | h
  case inl =>
    rw [← pow_add, step_eq, Nat.log2_two_pow]
    exact pow_dvd_pow 2 (by omega)
  case inr =>
    rcases Nat.eq_zero_or_pos m with rfl | hm
    · simp
    · have hlt : m * 2 ^ k < 2 ^ (53 + k) := by
        rw [pow_add]
        exact Nat.mul_lt_mul_of_pos_right h (Nat.two_pow_pos k)
      have hlog := (Nat.log2_lt (Nat.mul_pos hm (Nat.two_pow_pos k)).ne').mpr hlt
      exact Nat.dvd_trans (pow_dvd_pow 2 (by omega)) (Nat.dvd_mul_left ..)

theorem unitsOf_eq (h : n.natAbs ≤ 2 ^ 53) : unitsOf n = n * one := by
  rw [unitsOf, nearest_natAbs h]
  unfold order?.signed
  split
  case isTrue hn =>
    have hn : n = -(n.natAbs : Int) := by
      rw [decide_eq_true_eq] at hn
      omega
    rw [Nat.cast_mul, ← Int.neg_mul, ← hn]
  case isFalse hn =>
    have hn : n = n.natAbs := by
      rw [decide_eq_true_eq] at hn
      omega
    rw [Nat.cast_mul, ← hn]

theorem eq_of_ofInt_eq (ha : a.natAbs ≤ 2 ^ 53) (hb : b.natAbs ≤ 2 ^ 53) (h : ofInt a = ofInt b) : a = b := by
  rw [ofInt_eq_iff (reaches_of_lt (by omega)) (reaches_of_lt (by omega)), unitsOf_eq ha, unitsOf_eq hb] at h
  exact Int.eq_of_mul_eq_mul_right (by exact_mod_cast Grid.one_pos.ne') h

end Double

end FlowGate
