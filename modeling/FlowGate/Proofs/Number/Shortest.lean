import FlowGate.Proofs.Number.Interval
import Mathlib.Algebra.Order.Floor.Semifield
import Mathlib.Data.Nat.Cast.Order.Field
import Mathlib.Data.Rat.Floor
import Mathlib.Tactic.Ring

-- The digits that a double is written with. They denote a number that rounds to this double, since
-- seventeen of them always suffice.

namespace FlowGate.Decimal

open Grid FlowGate.Decimal.Interval

variable {u n count : Nat} {e place : Int} {d : Digits}

-- The number that digits denote.
def Digits.value (d : Digits) : ℚ :=
  d.digits * 10 ^ (d.exponent - (digitCount d.digits - 1))

-- Whether digits denote a number that rounds to a double.
def Digits.RoundTo (d : Digits) (u : Nat) : Prop :=
  (around u).Has (4 * (d.value * one))

namespace Interval

theorem step_le (h : u ≠ 0) : step u ≤ u :=
  (Nat.pow_le_pow_right Nat.two_pos (Nat.sub_le ..)).trans (Nat.log2_self_le h)

theorem exists_below (h : u ≠ 0) : ∃ b, (around u).lower + b = 4 * u ∧ u ≤ b * 2 ^ 52 := by
  have hs := step_le h
  have hl := lt_steps u
  by_cases hp : u = 2 ^ u.log2 ∧ 1 < step u
  case pos =>
    refine ⟨step u, by rw [lower_of_pow hp.left hp.right]; omega, ?_⟩
    have hlog : 52 < u.log2 := by
      by_contra hlog
      have hs : step u = 1 := by rw [step_eq, Nat.sub_eq_zero_of_le (by omega), pow_zero]
      omega
    rw [step_eq, ← pow_add, Nat.sub_add_cancel hlog.le]
    exact hp.left.le
  case neg =>
    refine ⟨2 * step u, ?_, by omega⟩
    rw [lower_of_not_pow hp]
    omega

-- A number is near a double when no seventeen digits could tell them apart.
theorem has_of_near {x p : ℚ} (h : u ≠ 0) (hp : p * 10 ^ 16 ≤ u) (hl : u - x ≤ p / 2)
    (hr : x - u ≤ p / 2) : (around u).Has (4 * x) := by
  have ⟨b, hb, hu⟩ := exists_below h
  have hpos : 0 < u := Nat.pos_of_ne_zero h
  have hb : ((around u).lower : ℚ) + b = 4 * u := by exact_mod_cast hb
  have hu : (u : ℚ) ≤ b * 2 ^ 52 := by exact_mod_cast hu
  have hs : (u : ℚ) < step u * 2 ^ 53 := by exact_mod_cast lt_steps u
  have hpos : (0 : ℚ) < u := by exact_mod_cast hpos
  have hupper : ((around u).upper : ℚ) = 4 * u + 2 * step u := by simp [around]
  apply Has.of_strict
  · linarith
  · linarith

theorem lower_pos (h : u ≠ 0) : 0 < (around u).lower :=
  (by have := step_le h; have := step_pos (u := u); omega : 0 < 4 * u - 2 * step u).trans_le le_lower

end Interval

theorem lt_pow_digitCount (n : Nat) : n < 10 ^ digitCount n :=
  (Nat.length_toDigits_le_iff (by decide) Nat.length_toDigits_pos).mp (le_refl _)

theorem pow_digitCount_le (h : 0 < n) : 10 ^ (digitCount n - 1) ≤ n := by
  by_contra hlt
  rcases Nat.eq_zero_or_pos (digitCount n - 1) with hz | hz
  · rw [hz] at hlt
    omega
  · have := (Nat.length_toDigits_le_iff (by decide) hz).mpr (Nat.lt_of_not_le hlt)
    unfold digitCount at *
    omega

theorem digitCount_pos : 0 < digitCount n :=
  Nat.length_toDigits_pos

theorem leadingPower_le {num den : Nat} (hn : 0 < num) (hd : 0 < den) :
    (10 : ℚ) ^ leadingPower num den ≤ num / den := by
  have hq : (0 : ℚ) < den := by exact_mod_cast hd
  rw [le_div_iff₀ hq]
  unfold leadingPower
  split
  case isTrue h =>
    have hp : 10 ^ (digitCount (num / den) - 1) * den ≤ num :=
      (Nat.mul_le_mul_right den (pow_digitCount_le (Nat.div_pos h hd))).trans (Nat.div_mul_le_self ..)
    have hc := digitCount_pos (n := num / den)
    rw [show (digitCount (num / den) : Int) - 1 = ((digitCount (num / den) - 1 : Nat) : Int) by omega,
      zpow_natCast]
    exact_mod_cast hp
  case isFalse h =>
    dsimp only
    generalize hk : digitCount (den / num) = k
    split
    case isTrue h =>
      have h : den ≤ num * 10 ^ (k - 1) := h
      rw [zpow_neg, zpow_natCast, inv_mul_le_iff₀ (by positivity), mul_comm]
      exact_mod_cast h
    case isFalse =>
      have h : den < num * 10 ^ k :=
        (Nat.div_lt_iff_lt_mul hn).mp (hk ▸ lt_pow_digitCount (den / num)) |>.trans_eq (mul_comm ..)
      rw [zpow_neg, zpow_natCast, inv_mul_le_iff₀ (by positivity), mul_comm]
      exact_mod_cast h.le

theorem scale_pos (num : Nat) {den : Nat} (h : 0 < den) (power : Int) : 0 < (scale num den power).2 := by
  unfold scale
  split
  case isTrue  => exact h
  case isFalse => exact Nat.mul_pos h (Nat.pow_pos (by decide))

theorem scale_eq (num : Nat) {den : Nat} (h : 0 < den) (power : Int) :
    ((scale num den power).1 : ℚ) / (scale num den power).2 = num / den * 10 ^ power := by
  have hd : (den : ℚ) ≠ 0 := by exact_mod_cast h.ne'
  unfold scale
  split
  case isTrue h =>
    obtain ⟨k, rfl⟩ := Int.eq_ofNat_of_zero_le h
    simp [mul_div_right_comm]
  case isFalse h =>
    obtain ⟨k, hk⟩ := Int.eq_ofNat_of_zero_le (show 0 ≤ -power by omega)
    have hp : power = -(k : Int) := by omega
    subst hp
    simp [div_eq_mul_inv, mul_assoc, mul_comm]

theorem value_normal (e : Int) (n count : Nat) :
    (withDigits?.normal e n count).value = n * 10 ^ (e - (count - 1)) := by
  unfold withDigits?.normal Digits.value
  dsimp only
  congr 2
  omega

-- The test of a candidate asks whether the number that it stands for rounds to the double.
theorem holds_candidate_iff :
    (around u).holds (scale (n * (4 * one)) 1 place).1 (scale (n * (4 * one)) 1 place).2 = true ↔
      (around u).Has (4 * (n * 10 ^ place * one)) := by
  rw [holds_iff (scale_pos _ Nat.one_pos place), scale_eq _ Nat.one_pos place]
  have h : ((n * (4 * one) : Nat) : ℚ) / (1 : Nat) * 10 ^ place = 4 * (n * 10 ^ place * one) := by
    push_cast
    ring
  rw [h]

theorem divRound_eq_or (num den : Nat) :
    divRound num den = num / den ∨ divRound num den = num / den + 1 := by
  unfold divRound
  dsimp only
  split
  case isTrue => exact .inl rfl
  case isFalse =>
    split
    case isTrue => exact .inr rfl
    case isFalse => omega

-- The candidates for some number of digits: the two neighbours of a double on that decimal grid.
def isCandidate (u : Nat) (place : Int) (n : Nat) : Bool :=
  (around u).holds (scale (n * (4 * one)) 1 place).1 (scale (n * (4 * one)) 1 place).2

theorem withDigits?_eq (u : Nat) (e : Int) (count : Nat) {place : Int}
    (hp : e - ((count : Int) - 1) = place) {num den : Nat} (hs : scale u one (-place) = (num, den)) :
    withDigits? u e count =
      match isCandidate u place (num / den), isCandidate u place (num / den + 1) with
      | false, false => none
      | true, false  => some (withDigits?.normal e (num / den) count)
      | false, true  => some (withDigits?.normal e (num / den + 1) count)
      | true, true   => some (withDigits?.normal e (divRound num den) count) := by
  unfold withDigits?
  simp only [hp, hs]
  conv =>
    lhs
    arg 2
    change List.filter (isCandidate u place) _
  cases h : isCandidate u place (num / den) <;> cases h' : isCandidate u place (num / den + 1) <;>
    simp [h, h']

-- Digits that are found denote a number that rounds to the double.
theorem roundTo_of_withDigits? (h : withDigits? u e count = some d) : d.RoundTo u := by
  generalize hp : e - ((count : Int) - 1) = place at h
  rcases hs : scale u one (-place) with ⟨num, den⟩
  have hd (n : Nat) (hn : isCandidate u place n = true) :
      (withDigits?.normal e n count).RoundTo u := by
    rw [Digits.RoundTo, value_normal, hp]
    exact holds_candidate_iff.mp hn
  rw [withDigits?_eq u e count hp hs] at h
  split at h <;> cases h
  case h_2 h _ => exact hd _ h
  case h_3 h   => exact hd _ h
  case h_4 h h' =>
    rcases divRound_eq_or num den with he | he <;> rw [he]
    · exact hd _ h
    · exact hd _ h'

-- One of the two neighbours rounds to the double if its decimal grid is fine enough.
theorem exists_candidate {num den : Nat} (h : u ≠ 0) (hs : scale u one (-place) = (num, den))
    (hfine : (10 : ℚ) ^ place * one * 10 ^ 16 ≤ u) :
    isCandidate u place (num / den) = true ∨ isCandidate u place (num / den + 1) = true := by
  have hquot := scale_eq u Grid.one_pos (-place)
  rw [hs, zpow_neg, ← div_eq_mul_inv, div_div, mul_comm (one : ℚ)] at hquot
  -- the distance between the neighbours, in units
  generalize hp : (10 : ℚ) ^ place * one = p at hfine hquot
  have hpos : 0 < p := hp ▸ mul_pos (zpow_pos (by norm_num) _) (by exact_mod_cast Grid.one_pos)
  have hle : ((num / den : Nat) : ℚ) * p ≤ u :=
    (le_div_iff₀ hpos).mp ((Nat.cast_div_le).trans_eq hquot)
  have hlt : u < ((num / den : Nat) + 1 : ℚ) * p := by
    rw [← div_lt_iff₀ hpos, ← hquot, ← Nat.floor_div_eq_div (K := ℚ)]
    exact Nat.lt_floor_add_one _
  have hcand {n : Nat} (hl : u - n * p ≤ p / 2) (hr : n * p - u ≤ p / 2) :
      isCandidate u place n = true := by
    rw [isCandidate, holds_candidate_iff, mul_assoc, hp]
    exact has_of_near h hfine hl hr
  rcases le_total (u - (num / den : Nat) * p) (p / 2) with hnear | hfar
  · exact .inl (hcand hnear (by linarith))
  · refine .inr (hcand ?_ ?_) <;> push_cast <;> linarith

theorem withDigits?_seventeen (h : u ≠ 0) :
    ∃ d, withDigits? u (leadingPower u one) 17 = some d := by
  have hlead := leadingPower_le (Nat.pos_of_ne_zero h) Grid.one_pos
  generalize leadingPower u one = e at hlead ⊢
  rw [le_div_iff₀ (by exact_mod_cast Grid.one_pos)] at hlead
  have hfine : (10 : ℚ) ^ (e - 16) * one * 10 ^ 16 ≤ u :=
    calc (10 : ℚ) ^ (e - 16) * one * 10 ^ 16 = 10 ^ (e - 16 + (16 : Nat)) * one := by
          rw [zpow_add₀ (by norm_num), zpow_natCast]
          ring
      _ = 10 ^ e * one := by rw [Nat.cast_ofNat, sub_add_cancel]
      _ ≤ u := hlead
  rcases hs : scale u one (-(e - 16)) with ⟨num, den⟩
  have hfound := exists_candidate h hs hfine
  have hplace : e - (((17 : Nat) : Int) - 1) = e - 16 := rfl
  rw [withDigits?_eq u e 17 hplace hs]
  split
  case h_1 hl hr =>
    rw [hl, hr] at hfound
    exact absurd hfound (by decide)
  all_goals exact ⟨_, rfl⟩

theorem exists_shortest (h : u ≠ 0) :
    ∃ count, withDigits? u (leadingPower u one) count = some (shortest u) := by
  have ⟨d, hd⟩ := withDigits?_seventeen h
  unfold shortest
  dsimp only
  cases hf : (List.range' 1 17).findSome? (withDigits? u (leadingPower u one))
  case none =>
    have := List.findSome?_eq_none_iff.mp hf 17 (by simp)
    simp [hd] at this
  case some d =>
    have ⟨count, _, hc⟩ := List.exists_of_findSome?_eq_some hf
    exact ⟨count, hc⟩

theorem shortest_roundTo (h : u ≠ 0) : (shortest u).RoundTo u :=
  have ⟨_, hs⟩ := exists_shortest h
  roundTo_of_withDigits? hs

theorem Digits.RoundTo.value_pos (h : u ≠ 0) (hd : d.RoundTo u) : 0 < d.value := by
  have hl : (0 : ℚ) < (around u).lower := by exact_mod_cast lower_pos h
  have hone : (0 : ℚ) < one := by exact_mod_cast Grid.one_pos
  have hv : 0 < 4 * (d.value * one) := hl.trans_le hd.bounds.left
  exact (mul_pos_iff_of_pos_right hone).mp (by linarith)

end FlowGate.Decimal
