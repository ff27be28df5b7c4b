import FlowGate.Proofs.Number.Interval

-- Whole numbers as doubles. The first that has none lies half way between the greatest double and the
-- power of two after it, since a half goes to the even neighbour.

namespace FlowGate

namespace Grid

-- Rounding moves a quotient by half a unit at most, and by a half only to an even number.
theorem divRound_near (num : Nat) {den : Nat} (h : 0 < den) :
    2 * num ≤ 2 * (divRound num den * den) + den ∧
      2 * (divRound num den * den) ≤ 2 * num + den ∧
      (2 * num = 2 * (divRound num den * den) + den ∨ 2 * (divRound num den * den) = 2 * num + den →
        divRound num den % 2 = 0) := by
  have hd := Nat.div_add_mod' num den
  have hr := Nat.mod_lt num h
  unfold divRound
  dsimp only
  split
  case isTrue => omega
  case isFalse =>
    split
    case isTrue =>
      rw [Nat.add_mul (num / den)]
      omega
    case isFalse =>
      rw [Nat.add_mul (num / den)]
      rcases Nat.mod_two_eq_zero_or_one (num / den) with he | he <;> rw [he] <;> omega

theorem nearest_eq (num : Nat) : nearest num 1 = divRound num (step num) * step num := by
  simp [nearest]

theorem divRound_step_le (num : Nat) : divRound num (step num) ≤ 2 ^ 53 := by
  have ⟨_, hn, _⟩ := divRound_near num (step_pos (u := num))
  have hl := lt_steps num
  have hp := step_pos (u := num)
  by_contra hc
  have hm := Nat.mul_le_mul_right (step num) (Nat.succ_le_of_lt (Nat.lt_of_not_le hc))
  omega

-- What rounding comes to can be expressed, also where that is the next power of two.
theorem nearest_dvd (num : Nat) : step (nearest num 1) ∣ nearest num 1 := by
  have hs : step num = 2 ^ (num.log2 - 52) := step_eq
  have hq := divRound_step_le num
  rw [nearest_eq]
  generalize num.log2 - 52 = k at hs
  generalize divRound num (step num) = q at hq
  rw [hs]
  rcases hq.eq_or_lt with rfl | hq
  case inl =>
    rw [← pow_add, step_eq, Nat.log2_two_pow]
    exact pow_dvd_pow 2 (by omega)
  case inr =>
    have hk : 0 < 2 ^ k := Nat.pow_pos Nat.two_pos
    rcases Nat.eq_zero_or_pos q with rfl | hz
    · simp
    · have hu : q * 2 ^ k < 2 ^ (53 + k) := by
        rw [pow_add]
        exact Nat.mul_lt_mul_of_pos_right hq hk
      have hl := (Nat.log2_lt (Nat.mul_pos hz hk).ne').mpr hu
      exact Nat.dvd_trans (pow_dvd_pow 2 (by omega)) (Nat.dvd_mul_left ..)

-- Rounding goes as far as a power of two from half a unit below it on.
theorem nearest_lt_pow_iff (num k : Nat) :
    nearest num 1 < 2 ^ 54 * 2 ^ k ↔ num < (2 ^ 54 - 1) * 2 ^ k := by
  have ⟨hup, hdown, heven⟩ := divRound_near num (step_pos (u := num))
  have hq := divRound_step_le num
  have hl := lt_steps num
  have hs : step num = 2 ^ (num.log2 - 52) := step_eq
  have ht : 0 < 2 ^ k := Nat.two_pow_pos k
  rw [nearest_eq]
  generalize divRound num (step num) = q at *
  rcases Nat.lt_trichotomy num.log2 (53 + k) with hlog | hlog | hlog
  case inl =>
    have hs : step num ≤ 2 ^ k := hs ▸ Nat.pow_le_pow_right Nat.two_pos (by omega)
    have hm := Nat.mul_le_mul hq hs
    omega
  case inr.inl =>
    have hs : step num = 2 * 2 ^ k := by
      rw [hs, hlog, ← pow_succ']
      congr 1
      omega
    rw [hs, Nat.mul_left_comm q 2] at hup hdown heven
    rw [hs, Nat.mul_left_comm q 2]
    generalize 2 ^ k = t at *
    constructor
    case mpr => omega
    case mp =>
      intro h
      have hq : q ≤ 2 ^ 53 - 1 := Nat.le_sub_one_of_lt <| Nat.lt_of_mul_lt_mul_right (a := t) (by omega)
      have hm := Nat.mul_le_mul_right t hq
      by_contra hc
      -- then half a unit below, where rounding goes up to the even neighbour
      have hq : q * t = (2 ^ 53 - 1) * t := by omega
      have he := heven (by omega)
      rw [Nat.eq_of_mul_eq_mul_right ht hq] at he
      cases he
  case inr.inr =>
    have hn : num ≠ 0 := by
      rintro rfl
      simp at hlog
    have hb : 2 ^ 52 * step num ≤ num := by
      rw [hs, ← pow_add, Nat.add_sub_cancel' (by omega)]
      exact Nat.log2_self_le hn
    have hs : 2 ^ 2 * 2 ^ k ≤ step num := by
      rw [hs, ← pow_add]
      exact Nat.pow_le_pow_right Nat.two_pos (by omega)
    have hq : 2 ^ 52 ≤ q := by
      by_contra hc
      have hm := Nat.mul_le_mul_right (step num) (Nat.le_sub_one_of_lt (Nat.lt_of_not_le hc))
      omega
    have hm := Nat.mul_le_mul_right (step num) hq
    omega

theorem limit_eq : limit = 2 ^ 54 * 2 ^ 2044 := by
  unfold limit
  generalize hk : 2044 = k
  generalize hn : 2098 = n
  obtain rfl : n = 54 + k := by omega
  exact pow_add 2 54 k

theorem representable_nearest_iff (num : Nat) :
    Representable (nearest num 1) ↔ num < (2 ^ 54 - 1) * 2 ^ 2044 := by
  rw [← nearest_lt_pow_iff, ← limit_eq]
  exact ⟨And.left, fun h => ⟨h, Nat.mod_eq_zero_of_dvd (nearest_dvd num)⟩⟩

theorem limit_eq_units : (2 ^ 54 - 1) * 2 ^ 2044 = (2 ^ 54 - 1) * 2 ^ 970 * one := by
  unfold one
  generalize hk : 1074 = k
  generalize hn : 2044 = n
  obtain rfl : n = 970 + k := by omega
  rw [Nat.mul_assoc, pow_add]
  rfl

end Grid

namespace Double

variable {n : Int}

theorem isFinite_ofUnits (negative : Bool) (units : Nat) :
    (ofUnits negative units).isFinite = true ↔ Grid.Representable units := by
  unfold ofUnits
  split
  case isTrue h  => exact iff_of_true rfl h
  case isFalse h => exact iff_of_false nofun h

-- A whole number is too large for a double from this magnitude on.
theorem ofInt?_eq_none_iff : ofInt? n = none ↔ (2 ^ 54 - 1) * 2 ^ 970 ≤ n.natAbs := by
  have hn : ofInt? n = none ↔ ¬(ofInt n).isFinite = true := by
    unfold ofInt?
    cases h : (ofInt n).isFinite <;> simp [h]
  have hf : (ofInt n).isFinite = true ↔ n.natAbs < (2 ^ 54 - 1) * 2 ^ 970 := by
    have hr := Grid.representable_nearest_iff (n.natAbs * Grid.one)
    rw [Grid.limit_eq_units, Nat.mul_lt_mul_right Grid.one_pos] at hr
    rw [ofInt, ofRatio, isFinite_ofUnits, hr]
  rw [hn, hf, Nat.not_lt]

-- The whole numbers that are not too large for a double.
def Reaches (n : Int) : Prop :=
  n.natAbs < (2 ^ 54 - 1) * 2 ^ 970

theorem reaches_of_lt (h : n.natAbs < 2 ^ 54 - 1) : Reaches n := by
  unfold Reaches
  generalize 970 = k
  have hk := Nat.le_mul_of_pos_right (2 ^ 54 - 1) (Nat.two_pow_pos k)
  omega

theorem ofInt?_eq_some (h : Reaches n) : ofInt? n = some (ofInt n) := by
  cases hn : ofInt? n
  case none   => exact absurd h (Nat.not_lt.mpr (ofInt?_eq_none_iff.mp hn))
  case some x =>
    unfold ofInt? at hn
    dsimp only at hn
    split at hn
    case isTrue  => exact hn.symm
    case isFalse => cases hn

end Double

end FlowGate
