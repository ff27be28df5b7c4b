import FlowGate.Number.Decimal
import Mathlib.Tactic.FieldSimp
import Mathlib.Tactic.Linarith

-- The numbers that round to a double. Those of two doubles do not meet, and every nonzero double has
-- one of seventeen digits among its own.

namespace FlowGate

namespace Grid

variable {u v : Nat}

theorem one_pos : 0 < one := by
  unfold one
  generalize 1074 = k
  exact Nat.two_pow_pos k

theorem step_eq : step u = 2 ^ (u.log2 - 52) := rfl

theorem step_pos : 0 < step u :=
  Nat.pow_pos Nat.two_pos

theorem step_dvd (h : Representable u) : step u ∣ u :=
  Nat.dvd_of_mod_eq_zero h.right

theorem lt_steps (u : Nat) : u < step u * 2 ^ 53 := by
  rw [step_eq, ← pow_add]
  exact Nat.lt_log2_self.trans_le (Nat.pow_le_pow_right Nat.two_pos (by omega))

theorem add_step_le {n : Nat} (hu : step u ∣ u) (hn : step u ∣ n) (h : u < n) : u + step u ≤ n :=
  Nat.le_of_lt_add_of_dvd (Nat.add_lt_add_right h _) (Nat.dvd_add hu (Nat.dvd_refl _)) hn

-- The next magnitude is the next power of two at most.
theorem next_le (h : Representable u) : u + step u ≤ 2 ^ (u.log2 + 1) :=
  add_step_le (step_dvd h) (pow_dvd_pow 2 (by omega)) Nat.lt_log2_self

theorem log2_le (h : u < v) : u.log2 ≤ v.log2 := by
  rcases Nat.eq_zero_or_pos u with rfl | hu
  · simp
  · rw [Nat.le_log2 (by omega)]
    exact (Nat.log2_self_le (by omega)).trans h.le

end Grid

namespace Decimal.Interval

open Grid

variable {i j : Interval} {u v : Nat} {q r : ℚ}

-- Whether a number lies in an interval.
def Has (i : Interval) (q : ℚ) : Prop :=
  if i.closed then i.lower ≤ q ∧ q ≤ i.upper else i.lower < q ∧ q < i.upper

theorem holds_iff {num den : Nat} (h : 0 < den) : i.holds num den = true ↔ i.Has (num / den) := by
  have h : (0 : ℚ) < den := by exact_mod_cast h
  unfold holds Has
  cases i.closed <;>
    simp only [Bool.false_eq_true, if_false, if_true, Bool.and_eq_true, decide_eq_true_eq,
      le_div_iff₀ h, div_le_iff₀ h, lt_div_iff₀ h, div_lt_iff₀ h] <;>
    norm_cast

theorem Has.bounds (h : i.Has q) : i.lower ≤ q ∧ q ≤ i.upper := by
  unfold Has at h
  split at h
  case isTrue  => exact h
  case isFalse => exact ⟨h.left.le, h.right.le⟩

theorem Has.strict (h : i.Has q) (hc : i.closed = false) : i.lower < q ∧ q < i.upper := by
  simpa [Has, hc] using h

theorem Has.of_strict (hl : i.lower < q) (hu : q < i.upper) : i.Has q := by
  unfold Has
  split
  case isTrue  => exact ⟨hl.le, hu.le⟩
  case isFalse => exact ⟨hl, hu⟩

-- An interval that ends where another begins, or before it. They share no bound that belongs to both.
def Precedes (i j : Interval) : Prop :=
  i.upper ≤ j.lower ∧ (i.upper = j.lower → i.closed = false ∨ j.closed = false)

theorem Precedes.of_lt (h : i.upper < j.lower) : i.Precedes j :=
  ⟨h.le, fun he => absurd he h.ne⟩

theorem Precedes.lt (h : i.Precedes j) (hq : i.Has q) (hr : j.Has r) : q < r := by
  have ⟨hle, hc⟩ := h
  have hle : (i.upper : ℚ) ≤ j.lower := by exact_mod_cast hle
  rcases hle.lt_or_eq with hlt | he
  · exact hq.bounds.right.trans_lt (hlt.trans_le hr.bounds.left)
  · rcases hc (by exact_mod_cast he) with hc | hc
    · exact (hq.strict hc).right.trans_le (hle.trans hr.bounds.left)
    · exact hq.bounds.right.trans_lt (hle.trans_lt (hr.strict hc).left)

theorem le_lower : 4 * u - 2 * step u ≤ (around u).lower := by
  unfold around
  dsimp only
  split <;> omega

theorem lower_of_pow (h : u = 2 ^ u.log2) (hs : 1 < step u) :
    (around u).lower = 4 * u - step u := by
  have h : (u == Nat.pow 2 u.log2 && step u > 1) = true := by
    rw [Bool.and_eq_true, beq_iff_eq, decide_eq_true_eq]
    exact ⟨h, hs⟩
  unfold around
  dsimp only
  rw [if_pos h]

theorem lower_of_not_pow (h : ¬(u = 2 ^ u.log2 ∧ 1 < step u)) : (around u).lower = 4 * u - 2 * step u := by
  have h : ¬(u == Nat.pow 2 u.log2 && step u > 1) = true := by
    rw [Bool.and_eq_true, beq_iff_eq, decide_eq_true_eq]
    exact h
  unfold around
  dsimp only
  rw [if_neg h]

-- Of two neighbours one has an odd last bit.
theorem precedes_of_step_eq (hu : Representable u) (hv : Representable v) (h : u < v)
    (hs : step v = step u) : (around u).Precedes (around v) := by
  have hupper : (around u).upper = 4 * u + 2 * step u := rfl
  have hlower := le_lower (u := v)
  have hd := step_dvd hv
  rw [hs] at hlower hd
  rcases (add_step_le (step_dvd hu) hd h).eq_or_lt with rfl | hlt
  · refine ⟨by omega, fun _ => ?_⟩
    have hdiv : (u + step u) / step u = u / step u + 1 := Nat.add_div_right u step_pos
    simp only [around, hs, hdiv]
    rcases Nat.mod_two_eq_zero_or_one (u / step u) with hm | hm <;> simp [hm, Nat.add_mod]
  · exact .of_lt (by omega)

-- Where the distance between neighbours changes, a power of two lies between them, and the last bit
-- below it is odd.
theorem precedes_of_step_ne (hu : Representable u) (hv : Representable v) (h : u < v)
    (hs : step v ≠ step u) : (around u).Precedes (around v) := by
  have hupper : (around u).upper = 4 * u + 2 * step u := rfl
  have hlower := le_lower (u := v)
  have hlog := log2_le h
  have ⟨hlog, hlarge⟩ : u.log2 < v.log2 ∧ 52 < v.log2 := by
    refine ⟨hlog.lt_of_ne fun he => hs (by rw [step_eq, step_eq, he]), ?_⟩
    by_contra hv
    exact hs (by rw [step_eq, step_eq, Nat.sub_eq_zero_of_le (by omega),
      Nat.sub_eq_zero_of_le (by omega)])
  have hpow : 2 ^ v.log2 = step v * 2 ^ 52 := by rw [step_eq, ← pow_add]; congr 1; omega
  have hstep : 1 < step v := Nat.one_lt_two_pow (by omega)
  have hnext := next_le hu
  have hself : 2 ^ v.log2 ≤ v := Nat.log2_self_le (by omega)
  rcases hself.eq_or_lt with hv' | hv'
  · have hlower := lower_of_pow hv'.symm hstep
    rcases Nat.eq_or_lt_of_le (Nat.succ_le_of_lt hlog) with hadj | hfar
    · have hdouble : step v = step u * 2 := by
        rw [step_eq, step_eq, ← hadj, ← pow_succ]
        congr 1
        omega
      rw [← Nat.succ_eq_add_one, hadj] at hnext
      refine ⟨by omega, fun he => .inl ?_⟩
      have hu : u = step u * (2 ^ 53 - 1) := by omega
      have hdiv : u / step u = 2 ^ 53 - 1 := Nat.div_eq_of_eq_mul_right step_pos hu
      simp [around, hdiv]
    · have hle : 2 ^ (u.log2 + 2) ≤ 2 ^ v.log2 := Nat.pow_le_pow_right Nat.two_pos hfar
      rw [pow_succ] at hle
      exact .of_lt (by omega)
  · have hgap : 2 ^ v.log2 + step v ≤ v :=
      Nat.le_of_lt_add_of_dvd (by omega) (Nat.dvd_add ⟨_, hpow⟩ (Nat.dvd_refl _)) (step_dvd hv)
    have hle : 2 ^ (u.log2 + 1) ≤ 2 ^ v.log2 := Nat.pow_le_pow_right Nat.two_pos hlog
    exact .of_lt (by omega)

theorem precedes (hu : Representable u) (hv : Representable v) (h : u < v) :
    (around u).Precedes (around v) := by
  by_cases hs : step v = step u
  case pos => exact precedes_of_step_eq hu hv h hs
  case neg => exact precedes_of_step_ne hu hv h hs

-- No number rounds to two doubles.
theorem eq_of_has (hu : Representable u) (hv : Representable v) (hq : (around u).Has q)
    (hr : (around v).Has q) : u = v := by
  rcases Nat.lt_trichotomy u v with h | h | h
  · exact absurd ((precedes hu hv h).lt hq hr) (lt_irrefl q)
  · exact h
  · exact absurd ((precedes hv hu h).lt hr hq) (lt_irrefl q)

end Decimal.Interval

end FlowGate
