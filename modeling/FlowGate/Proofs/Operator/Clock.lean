import FlowGate.Proofs.Operator.Dates

-- A window of the day is an arc of the clock: whoever goes round from its start is in it as far as its end.

namespace FlowGate

open Calendar Value

namespace TimeOfDay

variable {t first last : TimeOfDay}

-- The microseconds from one time of day to another, past midnight if need be.
def since (t start : TimeOfDay) : Int := (t.micros - start.micros) % dayLength

theorem since_of_le (h : first.micros ≤ t.micros) : t.since first = t.micros - first.micros := by
  have ht := t.inDay
  exact Int.emod_eq_of_lt (by omega) (by omega)

theorem since_of_lt (h : t.micros < first.micros) : t.since first = t.micros - first.micros + dayLength := by
  have hf := first.inDay
  rw [since, ← Int.add_emod_right]
  exact Int.emod_eq_of_lt (by omega) (by omega)

theorem since_le_iff_of_le (ho : first.micros ≤ last.micros) :
    t.since first ≤ last.since first ↔ first.micros ≤ t.micros ∧ t.micros ≤ last.micros := by
  have hl := last.inDay
  rw [since_of_le ho]
  by_cases hs : first.micros ≤ t.micros
  case pos => rw [since_of_le hs]; omega
  case neg => rw [since_of_lt (Nat.not_le.mp hs)]; omega

-- The way to the end leads past midnight, and so do the ways to all times before the start.
theorem since_le_iff_of_lt (ho : last.micros < first.micros) :
    t.since first ≤ last.since first ↔ first.micros ≤ t.micros ∨ t.micros ≤ last.micros := by
  have ht := t.inDay
  rw [since_of_lt ho]
  by_cases hs : first.micros ≤ t.micros
  case pos => rw [since_of_le hs]; omega
  case neg => rw [since_of_lt (Nat.not_le.mp hs)]; omega

theorem micros_inj (h : t.micros = first.micros) : t = first := by
  obtain ⟨micros, _⟩ := t
  subst h
  rfl

end TimeOfDay

namespace Comparison

variable {v low high : Value} {t first last : TimeOfDay}

theorem noLater_naive : noLater ⟨t, none⟩ ⟨last, none⟩ = .ok (decide (t.micros ≤ last.micros)) := by
  have ho : (compare t.micros last.micros != .gt) = decide (t.micros ≤ last.micros) := by
    rw [Bool.eq_iff_iff, bne_iff_ne, Nat.compare_ne_gt, decide_eq_true_eq]
  exact congrArg Except.ok ho

theorem inWindow_naive : inWindow ⟨first, none⟩ ⟨last, none⟩ ⟨t, none⟩ =
    .ok (decide (t.since first ≤ last.since first)) := by
  rw [inWindow, noLater_naive, noLater_naive, noLater_naive]
  by_cases ho : first.micros ≤ last.micros
  case pos =>
    simp only [decide_eq_true ho, TimeOfDay.since_le_iff_of_le ho]
    by_cases hs : first.micros ≤ t.micros <;> simp [hs, bind, Except.bind, pure, Except.pure]
  case neg =>
    simp only [decide_eq_false ho, TimeOfDay.since_le_iff_of_lt (Nat.not_le.mp ho)]
    by_cases hs : first.micros ≤ t.micros <;> simp [hs, bind, Except.bind, pure, Except.pure]

theorem timeBetween_of_tells (hv : v.Tells ⟨t, none⟩) (hl : low.Tells ⟨first, none⟩) (hh : high.Tells ⟨last, none⟩) :
    timeBetween v (.list [low, high]) = .ok (decide (t.since first ≤ last.since first)) := by
  rw [timeBetween_eq, within_of_reads (toTimeOfDay_eq_some_iff.mpr hv) (toTimeOfDay_eq_some_iff.mpr hl)
    (toTimeOfDay_eq_some_iff.mpr hh), inWindow_naive]

end Comparison

namespace Comparer

open Comparison

-- The window from one time of day to another, with the values that tell the three times.
structure Arc (c : Comparer) (v low high : Value) (t first last : TimeOfDay) : Prop where
  arc     : c.applyKnown .timeBetween v (.list [low, high]) = .ok (decide (t.since first ≤ last.since first))
  inside  : first.micros ≤ last.micros → c.applyKnown .timeBetween v (.list [low, high]) =
    .ok (decide (first.micros ≤ t.micros ∧ t.micros ≤ last.micros))
  wrapped : last.micros < first.micros → c.applyKnown .timeBetween v (.list [low, high]) =
    .ok (decide (first.micros ≤ t.micros ∨ t.micros ≤ last.micros))
  point   : first = last → (c.applyKnown .timeBetween v (.list [low, high]) = .ok true ↔ t = first)
  either  : first ≠ last → t ≠ first → t ≠ last →
    (c.applyKnown .timeBetween v (.list [low, high]) = .ok true ↔
      c.applyKnown .timeBetween v (.list [high, low]) = .ok false)

theorem arc_of_tells (c : Comparer) {v low high : Value} {t first last : TimeOfDay} (hv : v.Tells ⟨t, none⟩)
    (hl : low.Tells ⟨first, none⟩) (hh : high.Tells ⟨last, none⟩) : c.Arc v low high t first last := by
  have harc : c.applyKnown .timeBetween v (.list [low, high]) = _ := timeBetween_of_tells hv hl hh
  have hback : c.applyKnown .timeBetween v (.list [high, low]) = _ := timeBetween_of_tells hv hh hl
  refine ⟨harc, fun h => ?_, fun h => ?_, fun h => ?_, fun h ht ht' => ?_⟩
  case refine_1 => rw [harc, decide_eq_decide.mpr (TimeOfDay.since_le_iff_of_le h)]
  case refine_2 => rw [harc, decide_eq_decide.mpr (TimeOfDay.since_le_iff_of_lt h)]
  case refine_3 =>
    subst h
    rw [harc, Except.ok.injEq, decide_eq_true_eq, TimeOfDay.since_le_iff_of_le (Nat.le_refl _)]
    exact ⟨fun h => TimeOfDay.micros_inj (Nat.le_antisymm h.right h.left), fun h => h ▸ ⟨Nat.le_refl _, Nat.le_refl _⟩⟩
  case refine_4 =>
    have hne := mt TimeOfDay.micros_inj h
    have hne' := mt TimeOfDay.micros_inj ht
    have hne'' := mt TimeOfDay.micros_inj ht'
    rw [harc, hback, Except.ok.injEq, Except.ok.injEq, decide_eq_true_eq, decide_eq_false_iff_not]
    rcases Nat.lt_or_gt_of_ne hne with h | h
    all_goals
      rw [TimeOfDay.since_le_iff_of_lt h, TimeOfDay.since_le_iff_of_le (Nat.le_of_lt h)]
      omega

-- All windows between times of day without offset, however the three times are given.
structure Arcs (c : Comparer) : Prop where
  clocks : ∀ t, (clock ⟨t, none⟩).Tells ⟨t, none⟩
  texts  : ∀ (t : TimeOfDay) cs, t.Spelled cs → (text (String.ofList cs)).Tells ⟨t, none⟩
  arc    : ∀ v low high t first last, v.Tells ⟨t, none⟩ → low.Tells ⟨first, none⟩ → high.Tells ⟨last, none⟩ →
    c.Arc v low high t first last

theorem window_arcs (c : Comparer) : c.Arcs where
  clocks _                 := .clock _
  texts _ _ h              := tells_spelled h
  arc _ _ _ _ _ _ hv hl hh := arc_of_tells c hv hl hh

end Comparer

-- A window past midnight.
example : Comparison.timeBetween (text "23:00") (.list [text "22:00", text "06:00"]) = .ok true := by decide +kernel

end FlowGate
