import FlowGate.Proofs.Condition.Mail
import FlowGate.Proofs.Operator.Instants

-- The condition that is built for a range of date-times holds if the field stands for an instant between the bounds.

namespace FlowGate

open Calendar Value

namespace Condition

variable {e : Engine} {c : Context} {path : String} {v : Value} {first last : Moment} {i : Int}

theorem dateRangeCondition_eq (hp : path ≠ "") (first last : Moment) : ∃ header,
    Builder.dateRangeCondition (text path) (moment first) (moment last) =
      .ok (simple header (text path) (.known .dateBetween) (.list [text first.text, text last.text])) := by
  have hfield : Build.argument "field" Schema.nonEmptyText (text path) = .done path :=
    congrArg (Schema.Parsed.under (.key "field")) (Schema.nonEmptyText_eq_done.mpr ⟨rfl, hp⟩)
  simp only [Builder.dateRangeCondition, Builder.comparing, hfield]
  exact ⟨_, rfl⟩

theorem dateRange_answers (hp : path ≠ "") (hv : c.resolveField path = v) (hi : v.Stamps i) (hf : first.Writable)
    (hl : last.Writable) :
    ∃ condition, Builder.dateRangeCondition (text path) (moment first) (moment last) = .ok condition ∧
      condition.Answers e c (first.instant ≤ i ∧ i ≤ last.instant) := by
  obtain ⟨header, hb⟩ := dateRangeCondition_eq hp first last
  have hm : (simple header (text path) (.known .dateBetween) (.list [text first.text, text last.text])).meaning e c =
      .ofBool (first.instant ≤ i && i ≤ last.instant) := by
    have hanswer : e.comparer.apply (.known .dateBetween) v (.list [text first.text, text last.text]) =
        .ok (first.instant ≤ i && i ≤ last.instant) :=
      Comparison.dateBetween_of_stamps hi (.momentText hf) (.momentText hl)
    rw [meaning, meetsOperator, hv]
    exact congrArg Outcome.ofAnswer hanswer
  refine ⟨_, hb, (Ending.of_evaluates (evaluates_simple ⟨_, hp, rfl⟩)).answers_of_meaning hm ?_⟩
  rw [Bool.and_eq_true, decide_eq_true_eq, decide_eq_true_eq]

end Condition

namespace Engine

-- Date-times and dates are read as written, compared by their instants, and found in the ranges that conditions are
-- built for. Only the texts of offsets below a second are read as if there were none.
structure Chronology (e : Engine) : Prop where
  moments : ∀ m : Moment, ReadBack m
  dates   : ∀ d : Date, (date d).toMoment = .ok (some (.ofDate d)) ∧ (text d.text).toMoment = .ok (some (.ofDate d))
  naive   : ∀ m : Moment, m.offset = none → m.Writable
  ordered : ∀ v w i j, v.Stamps i → w.Stamps j → e.comparer.InOrder v w i j
  ranged  : ∀ (c : Context) path v i (first last : Moment), path ≠ "" → c.resolveField path = v → v.Stamps i →
    first.Writable → last.Writable →
    ∃ condition, Builder.dateRangeCondition (text path) (moment first) (moment last) = .ok condition ∧
      condition.Answers e c (first.instant ≤ i ∧ i ≤ last.instant)

theorem chronology (e : Engine) : e.Chronology where
  moments m                         := readBack m
  naive _ h                         := Moment.writable_of_local h
  dates d                           := ⟨rfl, toMoment_dateText d⟩
  ordered _ _ _ _ hv hw             := Comparer.inOrder_of_stamps _ hv hw
  ranged _ _ _ _ _ _ hp hv hi hf hl := Condition.dateRange_answers hp hv hi hf hl

end Engine

end FlowGate
