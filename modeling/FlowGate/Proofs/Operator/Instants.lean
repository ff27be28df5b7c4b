import FlowGate.Proofs.Operator.Dates

-- Dates, date-times and their texts are compared by the instants that they stand for.

namespace FlowGate

open Calendar Value

namespace Moment

variable {m : Moment}

-- The moments whose texts tell their instants. An offset below a second is written, but not read.
structure Writable (m : Moment) : Prop where
  inCalendar : Calendar.Has m.instant
  survives   : ∀ o ∈ m.offset, o.Survives

theorem writable_of_local (h : m.offset = none) : m.Writable where
  inCalendar    := instant_of_local h ▸ m.has_localMicros
  survives o ho := by cases h.symm.trans ho

end Moment

namespace Value

variable {v : Value} {i : Int}

-- What is read from a moment and from its text.
structure ReadBack (m : Moment) : Prop where
  undone  : m.offset = none → (moment m).toMoment = .ok (some m) ∧ (text m.text).toMoment = .ok (some m)
  shifted : Calendar.Has m.instant → ∃ u : Moment, u.offset = none ∧ u.localMicros = m.instant ∧
    (moment m).toMoment = .ok (some u) ∧
    ((∀ o ∈ m.offset, o.Survives) → (text m.text).toMoment = .ok (some u))
  dropped : ∀ o ∈ m.offset, ¬o.Survives → (text m.text).toMoment = .ok (some { m with offset := none })

theorem readBack (m : Moment) : ReadBack m where
  undone h := by
    have hi := (Moment.instant_of_local h).symm
    have hs := written_of_survives (Moment.writable_of_local h).survives
    exact ⟨toMoment_eq_some_iff.mpr (.moment h hi), toMoment_eq_some_iff.mpr (.text hs h hi)⟩
  shifted h := by
    obtain ⟨u, hu, hi⟩ := Moment.exists_localMicros h
    exact ⟨u, hu, hi, toMoment_eq_some_iff.mpr (.moment hu hi), fun ho =>
      toMoment_eq_some_iff.mpr (.text (written_of_survives ho) hu hi)⟩
  dropped o ho h := by
    have hsmall : o.micros.natAbs < second := Nat.not_le.mp fun hs => h (.inr hs)
    exact toMoment_eq_some_iff.mpr (.text (written_moment m) rfl (Moment.instant_reread ho hsmall).symm)

-- The values that stand for instants: date-times, dates and the texts of both.
inductive Stamps : Value → Int → Prop
  | moment {m : Moment} (h : Calendar.Has m.instant) : Stamps (moment m) m.instant
  | momentText {m : Moment} (h : m.Writable) : Stamps (text m.text) m.instant
  | date (d : Date) : Stamps (date d) (d.dayNumber * dayLength)
  | dateText (d : Date) : Stamps (text d.text) (d.dayNumber * dayLength)

theorem toMoment_dateText (d : Date) : (text d.text).toMoment = .ok (some (.ofDate d)) :=
  toMoment_eq_some_iff.mpr (.text (written_date d) rfl (Int.sub_zero _).symm)

theorem Stamps.toMoment (h : v.Stamps i) : ∃ u, v.toMoment = .ok (some u) ∧ u.localMicros = i := by
  have hmidnight (d : Date) : (Moment.ofDate d).localMicros = d.dayNumber * dayLength := Int.add_zero _
  cases h
  case moment m h =>
    obtain ⟨u, _, hi, hm, _⟩ := (readBack m).shifted h
    exact ⟨u, hm, hi⟩
  case momentText m h =>
    obtain ⟨u, _, hi, _, ht⟩ := (readBack m).shifted h.inCalendar
    exact ⟨u, ht h.survives, hi⟩
  case date d     => exact ⟨_, rfl, hmidnight d⟩
  case dateText d => exact ⟨_, toMoment_dateText d, hmidnight d⟩

end Value

namespace Comparison

variable {v w low high : Value} {i j first last : Int}

theorem dates_of_stamps (holds : Int → Int → Bool) (hv : v.Stamps i) (hw : w.Stamps j) :
    dates holds v w = .ok (holds i j) := by
  obtain ⟨a, ha, rfl⟩ := hv.toMoment
  obtain ⟨e, he, rfl⟩ := hw.toMoment
  rw [dates_eq, onBoth_of_reads ha he]

theorem dateBetween_of_stamps (hv : v.Stamps i) (hl : low.Stamps first) (hh : high.Stamps last) :
    dateBetween v (.list [low, high]) = .ok (first ≤ i && i ≤ last) := by
  obtain ⟨m, hm, rfl⟩ := hv.toMoment
  obtain ⟨s, hs, rfl⟩ := hl.toMoment
  obtain ⟨e, he, rfl⟩ := hh.toMoment
  rw [dateBetween_eq, within_of_reads hm hs he]

end Comparison

namespace Comparer

open Comparison

variable {v w : Value} {i j : Int}

-- The comparison of two values that answers yes.
def comparison : Ordering → Operator
  | .lt => .dateBefore
  | .eq => .dateEquals
  | .gt => .dateAfter

-- Two values are compared by their instants, and exactly one of the three comparisons holds.
structure InOrder (t : Comparer) (v w : Value) (i j : Int) : Prop where
  before : t.applyKnown .dateBefore v w = .ok (decide (i < j))
  equal  : t.applyKnown .dateEquals v w = .ok (decide (i = j))
  after  : t.applyKnown .dateAfter v w = .ok (decide (i > j))
  one    : ∃! o, o ∈ [Operator.dateBefore, .dateEquals, .dateAfter] ∧ t.applyKnown o v w = .ok true

theorem applyKnown_comparison (t : Comparer) (hv : v.Stamps i) (hw : w.Stamps j) (c : Ordering) :
    t.applyKnown (comparison c) v w = .ok (decide (compare i j = c)) := by
  cases c
  all_goals rw [comparison, applyKnown, dates_of_stamps _ hv hw]
  case lt => simp [compare_lt_iff_lt]
  case eq => simp only [compare_eq_iff_eq]; rfl
  case gt => simp [compare_gt_iff_gt]

theorem inOrder_of_stamps (t : Comparer) (hv : v.Stamps i) (hw : w.Stamps j) : t.InOrder v w i j where
  before := dates_of_stamps (· < ·) hv hw
  equal  := dates_of_stamps (· == ·) hv hw
  after  := dates_of_stamps (· > ·) hv hw
  one    := by
    have hall (c : Ordering) : comparison c ∈ [Operator.dateBefore, .dateEquals, .dateAfter] := by cases c <;> decide
    refine ⟨comparison (compare i j), ⟨hall _, ?_⟩, ?_⟩
    · rw [applyKnown_comparison t hv hw, decide_eq_true rfl]
    · rintro o ⟨ho, hanswer⟩
      obtain ⟨c, rfl⟩ : ∃ c, comparison c = o := by
        simp only [List.mem_cons, List.not_mem_nil, or_false] at ho
        rcases ho with rfl | rfl | rfl
        · exact ⟨.lt, rfl⟩
        · exact ⟨.eq, rfl⟩
        · exact ⟨.gt, rfl⟩
      rw [applyKnown_comparison t hv hw, Except.ok.injEq, decide_eq_true_eq] at hanswer
      rw [hanswer]

end Comparer

end FlowGate
