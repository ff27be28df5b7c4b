import FlowGate.Proofs.Operator.Dates

-- The days, weeks, months and years that the clock is in. Weeks are counted from the Sunday before the calendar
-- begins, so the first and the last week of the calendar are not whole.

namespace FlowGate

open Calendar Value

namespace Date

variable {d sunday next : Date}

def week (d : Date) : Nat := d.dayNumber / 7

-- The week of the date lies within the calendar.
def WholeWeek (d : Date) : Prop := ∀ i, i < 7 → ∃ day : Date, day.dayNumber = 7 * d.week + i

theorem weekdayFromSunday_eq (d : Date) : d.weekdayFromSunday = d.dayNumber % 7 := by
  rw [weekdayFromSunday, weekdayFromMonday]
  omega

theorem wholeWeek_iff : d.WholeWeek ↔ 1 ≤ d.week ∧ 7 * d.week + 6 ≤ lastDay := by
  constructor
  case mp =>
    intro h
    obtain ⟨first, hf⟩ := h 0 (by decide)
    obtain ⟨last, hl⟩ := h 6 (by decide)
    have hone := first.one_le_dayNumber
    have hlast := last.dayNumber_le
    omega
  case mpr =>
    intro h i hi
    exact exists_dayNumber (by omega) (by omega)

theorem addDays?_eq_some_iff {days : Int} : d.addDays? days = some next ↔ (next.dayNumber : Int) = d.dayNumber + days :=
  ofDayNumber?_eq_some_iff

theorem addDays?_eq_none_iff {days : Int} :
    d.addDays? days = none ↔ d.dayNumber + days < 1 ∨ lastDay < d.dayNumber + days :=
  ofDayNumber?_eq_none_iff

-- The Sunday that the week begins with.
theorem sunday_eq_some_iff : d.addDays? (-d.weekdayFromSunday) = some sunday ↔ sunday.dayNumber = 7 * d.week := by
  rw [addDays?_eq_some_iff, weekdayFromSunday_eq, week]
  omega

theorem sunday_eq_none_iff : d.addDays? (-d.weekdayFromSunday) = none ↔ d.week = 0 := by
  have hlast := d.dayNumber_le
  rw [addDays?_eq_none_iff, weekdayFromSunday_eq, week]
  omega

theorem dayNumber_lt_iff {k : Nat} (hs : sunday.dayNumber = 7 * k) : d.dayNumber < sunday.dayNumber ↔ d.week < k := by
  rw [hs, week]
  omega

-- The calendar ends on a Friday, so every Saturday has a Sunday after it.
theorem next_eq_none_iff (hs : sunday.dayNumber = 7 * d.week) :
    sunday.addDays? 7 = none ↔ ¬7 * d.week + 6 ≤ lastDay := by
  rw [addDays?_eq_none_iff, hs, lastDay_eq]
  omega

end Date

namespace Moment

variable {m : Moment} {d : Date}

theorem localMicros_lt_iff : m.localMicros < (ofDate d).localMicros ↔ m.date.dayNumber < d.dayNumber := by
  have hm := m.time_lt
  have hd : (ofDate d).localMicros = d.dayNumber * 86400000000 := Int.add_zero _
  rw [hd, localMicros_eq]
  omega

end Moment

namespace Comparer

open Comparison

variable {t : Comparer} {m : Moment}

theorem isYesterday_iff : t.isYesterday m = .ok true ↔ m.date.dayNumber + 1 = t.now.date.dayNumber := by
  unfold isYesterday
  split
  case h_1 d hd =>
    have hday := Date.addDays?_eq_some_iff.mp hd
    rw [Except.ok.injEq, beq_iff_eq]
    constructor
    · rintro rfl
      omega
    · intro h
      exact Date.dayNumber_inj (by omega)
  case h_2 hd =>
    have hone := m.date.one_le_dayNumber
    have hlast := t.now.date.dayNumber_le
    have hnone := Date.addDays?_eq_none_iff.mp hd
    exact iff_of_false nofun (by omega)

theorem isThisWeek_eq (h : t.now.date.WholeWeek) : t.isThisWeek m = .ok (decide (m.date.week = t.now.date.week)) := by
  have ⟨hfirst, hlast⟩ := Date.wholeWeek_iff.mp h
  obtain ⟨sunday, hs⟩ := Option.ne_none_iff_exists'.mp (mt Date.sunday_eq_none_iff.mp (Nat.pos_iff_ne_zero.mp hfirst))
  have hday := Date.sunday_eq_some_iff.mp hs
  obtain ⟨next, hn⟩ := Option.ne_none_iff_exists'.mp (mt (Date.next_eq_none_iff hday).mp (not_not.mpr hlast))
  have hnext : next.dayNumber = 7 * (t.now.date.week + 1) := by
    have := Date.addDays?_eq_some_iff.mp hn
    omega
  unfold isThisWeek
  simp only [hs, hn, Moment.localMicros_lt_iff, Date.dayNumber_lt_iff hday, Date.dayNumber_lt_iff hnext]
  split
  case isTrue hbefore => rw [decide_eq_false hbefore.ne]
  case isFalse hsince =>
    have hiff : m.date.week < t.now.date.week + 1 ↔ m.date.week = t.now.date.week := by omega
    rw [decide_eq_decide.mpr hiff]

-- A week that is not whole has no beginning or no end, which is missed where the moment does not lie before it.
theorem isThisWeek_cut (h : ¬t.now.date.WholeWeek) :
    t.isThisWeek m = if m.date.week < t.now.date.week then .ok false else .error .dateOutOfRange := by
  unfold isThisWeek
  split
  case h_1 hs =>
    rw [if_neg (by rw [Date.sunday_eq_none_iff.mp hs]; omega)]
  case h_2 sunday hs =>
    have hday := Date.sunday_eq_some_iff.mp hs
    have hone := sunday.one_le_dayNumber
    have hn := Date.next_eq_none_iff hday |>.mpr fun hlast => h (Date.wholeWeek_iff.mpr ⟨by omega, hlast⟩)
    simp only [hn, Moment.localMicros_lt_iff, Date.dayNumber_lt_iff hday]

-- The same comparisons at another time.
def asOf (t : Comparer) (n : Moment) : Comparer := { t with now := n }

variable {v e : Value} {n : Moment}

theorem dateIsThisWeek_eq (hv : v.Marks m) (h : n.date.WholeWeek) :
    (t.asOf n).applyKnown .dateIsThisWeek v e = .ok (decide (m.date.week = n.date.week)) := by
  rw [applyKnown, ofMoment_of_marks hv]
  exact isThisWeek_eq h

theorem dateIsThisWeek_iff (hv : v.Marks m) (h : n.date.WholeWeek) :
    (t.asOf n).applyKnown .dateIsThisWeek v e = .ok true ↔ m.date.week = n.date.week := by
  rw [dateIsThisWeek_eq hv h, Except.ok.injEq, decide_eq_true_eq]

theorem dateIsToday_iff (hv : v.Marks m) :
    (t.asOf n).applyKnown .dateIsToday v e = .ok true ↔ m.date = n.date := by
  rw [applyKnown, ofMoment_of_marks hv, Except.ok.injEq, beq_iff_eq]
  rfl

theorem dateIsYesterday_iff (hv : v.Marks m) :
    (t.asOf n).applyKnown .dateIsYesterday v e = .ok true ↔ m.date.dayNumber + 1 = n.date.dayNumber := by
  rw [applyKnown, ofMoment_of_marks hv]
  exact isYesterday_iff

theorem dateIsThisMonth_iff (hv : v.Marks m) : (t.asOf n).applyKnown .dateIsThisMonth v e = .ok true ↔
    m.date.year = n.date.year ∧ m.date.month = n.date.month := by
  rw [applyKnown, ofMoment_of_marks hv, Except.ok.injEq, Bool.and_eq_true, beq_iff_eq, beq_iff_eq]
  rfl

theorem dateIsThisYear_iff (hv : v.Marks m) :
    (t.asOf n).applyKnown .dateIsThisYear v e = .ok true ↔ m.date.year = n.date.year := by
  rw [applyKnown, ofMoment_of_marks hv, Except.ok.injEq, beq_iff_eq]
  rfl

-- What the days, weeks, months and years of clocks have to do with each other.
structure Calendrical (t : Comparer) : Prop where
  sunday     : ∀ d : Date, d.weekdayFromSunday = 0 ↔ d.dayNumber = 7 * d.week
  week       : ∀ n m v e, v.Marks m → n.date.WholeWeek →
    (t.asOf n).applyKnown .dateIsThisWeek v e = .ok (decide (m.date.week = n.date.week))
  cut        : ∀ n m v e, v.Marks m → ¬n.date.WholeWeek → (t.asOf n).applyKnown .dateIsThisWeek v e =
    if m.date.week < n.date.week then .ok false else .error .dateOutOfRange
  symmetric  : ∀ n m v w e e', v.Marks m → w.Marks n → n.date.WholeWeek → m.date.WholeWeek →
    (t.asOf n).applyKnown .dateIsThisWeek v e = (t.asOf m).applyKnown .dateIsThisWeek w e'
  transitive : ∀ n k v w e e', w.Marks n → n.date.WholeWeek → k.date.WholeWeek →
    (t.asOf n).applyKnown .dateIsThisWeek v e = .ok true → (t.asOf k).applyKnown .dateIsThisWeek w e' = .ok true →
    (t.asOf k).applyKnown .dateIsThisWeek v e = .ok true
  today      : ∀ n v e, n.date.WholeWeek → (t.asOf n).applyKnown .dateIsToday v e = .ok true →
    (t.asOf n).applyKnown .dateIsThisWeek v e = .ok true
  yesterday  : ∀ n v e, n.date.WholeWeek → (t.asOf n).applyKnown .dateIsYesterday v e = .ok true →
    (t.asOf n).applyKnown .dateIsThisWeek v e ≠ .ok true → n.date.weekdayFromSunday = 0
  month      : ∀ n v e, (t.asOf n).applyKnown .dateIsToday v e = .ok true →
    (t.asOf n).applyKnown .dateIsThisMonth v e = .ok true
  year       : ∀ n v e, (t.asOf n).applyKnown .dateIsThisMonth v e = .ok true →
    (t.asOf n).applyKnown .dateIsThisYear v e = .ok true

theorem calendrical (t : Comparer) : t.Calendrical where
  sunday d := by
    rw [Date.weekdayFromSunday_eq, Date.week]
    omega
  week n m v e hv h := dateIsThisWeek_eq hv h
  cut n m v e hv h := by
    rw [applyKnown, ofMoment_of_marks hv]
    exact isThisWeek_cut h
  symmetric n m v w e e' hv hw hn hm := by
    rw [dateIsThisWeek_eq hv hn, dateIsThisWeek_eq hw hm, decide_eq_decide.mpr eq_comm]
  transitive n k v w e e' hw hn hk hv hwk := by
    obtain ⟨m, hm, _⟩ := marks_of_ofMoment hv
    have hvn := dateIsThisWeek_iff hm hn |>.mp hv
    have hnk := dateIsThisWeek_iff hw hk |>.mp hwk
    exact dateIsThisWeek_iff hm hk |>.mpr (hvn.trans hnk)
  today n v e h htoday := by
    obtain ⟨m, hm, _⟩ := marks_of_ofMoment htoday
    exact dateIsThisWeek_iff hm h |>.mpr (congrArg Date.week (dateIsToday_iff hm |>.mp htoday))
  yesterday n v e h hyesterday hweek := by
    obtain ⟨m, hm, _⟩ := marks_of_ofMoment hyesterday
    have hday := dateIsYesterday_iff hm |>.mp hyesterday
    have hne := mt (dateIsThisWeek_iff hm h).mpr hweek
    rw [Date.week, Date.week] at hne
    rw [Date.weekdayFromSunday_eq]
    omega
  month n v e htoday := by
    obtain ⟨m, hm, _⟩ := marks_of_ofMoment htoday
    have hday := dateIsToday_iff hm |>.mp htoday
    exact dateIsThisMonth_iff hm |>.mpr ⟨congrArg Date.year hday, congrArg Date.month hday⟩
  year n v e hmonth := by
    obtain ⟨m, hm, _⟩ := marks_of_ofMoment hmonth
    exact dateIsThisYear_iff hm |>.mpr (dateIsThisMonth_iff hm |>.mp hmonth).left

end Comparer

end FlowGate
