import FlowGate.Calendar.Date
import Mathlib.Algebra.BigOperators.Group.List.Basic
import Mathlib.Algebra.GroupWithZero.Nat
import Mathlib.Order.Monotone.Basic

-- The numbers of days. The dates of the calendar are numbered without gaps, from the first of January of the year 1
-- to the last of December of the year 9999.

namespace FlowGate

namespace Calendar

variable {year year' i i' : Nat}

def yearLength (year : Nat) : Nat := if isLeap year then 366 else 365

-- The number of the last day of the calendar.
def lastDay : Nat := 3652059

theorem lastDay_eq : lastDay = 3652059 := rfl

theorem isLeap_iff : isLeap year = true ↔ year % 4 = 0 ∧ (year % 100 ≠ 0 ∨ year % 400 = 0) := by
  simp [isLeap]

theorem not_isLeap_iff : ¬isLeap year = true ↔ year % 4 ≠ 0 ∨ year % 100 = 0 ∧ year % 400 ≠ 0 := by
  rw [isLeap_iff]
  tauto

theorem daysBeforeYear_succ (h : 1 ≤ year) :
    daysBeforeYear (year + 1) = daysBeforeYear year + yearLength year := by
  obtain ⟨y, rfl⟩ := Nat.exists_eq_add_of_le' h
  have hle : y / 100 ≤ y / 4 := Nat.div_le_div_left (by decide) (by decide)
  simp only [daysBeforeYear, yearLength, isLeap_iff, Nat.add_sub_cancel, Nat.succ_div, Nat.dvd_iff_mod_eq_zero]
  split_ifs <;> omega

theorem daysBeforeYear_mono (h : 1 ≤ year) (hy : year ≤ year') : daysBeforeYear year ≤ daysBeforeYear year' := by
  induction year', hy using Nat.le_induction
  case base              => exact Nat.le_refl _
  case succ year' hy hle =>
    rw [daysBeforeYear_succ (h.trans hy)]
    omega

-- A day lies in one year only.
theorem year_le_of_days (h' : 1 ≤ year') (hi : i < yearLength year')
    (he : daysBeforeYear year ≤ daysBeforeYear year' + i) : year ≤ year' := by
  by_contra hy
  have hm := daysBeforeYear_mono (by omega) (Nat.succ_le_of_lt (Nat.lt_of_not_le hy))
  rw [daysBeforeYear_succ h'] at hm
  omega

theorem daysBeforeYear_spans {a b c d : Nat} (hb : b < 4) (hc : c < 25) (hd : d < 4) :
    daysBeforeYear (a * 400 + b * 100 + c * 4 + d + 1) = 146097 * a + 36524 * b + 1461 * c + 365 * d := by
  have hfour : (a * 400 + b * 100 + c * 4 + d) / 4 = a * 100 + b * 25 + c := by omega
  have hhundred : (a * 400 + b * 100 + c * 4 + d) / 100 = a * 4 + b := by omega
  have hspan : (a * 400 + b * 100 + c * 4 + d) / 400 = a := by omega
  simp only [daysBeforeYear, Nat.add_sub_cancel, hfour, hhundred, hspan]
  omega

theorem daysBeforeYear_end : daysBeforeYear 10000 = lastDay := rfl

theorem sum_monthLengths : (monthLengths (isLeap year)).sum = yearLength year := by
  unfold yearLength
  cases isLeap year <;> rfl

end Calendar

open Calendar

namespace Date

variable {before after lengths : List Nat} {days day month year i : Nat} {d e : Date} {n : Int}

-- The year that a day lies in, and the number of the day within it. Both are counted from zero days.
def yearAndDay (i : Nat) : Nat × Nat :=
  let r := i % 146097
  let n100 := min (r / 36524) 3
  let r := r - n100 * 36524
  let n4 := r / 1461
  let r := r % 1461
  let n1 := min (r / 365) 3
  (i / 146097 * 400 + n100 * 100 + n4 * 4 + n1 + 1, r - n1 * 365)

def ofYearAndDay? (year i : Nat) : Option Date :=
  ofCivil? year (monthAndDay i 1 (monthLengths (isLeap year))).1 (monthAndDay i 1 (monthLengths (isLeap year))).2

theorem ofDayNumber?_eq (h : 1 ≤ n) :
    ofDayNumber? n = ofYearAndDay? (yearAndDay (n.toNat - 1)).1 (yearAndDay (n.toNat - 1)).2 := by
  rw [ofDayNumber?, if_neg (Int.not_lt.mpr h)]
  rfl

theorem yearAndDay_spec (i : Nat) : 1 ≤ (yearAndDay i).1 ∧ (yearAndDay i).2 < yearLength (yearAndDay i).1 ∧
    daysBeforeYear (yearAndDay i).1 + (yearAndDay i).2 = i := by
  -- spans of 400 years, of a hundred, of four and of one, and what each of them leaves
  have ⟨a, q, ha, hq, hi⟩ : ∃ a q, a = i / 146097 ∧ q = i % 146097 ∧ i = 146097 * a + q :=
    ⟨_, _, rfl, rfl, (Nat.div_add_mod ..).symm⟩
  have ⟨b, r, hb, hr, hbr⟩ : ∃ b r, b = min (q / 36524) 3 ∧ r = q - b * 36524 ∧
      (b < 3 ∧ r < 36524 ∨ b = 3 ∧ r < 36525) := ⟨_, _, rfl, rfl, by omega⟩
  have ⟨c, s, hc, hs, hcs⟩ : ∃ c s, c = r / 1461 ∧ s = r % 1461 ∧ r = 1461 * c + s ∧ s < 1461 :=
    ⟨_, _, rfl, rfl, by omega⟩
  have ⟨d, t, hd, ht, hdt⟩ : ∃ d t, d = min (s / 365) 3 ∧ t = s - d * 365 ∧
      (d < 3 ∧ t < 365 ∨ d = 3 ∧ t < 366) := ⟨_, _, rfl, rfl, by omega⟩
  have hy : yearAndDay i = (a * 400 + b * 100 + c * 4 + d + 1, t) := by
    subst ht hd hs hc hr hb hq ha
    rfl
  have hbefore := daysBeforeYear_spans (a := a) (b := b) (c := c) (d := d) (by omega) (by omega) (by omega)
  rw [hy]
  refine ⟨by omega, ?_, by dsimp only; omega⟩
  dsimp only
  unfold yearLength
  split
  case isTrue     => omega
  case isFalse hn => rcases not_isLeap_iff.mp hn with hn | hn <;> omega

theorem yearAndDay_eq (h : 1 ≤ year) (hi : i < yearLength year) : yearAndDay (daysBeforeYear year + i) = (year, i) := by
  have ⟨h', hi', he⟩ := yearAndDay_spec (daysBeforeYear year + i)
  have hy : (yearAndDay (daysBeforeYear year + i)).1 = year :=
    Nat.le_antisymm (year_le_of_days h hi (by omega)) (year_le_of_days h' hi' (by omega))
  rw [hy] at he
  exact Prod.ext hy (by omega)

theorem yearAndDay_le_iff : (yearAndDay i).1 ≤ 9999 ↔ i < lastDay := by
  have ⟨hy, hi, he⟩ := yearAndDay_spec i
  constructor
  case mp =>
    intro h
    have hm := daysBeforeYear_mono (by omega) (Nat.succ_le_succ h)
    rw [Nat.succ_eq_add_one, Nat.succ_eq_add_one, daysBeforeYear_succ hy, daysBeforeYear_end] at hm
    omega
  case mpr =>
    intro h
    by_contra hc
    have hm := daysBeforeYear_mono (by omega) (Nat.lt_of_not_le hc)
    rw [Nat.succ_eq_add_one, daysBeforeYear_end] at hm
    omega

theorem monthAndDay_eq (hl : 1 ≤ day) (hd : day ≤ days) :
    monthAndDay (before.sum + (day - 1)) month (before ++ days :: after) = (month + before.length, day) := by
  induction before generalizing month
  case nil =>
    have h : day - 1 < days := by omega
    simp [monthAndDay, h]
    omega
  case cons l before hi =>
    have h : ¬l + before.sum + (day - 1) < l := by omega
    have hs : l + before.sum + (day - 1) - l = before.sum + (day - 1) := by omega
    rw [List.sum_cons, List.cons_append, monthAndDay, if_neg h, hs, hi, List.length_cons, Nat.add_assoc month,
      Nat.add_comm 1]

theorem exists_month (h : i < lengths.sum) : ∃ before days after day,
    lengths = before ++ days :: after ∧ 1 ≤ day ∧ day ≤ days ∧ i = before.sum + (day - 1) := by
  induction lengths generalizing i
  case nil => cases h
  case cons l rest hi =>
    rcases Nat.lt_or_ge i l with hl | hl
    · exact ⟨[], l, rest, i + 1, rfl, by omega, by omega, by simp⟩
    · have h : i - l < rest.sum := by
        rw [List.sum_cons] at h
        omega
      obtain ⟨before, days, after, day, rfl, hone, hday, he⟩ := hi h
      exact ⟨l :: before, days, after, day, rfl, hone, hday, by rw [List.sum_cons]; omega⟩

-- The months before the month of a date, and the days of its own.
theorem exists_months (d : Date) : ∃ before days after, monthLengths (isLeap d.year) = before ++ days :: after ∧
    d.month = before.length + 1 ∧ d.day ≤ days ∧ daysBeforeMonth d.year d.month = before.sum := by
  have ⟨_, _, hm, hm', _, hd⟩ := d.valid
  have hl : d.month - 1 < (monthLengths (isLeap d.year)).length := by
    simp only [monthLengths, List.length_cons, List.length_nil]
    omega
  refine ⟨(monthLengths (isLeap d.year)).take (d.month - 1), (monthLengths (isLeap d.year))[d.month - 1],
    (monthLengths (isLeap d.year)).drop (d.month - 1 + 1), ?_, ?_, ?_, List.sum_eq_foldl_nat.symm⟩
  · rw [← List.drop_eq_getElem_cons hl, List.take_append_drop]
  · rw [List.length_take]
    omega
  · rw [daysInMonth, if_neg (by omega), List.getElem?_eq_getElem hl] at hd
    exact hd

theorem ofCivil?_eq (d : Date) : ofCivil? d.year d.month d.day = some d :=
  dif_pos d.valid

theorem ofDayNumber?_dayNumber (d : Date) : ofDayNumber? d.dayNumber = some d := by
  obtain ⟨before, days, after, hl, hm, hd, hb⟩ := d.exists_months
  have ⟨hy, _, _, _, hone, _⟩ := d.valid
  have hlt : before.sum + (d.day - 1) < yearLength d.year := by
    rw [← sum_monthLengths, hl]
    simp only [List.sum_append, List.sum_cons]
    omega
  have hn : ((d.dayNumber : Nat) : Int).toNat - 1 = daysBeforeYear d.year + (before.sum + (d.day - 1)) := by
    rw [dayNumber, hb]
    omega
  rw [ofDayNumber?_eq (by rw [dayNumber]; omega), hn, yearAndDay_eq hy hlt]
  rw [ofYearAndDay?, hl, monthAndDay_eq hone hd, Nat.add_comm 1, ← hm]
  exact d.ofCivil?_eq

theorem dayNumber_inj (h : d.dayNumber = e.dayNumber) : d = e :=
  Option.some.inj (d.ofDayNumber?_dayNumber.symm.trans ((congrArg _ (congrArg _ h)).trans e.ofDayNumber?_dayNumber))

theorem one_le_dayNumber (d : Date) : 1 ≤ d.dayNumber := by
  have ⟨_, _, _, _, hone, _⟩ := d.valid
  rw [dayNumber]
  omega

theorem dayNumber_le (d : Date) : d.dayNumber ≤ lastDay := by
  obtain ⟨before, days, after, hl, _, hd, hb⟩ := d.exists_months
  have ⟨hy, hy', _⟩ := d.valid
  have hlt : before.sum + d.day ≤ yearLength d.year := by
    rw [← sum_monthLengths, hl]
    simp only [List.sum_append, List.sum_cons]
    omega
  have hm := daysBeforeYear_mono (by omega) (Nat.succ_le_succ hy')
  rw [Nat.succ_eq_add_one, Nat.succ_eq_add_one, daysBeforeYear_succ hy, daysBeforeYear_end] at hm
  rw [dayNumber, hb]
  omega

theorem exists_dayNumber {n : Nat} (h : 1 ≤ n) (h' : n ≤ lastDay) : ∃ d : Date, d.dayNumber = n := by
  have ⟨hy, hi, he⟩ := yearAndDay_spec (n - 1)
  have hy' : (yearAndDay (n - 1)).1 ≤ 9999 := yearAndDay_le_iff.mpr (by omega)
  generalize (yearAndDay (n - 1)).1 = year at *
  rw [← sum_monthLengths] at hi
  obtain ⟨before, days, after, day, hl, hone, hd, hs⟩ := exists_month hi
  have hlen : before.length < 12 := by
    have := congrArg List.length hl
    simp only [monthLengths, List.length_cons, List.length_nil, List.length_append] at this
    omega
  have hv : ValidDate year (before.length + 1) day := by
    refine ⟨hy, hy', by omega, by omega, hone, ?_⟩
    rw [daysInMonth, if_neg (by omega), hl]
    simpa using hd
  refine ⟨⟨year, before.length + 1, day, hv⟩, ?_⟩
  rw [dayNumber, daysBeforeMonth, hl, ← List.sum_eq_foldl_nat]
  simp only [Nat.add_sub_cancel, List.take_left]
  omega

theorem ofDayNumber?_bounds (h : ofDayNumber? n = some d) : 1 ≤ n ∧ n ≤ lastDay := by
  have hone : 1 ≤ n := by
    by_contra hc
    rw [ofDayNumber?, if_pos (by omega)] at h
    cases h
  rw [ofDayNumber?_eq hone, ofYearAndDay?, ofCivil?] at h
  split at h
  case isTrue hv =>
    have hi := yearAndDay_le_iff.mp hv.right.left
    omega
  case isFalse => cases h

theorem ofDayNumber?_eq_some_iff : ofDayNumber? n = some d ↔ (d.dayNumber : Int) = n := by
  constructor
  case mpr =>
    rintro rfl
    exact d.ofDayNumber?_dayNumber
  case mp =>
    intro h
    have ⟨hone, hlast⟩ := ofDayNumber?_bounds h
    obtain ⟨e, he⟩ := exists_dayNumber (n := n.toNat) (by omega) (by omega)
    have he : (e.dayNumber : Int) = n := by omega
    rw [← he, e.ofDayNumber?_dayNumber, Option.some_inj] at h
    exact h ▸ he

theorem ofDayNumber?_eq_none_iff : ofDayNumber? n = none ↔ n < 1 ∨ lastDay < n := by
  constructor
  case mp =>
    intro h
    by_contra hc
    obtain ⟨e, he⟩ := exists_dayNumber (n := n.toNat) (by omega) (by omega)
    rw [ofDayNumber?_eq_some_iff.mpr (show (e.dayNumber : Int) = n by omega)] at h
    cases h
  case mpr =>
    intro h
    cases hd : ofDayNumber? n
    case none   => rfl
    case some d =>
      have ⟨hone, hlast⟩ := ofDayNumber?_bounds hd
      omega

end Date

end FlowGate
