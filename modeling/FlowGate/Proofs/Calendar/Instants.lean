import FlowGate.Calendar.Moment
import FlowGate.Proofs.Calendar.Days

-- Moments and their instants. A moment is found again from its instant exactly if that falls into the calendar.

namespace FlowGate

open Calendar

-- The instants on the days of the calendar.
def Calendar.Has (instant : Int) : Prop :=
  dayLength ≤ instant ∧ instant < (lastDay + 1) * dayLength

theorem Calendar.dayLength_eq : dayLength = 86400000000 := rfl

namespace Moment

variable {m u w : Moment} {i : Int}

theorem localMicros_eq (m : Moment) : m.localMicros = m.date.dayNumber * 86400000000 + m.time.micros := rfl

theorem time_lt (m : Moment) : m.time.micros < 86400000000 := m.time.inDay

theorem fdiv_localMicros (m : Moment) : Int.fdiv m.localMicros dayLength = m.date.dayNumber := by
  have ht := m.time_lt
  rw [Int.fdiv_eq_ediv_of_nonneg _ (Int.natCast_nonneg _), localMicros_eq, dayLength_eq]
  omega

theorem fmod_localMicros (m : Moment) : Int.fmod m.localMicros dayLength = m.time.micros := by
  have ht := m.time_lt
  rw [Int.fmod_eq_emod_of_nonneg _ (Int.natCast_nonneg _), localMicros_eq, dayLength_eq]
  omega

theorem instant_of_local (h : m.offset = none) : m.instant = m.localMicros := by
  rw [instant, h]
  exact Int.sub_zero _

theorem localMicros_inj (hm : m.offset = none) (hu : u.offset = none) (h : m.localMicros = u.localMicros) : m = u := by
  have hd : m.date = u.date := Date.dayNumber_inj (by
    have hdiv := m.fdiv_localMicros
    rw [h, fdiv_localMicros] at hdiv
    omega)
  have ht : m.time.micros = u.time.micros := by
    have hmod := m.fmod_localMicros
    rw [h, fmod_localMicros] at hmod
    omega
  obtain ⟨date, ⟨time, _⟩, offset⟩ := m
  obtain ⟨date', ⟨time', _⟩, offset'⟩ := u
  subst hm hu hd ht
  rfl

theorem has_localMicros (m : Moment) : Calendar.Has m.localMicros := by
  have ht := m.time_lt
  have hone := m.date.one_le_dayNumber
  have hlast := m.date.dayNumber_le
  rw [Calendar.Has, localMicros_eq, dayLength_eq]
  omega

theorem ofLocalMicros?_localMicros (hu : u.offset = none) : ofLocalMicros? u.localMicros = some u := by
  rw [ofLocalMicros?, fdiv_localMicros, fmod_localMicros, Date.ofDayNumber?_dayNumber, Int.toNat_natCast,
    TimeOfDay.ofMicros?, dif_pos u.time.inDay]
  obtain ⟨date, time, offset⟩ := u
  subst hu
  rfl

theorem exists_localMicros (h : Calendar.Has i) : ∃ u : Moment, u.offset = none ∧ u.localMicros = i := by
  have ⟨hfirst, hlast⟩ := h
  rw [dayLength_eq] at hfirst hlast
  obtain ⟨d, hd⟩ := Date.exists_dayNumber (n := (i / 86400000000).toNat) (by omega) (by omega)
  refine ⟨⟨d, ⟨(i % 86400000000).toNat, by rw [dayLength_eq]; omega⟩, none⟩, rfl, ?_⟩
  rw [localMicros_eq]
  dsimp only
  omega

theorem has_of_ofLocalMicros? (h : ofLocalMicros? i = some u) : Calendar.Has i := by
  simp only [ofLocalMicros?, Option.bind_eq_bind, Option.bind_eq_some_iff] at h
  obtain ⟨_, hd, _⟩ := h
  have ⟨hone, hlast⟩ := Date.ofDayNumber?_bounds hd
  rw [Int.fdiv_eq_ediv_of_nonneg _ (Int.natCast_nonneg _), dayLength_eq] at hone hlast
  rw [Calendar.Has, dayLength_eq]
  omega

theorem ofLocalMicros?_eq_some_iff : ofLocalMicros? i = some u ↔ u.offset = none ∧ u.localMicros = i := by
  constructor
  case mp =>
    intro h
    obtain ⟨w, hw, rfl⟩ := exists_localMicros (has_of_ofLocalMicros? h)
    rw [ofLocalMicros?_localMicros hw, Option.some_inj] at h
    exact h ▸ ⟨hw, rfl⟩
  case mpr =>
    rintro ⟨hu, rfl⟩
    exact ofLocalMicros?_localMicros hu

theorem toLocal?_eq_some_iff : m.toLocal? = some u ↔ u.offset = none ∧ u.localMicros = m.instant := by
  unfold toLocal?
  split
  case h_1 hm =>
    rw [instant_of_local hm, Option.some_inj]
    exact ⟨fun h => h ▸ ⟨hm, rfl⟩, fun h => localMicros_inj hm h.left h.right.symm⟩
  case h_2 =>
    rw [hostOffset, Int.add_zero]
    exact ofLocalMicros?_eq_some_iff

theorem toLocal?_eq_none_iff : m.toLocal? = none ↔ ¬Calendar.Has m.instant := by
  rw [Option.eq_none_iff_forall_ne_some]
  constructor
  case mp =>
    intro h hi
    obtain ⟨u, hu⟩ := exists_localMicros hi
    exact h u (toLocal?_eq_some_iff.mpr hu)
  case mpr =>
    intro hi u hu
    exact hi ((toLocal?_eq_some_iff.mp hu).right ▸ u.has_localMicros)

end Moment

end FlowGate
