import FlowGate.Proofs.Calendar.Instants
import FlowGate.Proofs.Calendar.Written
import FlowGate.Proofs.Number.Whole
import FlowGate.Value.Coercion

-- The moments and times of day that values are read as, and the values that cannot be read for a fault.

namespace FlowGate

namespace Text

variable {c : Char} {cs : List Char}

theorem isBlank_of_between (h : 0x21 ≤ c.toNat) (h' : c.toNat < 0x5A) : isBlank c = false := by
  simp only [isBlank, Ranges.contains, blanks, Ranges.containsCode]
  rw [if_neg (by omega), if_neg (by omega), if_pos (by omega), Bool.or_false, Bool.or_eq_false_iff]
  exact ⟨decide_eq_false (by omega), decide_eq_false (by omega)⟩

theorem stripChars_of_blankless (h : ∀ c ∈ cs, isBlank c = false) : stripChars cs = cs := by
  have hdrop {cs : List Char} (h : ∀ c ∈ cs, isBlank c = false) : cs.dropWhile isBlank = cs := by
    cases cs
    case nil       => rfl
    case cons c cs => rw [List.dropWhile_cons_of_neg (by simp [h c (.head _)])]
  rw [stripChars, hdrop h, hdrop fun c hc => h c (List.mem_reverse.mp hc), List.reverse_reverse]

theorem strip_ofList (h : ∀ c ∈ cs, isBlank c = false) : strip (String.ofList cs) = String.ofList cs := by
  rw [strip, String.toList_ofList, stripChars_of_blankless h]

theorem replaceChar_ofList {others : List Char} (h : c ∉ cs) :
    replaceChar c others (String.ofList cs) = String.ofList cs := by
  rw [replaceChar, String.toList_ofList]
  congr 1
  induction cs
  case nil           => rfl
  case cons d cs hi =>
    rw [List.flatMap_cons, if_neg (Ne.symm (List.ne_of_not_mem_cons h)), hi (List.not_mem_of_not_mem_cons h)]
    rfl

end Text

namespace Calendar

-- The characters of written dates and times are neither blank nor beyond the letter T.
def IsMark (c : Char) : Prop := 0x21 ≤ c.toNat ∧ c.toNat < 0x5A

instance (c : Char) : Decidable (IsMark c) := inferInstanceAs (Decidable (_ ∧ _))

theorem isMark_of_isDigit {c : Char} (h : c.isDigit = true) : IsMark c := by
  simp only [Char.isDigit, Bool.and_eq_true, decide_eq_true_eq, UInt32.le_iff_toNat_le, ge_iff_le] at h
  have hn : c.toNat = c.val.toNat := rfl
  simp at h
  unfold IsMark
  omega

theorem isMark_padded (w n : Nat) : ∀ c ∈ padded w n, IsMark c :=
  fun _ h => isMark_of_isDigit (isDigit_of_mem_padded h)

theorem isMark_date (d : Date) : ∀ c ∈ d.chars, IsMark c := by
  simp only [Date.chars, List.forall_mem_append, List.forall_mem_cons]
  exact ⟨⟨isMark_padded _ _, by decide, isMark_padded _ _⟩, by decide, isMark_padded _ _⟩

theorem isMark_spelled {t : TimeOfDay} {cs : List Char} (h : t.Spelled cs) : ∀ c ∈ cs, IsMark c := by
  intro c hc
  rcases h.chars c hc with hd | rfl | rfl
  · exact isMark_of_isDigit hd
  · decide
  · decide

theorem isMark_offset (o : Offset) : ∀ c ∈ o.chars, IsMark c := by
  obtain ⟨cs, hs, hc⟩ := o.chars_spelled
  rw [hc]
  refine List.forall_mem_cons.mpr ⟨?_, isMark_spelled hs⟩
  split <;> decide

theorem isMark_moment (m : Moment) : ∀ c ∈ m.chars 'T', IsMark c := by
  simp only [Moment.chars, List.forall_mem_append, List.forall_mem_cons]
  refine ⟨⟨isMark_date _, by decide, isMark_spelled m.time.chars_spelled⟩, ?_⟩
  cases m.offset
  case none   => exact List.forall_mem_nil _
  case some o => exact isMark_offset o

end Calendar

namespace Value

variable {v : Value} {m u : Moment} {f : Fault} {s : String} {cs : List Char} {t : ClockTime}

-- What a text is read as, where a final Z stands for universal time.
def written (s : String) : Except Iso.Fault Moment :=
  Iso.moment (Text.replaceChar 'Z' "+00:00".toList (Text.strip s)).toList

-- The values that stand for moments which cannot be found: whole numbers that are too large for doubles, and moments
-- that lie outside the calendar in universal time.
inductive Untimely : Value → Fault → Prop
  | tooLarge {n : Int} (h : ¬Double.Reaches n) : Untimely (int n) .integerTooLarge
  | moment {m : Moment} (h : ¬Calendar.Has m.instant) : Untimely (moment m) .dateOutOfRange
  | text {s : String} {m : Moment} (hs : written s = .ok m) (h : ¬Calendar.Has m.instant) :
    Untimely (text s) .dateOutOfRange

-- The values that stand for moments, and the local moments that they denote.
inductive Marks : Value → Moment → Prop
  | moment {m u : Moment} (hu : u.offset = none) (hi : u.localMicros = m.instant) : Marks (moment m) u
  | date (d : Date) : Marks (date d) (.ofDate d)
  | text {s : String} {m u : Moment} (hs : written s = .ok m) (hu : u.offset = none)
    (hi : u.localMicros = m.instant) : Marks (text s) u
  | int {n : Int} {u : Moment} (hn : Double.Reaches n)
    (hu : ofEpochSeconds? ((Double.ofInt n).divNat 1000) = some u) : Marks (int n) u
  | double {x : Double} {u : Moment} (hx : x.isNaN = false) (hu : ofEpochSeconds? (x.divNat 1000) = some u) :
    Marks (double x) u

-- A text that is written as a time of day is read as one, whatever else it may be.
def IsClockText (v : Value) : Prop :=
  ∃ s t, v = text s ∧ Iso.clockTime (Text.strip s).toList = .ok t

def Unclocked (v : Value) (f : Fault) : Prop :=
  v.Untimely f ∧ ¬v.IsClockText

-- The values that stand for times of day, and what a clock shows then.
inductive Tells : Value → ClockTime → Prop
  | clock (t : ClockTime) : Tells (clock t) t
  | text {s : String} {t : ClockTime} (h : Iso.clockTime (Text.strip s).toList = .ok t) : Tells (text s) t
  | moment {v : Value} {u : Moment} (hu : v.Marks u) (h : ¬v.IsClockText) : Tells v ⟨u.time, none⟩

theorem localMoment_eq_ok_iff : localMoment m = .ok u ↔ u.offset = none ∧ u.localMicros = m.instant := by
  rw [← Moment.toLocal?_eq_some_iff, localMoment]
  cases m.toLocal? <;> simp

theorem localMoment_eq_error_iff : localMoment m = .error f ↔ f = .dateOutOfRange ∧ ¬Calendar.Has m.instant := by
  rw [← Moment.toLocal?_eq_none_iff, localMoment]
  cases m.toLocal? <;> simp [eq_comm]

theorem map_some_eq_ok_iff {α : Type} {r : Except Fault α} {x : α} : r.map some = .ok (some x) ↔ r = .ok x := by
  cases r <;> simp [Except.map]

theorem map_some_eq_error_iff {α : Type} {r : Except Fault α} : r.map some = .error f ↔ r = .error f := by
  cases r <;> simp [Except.map]

theorem momentOfText_eq_some_iff :
    momentOfText s = .ok (some u) ↔ ∃ m, written s = .ok m ∧ u.offset = none ∧ u.localMicros = m.instant := by
  rw [momentOfText, ← written]
  cases written s
  case error  => simp
  case ok m   => simp [map_some_eq_ok_iff, localMoment_eq_ok_iff]

theorem momentOfText_eq_error_iff :
    momentOfText s = .error f ↔ ∃ m, written s = .ok m ∧ f = .dateOutOfRange ∧ ¬Calendar.Has m.instant := by
  rw [momentOfText, ← written]
  cases written s
  case error  => simp
  case ok m   => simp [map_some_eq_error_iff, localMoment_eq_error_iff]

theorem toMoment_int {n : Int} (h : Double.Reaches n) :
    (int n).toMoment = .ok (ofEpochSeconds? ((Double.ofInt n).divNat 1000)) := by
  rw [toMoment, isNumber, Double.ofInt?_eq_some h]
  rfl

theorem toMoment_large {n : Int} (h : ¬Double.Reaches n) : (int n).toMoment = .error .integerTooLarge := by
  rw [toMoment, isNumber, Double.ofInt?_eq_none_iff.mpr (Nat.not_lt.mp h)]
  rfl

theorem toMoment_eq_error_iff : v.toMoment = .error f ↔ v.Untimely f := by
  constructor
  case mp =>
    intro h
    fun_cases toMoment v
    case case1 m =>
      rw [toMoment] at h
      obtain ⟨rfl, hm⟩ := localMoment_eq_error_iff.mp (map_some_eq_error_iff.mp h)
      exact .moment hm
    case case3 s =>
      rw [toMoment] at h
      obtain ⟨m, hs, rfl, hm⟩ := momentOfText_eq_error_iff.mp h
      exact .text hs hm
    case case4 n =>
      by_cases hn : Double.Reaches n
      case pos => cases (toMoment_int hn).symm.trans h
      case neg => cases (toMoment_large hn).symm.trans h; exact .tooLarge hn
    case case6 hm hd hs hn hx =>
      rw [toMoment.eq_6 v hm hd hs hn hx] at h
      cases h
    all_goals cases h
  case mpr =>
    intro h
    cases h
    case tooLarge h => exact toMoment_large h
    case moment h   => rw [toMoment]; exact map_some_eq_error_iff.mpr (localMoment_eq_error_iff.mpr ⟨rfl, h⟩)
    case text hs h  => rw [toMoment]; exact momentOfText_eq_error_iff.mpr ⟨_, hs, rfl, h⟩

theorem toMoment_eq_some_iff : v.toMoment = .ok (some u) ↔ v.Marks u := by
  constructor
  case mp =>
    intro h
    fun_cases toMoment v
    case case1 m =>
      rw [toMoment] at h
      obtain ⟨hu, hi⟩ := localMoment_eq_ok_iff.mp (map_some_eq_ok_iff.mp h)
      exact .moment hu hi
    case case2 d => cases h; exact .date d
    case case3 s =>
      rw [toMoment] at h
      obtain ⟨m, hs, hu, hi⟩ := momentOfText_eq_some_iff.mp h
      exact .text hs hu hi
    case case4 n =>
      by_cases hn : Double.Reaches n
      case pos => exact .int hn (Except.ok.inj ((toMoment_int hn).symm.trans h))
      case neg => cases (toMoment_large hn).symm.trans h
    case case5 x =>
      rw [toMoment] at h
      cases hx : x.isNaN
      case true  => simp [hx] at h
      case false =>
        rw [hx, if_neg Bool.false_ne_true] at h
        exact .double hx (Except.ok.inj h)
    case case6 hm hd hs hn hx =>
      rw [toMoment.eq_6 v hm hd hs hn hx] at h
      cases h
  case mpr =>
    intro h
    cases h
    case moment hu hi  => rw [toMoment]; exact map_some_eq_ok_iff.mpr (localMoment_eq_ok_iff.mpr ⟨hu, hi⟩)
    case date d        => rfl
    case text hs hu hi => rw [toMoment]; exact momentOfText_eq_some_iff.mpr ⟨_, hs, hu, hi⟩
    case int hn hu     => rw [toMoment_int hn, hu]
    case double hx hu  => rw [toMoment, hx, if_neg Bool.false_ne_true, hu]

theorem ofMoment_eq_error_iff : toTimeOfDay.ofMoment v = .error f ↔ v.Untimely f := by
  rw [toTimeOfDay.ofMoment, ← toMoment_eq_error_iff]
  cases v.toMoment <;> simp [Except.map]

theorem ofMoment_eq_some_iff : toTimeOfDay.ofMoment v = .ok (some t) ↔ ∃ u, v.Marks u ∧ ⟨u.time, none⟩ = t := by
  simp only [toTimeOfDay.ofMoment, ← toMoment_eq_some_iff]
  cases v.toMoment
  case error => simp [Except.map]
  case ok m  => cases m <;> simp [Except.map]

theorem toTimeOfDay_text (h : Iso.clockTime (Text.strip s).toList = .ok t) : (text s).toTimeOfDay = .ok (some t) := by
  rw [toTimeOfDay, h]

-- What is no clock and not written as one is read as a moment.
theorem toTimeOfDay_eq_ofMoment (hc : ∀ t, v ≠ clock t) (h : ¬v.IsClockText) :
    v.toTimeOfDay = toTimeOfDay.ofMoment v := by
  fun_cases toTimeOfDay v
  case case1 t      => exact absurd rfl (hc t)
  case case2 s t ht => exact absurd ⟨s, t, rfl, ht⟩ h
  all_goals rfl

theorem toTimeOfDay_eq_error_iff : v.toTimeOfDay = .error f ↔ v.Unclocked f := by
  by_cases hc : ∃ t, v = clock t
  case pos =>
    obtain ⟨t, rfl⟩ := hc
    exact iff_of_false nofun fun h => nomatch h.left
  case neg =>
    by_cases h : v.IsClockText
    case pos =>
      obtain ⟨s, t, rfl, ht⟩ := h
      rw [toTimeOfDay_text ht]
      exact iff_of_false nofun fun h => h.right ⟨s, t, rfl, ht⟩
    case neg =>
      rw [toTimeOfDay_eq_ofMoment (not_exists.mp hc) h, ofMoment_eq_error_iff, Unclocked]
      exact (and_iff_left h).symm

theorem toTimeOfDay_eq_some_iff : v.toTimeOfDay = .ok (some t) ↔ v.Tells t := by
  by_cases hc : ∃ t, v = clock t
  case pos =>
    obtain ⟨w, rfl⟩ := hc
    constructor
    · intro h
      cases h
      exact .clock _
    · intro h
      cases h
      case clock       => rfl
      case moment hu _ => cases hu
  case neg =>
    by_cases h : v.IsClockText
    case pos =>
      obtain ⟨s, w, rfl, hw⟩ := h
      rw [toTimeOfDay_text hw]
      constructor
      · intro h
        cases h
        exact .text hw
      · intro h
        cases h
        case text ht       => rw [Except.ok.inj (ht.symm.trans hw)]
        case moment u hu h => exact absurd ⟨s, w, rfl, hw⟩ h
    case neg =>
      rw [toTimeOfDay_eq_ofMoment (not_exists.mp hc) h, ofMoment_eq_some_iff]
      constructor
      · rintro ⟨u, hu, rfl⟩
        exact .moment hu h
      · intro ht
        cases ht
        case clock         => exact absurd ⟨t, rfl⟩ hc
        case text s ht     => exact absurd ⟨s, t, rfl, ht⟩ h
        case moment u hu _ => exact ⟨u, hu, rfl⟩

-- Reading back what was written.

theorem strip_written (h : ∀ c ∈ cs, Calendar.IsMark c) : Text.strip (String.ofList cs) = String.ofList cs :=
  Text.strip_ofList fun c hc => Text.isBlank_of_between (h c hc).left (h c hc).right

theorem written_ofList (h : ∀ c ∈ cs, Calendar.IsMark c) : written (String.ofList cs) = Iso.moment cs := by
  have hz : 'Z' ∉ cs := fun hc => absurd (h 'Z' hc) (by decide)
  rw [written, strip_written h, Text.replaceChar_ofList hz, String.toList_ofList]

theorem written_moment (m : Moment) : written m.text = .ok m.reread := by
  rw [Moment.text, written_ofList (Calendar.isMark_moment m), Iso.moment_chars]

theorem written_of_survives (h : ∀ o ∈ m.offset, o.Survives) : written m.text = .ok m := by
  rw [written_moment, Moment.reread_eq h]

theorem written_date (d : Date) : written d.text = .ok (.ofDate d) := by
  rw [Date.text, written_ofList (Calendar.isMark_date d), Iso.moment_date]

theorem tells_spelled {t : TimeOfDay} (h : t.Spelled cs) : (text (String.ofList cs)).Tells ⟨t, none⟩ := by
  refine .text ?_
  rw [strip_written (Calendar.isMark_spelled h), String.toList_ofList, Iso.clockTime_spelled h]

end Value

end FlowGate
