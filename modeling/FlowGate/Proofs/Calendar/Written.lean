import FlowGate.Calendar.Iso
import Mathlib.Algebra.GroupWithZero.Nat
import Mathlib.Data.List.TakeDrop
import Mathlib.Tactic.SplitIfs

-- Dates and times as they are written. What is written is read as what it stands for, except for offsets of less than
-- a second.

namespace FlowGate

open Calendar

namespace Calendar

variable {w n : Nat}

theorem padded_one (h : n < 10) : padded 1 n = [Nat.digitChar n] := by
  simp [padded, Nat.toDigits_of_lt_base h]

theorem padded_succ (w n : Nat) : padded (w + 2) n = padded (w + 1) (n / 10) ++ [Nat.digitChar (n % 10)] := by
  rcases Nat.lt_or_ge n 10 with h | h
  · rw [Nat.div_eq_of_lt h, Nat.mod_eq_of_lt h]
    simp [padded, Nat.toDigits_of_lt_base h, List.replicate_succ']
  · simp [padded, Nat.toDigits_of_base_le (by decide) h]

theorem padded_two (h : n < 100) : padded 2 n = [Nat.digitChar (n / 10), Nat.digitChar (n % 10)] := by
  rw [padded_succ, padded_one (by omega)]
  rfl

theorem length_padded (h : n < 10 ^ (w + 1)) : (padded (w + 1) n).length = w + 1 := by
  induction w generalizing n
  case zero         => rw [padded_one (by omega)]; rfl
  case succ w hi =>
    rw [padded_succ, List.length_append, hi (by omega)]
    rfl

theorem isDigit_of_mem_padded {c : Char} (h : c ∈ padded w n) : c.isDigit = true := by
  rcases List.mem_append.mp h with h | h
  · rw [List.eq_of_mem_replicate h]
    rfl
  · exact Nat.isDigit_of_mem_toDigits (by decide) (by decide) h

end Calendar

namespace Iso

variable {a j k n w : Nat} {cs rest : List Char}

theorem digit?_digitChar (h : n < 10) : digit? (Nat.digitChar n) = some n := by
  revert h
  revert n
  decide

theorem go_append (a j k : Nat) (cs : List Char) :
    digits?.go a (j + k) cs = (digits?.go a j cs).bind fun r => digits?.go r.1 k r.2 := by
  induction j generalizing a cs
  case zero      => simp [digits?.go]
  case succ j hi =>
    rw [Nat.add_right_comm]
    cases cs
    case nil       => rfl
    case cons c cs => cases hc : digit? c <;> simp [digits?.go, hc, hi]

theorem go_padded (h : n < 10 ^ (w + 1)) :
    digits?.go a (w + 1) (padded (w + 1) n ++ rest) = some (10 ^ (w + 1) * a + n, rest) := by
  induction w generalizing n rest
  case zero =>
    rw [padded_one (by omega)]
    simp [digits?.go, digit?_digitChar (n := n) (by omega)]
  case succ w hi =>
    rw [padded_succ, List.append_assoc, go_append, hi (by omega)]
    simp only [Option.bind_some, List.singleton_append, digits?.go, digit?_digitChar (Nat.mod_lt n (by decide)),
      Option.some_inj, Prod.mk.injEq, and_true]
    rw [Nat.pow_succ 10 (w + 1), Nat.mul_right_comm]
    omega

theorem digits?_padded (hw : 0 < w) (h : n < 10 ^ w) : digits? w (padded w n ++ rest) = some (n, rest) := by
  obtain ⟨w, rfl⟩ := Nat.exists_eq_add_of_le' hw
  rw [digits?, go_padded h, Nat.mul_zero, Nat.zero_add]

end Iso

-- The ways to write a time of day with separators. What is left out is zero.
inductive TimeOfDay.Spelled (t : TimeOfDay) : List Char → Prop
  | hours (hm : t.minute = 0) (hs : t.sec = 0) (hf : t.micro = 0) : t.Spelled (padded 2 t.hour)
  | minutes (hs : t.sec = 0) (hf : t.micro = 0) : t.Spelled (padded 2 t.hour ++ ':' :: padded 2 t.minute)
  | seconds (hf : t.micro = 0) :
    t.Spelled (padded 2 t.hour ++ ':' :: (padded 2 t.minute ++ ':' :: padded 2 t.sec))
  | decimals {places n : Nat} (hp : 0 < places) (hp' : places ≤ 6) (hn : n < 10 ^ places)
    (hf : t.micro = n * 10 ^ (6 - places)) :
    t.Spelled (padded 2 t.hour ++ ':' :: (padded 2 t.minute ++ ':' :: (padded 2 t.sec ++ '.' :: padded places n)))

namespace TimeOfDay

variable {t : TimeOfDay} {cs : List Char}

theorem hour_lt (t : TimeOfDay) : t.hour < 24 := by
  have h : t.micros < 86400000000 := t.inDay
  simp only [hour, second]
  omega

theorem minute_lt (t : TimeOfDay) : t.minute < 60 :=
  Nat.mod_lt _ (by decide)

theorem sec_lt (t : TimeOfDay) : t.sec < 60 :=
  Nat.mod_lt _ (by decide)

theorem micro_lt (t : TimeOfDay) : t.micro < second :=
  Nat.mod_lt _ (by decide)

theorem micros_eq (t : TimeOfDay) : ((t.hour * 60 + t.minute) * 60 + t.sec) * second + t.micro = t.micros := by
  simp only [hour, minute, sec, micro, second]
  omega

theorem chars_spelled (t : TimeOfDay) : t.Spelled t.chars := by
  rw [chars]
  simp only [List.append_assoc, List.cons_append]
  split
  case isTrue hf  =>
    rw [List.append_nil]
    exact .seconds hf
  case isFalse    => exact .decimals (by decide) (by decide) t.micro_lt (Nat.mul_one _).symm

-- What stands in a written time of day.
theorem Spelled.chars (h : t.Spelled cs) : ∀ c ∈ cs, c.isDigit = true ∨ c = ':' ∨ c = '.' := by
  have hd (w n : Nat) : ∀ c ∈ padded w n, c.isDigit = true ∨ c = ':' ∨ c = '.' :=
    fun c hc => .inl (isDigit_of_mem_padded hc)
  cases h
  case hours => exact hd _ _
  all_goals simp only [List.forall_mem_append, List.forall_mem_cons]
  case minutes  => exact ⟨hd _ _, .inr (.inl trivial), hd _ _⟩
  case seconds  => exact ⟨hd _ _, .inr (.inl trivial), hd _ _, .inr (.inl trivial), hd _ _⟩
  case decimals =>
    exact ⟨hd _ _, .inr (.inl trivial), hd _ _, .inr (.inl trivial), hd _ _, .inr (.inr trivial), hd _ _⟩

end TimeOfDay

namespace Iso

variable {t : TimeOfDay} {cs rest zone : List Char}

def readingOf (t : TimeOfDay) : Reading := ⟨t.hour, t.minute, t.sec, t.micro⟩

theorem time_readingOf (t : TimeOfDay) : (readingOf t).time = .ok t := by
  have hh := t.hour_lt
  have hm := t.minute_lt
  rw [Reading.time, if_neg (by dsimp only [readingOf]; omega), if_neg (by dsimp only [readingOf]; omega),
    TimeOfDay.ofParts?, if_pos ⟨hh, hm, t.sec_lt, t.micro_lt⟩]
  dsimp only [readingOf]
  rw [t.micros_eq, TimeOfDay.ofMicros?, dif_pos t.inDay]

theorem next?_part (h : rest ≠ []) : next? true (':' :: rest) = some (.part rest) := by
  obtain ⟨c, rest, rfl⟩ := List.exists_cons_of_ne_nil h
  rfl

theorem next?_decimals {separated : Bool} (h : rest ≠ []) : next? separated ('.' :: rest) = some (.decimals rest) := by
  obtain ⟨c, rest, rfl⟩ := List.exists_cons_of_ne_nil h
  cases separated <;> rfl

theorem fraction?_padded {r : Reading} {places n : Nat} (hp : 0 < places) (hp' : places ≤ 6) (hn : n < 10 ^ places) :
    fraction? r (padded places n) = some ({ r with micro := n * 10 ^ (6 - places) }, true) := by
  have hl : (padded places n).length = places := by
    obtain ⟨w, rfl⟩ := Nat.exists_eq_add_of_le' hp
    exact length_padded hn
  have hd : digits? places (padded places n ++ []) = some (n, []) := digits?_padded hp hn
  rw [List.append_nil] at hd
  simp only [fraction?, hl, Nat.min_eq_right hp', hd]
  rfl

theorem next?_nil {separated : Bool} : next? separated [] = some (.finished true) := rfl

theorem padded_ne_nil (w n : Nat) : padded w n ≠ [] :=
  fun h => Nat.toDigits_ne_nil (List.append_eq_nil_iff.mp h).right

theorem reading?_spelled (h : t.Spelled cs) : reading? cs = some (readingOf t, true) := by
  have htwo {n : Nat} (h : n < 60) (rest : List Char) : digits? 2 (padded 2 n ++ rest) = some (n, rest) :=
    digits?_padded (by decide) (by omega)
  have htwo' {n : Nat} (h : n < 60) : digits? 2 (padded 2 n) = some (n, []) := by
    rw [← htwo h [], List.append_nil]
  have hh := Nat.lt_trans t.hour_lt (show 24 < 60 by decide)
  have hm := t.minute_lt
  have hs := t.sec_lt
  have hhead (rest : List Char) : ((':' :: rest).head? == some ':') = true := rfl
  have hpart (n : Nat) := next?_part (padded_ne_nil 2 n)
  have hpart' (n : Nat) (rest : List Char) := next?_part (List.append_ne_nil_of_left_ne_nil (padded_ne_nil 2 n) rest)
  cases h
  case hours hm hs hf =>
    simp only [reading?, htwo' hh, readingOf, hm, hs, hf]
    rfl
  case minutes hs hf =>
    simp only [reading?, htwo hh, htwo' hm, Option.bind_eq_bind, Option.bind_some, hhead, hpart, next?_nil, readingOf,
      hs, hf]
  case seconds hf =>
    simp only [reading?, htwo hh, htwo hm, htwo' hs, Option.bind_eq_bind, Option.bind_some, hhead, hpart, hpart',
      next?_nil, readingOf, hf]
  case decimals hp hp' hn hf =>
    simp only [reading?, htwo hh, htwo hm, htwo hs, Option.bind_eq_bind, Option.bind_some, hhead, hpart',
      next?_decimals (padded_ne_nil _ _), fraction?_padded hp hp' hn, readingOf, hf]

end Iso

namespace Offset

variable {o : Offset}

def zero : Offset := ⟨0, by decide⟩

-- The offset that is read from the text of an offset. One of less than a second is lost.
def kept (o : Offset) : Offset := if o.micros.natAbs < second then zero else o

def Survives (o : Offset) : Prop := o.micros = 0 ∨ second ≤ o.micros.natAbs

theorem Survives.kept_eq (h : o.Survives) : o.kept = o := by
  unfold kept
  split
  case isFalse   => rfl
  case isTrue hs =>
    obtain ⟨micros, _⟩ := o
    obtain rfl : micros = 0 := h.resolve_right (Nat.not_le.mpr hs)
    rfl

-- The time of day that is written in an offset.
def span (o : Offset) : TimeOfDay := ⟨o.micros.natAbs, by have := o.inDay; omega⟩

theorem chars_spelled (o : Offset) : ∃ cs, o.span.Spelled cs ∧ o.chars = (if o.micros < 0 then '-' else '+') :: cs := by
  have hh : o.micros.natAbs / second / 3600 = o.span.hour := by
    rw [TimeOfDay.hour, Nat.div_div_eq_div_mul, Nat.mul_comm]
    rfl
  have hm : o.micros.natAbs / second / 60 % 60 = o.span.minute := by
    rw [TimeOfDay.minute, Nat.div_div_eq_div_mul, Nat.mul_comm]
    rfl
  have hs : o.micros.natAbs / second % 60 = o.span.sec := rfl
  have hf : o.micros.natAbs % second = o.span.micro := rfl
  rw [chars]
  simp only [hh, hm, hs, hf, List.append_assoc, List.cons_append]
  refine ⟨_, ?_, rfl⟩
  by_cases hf : o.span.micro = 0
  case neg =>
    rw [if_neg (fun h => hf h.right), if_neg hf]
    exact .decimals (by decide) (by decide) o.span.micro_lt (Nat.mul_one _).symm
  case pos =>
    rw [if_pos hf, List.append_nil]
    split
    case isTrue hs  =>
      rw [List.append_nil]
      exact .minutes hs.left hf
    case isFalse    => exact .seconds hf

theorem micros_span (o : Offset) : (Iso.readingOf o.span).micros = o.micros.natAbs :=
  o.span.micros_eq

end Offset

namespace Moment

variable {m : Moment}

-- The moment that is read from the text of a moment.
def reread (m : Moment) : Moment := { m with offset := m.offset.map Offset.kept }

theorem reread_eq (h : ∀ o ∈ m.offset, o.Survives) : m.reread = m := by
  obtain ⟨date, time, offset⟩ := m
  cases offset
  case none   => rfl
  case some o => rw [reread, Option.map_some, (h o rfl).kept_eq]

theorem instant_reread {o : Offset} (ho : m.offset = some o) (h : o.micros.natAbs < second) :
    m.reread.instant = m.localMicros := by
  have hkept : m.reread.offset = some .zero := by
    rw [reread, ho, Option.map_some, Offset.kept, if_pos h]
  rw [instant, hkept]
  exact Int.sub_zero _

end Moment

namespace Iso

variable {t : TimeOfDay} {cs : List Char}

theorem checked_micros (o : Offset) : offset.checked o.micros = .ok o := by
  rw [offset.checked, Offset.ofMicros?, dif_pos o.inDay]

theorem offset_signed {c : Char} {r : Reading} (hc : c ≠ 'Z') (hr : reading? cs = some (r, true)) :
    offset (c :: cs) = offset.checked
      (if c = '-' then -(if r.micros / second = 0 then 0 else r.micros : Int)
        else if r.micros / second = 0 then 0 else r.micros) := by
  unfold offset
  split
  case h_1 he => cases he; exact absurd rfl hc
  case h_2 c cs _ he =>
    cases he
    simp only [hr, beq_iff_eq, if_neg hc]
  case h_3 he => cases he

theorem offset_chars (o : Offset) : offset o.chars = .ok o.kept := by
  obtain ⟨cs, hs, hc⟩ := o.chars_spelled
  have hsign : (if o.micros < 0 then '-' else '+') ≠ 'Z' := by split <;> decide
  have hneg : (if o.micros < 0 then '-' else '+') = '-' ↔ o.micros < 0 := by split <;> simp [*]
  have hzero : o.micros.natAbs / second = 0 ↔ o.micros.natAbs < second := Nat.div_eq_zero_iff_lt (by decide)
  rw [hc, offset_signed hsign (reading?_spelled hs), Offset.micros_span, Offset.kept]
  simp only [hneg, hzero]
  split_ifs
  · exact checked_micros .zero
  · rw [show -(o.micros.natAbs : Int) = o.micros by omega, checked_micros]
  · exact checked_micros .zero
  · rw [show (o.micros.natAbs : Int) = o.micros by omega, checked_micros]

theorem not_startsOffset {c : Char} (h : c.isDigit = true ∨ c = ':' ∨ c = '.') : startsOffset c = false := by
  rcases h with hd | rfl | rfl
  · unfold startsOffset
    rw [Bool.or_eq_false_iff, Bool.or_eq_false_iff]
    refine ⟨⟨?_, ?_⟩, ?_⟩ <;> rw [beq_eq_false_iff_ne] <;> rintro rfl <;> cases hd
  · rfl
  · rfl

theorem clockParts_spelled (h : t.Spelled cs) (o : Option Offset) :
    clockParts (cs ++ o.elim [] Offset.chars) = .ok ⟨readingOf t, o.map Offset.kept⟩ := by
  have hbody : ∀ c ∈ cs, (!startsOffset c) = true := fun c hc => by rw [not_startsOffset (h.chars c hc)]; rfl
  cases o
  case none =>
    rw [Option.elim_none, clockParts, List.span_eq_takeWhile_dropWhile, List.takeWhile_append_of_pos hbody,
      List.dropWhile_append_of_pos hbody, List.takeWhile_nil, List.append_nil]
    simp only [reading?_spelled h]
    rfl
  case some o =>
    obtain ⟨zone, _, hc⟩ := o.chars_spelled
    have hstart : startsOffset (if o.micros < 0 then '-' else '+') = true := by split <;> rfl
    have ho := offset_chars o
    rw [hc] at ho
    rw [Option.elim_some, hc, clockParts, List.span_eq_takeWhile_dropWhile, List.takeWhile_append_of_pos hbody,
      List.dropWhile_append_of_pos hbody, List.takeWhile_cons_of_neg (by simp [hstart]),
      List.dropWhile_cons_of_neg (by simp [hstart]), List.append_nil]
    simp only [reading?_spelled h, ho]
    rfl

theorem ofCivil_date (d : Date) : (⟨d.year, d.month, d.day⟩ : DateParts).date = .ok d := by
  have ⟨hy, hy', hm, hm', _⟩ := d.valid
  rw [DateParts.date, if_neg (by dsimp only; omega), if_neg (by dsimp only; omega), Date.ofCivil?, dif_pos d.valid]

theorem day_le (d : Date) : d.day ≤ 31 := by
  have ⟨_, _, _, _, _, hd⟩ := d.valid
  have hmax : ∀ leap, ∀ days ∈ monthLengths leap, days ≤ 31 := by decide
  refine Nat.le_trans hd ?_
  unfold daysInMonth
  split
  case isTrue => decide
  case isFalse =>
    cases hi : (monthLengths (isLeap d.year))[d.month - 1]?
    case none   => decide
    case some n => exact hmax _ n (List.mem_of_getElem? hi)

theorem digitChar_ne_week {n : Nat} (h : n < 10) : Nat.digitChar n ≠ 'W' := by
  revert h
  revert n
  decide

-- A date is written in ten characters, the fifth of which is a hyphen and the sixth a digit.
theorem chars_date (d : Date) : ∃ year c rest, d.chars = year ++ '-' :: c :: rest ∧ year.length = 4 ∧
    (year ++ '-' :: c :: rest).length = 10 ∧ c ≠ 'W' := by
  have ⟨_, hy, _, hm, _, _⟩ := d.valid
  have hd := day_le d
  refine ⟨padded 4 d.year, Nat.digitChar (d.month / 10),
    Nat.digitChar (d.month % 10) :: '-' :: padded 2 d.day, ?_, length_padded (by omega), ?_, ?_⟩
  · rw [Date.chars, padded_two (n := d.month) (by omega)]
    simp
  · simp only [List.length_append, List.length_cons, length_padded (w := 3) (n := d.year) (by omega),
      length_padded (w := 1) (n := d.day) (by omega)]
  · exact digitChar_ne_week (by omega)

theorem dateParts?_chars (d : Date) : dateParts? d.chars = some ⟨d.year, d.month, d.day⟩ := by
  have ⟨_, hy, _, hm, _, _⟩ := d.valid
  have hd := day_le d
  have htwo {n : Nat} (h : n < 100) (rest : List Char) : digits? 2 (padded 2 n ++ rest) = some (n, rest) :=
    digits?_padded (by decide) h
  have hday := htwo (n := d.day) (by omega) []
  rw [List.append_nil] at hday
  have hmonth := htwo (n := d.month) (by omega) ('-' :: padded 2 d.day)
  have hhead (rest : List Char) : (('-' :: rest).head? == some '-') = true := rfl
  have hhyphen (rest : List Char) : hyphen? true ('-' :: rest) = some rest := rfl
  rw [Date.chars, List.append_assoc, List.cons_append]
  simp only [dateParts?, digits?_padded (w := 4) (n := d.year) (by decide) (by omega), Option.bind_eq_bind,
    Option.bind_some, hhead, hhyphen]
  split
  case h_1 rest he =>
    rw [padded_two (by omega)] at he
    exact absurd (List.cons.inj he).left (digitChar_ne_week (by omega))
  case h_2 =>
    simp only [hmonth, hhyphen, hday, Option.bind_some, List.isEmpty_nil, if_true]

theorem dateLength?_chars (d : Date) (rest : List Char) : dateLength? (d.chars ++ rest) = some 10 := by
  obtain ⟨year, c, tail, hc, hy, hl, hw⟩ := chars_date d
  have hcount : (d.chars ++ rest).length ≠ 7 := by
    rw [List.length_append, hc, hl]
    omega
  have hfive : (d.chars ++ rest)[4]? = some '-' := by
    simp [hc, hy]
  have hsix : (d.chars ++ rest)[5]? = some c := by
    simp [hc, List.append_assoc, List.getElem?_append_right, hy]
  simp only [dateLength?, if_neg hcount, hfive, hsix, if_true, Option.some_inj, if_neg hw]

theorem moment_of_chars (d : Date) (rest : List Char) : moment (d.chars ++ rest) =
    match rest with
    | [] => .ok (.ofDate d)
    | _ :: rest => do
      let clock ← clockParts rest
      let time ← clock.reading.time
      return ⟨d, time, clock.offset⟩ := by
  have hl : d.chars.length = 10 := by
    obtain ⟨year, c, tail, hc, _, hl, _⟩ := chars_date d
    rw [hc, hl]
  have hlt : ¬(d.chars ++ rest).length < 7 := by
    rw [List.length_append, hl]
    omega
  simp only [moment, if_neg hlt, dateLength?_chars, List.take_left' hl, List.drop_left' hl, dateParts?_chars,
    ofCivil_date]
  cases rest
  case nil       => rfl
  case cons c cs => rfl

theorem moment_chars (m : Moment) : moment (m.chars 'T') = .ok m.reread := by
  have hm : m.chars 'T' = m.date.chars ++ 'T' :: (m.time.chars ++ m.offset.elim [] Offset.chars) := by
    simp [Moment.chars]
  rw [hm, moment_of_chars]
  simp only [clockParts_spelled m.time.chars_spelled]
  change (readingOf m.time).time >>= _ = _
  rw [time_readingOf]
  rfl

theorem moment_date (d : Date) : moment d.chars = .ok (.ofDate d) := by
  have h := moment_of_chars d []
  rwa [List.append_nil] at h

theorem clockTime_spelled (h : t.Spelled cs) : clockTime cs = .ok ⟨t, none⟩ := by
  have hparts := clockParts_spelled h none
  rw [Option.elim_none, List.append_nil] at hparts
  unfold clockTime
  split
  case h_1 rest => rcases h.chars 'T' (.head _) with hd | hd | hd <;> cases hd
  case h_2 =>
    rw [hparts]
    change (readingOf t).time >>= _ = _
    rw [time_readingOf]
    rfl

end Iso

end FlowGate
