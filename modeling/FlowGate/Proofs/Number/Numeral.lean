import FlowGate.Number.Numeral
import Mathlib.Data.List.Basic

-- The texts that are read as doubles.

namespace FlowGate.Numeral

-- Digits of any script, with single low lines between them.
inductive DigitRun : List Char → Prop
  | last {c : Char} (h : (digit? c).isSome = true) : DigitRun [c]
  | next {c : Char} {cs : List Char} (h : (digit? c).isSome = true) (hr : DigitRun cs) : DigitRun (c :: cs)
  | spaced {c : Char} {cs : List Char} (h : (digit? c).isSome = true) (hr : DigitRun cs) :
    DigitRun (c :: '_' :: cs)

inductive Signed (p : List Char → Prop) : List Char → Prop
  | bare {cs : List Char} (h : p cs) : Signed p cs
  | plus {cs : List Char} (h : p cs) : Signed p ('+' :: cs)
  | minus {cs : List Char} (h : p cs) : Signed p ('-' :: cs)

inductive Mantissa : List Char → Prop
  | whole {ws : List Char} (hw : DigitRun ws) : Mantissa ws
  | pointed {ws : List Char} (hw : DigitRun ws) : Mantissa (ws ++ ['.'])
  | fraction {fs : List Char} (hf : DigitRun fs) : Mantissa ('.' :: fs)
  | both {ws fs : List Char} (hw : DigitRun ws) (hf : DigitRun fs) : Mantissa (ws ++ '.' :: fs)

inductive Exponent : List Char → Prop
  | absent : Exponent []
  | marked {c : Char} {cs : List Char} (hc : c = 'e' ∨ c = 'E') (h : Signed DigitRun cs) : Exponent (c :: cs)

def names : List String := ["inf", "infinity", "nan"]

inductive Magnitude : List Char → Prop
  | name {cs : List Char} (h : String.ofList (cs.map Char.toLower) ∈ names) : Magnitude cs
  | number {ms es : List Char} (hm : Mantissa ms) (he : Exponent es) : Magnitude (ms ++ es)

-- What stands between the blanks at both ends is a number with or without a sign.
def IsNumeral (s : String) : Prop :=
  Signed Magnitude (Text.stripChars s.toList)

variable {c : Char} {cs ws rest es : List Char} {ds : List Nat}

theorem digitRun_of_digit (h : (digit? c).isSome = true) (cs : List Char) :
    ∃ d, digitRun (c :: cs) = (d :: (digitRun.following cs).1, (digitRun.following cs).2) := by
  obtain ⟨d, hd⟩ := Option.isSome_iff_exists.mp h
  exact ⟨d, by simp only [digitRun, hd]⟩

theorem digitRun_of_not_digit (h : digit? c = none) : digitRun (c :: cs) = ([], c :: cs) := by
  simp only [digitRun, h]

theorem low_not_digit : digit? '_' = none := by decide

theorem following_of_digit (h : (digit? c).isSome = true) :
    digitRun.following (c :: cs) = digitRun (c :: cs) := by
  have hc : c ≠ '_' := by
    rintro rfl
    rw [low_not_digit] at h
    cases h
  obtain ⟨d, hd⟩ := Option.isSome_iff_exists.mp h
  simp [digitRun.following, digitRun, hd, hc]

theorem following_spaced (h : (digit? c).isSome = true) :
    digitRun.following ('_' :: c :: cs) = digitRun (c :: cs) := by
  obtain ⟨d, hd⟩ := Option.isSome_iff_exists.mp h
  simp only [digitRun.following, digitRun, hd]

theorem following_of_not_digit (hc : c ≠ '_') (h : digit? c = none) :
    digitRun.following (c :: cs) = ([], c :: cs) := by
  simp [digitRun.following, h, hc]

-- After a digit, the run goes on with a digit or with a low line and a digit.
theorem exists_of_following (h : (digit? c).isSome = true) :
    ∃ ws, DigitRun (c :: ws) ∧ cs = ws ++ (digitRun.following cs).2 := by
  fun_induction digitRun.following cs generalizing c
  case case1 => exact ⟨[], .last h, rfl⟩
  case case2 => exact ⟨[], .last h, rfl⟩
  case case3 c' rest d hd ds after he hi =>
    obtain ⟨ws, hr, hws⟩ := hi (Option.isSome_of_eq_some hd)
    exact ⟨'_' :: c' :: ws, .spaced h hr, by rw [he] at hws; simp [hws]⟩
  case case4 => exact ⟨[], .last h, rfl⟩
  case case5 c' rest _ d hd ds after he hi =>
    obtain ⟨ws, hr, hws⟩ := hi (Option.isSome_of_eq_some hd)
    exact ⟨c' :: ws, .next h hr, by rw [he] at hws; simp [hws]⟩

theorem exists_of_digitRun (cs : List Char) :
    digitRun cs = ([], cs) ∨ (digitRun cs).1 ≠ [] ∧ ∃ ws, DigitRun ws ∧ cs = ws ++ (digitRun cs).2 := by
  cases cs
  case nil => exact .inl rfl
  case cons c cs =>
    cases h : digit? c
    case none => exact .inl (digitRun_of_not_digit h)
    case some =>
      have h : (digit? c).isSome = true := Option.isSome_of_eq_some h
      obtain ⟨d, hd⟩ := digitRun_of_digit h cs
      obtain ⟨ws, hr, hws⟩ := exists_of_following h
      rw [hd]
      exact .inr ⟨List.cons_ne_nil _ _, c :: ws, hr, congrArg (c :: ·) hws⟩

theorem DigitRun.head (h : DigitRun ws) : ∃ c cs, ws = c :: cs ∧ (digit? c).isSome = true := by
  cases h
  case last h     => exact ⟨_, _, rfl, h⟩
  case next h _   => exact ⟨_, _, rfl, h⟩
  case spaced h _ => exact ⟨_, _, rfl, h⟩

-- Nothing at the start of this goes on with a run of digits.
def Stops (rest : List Char) : Prop :=
  digitRun.following rest = ([], rest)

theorem stops_nil : Stops [] := rfl

theorem stops_point (rest : List Char) : Stops ('.' :: rest) :=
  following_of_not_digit (by decide) (by decide)

theorem DigitRun.read (h : DigitRun ws) (hs : Stops rest) :
    ∃ digits, digits ≠ [] ∧ digitRun (ws ++ rest) = (digits, rest) := by
  have hcons {c : Char} {cs : List Char} (hc : (digit? c).isSome = true)
      (h : (digitRun.following cs).2 = rest) : ∃ digits, digits ≠ [] ∧ digitRun (c :: cs) = (digits, rest) := by
    obtain ⟨d, hd⟩ := digitRun_of_digit hc cs
    exact ⟨_, List.cons_ne_nil _ _, by rw [hd, h]⟩
  induction h
  case last hc => exact hcons hc (congrArg Prod.snd hs)
  case next hc hr hi =>
    obtain ⟨c', cs', rfl, hc'⟩ := hr.head
    obtain ⟨_, _, hd⟩ := hi
    exact hcons hc (congrArg Prod.snd ((following_of_digit hc').trans hd))
  case spaced hc hr hi =>
    obtain ⟨c', cs', rfl, hc'⟩ := hr.head
    obtain ⟨_, _, hd⟩ := hi
    exact hcons hc (congrArg Prod.snd ((following_spaced hc').trans hd))

theorem digitRun_iff : DigitRun cs ↔ (digitRun cs).1 ≠ [] ∧ (digitRun cs).2 = [] where
  mp h  := by
    obtain ⟨digits, hne, hd⟩ := h.read stops_nil
    rw [List.append_nil] at hd
    rw [hd]
    exact ⟨hne, rfl⟩
  mpr h := by
    rcases exists_of_digitRun cs with hn | ⟨_, ws, hr, hws⟩
    · exact absurd (congrArg Prod.fst hn) h.left
    · rw [h.right, List.append_nil] at hws
      exact hws ▸ hr

theorem signed_iff {p : List Char → Prop} (hplus : ∀ cs, ¬p ('+' :: cs)) (hminus : ∀ cs, ¬p ('-' :: cs)) :
    Signed p cs ↔ p (sign cs).2 := by
  unfold sign
  split
  case h_1 rest =>
    constructor
    · intro h
      cases h
      case bare h  => exact absurd h (hminus rest)
      case minus h => exact h
    · exact .minus
  case h_2 rest =>
    constructor
    · intro h
      cases h
      case bare h => exact absurd h (hplus rest)
      case plus h => exact h
    · exact .plus
  case h_3 hm hp =>
    constructor
    · intro h
      cases h
      case bare h => exact h
      case plus   => exact absurd rfl (hp _)
      case minus  => exact absurd rfl (hm _)
    · exact .bare

theorem not_digitRun_cons (h : digit? c = none) : ¬DigitRun (c :: cs) := by
  intro hr
  obtain ⟨_, _, ⟨rfl, rfl⟩, hc⟩ := hr.head
  rw [h] at hc
  cases hc

theorem exponent_iff : Exponent cs ↔ (exponent? cs).isSome = true := by
  cases cs
  case nil => exact iff_of_true .absent rfl
  case cons c rest =>
    have hmarked : Exponent (c :: rest) ↔ (c = 'e' ∨ c = 'E') ∧ DigitRun (sign rest).2 := by
      rw [← signed_iff (fun _ => not_digitRun_cons (by decide)) fun _ => not_digitRun_cons (by decide)]
      constructor
      · intro h
        cases h
        case marked hc h => exact ⟨hc, h⟩
      · rintro ⟨hc, h⟩
        exact .marked hc h
    rw [hmarked, digitRun_iff, exponent?]
    rcases sign rest with ⟨negative, body⟩
    dsimp only
    rcases digitRun body with ⟨digits, after⟩
    by_cases hc : c = 'e' ∨ c = 'E'
    case neg => simp [hc]
    case pos => cases digits <;> cases after <;> simp [hc]

-- The digits before and after a point, and the rest.
def mantissa (cs : List Char) : List Nat × List Nat × List Char :=
  match digitRun cs with
  | (whole, '.' :: rest) => (whole, digitRun rest)
  | (whole, rest)        => (whole, [], rest)

theorem mantissa_pointed {whole : List Nat} (h : digitRun cs = (whole, '.' :: rest)) :
    mantissa cs = (whole, digitRun rest) := by
  simp [mantissa, h]

theorem mantissa_plain {whole : List Nat} (h : digitRun cs = (whole, rest)) (hp : ∀ after, rest ≠ '.' :: after) :
    mantissa cs = (whole, [], rest) := by
  rw [mantissa, h]
  split
  case h_1 he => exact absurd (congrArg Prod.snd he) (hp _)
  case h_2 he =>
    obtain ⟨rfl, rfl⟩ := Prod.mk.inj he
    rfl

theorem exists_mantissa (h : (mantissa cs).1 ≠ [] ∨ (mantissa cs).2.1 ≠ []) :
    ∃ ms, Mantissa ms ∧ cs = ms ++ (mantissa cs).2.2 := by
  rcases hd : digitRun cs with ⟨whole, rest⟩
  have hwhole := exists_of_digitRun cs
  rw [hd] at hwhole
  by_cases hp : ∃ after, rest = '.' :: after
  case pos =>
    obtain ⟨after, rfl⟩ := hp
    rw [mantissa_pointed hd] at h ⊢
    have hfraction := exists_of_digitRun after
    rcases hwhole with ⟨⟨⟩⟩ | ⟨_, ws, hw, rfl⟩ <;> rcases hfraction with hf | ⟨_, fs, hf, hfs⟩
    · simp [hf] at h
    · exact ⟨_, .fraction hf, congrArg ('.' :: ·) hfs⟩
    · exact ⟨_, .pointed hw, by simp [hf]⟩
    · refine ⟨_, .both hw hf, ?_⟩
      rw [List.append_assoc, List.cons_append, ← hfs]
  case neg =>
    rw [mantissa_plain hd (by simpa using hp)] at h ⊢
    rcases hwhole with ⟨⟨⟩⟩ | ⟨_, ws, hw, rfl⟩
    · simp at h
    · exact ⟨ws, .whole hw, rfl⟩

-- No mantissa goes on with this.
def Ends (rest : List Char) : Prop :=
  ∀ c cs, rest = c :: cs → digit? c = none ∧ c ≠ '_' ∧ c ≠ '.'

theorem Ends.stops (h : Ends rest) : Stops rest := by
  cases rest
  case nil       => rfl
  case cons c cs => exact following_of_not_digit (h c cs rfl).right.left (h c cs rfl).left

theorem Ends.digitRun_eq (h : Ends rest) : digitRun rest = ([], rest) := by
  cases rest
  case nil       => rfl
  case cons c cs => exact digitRun_of_not_digit (h c cs rfl).left

theorem Exponent.ends (h : Exponent es) : Ends es := by
  rintro c cs rfl
  cases h
  case marked hc _ => rcases hc with rfl | rfl <;> decide

theorem Mantissa.read {ms : List Char} (hm : Mantissa ms) (h : Ends rest) :
    ((mantissa (ms ++ rest)).1 ≠ [] ∨ (mantissa (ms ++ rest)).2.1 ≠ []) ∧ (mantissa (ms ++ rest)).2.2 = rest := by
  cases hm
  case whole hw =>
    obtain ⟨whole, hne, hd⟩ := hw.read h.stops
    rw [mantissa_plain hd fun _ he => (h _ _ he).right.right rfl]
    exact ⟨.inl hne, rfl⟩
  case pointed ws hw =>
    obtain ⟨whole, hne, hd⟩ := hw.read (stops_point rest)
    rw [List.append_assoc, List.singleton_append, mantissa_pointed hd, h.digitRun_eq]
    exact ⟨.inl hne, rfl⟩
  case fraction fs hf =>
    obtain ⟨fraction, hne, hd⟩ := hf.read h.stops
    rw [List.cons_append, mantissa_pointed (digitRun_of_not_digit (by decide)), hd]
    exact ⟨.inr hne, rfl⟩
  case both ws fs hw hf =>
    obtain ⟨whole, hne, hd⟩ := hw.read (stops_point (fs ++ rest))
    obtain ⟨fraction, _, hd'⟩ := hf.read h.stops
    rw [List.append_assoc, List.cons_append, mantissa_pointed hd, hd']
    exact ⟨.inl hne, rfl⟩

theorem named?_isSome_iff : (named? cs).isSome = true ↔ String.ofList (cs.map Char.toLower) ∈ names := by
  unfold named?
  split <;> simp_all [names]

theorem magnitude_iff : Magnitude cs ↔ (named? cs).isSome = true ∨
    ((mantissa cs).1 ≠ [] ∨ (mantissa cs).2.1 ≠ []) ∧ (exponent? (mantissa cs).2.2).isSome = true := by
  rw [named?_isSome_iff, ← exponent_iff]
  constructor
  · intro h
    cases h
    case name h => exact .inl h
    case number ms es hm he =>
      have ⟨hne, hrest⟩ := hm.read he.ends
      exact .inr ⟨hne, hrest.symm ▸ he⟩
  · rintro (h | ⟨hne, he⟩)
    · exact .name h
    · obtain ⟨ms, hm, hcs⟩ := exists_mantissa hne
      rw [hcs]
      exact .number hm he

-- No number starts with a sign of its own.
theorem not_magnitude_cons (hc : c = '+' ∨ c = '-') : ¬Magnitude (c :: cs) := by
  have hdigit : digit? c = none := by rcases hc with rfl | rfl <;> decide
  have hpoint : ∀ after, c :: cs ≠ '.' :: after := by rcases hc with rfl | rfl <;> simp
  have hname : String.ofList ((c :: cs).map Char.toLower) ∉ names := by
    rcases hc with rfl | rfl <;> simp [names, ← String.toList_inj]
  rw [magnitude_iff, mantissa_plain (digitRun_of_not_digit hdigit) hpoint, named?_isSome_iff]
  rintro (h | ⟨h | h, _⟩)
  · exact hname h
  · exact h rfl
  · exact h rfl

theorem readDouble?_isSome_iff {s : String} : (readDouble? s).isSome = true ↔ IsNumeral s := by
  have hsign : IsNumeral s ↔ Magnitude (sign (Text.stripChars s.toList)).2 :=
    signed_iff (fun _ => not_magnitude_cons (.inl rfl)) fun _ => not_magnitude_cons (.inr rfl)
  rw [hsign, magnitude_iff, readDouble?]
  rcases sign (Text.stripChars s.toList) with ⟨negative, body⟩
  dsimp only
  cases named? body
  case some => simp
  case none =>
    have hparts (whole fraction : List Nat) (rest : List Char) (f : Int → Double) :
        (if whole.isEmpty && fraction.isEmpty then none else (exponent? rest).map f).isSome = true ↔
          (whole ≠ [] ∨ fraction ≠ []) ∧ (exponent? rest).isSome = true := by
      cases whole <;> cases fraction <;> simp
    rw [Option.isSome_none, Bool.false_eq_true, false_or]
    rcases hd : digitRun body with ⟨whole, rest⟩
    by_cases hp : ∃ after, rest = '.' :: after
    case pos =>
      obtain ⟨after, rfl⟩ := hp
      rw [mantissa_pointed hd]
      exact hparts ..
    case neg =>
      rw [mantissa_plain hd (by simpa using hp)]
      dsimp only
      split
      case h_1 => exact absurd ⟨_, rfl⟩ hp
      case h_2 => exact hparts ..

end FlowGate.Numeral
