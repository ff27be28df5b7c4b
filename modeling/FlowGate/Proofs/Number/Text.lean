import FlowGate.Proofs.Number.Shortest
import Mathlib.Data.List.TakeWhile

-- Texts of numbers. The text of a double denotes a number that rounds to it, so two doubles never
-- have the same text.

namespace FlowGate.Decimal

variable {cs ds whole fraction tail : List Char} {d : Digits} {u v : Nat} {e : Int}

def numeral (cs : List Char) : Nat :=
  Nat.ofDigitChars 10 cs 0

theorem numeral_toDigits (n : Nat) : numeral (Nat.toDigits 10 n) = n :=
  Nat.ofDigitChars_ten_toDigits

theorem numeral_append (cs ds : List Char) :
    numeral (cs ++ ds) = numeral cs * 10 ^ ds.length + numeral ds := by
  rw [numeral, Nat.ofDigitChars_append, Nat.ofDigitChars_eq_ofDigitChars_zero, mul_comm]
  rfl

theorem numeral_zeros (n : Nat) : numeral (List.replicate n '0') = 0 :=
  Nat.ofDigitChars_replicate_zero

theorem numeral_zeros_append (n : Nat) (cs : List Char) :
    numeral (List.replicate n '0' ++ cs) = numeral cs := by
  rw [numeral_append, numeral_zeros, Nat.zero_mul, Nat.zero_add]

theorem numeral_append_zeros (n : Nat) (cs : List Char) :
    numeral (cs ++ List.replicate n '0') = numeral cs * 10 ^ n := by
  rw [numeral_append, numeral_zeros, List.length_replicate, Nat.add_zero]

-- The power of ten at the end of a decimal text.
def power : List Char → Int
  | 'e' :: sign :: cs => if sign = '-' then -numeral cs else numeral cs
  | _                 => 0

theorem power_nil : power [] = 0 := rfl

-- The number that a decimal text denotes.
def denoted (cs : List Char) : ℚ :=
  let mantissa := cs.takeWhile (· != 'e')
  let fraction := (mantissa.dropWhile (· != '.')).drop 1
  numeral (mantissa.filter (· != '.')) *
    10 ^ (power (cs.dropWhile (· != 'e')) - (fraction.length : Int))

def AllDigits (cs : List Char) : Prop :=
  ∀ c ∈ cs, c.isDigit = true

-- The exponent begins with a letter, if there is one.
def IsTail (cs : List Char) : Prop :=
  cs = [] ∨ ∃ rest, cs = 'e' :: rest

theorem ne_of_isDigit {c : Char} (h : c.isDigit = true) : (c != 'e') = true ∧ (c != '.') = true := by
  constructor <;> rw [bne_iff_ne] <;> rintro rfl <;> cases h

theorem takeWhile_mantissa {mantissa : List Char} (h : ∀ c ∈ mantissa, (c != 'e') = true)
    (ht : IsTail tail) :
    (mantissa ++ tail).takeWhile (· != 'e') = mantissa ∧
      (mantissa ++ tail).dropWhile (· != 'e') = tail := by
  rw [List.takeWhile_append_of_pos h, List.dropWhile_append_of_pos h]
  rcases ht with rfl | ⟨rest, rfl⟩ <;> simp

theorem denoted_pointed (hw : AllDigits whole) (hf : AllDigits fraction) (ht : IsTail tail) :
    denoted (whole ++ '.' :: fraction ++ tail) =
      numeral (whole ++ fraction) * 10 ^ (power tail - (fraction.length : Int)) := by
  have hm : ∀ c ∈ whole ++ '.' :: fraction, (c != 'e') = true := by
    intro c hc
    rcases List.mem_append.mp hc with hc | hc
    · exact (ne_of_isDigit (hw c hc)).left
    · rcases List.mem_cons.mp hc with rfl | hc
      · rfl
      · exact (ne_of_isDigit (hf c hc)).left
  have ⟨hl, hr⟩ := takeWhile_mantissa hm ht
  have hpw : ∀ c ∈ whole, (c != '.') = true := fun c hc => (ne_of_isDigit (hw c hc)).right
  have hpf : ∀ c ∈ fraction, (c != '.') = true := fun c hc => (ne_of_isDigit (hf c hc)).right
  unfold denoted
  dsimp only
  rw [hl, hr, List.dropWhile_append_of_pos hpw, List.filter_append, List.filter_eq_self.mpr hpw]
  simp [List.filter_eq_self.mpr hpf]

theorem denoted_fixed (hw : AllDigits whole) (hf : AllDigits fraction) :
    denoted (whole ++ '.' :: fraction) =
      numeral (whole ++ fraction) * 10 ^ (-(fraction.length : Int)) := by
  have h := denoted_pointed hw hf (.inl rfl : IsTail [])
  rwa [List.append_nil, power_nil, zero_sub] at h

theorem denoted_plain (hw : AllDigits whole) (ht : IsTail tail) :
    denoted (whole ++ tail) = numeral whole * 10 ^ power tail := by
  have ⟨hl, hr⟩ := takeWhile_mantissa (fun c hc => (ne_of_isDigit (hw c hc)).left) ht
  have hp : ∀ c ∈ whole, (c != '.') = true := fun c hc => (ne_of_isDigit (hw c hc)).right
  unfold denoted
  dsimp only
  rw [hl, hr, List.filter_eq_self.mpr hp, List.dropWhile_eq_nil_iff.mpr hp]
  simp

theorem toDigits_allDigits (n : Nat) : AllDigits (Nat.toDigits 10 n) :=
  fun _ h => Nat.isDigit_of_mem_toDigits (by decide) (by decide) h

theorem zeros_allDigits (n : Nat) : AllDigits (List.replicate n '0') := by
  intro c h
  rw [List.eq_of_mem_replicate h]
  rfl

theorem AllDigits.append (hc : AllDigits cs) (hd : AllDigits ds) : AllDigits (cs ++ ds) :=
  fun c h => (List.mem_append.mp h).elim (hc c) (hd c)

-- What is dropped at the end of the digits are zeros.
theorem toDigits_eq (h : d.digits ≠ 0) :
    ∃ zeros, Nat.toDigits 10 d.digits = significant d ++ List.replicate zeros '0' := by
  generalize hl : (Nat.toDigits 10 d.digits).reverse = ls
  have hz : ls.takeWhile (· == '0') = List.replicate (ls.takeWhile (· == '0')).length '0' :=
    List.eq_replicate_iff.mpr ⟨rfl, fun c hc => by simpa using List.mem_takeWhile_imp hc⟩
  have hsplit : Nat.toDigits 10 d.digits =
      (ls.dropWhile (· == '0')).reverse ++ List.replicate (ls.takeWhile (· == '0')).length '0' := by
    rw [← List.reverse_reverse (Nat.toDigits 10 d.digits), hl]
    conv => lhs; rw [← List.takeWhile_append_dropWhile (p := (· == '0')) (l := ls)]
    rw [List.reverse_append, hz, List.reverse_replicate, List.length_replicate]
  refine ⟨(ls.takeWhile (· == '0')).length, ?_⟩
  have hne : (ls.dropWhile (· == '0')).reverse ≠ [] := by
    intro hnil
    rw [hnil, List.nil_append] at hsplit
    have hn := numeral_toDigits d.digits
    rw [hsplit, numeral_zeros] at hn
    exact h hn.symm
  unfold significant
  rw [hl]
  split
  case h_1 hnil => exact absurd hnil hne
  case h_2      => exact hsplit

theorem significant_ne_nil : significant d ≠ [] := by
  unfold significant
  split
  case h_1      => exact List.cons_ne_nil _ _
  case h_2 hnil => exact hnil

theorem significant_allDigits (d : Digits) : AllDigits (significant d) := by
  unfold significant
  split
  case h_1 => exact zeros_allDigits 1
  case h_2 =>
    intro c hc
    have hc := (List.dropWhile_sublist _).subset (List.mem_reverse.mp hc)
    exact toDigits_allDigits _ c (List.mem_reverse.mp hc)

theorem value_eq (h : d.digits ≠ 0) :
    d.value = numeral (significant d) * 10 ^ (d.exponent - ((significant d).length - 1 : Int)) := by
  have ⟨zeros, hs⟩ := toDigits_eq h
  have hn : d.digits = numeral (significant d) * 10 ^ zeros := by
    rw [← numeral_append_zeros, ← hs, numeral_toDigits]
  have hc : digitCount d.digits = (significant d).length + zeros := by
    rw [digitCount, hs, List.length_append, List.length_replicate]
  have he : d.exponent - ((significant d).length - 1 : Int) =
      zeros + (d.exponent - (digitCount d.digits - 1)) := by rw [hc]; push_cast; ring
  have hq : (d.digits : ℚ) = numeral (significant d) * 10 ^ zeros := by exact_mod_cast hn
  rw [Digits.value, he, zpow_add₀ (by norm_num), zpow_natCast, hq]
  ring

-- The point stands before the digits, behind them or among them.
theorem denoted_before (hd : AllDigits ds) (n : Nat) :
    denoted (['0', '.'] ++ List.replicate n '0' ++ ds) =
      numeral ds * 10 ^ (-(n + ds.length : Int)) := by
  have h := denoted_fixed (zeros_allDigits 1) ((zeros_allDigits n).append hd)
  rw [numeral_zeros_append, numeral_zeros_append, List.length_append, List.length_replicate,
    Nat.cast_add] at h
  exact h

theorem denoted_behind (hd : AllDigits ds) (n : Nat) :
    denoted (ds ++ List.replicate n '0' ++ '.' :: ['0']) = numeral ds * 10 ^ n := by
  have h := denoted_fixed (hd.append (zeros_allDigits n)) (zeros_allDigits 1)
  rw [numeral_append_zeros, numeral_append_zeros] at h
  refine h.trans ?_
  simp

theorem denoted_among (hd : AllDigits ds) (w : Nat) :
    denoted (ds.take w ++ '.' :: ds.drop w) = numeral ds * 10 ^ (-(ds.length - w : Nat) : Int) := by
  have h := denoted_fixed (fun c h => hd c (List.mem_of_mem_take (i := w) h))
    (fun c h => hd c (List.mem_of_mem_drop (i := w) h))
  rwa [List.take_append_drop, List.length_drop] at h

theorem denoted_positional (hd : AllDigits ds) (hne : ds ≠ []) (e : Int) :
    denoted (positional ds e) = numeral ds * 10 ^ (e - (ds.length - 1 : Int)) := by
  have hlen : 0 < ds.length := List.length_pos_iff.mpr hne
  unfold positional
  split
  case isTrue he =>
    rw [denoted_before hd]
    congr 2
    omega
  case isFalse he =>
    dsimp only
    generalize hw : e.toNat + 1 = w
    split
    case isTrue hf =>
      have hf : ds.length ≤ w := by simpa using hf
      rw [List.take_of_length_le hf, denoted_behind hd, ← zpow_natCast]
      congr 2
      omega
    case isFalse hf =>
      have hf : w < ds.length := by simpa using hf
      rw [Nat.sub_eq_zero_of_le hf.le, List.replicate_zero, List.append_nil, denoted_among hd]
      congr 2
      omega

theorem denoted_scientific (hd : AllDigits ds) (hne : ds ≠ []) (e : Int) :
    denoted (scientific ds e) = numeral ds * 10 ^ (e - (ds.length - 1 : Int)) := by
  obtain ⟨c, rest, rfl⟩ := List.exists_cons_of_ne_nil hne
  have hone : AllDigits [c] := fun d h => hd d (by simp_all)
  have hrest : AllDigits rest := fun d h => hd d (List.mem_cons_of_mem _ h)
  generalize htail : ['e', if e < 0 then '-' else '+'] ++
    List.replicate (2 - (Nat.toDigits 10 e.natAbs).length) '0' ++ Nat.toDigits 10 e.natAbs = tail
  have hpower : power tail = e := by
    subst htail
    split <;>
      simp only [List.cons_append, List.nil_append, power, numeral_zeros_append, numeral_toDigits,
        if_true, Char.reduceEq, if_false] <;>
      omega
  have ht : IsTail tail := htail ▸ .inr ⟨_, rfl⟩
  have hs : scientific (c :: rest) e =
      [c] ++ (if rest.isEmpty then [] else '.' :: rest) ++ tail := by
    rw [← htail]
    simp [scientific]
  rw [hs]
  split
  case isTrue h =>
    obtain rfl := List.isEmpty_iff.mp h
    rw [List.append_nil, denoted_plain hone ht, hpower]
    simp
  case isFalse =>
    rw [denoted_pointed hone hrest ht, hpower]
    simp

-- The text of a magnitude denotes a number that rounds to it.
theorem denoted_magnitudeText (h : u ≠ 0) :
    denoted (magnitudeText u) = (shortest u).value := by
  have hpos := (shortest_roundTo h).value_pos h
  have hd : (shortest u).digits ≠ 0 := by
    intro hz
    simp [Digits.value, hz] at hpos
  rw [value_eq hd, magnitudeText, if_neg h]
  dsimp only
  split
  case isTrue  => exact denoted_positional (significant_allDigits _) significant_ne_nil _
  case isFalse => exact denoted_scientific (significant_allDigits _) significant_ne_nil _

theorem denoted_zero : denoted (magnitudeText 0) = 0 := by
  simp [denoted, magnitudeText, power, numeral, Nat.ofDigitChars]

theorem magnitudeText_inj (hu : Grid.Representable u) (hv : Grid.Representable v)
    (h : magnitudeText u = magnitudeText v) : u = v := by
  have hpos {u : Nat} (hu : u ≠ 0) : 0 < denoted (magnitudeText u) := by
    rw [denoted_magnitudeText hu]
    exact (shortest_roundTo hu).value_pos hu
  by_cases hu0 : u = 0 <;> by_cases hv0 : v = 0
  · rw [hu0, hv0]
  · exact absurd (h ▸ hpos hv0) (by rw [hu0, denoted_zero]; exact lt_irrefl 0)
  · exact absurd (h ▸ hpos hu0) (by rw [hv0, denoted_zero]; exact lt_irrefl 0)
  · have hr := shortest_roundTo hu0
    rw [Digits.RoundTo, ← denoted_magnitudeText hu0, h, denoted_magnitudeText hv0] at hr
    exact Interval.eq_of_has hu hv hr (shortest_roundTo hv0)

-- A text that begins with a digit and that no whole number has.
structure Marked (cs : List Char) : Prop where
  head  : ∃ c rest, cs = c :: rest ∧ c.isDigit = true
  chars : ∀ c ∈ cs, c.isDigit = true ∨ c ∈ ['.', 'e', '+', '-']
  mark  : ∃ c ∈ cs, c ∈ ['.', 'e']

theorem Marked.pointed (hw : AllDigits whole) (hne : whole ≠ []) (hf : AllDigits fraction) :
    Marked (whole ++ '.' :: fraction) := by
  obtain ⟨c, rest, rfl⟩ := List.exists_cons_of_ne_nil hne
  refine ⟨⟨c, _, rfl, hw c List.mem_cons_self⟩, fun c hc => ?_, '.', by simp, by simp⟩
  rcases List.mem_append.mp hc with hc | hc
  · exact .inl (hw c hc)
  · rcases List.mem_cons.mp hc with rfl | hc
    · exact .inr (by simp)
    · exact .inl (hf c hc)

theorem marked_positional (hd : AllDigits ds) (hne : ds ≠ []) (e : Int) :
    Marked (positional ds e) := by
  unfold positional
  split
  case isTrue =>
    exact .pointed (zeros_allDigits 1) (List.cons_ne_nil _ _) ((zeros_allDigits _).append hd)
  case isFalse =>
    have htake : AllDigits (ds.take (e.toNat + 1)) := fun c h => hd c (List.mem_of_mem_take h)
    refine .pointed (htake.append (zeros_allDigits _)) ?_ ?_
    · simp [hne]
    · split
      case isTrue  => exact zeros_allDigits 1
      case isFalse => exact fun c h => hd c (List.mem_of_mem_drop h)

theorem marked_scientific (hd : AllDigits ds) (hne : ds ≠ []) (e : Int) :
    Marked (scientific ds e) := by
  obtain ⟨c, rest, rfl⟩ := List.exists_cons_of_ne_nil hne
  have ⟨hc, hr⟩ := List.forall_mem_cons.mp hd
  refine ⟨⟨c, _, rfl, hc⟩, fun x hx => ?_, 'e', by simp [scientific], by simp⟩
  simp only [scientific, List.mem_append] at hx
  rcases hx with (((hx | hx) | hx) | hx) | hx
  · exact .inl (hd x (List.mem_of_mem_take hx))
  · split at hx
    case isTrue => cases hx
    case isFalse =>
      rcases List.mem_cons.mp hx with rfl | hx
      · exact .inr (by simp)
      · exact .inl (hr x hx)
  · have hsign : (if e < 0 then '-' else '+') ∈ ['.', 'e', '+', '-'] := by split <;> simp
    rcases List.mem_cons.mp hx with rfl | hx
    · exact .inr (by simp)
    · exact .inr (List.mem_singleton.mp hx ▸ hsign)
  · exact .inl (zeros_allDigits _ x hx)
  · exact .inl (toDigits_allDigits _ x hx)

theorem marked_magnitudeText (u : Nat) : Marked (magnitudeText u) := by
  unfold magnitudeText
  split
  case isTrue => exact .pointed (zeros_allDigits 1) (List.cons_ne_nil _ _) (zeros_allDigits 1)
  case isFalse =>
    dsimp only
    split
    case isTrue  => exact marked_positional (significant_allDigits _) significant_ne_nil _
    case isFalse => exact marked_scientific (significant_allDigits _) significant_ne_nil _

end FlowGate.Decimal
