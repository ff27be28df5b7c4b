import FlowGate.Builtin.Validator
import FlowGate.Proofs.Text.Digit
import Mathlib.Data.Nat.Bits
import Mathlib.Data.Sym.Sym2

-- What the sum over the digits of a card number detects. A digit that is changed is always detected, and so are two
-- neighbours in each other's place, unless they are a zero and a nine.

namespace FlowGate

namespace Text.Card

variable {double : Bool} {m n : Nat} {xs ys before after : List Nat} {c c' : Char} {cs between ds : List Char}

-- What a digit adds to the sum.
def counted (double : Bool) (n : Nat) : Nat := if double then doubled n else n

theorem checksum_cons : checksum double (n :: xs) = counted double n + checksum (!double) xs :=
  rfl

-- Places that count double alternate with the others, so where a sum goes on depends on how many digits there were.
theorem checksum_append : checksum double (xs ++ ys) =
    checksum double xs + checksum (xs.length.bodd ^^ double) ys := by
  induction xs generalizing double
  case nil            => simp [checksum]
  case cons n rest hi => simp [checksum_cons, hi, Nat.add_assoc]

-- Ten digits count ten different amounts, in places of both kinds.
theorem counted_inj (double : Bool) (hm : m < 10) (hn : n < 10)
    (h : counted double m % 10 = counted double n % 10) : m = n := by
  have inj : ∀ double, ∀ m < 10, ∀ n < 10, counted double m % 10 = counted double n % 10 → m = n := by decide
  exact inj double m hm n hn h

theorem exists_counted (double : Bool) (rest : Nat) : ∃ n < 10, (counted double n + rest) % 10 = 0 := by
  have complements : ∀ double, ∀ r < 10, ∃ n < 10, (counted double n + r) % 10 = 0 := by decide
  obtain ⟨n, hn, h⟩ := complements double (rest % 10) (Nat.mod_lt _ (by decide))
  exact ⟨n, hn, by omega⟩

-- Two neighbours count the same in each other's place if they are a zero and a nine.
theorem counted_swap_iff (double : Bool) (hm : m < 10) (hn : n < 10) :
    (counted double m + counted (!double) n) % 10 = (counted double n + counted (!double) m) % 10 ↔
      m = n ∨ s(m, n) = s(0, 9) := by
  have swap : ∀ double, ∀ m < 10, ∀ n < 10,
      ((counted double m + counted (!double) n) % 10 = (counted double n + counted (!double) m) % 10 ↔
        m = n ∨ (m = 0 ∧ n = 9) ∨ (m = 9 ∧ n = 0)) := by decide
  rw [swap double m hm n hn, Sym2.eq_iff]

theorem hasChecksum_iff : hasChecksum xs = true ↔ checksum false xs.reverse % 10 = 0 := by
  simp [hasChecksum]

-- One digit, and what all the others add to it.
theorem exists_checksum_cons (before after : List Nat) : ∃ double rest, ∀ n,
    checksum false (before ++ n :: after).reverse = counted double n + rest := by
  refine ⟨after.length.bodd,
    checksum false after.reverse + checksum (!after.length.bodd) before.reverse, fun n => ?_⟩
  have hr : (before ++ n :: after).reverse = after.reverse ++ n :: before.reverse := by simp
  rw [hr, checksum_append, checksum_cons, List.length_reverse, Bool.xor_false]
  omega

theorem exists_checksum_pair (before after : List Nat) : ∃ double rest, ∀ m n,
    checksum false (before ++ m :: n :: after).reverse = counted double m + counted (!double) n + rest := by
  refine ⟨!after.length.bodd,
    checksum false after.reverse + checksum after.length.bodd before.reverse, fun m n => ?_⟩
  have hr : (before ++ m :: n :: after).reverse = after.reverse ++ n :: m :: before.reverse := by simp
  rw [hr, checksum_append, checksum_cons, checksum_cons, List.length_reverse, Bool.xor_false, Bool.not_not]
  omega

theorem hasChecksum_replace (hm : m < 10) (hn : n < 10) (h : hasChecksum (before ++ m :: after) = true) :
    hasChecksum (before ++ n :: after) = true ↔ m = n := by
  obtain ⟨double, rest, hsum⟩ := exists_checksum_cons before after
  rw [hasChecksum_iff, hsum] at h ⊢
  constructor
  case mp  => exact fun h' => counted_inj double hm hn (by omega)
  case mpr => rintro rfl; exact h

theorem hasChecksum_swap (hm : m < 10) (hn : n < 10) (h : hasChecksum (before ++ m :: n :: after) = true) :
    hasChecksum (before ++ n :: m :: after) = true ↔ m = n ∨ s(m, n) = s(0, 9) := by
  obtain ⟨double, rest, hsum⟩ := exists_checksum_pair before after
  rw [hasChecksum_iff, hsum] at h ⊢
  rw [← counted_swap_iff double hm hn]
  omega

theorem exists_hasChecksum (before after : List Nat) : ∃ n < 10, hasChecksum (before ++ n :: after) = true := by
  obtain ⟨double, rest, hsum⟩ := exists_checksum_cons before after
  obtain ⟨n, hn, h⟩ := exists_counted double rest
  exact ⟨n, hn, by rw [hasChecksum_iff, hsum, h]⟩

theorem exists_digit (hn : n < 10) : ∃ c, digitValue? c = some n := by
  have hvalue : ∀ n < 10, digitValue? n.digitChar = some n := by decide
  exact ⟨n.digitChar, hvalue n hn⟩

theorem digits_append : digits (cs ++ ds) = digits cs ++ digits ds :=
  List.filterMap_append

theorem digits_cons (h : digitValue? c = some n) : digits (c :: cs) = n :: digits cs :=
  List.filterMap_cons_some h

theorem digits_filter : digits (cs.filter isDigit) = digits cs := by
  rw [digits, List.filterMap_filter, digits]
  congr 1
  funext c
  rw [isDigit_eq]
  cases digitValue? c <;> rfl

theorem digits_of_others (h : ∀ x ∈ cs, isDigit x = false) : digits cs = [] := by
  rw [← digits_filter, List.filter_eq_nil_iff.mpr (by simpa using h)]
  rfl

theorem digits_around (hm : digitValue? c = some m) :
    digits (cs ++ c :: ds) = digits cs ++ m :: digits ds := by
  rw [digits_append, digits_cons hm]

theorem digits_neighbours (hb : ∀ x ∈ between, isDigit x = false) (hm : digitValue? c = some m)
    (hn : digitValue? c' = some n) :
    digits (cs ++ c :: (between ++ c' :: ds)) = digits cs ++ m :: n :: digits ds := by
  rw [digits_around hm, digits_around hn, digits_of_others hb, List.nil_append]

theorem length_digits : (digits cs).length = cs.countP isDigit := by
  rw [digits, List.length_filterMap_eq_countP]
  congr 1
  funext c
  exact (isDigit_eq c).symm

end Text.Card

namespace Builtin

open Value Text Text.Card

variable {cs cs' before after : List Char} {c : Char} {n : Nat}

-- What the check of card numbers that filters can name finds in a text.
def checkedCard (cs : List Char) : Option (Except Fault Verdict) :=
  (registry.validator? "isValidCreditCard").map fun check => check (text (String.ofList cs))

def AcceptsCard (cs : List Char) : Prop := checkedCard cs = some (.ok (.outcome true []))

def RejectsCard (cs : List Char) : Prop :=
  checkedCard cs = some (.ok (.outcome false [text "Invalid credit card number"]))

theorem checkedCard_eq : checkedCard cs = some (.ok (
    if hasLength (digits cs) then verdict (hasChecksum (digits cs)) "Invalid credit card number"
    else verdict false "Invalid credit card number length")) := by
  have hname : registry.validator? "isValidCreditCard" = some validCreditCard := rfl
  have htext : (text (String.ofList cs)).asText = .ok (String.ofList cs) := rfl
  rw [checkedCard, hname, Option.map_some, validCreditCard, htext]
  cases hl : hasLength (digits cs) <;> simp [hl, bind, Except.bind, pure, Except.pure]

theorem acceptsCard_iff : AcceptsCard cs ↔ isCard cs = true := by
  rw [AcceptsCard, checkedCard_eq, isCard]
  cases hasLength (digits cs) <;> cases hasChecksum (digits cs) <;> simp [verdict]

theorem AcceptsCard.hasChecksum (h : AcceptsCard cs) : hasChecksum (digits cs) = true :=
  (Bool.and_eq_true_iff.mp (acceptsCard_iff.mp h)).right

theorem AcceptsCard.hasLength (h : AcceptsCard cs) : hasLength (digits cs) = true :=
  (Bool.and_eq_true_iff.mp (acceptsCard_iff.mp h)).left

-- As many digits with another sum are refused for their sum.
theorem AcceptsCard.rejects (h : AcceptsCard cs) (hl : (digits cs').length = (digits cs).length)
    (hc : ¬Card.hasChecksum (digits cs') = true) : RejectsCard cs' := by
  have hl' : Card.hasLength (digits cs') = true := by
    rw [Card.hasLength, hl]
    exact h.hasLength
  simp [RejectsCard, checkedCard_eq, hl', hc, verdict]

theorem acceptsCard_around_iff (hlow : 12 ≤ (before ++ after).countP isDigit)
    (hhigh : (before ++ after).countP isDigit ≤ 18) (hn : digitValue? c = some n) :
    AcceptsCard (before ++ c :: after) ↔ hasChecksum (digits before ++ n :: digits after) = true := by
  have hl : hasLength (digits before ++ n :: digits after) = true := by
    simp only [List.countP_append] at hlow hhigh
    simp only [hasLength, List.length_append, List.length_cons, length_digits, Bool.and_eq_true, decide_eq_true_eq]
    omega
  rw [acceptsCard_iff, isCard, digits_around hn, hl, Bool.true_and]

-- What holds of a text that is accepted, of its digits and of changes to them. Two digits are neighbours if no digit
-- stands between them.
structure Detected (cs : List Char) : Prop where
  sized     : 13 ≤ cs.countP isDigit ∧ cs.countP isDigit ≤ 19
  replaced  : ∀ before c after c' m n, cs = before ++ c :: after →
    digitValue? c = some m → digitValue? c' = some n → m ≠ n → RejectsCard (before ++ c' :: after)
  exchanged : ∀ before c between c' after m n, cs = before ++ c :: (between ++ c' :: after) →
    (∀ x ∈ between, isDigit x = false) → digitValue? c = some m → digitValue? c' = some n →
    m ≠ n → s(m, n) ≠ s(0, 9) → RejectsCard (before ++ c' :: (between ++ c :: after))

theorem AcceptsCard.detected (h : AcceptsCard cs) : Detected cs := by
  refine ⟨by simpa [Card.hasLength, length_digits] using h.hasLength, ?_, ?_⟩
  case refine_1 =>
    rintro before c after c' m n rfl hm hn hne
    have hc := h.hasChecksum
    rw [digits_around hm] at hc
    have hr := hasChecksum_replace (digitValue?_lt hm) (digitValue?_lt hn) hc
    refine h.rejects (by simp [digits_around hm, digits_around hn]) ?_
    rw [digits_around hn]
    exact mt hr.mp hne
  case refine_2 =>
    rintro before c between c' after m n rfl hb hm hn hne hpair
    have hc := h.hasChecksum
    rw [digits_neighbours hb hm hn] at hc
    have hs := hasChecksum_swap (digitValue?_lt hm) (digitValue?_lt hn) hc
    refine h.rejects (by simp [digits_neighbours hb hm hn, digits_neighbours hb hn hm]) ?_
    rw [digits_neighbours hb hn hm]
    exact mt hs.mp (not_or.mpr ⟨hne, hpair⟩)

-- Only the digits count.
theorem checkedCard_congr (h : cs.filter isDigit = cs'.filter isDigit) : checkedCard cs = checkedCard cs' := by
  have hd : digits cs = digits cs' := by rw [← digits_filter, h, digits_filter]
  rw [checkedCard_eq, checkedCard_eq, hd]

theorem existsUnique_digit (hlow : 12 ≤ (before ++ after).countP isDigit)
    (hhigh : (before ++ after).countP isDigit ≤ 18) :
    ∃! n, n < 10 ∧ ∀ c, digitValue? c = some n ↔ isDigit c = true ∧ AcceptsCard (before ++ c :: after) := by
  obtain ⟨n, hn, hc⟩ := exists_hasChecksum (digits before) (digits after)
  have hdigit : ∀ c, digitValue? c = some n ↔ isDigit c = true ∧ AcceptsCard (before ++ c :: after) := by
    intro c
    rw [isDigit_eq, Option.isSome_iff_exists]
    constructor
    case mp  => exact fun h => ⟨⟨n, h⟩, acceptsCard_around_iff hlow hhigh h |>.mpr hc⟩
    case mpr =>
      rintro ⟨⟨k, hk⟩, ha⟩
      have hck := acceptsCard_around_iff hlow hhigh hk |>.mp ha
      rw [hk, (hasChecksum_replace hn (digitValue?_lt hk) hc).mp hck]
  -- Another value would be that of some digit, and this digit has one value only.
  refine ⟨n, ⟨hn, hdigit⟩, fun k ⟨hk, hdigit'⟩ => ?_⟩
  obtain ⟨c, hck⟩ := exists_digit hk
  exact Option.some.inj (hck.symm.trans ((hdigit c).mpr ((hdigit' c).mp hck)))

-- A digit that is changed or in its neighbour's place is detected, whatever stands between the digits, and the rest of
-- a number leaves one value for a digit.
theorem creditCard_detects :
    (∀ cs, AcceptsCard cs → Detected cs) ∧
    (∀ cs cs' : List Char, cs.filter isDigit = cs'.filter isDigit → checkedCard cs = checkedCard cs') ∧
    ∀ before after : List Char, 12 ≤ (before ++ after).countP isDigit → (before ++ after).countP isDigit ≤ 18 →
      ∃! n, n < 10 ∧ ∀ c, digitValue? c = some n ↔ isDigit c = true ∧ AcceptsCard (before ++ c :: after) :=
  ⟨fun _ => AcceptsCard.detected, fun _ _ => checkedCard_congr, fun _ _ => existsUnique_digit⟩

def grouped : List Char := "3782 822463 10005".toList

theorem grouped_detects :
    AcceptsCard grouped ∧
    RejectsCard "3782 822463 10006".toList ∧
    RejectsCard "3788 222463 10005".toList ∧
    checkedCard grouped = checkedCard "3782-822463-10005.".toList ∧
    ∃! n, n < 10 ∧ ∀ c, digitValue? c = some n ↔
      isDigit c = true ∧ AcceptsCard ("3782 82".toList ++ c :: "463 10005".toList) := by
  have ha : AcceptsCard grouped := acceptsCard_iff.mpr (by decide)
  obtain ⟨hdetected, hcongr, hunique⟩ := creditCard_detects
  obtain ⟨_, hreplaced, hexchanged⟩ := hdetected grouped ha
  refine ⟨ha, ?_, ?_, hcongr _ _ (by decide), hunique _ _ (by decide) (by decide)⟩
  · exact hreplaced "3782 822463 1000".toList '5' [] '6' 5 6 rfl (by decide) (by decide) (by decide)
  · exact hexchanged "378".toList '2' [' '] '8' "22463 10005".toList 2 8 rfl (List.forall_mem_singleton.mpr rfl)
      (by decide) (by decide) (by decide) (by decide)

end Builtin

end FlowGate
