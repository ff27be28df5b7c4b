import FlowGate.Builder.Condition
import FlowGate.Pattern.Reader
import FlowGate.Proofs.Pattern.Language
import FlowGate.Proofs.Text.Mail

-- The patterns of mail addresses. Both have to match from the start of the text, but only one of them up to
-- its end.

namespace FlowGate.Pattern.Node

open Text
open scoped Computability

variable {c : Char} {word text : List Char}

def addressChars : CharSet := ⟨[.category .blank false, .one 64], true, .exact, false⟩

def addressPart : Node := rep .greedy 1 none (set addressChars)

def letter (c : Char) : Node := set ⟨[.one c.toNat], false, .exact, false⟩

def address : Node :=
  seq addressPart (seq (letter '@') (seq addressPart (seq (letter '.') addressPart)))

def wholeAddress : Node :=
  seq addressPart (seq (letter '@') (seq addressPart (seq (letter '.')
    (seq addressPart (anchor .beforeFinalBreak)))))

theorem read_address : read Builder.mailPattern = .ok address.atStart := by
  decide +kernel

theorem read_wholeAddress : read "^[^\\s@]+@[^\\s@]+\\.[^\\s@]+$" = .ok wholeAddress.atStart := by
  decide +kernel

theorem holds_addressChars : addressChars.holds c = (!isBlank c && c != '@') := by
  have hat : ((64 : Nat) == c.toNat) = (c == '@') := by
    rw [Bool.eq_iff_iff, beq_iff_eq, beq_iff_eq, eq_comm]
    exact Char.toNat_inj (d := '@')
  simp [addressChars, CharSet.holds, CharSet.holdsPlainly, Category.holds, hat, bne, Bool.not_or]

theorem holds_letter {x : Char} : CharSet.holds ⟨[.one c.toNat], false, .exact, false⟩ x = (x == c) := by
  have hc : (c.toNat == x.toNat) = (x == c) := by
    rw [Bool.eq_iff_iff, beq_iff_eq, beq_iff_eq, eq_comm]
    exact Char.toNat_inj
  simp [CharSet.holds, CharSet.holdsPlainly, hc]

def partWords : Language Char := letters addressChars.holds ^ 1 * (letters addressChars.holds)∗

def letterWords (c : Char) : Language Char := letters (CharSet.holds ⟨[.one c.toNat], false, .exact, false⟩)

def addressWords : Language Char :=
  partWords * (letterWords '@' * (partWords * (letterWords '.' * partWords)))

theorem address_denotes : address.Denotes addressWords :=
  have part : addressPart.Denotes partWords := .rep .set
  .seq part (.seq .set (.seq part (.seq .set part)))

theorem mem_partWords : word ∈ partWords ↔ IsPart word := by
  rw [partWords, mem_some_letters, IsPart, isAddressPart, List.all_eq_true]
  simp only [holds_addressChars]

theorem mem_letterWords : word ∈ letterWords c ↔ word = [c] := by
  constructor
  · rintro ⟨x, hx, rfl⟩
    rw [holds_letter, beq_iff_eq] at hx
    rw [hx]
  · rintro rfl
    exact ⟨c, by rw [holds_letter, beq_self_eq_true], rfl⟩

theorem mem_addressWords : word ∈ addressWords ↔ IsAddress word := by
  simp only [isAddress_iff_parts, addressWords, Language.mem_mul, mem_partWords, mem_letterWords]
  constructor
  · rintro ⟨name, hn, _, ⟨_, rfl, _, ⟨host, hh, _, ⟨_, rfl, top, ht, rfl⟩, rfl⟩, rfl⟩, rfl⟩
    exact ⟨name, host, top, rfl, hn, hh, ht⟩
  · rintro ⟨name, host, top, rfl, hn, hh, ht⟩
    exact ⟨name, hn, _, ⟨_, rfl, _, ⟨host, hh, _, ⟨_, rfl, top, ht, rfl⟩, rfl⟩, rfl⟩, rfl⟩

theorem found_address : address.atStart.found text = true ↔
    ∃ taken rest, text = taken ++ rest ∧ IsAddress taken := by
  simp only [address_denotes.found_iff, mem_addressWords]

theorem holds_beforeFinalBreak {c : Cursor} :
    Anchor.holds c .beforeFinalBreak = true ↔ c.after = [] ∨ c.after = ['\n'] := by
  simp [Anchor.holds]

theorem found_wholeAddress : wholeAddress.atStart.found text = true ↔ IsAddress (withoutFinalBreak text) := by
  have hm : wholeAddress.matcher (.start text) some =
      address.matcher (.start text) fun c => if Anchor.holds c .beforeFinalBreak then some c else none := rfl
  rw [found_atStart, hm, address_denotes.takes, isAddress_withoutFinalBreak_iff]
  simp only [mem_addressWords, Option.isSome_ite, holds_beforeFinalBreak]
  rfl

end FlowGate.Pattern.Node
