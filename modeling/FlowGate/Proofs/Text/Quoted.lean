import FlowGate.Json.Reader
import FlowGate.Text.Quoted
import Mathlib.Tactic.SplitIfs

-- Quoted texts. Reading takes every escape apart again, so a quoted text shows where it ends and which
-- text it stands for.

namespace FlowGate.Text

open Json

variable {c : Char} {n width fuel : Nat} {s t : String} {read cs rest rest' : List Char}

theorem hexDigit?_digitChar (h : n < 16) : hexDigit? (Nat.digitChar n) = some n := by
  revert h
  revert n
  decide

theorem hex_one (h : n < 16) : hex 1 n = [Nat.digitChar n] := by
  simp [hex, Nat.toDigits_of_lt_base h]

theorem hex_succ (width n : Nat) :
    hex (width + 2) n = hex (width + 1) (n / 16) ++ [Nat.digitChar (n % 16)] := by
  rcases Nat.lt_or_ge n 16 with h | h
  · rw [Nat.div_eq_of_lt h, Nat.mod_eq_of_lt h]
    simp [hex, Nat.toDigits_of_lt_base h, List.replicate_succ']
  · simp [hex, Nat.toDigits_of_base_le (by decide) h]

-- A unit has four hexadecimal digits.
theorem hex_four (h : n < 0x10000) :
    hex 4 n = [Nat.digitChar (n / 16 / 16 / 16), Nat.digitChar (n / 16 / 16 % 16),
      Nat.digitChar (n / 16 % 16), Nat.digitChar (n % 16)] := by
  rw [hex_succ, hex_succ, hex_succ, hex_one (by omega)]
  rfl

theorem unit?_hex (h : n < 0x10000) : unit? (hex 4 n ++ rest) = some (n, rest) := by
  rw [hex_four h]
  simp only [List.cons_append, List.nil_append, unit?]
  rw [hexDigit?_digitChar (by omega), hexDigit?_digitChar (by omega), hexDigit?_digitChar (by omega),
    hexDigit?_digitChar (by omega)]
  simp only [Option.bind_eq_bind, Option.bind_some, Option.some.injEq, Prod.mk.injEq, and_true]
  omega

theorem unitEscape_append (n : Nat) (rest : List Char) :
    unitEscape n ++ rest = '\\' :: 'u' :: (hex 4 n ++ rest) := rfl

theorem codePoint?_single (h : n < 0xD800 ∨ 0xDFFF < n ∧ n < 0x10000) :
    codePoint? (hex 4 n ++ rest) = some (Char.ofNat n, rest) := by
  have hn : ¬(0xD800 ≤ n ∧ n < 0xDC00) := by omega
  rw [codePoint?, unit?_hex (by omega)]
  exact if_neg hn

theorem codePoint?_pair {high low : Nat} (hh : 0xD800 ≤ high ∧ high < 0xDC00)
    (hl : 0xDC00 ≤ low ∧ low < 0xE000) :
    codePoint? (hex 4 high ++ (unitEscape low ++ rest)) =
      some (Char.ofNat (0x10000 + (high - 0xD800) * 0x400 + (low - 0xDC00)), rest) := by
  rw [codePoint?, unit?_hex (by omega), unitEscape_append]
  simp only [Option.bind_eq_bind, Option.bind_some, if_pos hh]
  rw [unit?_hex (by omega)]
  simp only [Option.bind_some, if_pos hl]

-- Behind the two characters that begin it, the escape of a code point reads as the character.
theorem codeEscape_append (h : n < 0xD800 ∨ 0xDFFF < n ∧ n < 0x110000) (rest : List Char) :
    ∃ units, codeEscape n ++ rest = '\\' :: 'u' :: units ∧
      codePoint? units = some (Char.ofNat n, rest) := by
  unfold codeEscape
  split
  case isTrue => exact ⟨_, unitEscape_append n rest, codePoint?_single (by omega)⟩
  case isFalse =>
    generalize hm : n - 0x10000 = m
    dsimp only
    have hn : 0x10000 + (0xD800 + m / 0x400 - 0xD800) * 0x400 + (0xDC00 + m % 0x400 - 0xDC00) = n := by
      omega
    refine ⟨_, by rw [List.append_assoc, unitEscape_append], ?_⟩
    rw [codePoint?_pair (by omega) (by omega), hn]

-- The three ways in which a character is written.
theorem escape_cases (c : Char) :
    (∃ d, d ≠ 'u' ∧ simpleEscape? d = some c ∧ escapeInDocument c = ['\\', d]) ∨
    (c ≠ '"' ∧ c ≠ '\\' ∧ escapeInDocument c = [c]) ∨
    escapeInDocument c = codeEscape c.toNat := by
  unfold escapeInDocument
  split_ifs with hq hb hn hr ht hs hf hp
  case pos => exact .inl ⟨'"', by decide, by rw [hq]; rfl, rfl⟩
  case pos => exact .inl ⟨'\\', by decide, by rw [hb]; rfl, rfl⟩
  case pos => exact .inl ⟨'n', by decide, hn ▸ rfl, rfl⟩
  case pos => exact .inl ⟨'r', by decide, hr ▸ rfl, rfl⟩
  case pos => exact .inl ⟨'t', by decide, ht ▸ rfl, rfl⟩
  case pos => exact .inl ⟨'b', by decide, hs ▸ rfl, rfl⟩
  case pos => exact .inl ⟨'f', by decide, hf ▸ rfl, rfl⟩
  case pos => exact .inr <| .inl ⟨hq, hb, rfl⟩
  case neg => exact .inr <| .inr rfl

theorem quotedRest?_plain (hq : c ≠ '"') (hb : c ≠ '\\') :
    quotedRest? (fuel + 1) read (c :: rest) = quotedRest? fuel (c :: read) rest := by
  rw [quotedRest?] <;> simp [hq, hb]

-- Reading goes on behind the escape of a character with this character.
theorem quotedRest?_escape (fuel : Nat) (read : List Char) (c : Char) (rest : List Char) :
    quotedRest? (fuel + 1) read (escapeInDocument c ++ rest) = quotedRest? fuel (c :: read) rest := by
  rcases escape_cases c with ⟨d, hu, hd, he⟩ | ⟨hq, hb, he⟩ | he <;> rw [he]
  · rw [List.cons_append, List.cons_append, List.nil_append, quotedRest?, hd, Option.bind_some]
    simp [hu]
  · exact quotedRest?_plain hq hb
  · have ⟨units, hu, hr⟩ := codeEscape_append (n := c.toNat) c.valid rest
    rw [hu, quotedRest?, hr, Option.bind_some, Char.ofNat_toNat]

theorem quotedRest?_quoted (h : cs.length < fuel) :
    quotedRest? fuel read (cs.flatMap escapeInDocument ++ '"' :: rest) =
      some (String.ofList (read.reverse ++ cs), rest) := by
  obtain ⟨fuel, rfl⟩ := Nat.exists_eq_add_one_of_ne_zero (Nat.ne_zero_of_lt h)
  induction cs generalizing fuel read
  case nil => simp [quotedRest?]
  case cons c cs hi =>
    obtain ⟨fuel, rfl⟩ := Nat.exists_eq_add_one_of_ne_zero
      (Nat.ne_zero_of_lt (Nat.succ_lt_succ_iff.mp h))
    rw [List.flatMap_cons, List.append_assoc, quotedRest?_escape, hi fuel (Nat.succ_lt_succ_iff.mp h)]
    simp

theorem toList_quoted (s : String) (rest : List Char) :
    (quoted s).toList ++ rest = '"' :: (s.toList.flatMap escapeInDocument ++ '"' :: rest) := by
  simp [quoted]

-- A quoted text at the beginning of a text is the only one there.
theorem quoted_append_inj (h : (quoted s).toList ++ rest = (quoted t).toList ++ rest') :
    s = t ∧ rest = rest' := by
  rw [toList_quoted, toList_quoted, List.cons_inj_right] at h
  generalize hfuel : s.toList.length + t.toList.length + 1 = fuel
  have hs : quotedRest? fuel [] (s.toList.flatMap escapeInDocument ++ '"' :: rest) = _ :=
    quotedRest?_quoted (by omega)
  have ht : quotedRest? fuel [] (t.toList.flatMap escapeInDocument ++ '"' :: rest') = _ :=
    quotedRest?_quoted (by omega)
  rw [h, ht] at hs
  simpa [eq_comm] using hs

end FlowGate.Text
