import FlowGate.Number.Numeral
import Mathlib.Data.List.Forall2
import Mathlib.Data.Nat.Digits.Defs

-- Whole numbers written in decimal digits. A digit may be that of any script, and zeros may come first.

namespace FlowGate.Text

variable {c : Char} {cs : List Char} {ds : List Nat} {n : Nat}

-- The search in a table may stop where the code point has been passed.
theorem Ranges.containsCode_eq_any {rs : Ranges} (h : rs.Pairwise fun r s => r.1 ≤ s.1) :
    rs.containsCode n = rs.any fun run => run.1 ≤ n && n ≤ run.2 := by
  induction rs
  case nil => rfl
  case cons run rest hi =>
    obtain ⟨hrun, hrest⟩ := List.pairwise_cons.mp h
    rw [containsCode, hi hrest]
    split
    case isTrue hn =>
      have hlow : ∀ r ∈ run :: rest, ¬r.1 ≤ n :=
        List.forall_mem_cons.mpr ⟨by omega, fun r hr => by have := hrun r hr; omega⟩
      exact (List.any_eq_false.mpr fun r hr => by simp [hlow r hr]).symm
    case isFalse hn => simp [Nat.le_of_not_lt hn]

theorem isDigit_eq (c : Char) : isDigit c = (digitValue? c).isSome := by
  have hs : digitRuns.Pairwise fun r s => r.1 ≤ s.1 := by decide +kernel
  rw [isDigit, Ranges.contains, Ranges.containsCode_eq_any hs, digitValue?, Option.isSome_map, List.isSome_find?]

theorem digitValue?_lt {d : Nat} (h : digitValue? c = some d) : d < 10 := by
  obtain ⟨_, _, rfl⟩ := Option.map_eq_some_iff.mp h
  exact Nat.mod_lt _ (by decide)

-- The characters are digits, and they write this number.
def Writes (cs : List Char) (n : Nat) : Prop :=
  ∃ ds, List.Forall₂ (fun c d => digitValue? c = some d) cs ds ∧ n = Nat.ofDigits 10 ds.reverse

theorem forall₂_digits_iff : List.Forall₂ (fun c d => digitValue? c = some d) cs ds ↔
    cs.all isDigit = true ∧ ds = cs.filterMap digitValue? := by
  induction cs generalizing ds
  case nil => simp
  case cons c rest hi =>
    rw [List.forall₂_cons_left_iff, List.all_cons, isDigit_eq, List.filterMap_cons]
    cases digitValue? c
    case none   => simp
    case some d => simp [hi, and_assoc]

theorem value_eq_ofDigits (ds : List Nat) : Numeral.value ds = Nat.ofDigits 10 ds.reverse := by
  simp [Numeral.value, Nat.ofDigits_eq_foldr, Nat.add_comm]

theorem writes_iff : Writes cs n ↔ cs.all isDigit = true ∧ n = Numeral.value (cs.filterMap digitValue?) := by
  simp only [Writes, forall₂_digits_iff, and_assoc, exists_and_left, exists_eq_left, value_eq_ofDigits]

theorem digitValue?_of_isDigit (h : c.isDigit = true) : digitValue? c = some (c.toNat - '0'.toNat) := by
  simp only [Char.isDigit, Bool.and_eq_true, decide_eq_true_eq, UInt32.le_iff_toNat_le, ge_iff_le] at h
  have hlow : 48 ≤ c.toNat := h.left
  have hhigh : c.toNat ≤ 57 := h.right
  rw [digitValue?, digitRuns, List.find?_cons_of_pos (by simp [hlow, hhigh]), Option.map_some,
    Nat.mod_eq_of_lt (by omega)]
  rfl

theorem writes_toDigits (n : Nat) : Writes (Nat.toDigits 10 n) n := by
  refine ⟨(Nat.toDigits 10 n).map (fun c => c.toNat - '0'.toNat), ?_, ?_⟩
  case refine_1 =>
    exact List.forall₂_map_right_iff.mpr <| List.forall₂_same.mpr fun c hc =>
      digitValue?_of_isDigit (Nat.isDigit_of_mem_toDigits (by decide) (by decide) hc)
  case refine_2 =>
    rw [← value_eq_ofDigits, Numeral.value, List.foldl_map]
    exact Nat.ofDigitChars_ten_toDigits.symm

end FlowGate.Text
