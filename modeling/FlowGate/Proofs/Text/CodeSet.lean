import FlowGate.Proofs.Text.Digit
import Mathlib.Data.List.Nodup
import Mathlib.Data.Nat.Bitwise

-- The code points of a text, and sets of code points as the bits of one number. A table is searched once to make the
-- number, and then it takes one step to find out whether a code point is in the table.

namespace FlowGate.Text

variable {n : Nat} {ns : List Nat} {rs : Ranges} {s t : String}

def codes (s : String) : List Nat := s.toList.map Char.toNat

theorem codes_inj : codes s = codes t ↔ s = t := by
  rw [codes, codes, (List.map_injective_iff.mpr fun _ _ h => Char.toNat_inj.mp h).eq_iff, String.toList_inj]

theorem toNat_ofNat (h : n.isValidChar) : (Char.ofNat n).toNat = n := by
  rw [Char.ofNat, dif_pos h]
  rfl

theorem codes_ofList (h : ∀ n ∈ ns, n.isValidChar) : codes (String.ofList (ns.map Char.ofNat)) = ns := by
  have hid : ∀ n ∈ ns, (Char.toNat ∘ Char.ofNat) n = n := fun n hn => toNat_ofNat (h n hn)
  rw [codes, String.toList_ofList, List.map_map, List.map_congr_left hid, List.map_id']

def bits (ns : List Nat) : Nat :=
  ns.foldr (fun n set => Nat.lor (Nat.shiftLeft 1 n) set) 0

theorem testBit_bits : (bits ns).testBit n = decide (n ∈ ns) := by
  induction ns
  case nil => simp [bits]
  case cons m rest hi =>
    have hm : (1 <<< m).testBit n = decide (n = m) := by
      rw [Nat.shiftLeft_eq, Nat.one_mul, Nat.testBit_two_pow, decide_eq_decide]
      exact eq_comm
    have hstep : bits (m :: rest) = 1 <<< m ||| bits rest := rfl
    rw [hstep, Nat.testBit_or, hi, hm]
    simp

theorem testBit_bits_eq_false : (bits ns).testBit n = false ↔ n ∉ ns := by
  rw [testBit_bits, decide_eq_false_iff_not]

-- No code point comes twice.
def distinct : List Nat → Bool
  | []        => true
  | n :: rest => !(bits rest).testBit n && distinct rest

theorem nodup_of_distinct (h : distinct ns = true) : ns.Nodup := by
  induction ns
  case nil => exact List.nodup_nil
  case cons n rest hi =>
    rw [distinct, Bool.and_eq_true, Bool.not_eq_true', testBit_bits_eq_false] at h
    exact List.nodup_cons.mpr ⟨h.left, hi h.right⟩

theorem testBit_of_mem (h : n ∈ ns) : (bits ns).testBit n = true :=
  testBit_bits.trans (decide_eq_true h)

theorem testBit_lor_left {s t : Nat} (h : s.testBit n = true) : (Nat.lor s t).testBit n = true :=
  (Nat.testBit_or ..).trans (by rw [h, Bool.true_or])

theorem testBit_lor_right {s t : Nat} (h : t.testBit n = true) : (Nat.lor s t).testBit n = true :=
  (Nat.testBit_or ..).trans (by rw [h, Bool.or_true])

-- What is in one of two sets that have nothing in common is not in the other one.
theorem not_testBit_of_land {s t : Nat} (h : Nat.land s t = 0) (ht : t.testBit n = true) : s.testBit n = false := by
  have hb : (s &&& t).testBit n = (s.testBit n && t.testBit n) := Nat.testBit_and ..
  have hz : s &&& t = 0 := h
  rwa [hz, Nat.zero_testBit, ht, Bool.and_true, eq_comm] at hb

namespace Ranges

-- Whether a code point lies in one of the ranges.
def Has (rs : Ranges) (n : Nat) : Prop :=
  ∃ r ∈ rs, r.1 ≤ n ∧ n ≤ r.2

def bits (rs : Ranges) : Nat :=
  rs.foldr (fun r set => Nat.lor (Nat.shiftLeft (Nat.sub (Nat.pow 2 (r.2 + 1 - r.1)) 1) r.1) set) 0

theorem testBit_bits : rs.bits.testBit n = true ↔ rs.Has n := by
  induction rs
  case nil => simp [bits, Has]
  case cons r rest hi =>
    have hr : ((2 ^ (r.2 + 1 - r.1) - 1) <<< r.1).testBit n = true ↔ r.1 ≤ n ∧ n ≤ r.2 := by
      rw [Nat.testBit_shiftLeft, Nat.testBit_two_pow_sub_one, Bool.and_eq_true, decide_eq_true_iff,
        decide_eq_true_iff]
      omega
    have hstep : bits (r :: rest) = (2 ^ (r.2 + 1 - r.1) - 1) <<< r.1 ||| bits rest := rfl
    rw [hstep, Nat.testBit_or, Bool.or_eq_true, hi, hr]
    simp [Has]

theorem testBit_bits_eq (h : rs.Pairwise fun r s => r.1 ≤ s.1) : rs.bits.testBit n = rs.containsCode n := by
  rw [containsCode_eq_any h, Bool.eq_iff_iff, testBit_bits, List.any_eq_true]
  simp [Has]

end Ranges

end FlowGate.Text
