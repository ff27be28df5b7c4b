import FlowGate.Proofs.Text.CodeSet
import FlowGate.Text.Case

-- Small and capital letters. Changing the case of a text once more leaves it as it is.

namespace FlowGate.Text

variable {n m : Nat} {ms ns us : List Nat} {run : CaseRun} {runs : List CaseRun} {c : Char} {s : String}

namespace CaseRun

-- The letters of a run with their partners.
def pairs (run : CaseRun) : List (Nat × Nat) :=
  (List.range ((run.last - run.first) / run.step + 1)).filterMap fun i =>
    (run.maps? (run.first + i * run.step)).map fun m => (run.first + i * run.step, m)

theorem mem_pairs_iff : (n, m) ∈ run.pairs ↔ run.maps? n = some m := by
  simp only [pairs, List.mem_filterMap, List.mem_range, Option.map_eq_some_iff, Prod.mk.injEq]
  constructor
  case mp =>
    rintro ⟨i, -, _, hm, rfl, rfl⟩
    exact hm
  case mpr =>
    intro h
    have hn : run.first ≤ n ∧ n ≤ run.last ∧ (n - run.first) % run.step = 0 := by
      rw [maps?] at h
      split at h
      case isFalse => cases h
      case isTrue hn => simpa [and_assoc] using hn
    obtain ⟨hf, hl, hz⟩ := hn
    have hi : run.first + (n - run.first) / run.step * run.step = n := by
      rw [Nat.div_mul_cancel (Nat.dvd_of_mod_eq_zero hz)]
      omega
    refine ⟨(n - run.first) / run.step, ?_, m, ?_, hi, rfl⟩
    · exact Nat.lt_succ_of_le (Nat.div_le_div_right (by omega))
    · rw [hi, h]

end CaseRun

def partners (runs : List CaseRun) : List (Nat × Nat) := runs.flatMap CaseRun.pairs

theorem shiftCase_cases (runs : List CaseRun) (n : Nat) :
    (shiftCase runs n = n ∧ ∀ m, (n, m) ∉ partners runs) ∨ (n, shiftCase runs n) ∈ partners runs := by
  rw [shiftCase]
  cases hf : runs.findSome? (·.maps? n)
  case none =>
    refine .inl ⟨rfl, fun m hm => ?_⟩
    obtain ⟨run, hr, hp⟩ := List.mem_flatMap.mp hm
    have hnone := List.findSome?_eq_none_iff.mp hf run hr
    rw [CaseRun.mem_pairs_iff.mp hp] at hnone
    cases hnone
  case some m =>
    obtain ⟨run, hr, hm⟩ := List.exists_of_findSome?_eq_some hf
    exact .inr (List.mem_flatMap.mpr ⟨run, hr, CaseRun.mem_pairs_iff.mpr hm⟩)

-- Each capital letter with its small letters. The sigma has two of them.
def lowerings : List (Nat × Nat) := (0x3A3, 0x3C2) :: partners lowerRuns

def capitals : List Nat := lowerings.map (·.1)

theorem lowerings_small : (lowerings.all fun p =>
    !(bits capitals).testBit p.2 && (Nat.blt p.2 0xD800 || Nat.blt 0xDFFF p.2 && Nat.blt p.2 0x110000)) = true := by
  decide +kernel

theorem toLower_low : ((List.range 0x80).all fun n => Nat.beq (Char.ofNat n).toLower.toNat
    (bif (bits capitals).testBit n then shiftCase lowerRuns n else n)) = true := by
  decide +kernel

theorem small_of_lowering (h : (n, m) ∈ lowerings) : m ∉ capitals ∧ m.isValidChar := by
  have hrow := List.all_eq_true.mp lowerings_small _ h
  simp only [Bool.and_eq_true, Bool.or_eq_true, Bool.not_eq_true', testBit_bits_eq_false, Nat.blt_eq] at hrow
  exact hrow

-- The capital letters are the ones that lowering changes.
theorem shiftCase_lower (n : Nat) :
    (n ∉ capitals ∧ shiftCase lowerRuns n = n) ∨ n ∈ capitals ∧ (n, shiftCase lowerRuns n) ∈ lowerings := by
  have hsigma : shiftCase lowerRuns 0x3A3 = 0x3C3 := by decide +kernel
  obtain ⟨hs, hno⟩ | hm := shiftCase_cases lowerRuns n
  · refine .inl ⟨fun hn => ?_, hs⟩
    obtain ⟨⟨_, m⟩, hm, rfl⟩ := List.mem_map.mp hn
    obtain hm | hm := List.mem_cons.mp hm
    · cases hm
      rw [hsigma] at hs
      cases hs
    · exact hno m hm
  · exact .inr ⟨List.mem_map_of_mem (f := (·.1)) (.tail _ hm), .tail _ hm⟩

theorem mem_capitals_iff : n ∈ capitals ↔ shiftCase lowerRuns n ≠ n := by
  obtain ⟨hn, hs⟩ | ⟨hn, hm⟩ := shiftCase_lower n
  · exact iff_of_false hn (not_not_intro hs)
  · exact iff_of_true hn fun hs => (small_of_lowering hm).left (hs.symm ▸ hn)

theorem toNat_lowerOne (c : Char) : (lowerOne c).toNat = shiftCase lowerRuns c.toNat := by
  rw [lowerOne]
  split
  case isTrue hc =>
    have hrow := Nat.eq_of_beq_eq_true (List.all_eq_true.mp toLower_low _ (List.mem_range.mpr hc))
    rw [Char.ofNat_toNat] at hrow
    rw [hrow, testBit_bits]
    obtain ⟨hn, hs⟩ | ⟨hn, -⟩ := shiftCase_lower c.toNat
    · rw [decide_eq_false hn, cond_false, hs]
    · rw [decide_eq_true hn, cond_true]
  case isFalse =>
    obtain ⟨-, hs⟩ | ⟨-, hm⟩ := shiftCase_lower c.toNat
    · rw [hs, Char.ofNat_toNat]
    · exact toNat_ofNat (small_of_lowering hm).right

-- What a letter becomes. The capital I with a dot becomes two characters, and the sigma depends on what is around it.
inductive Lowers : Nat → List Nat → Prop
  | one {n : Nat} (h : n ≠ 0x130) : Lowers n [shiftCase lowerRuns n]
  | final : Lowers 0x3A3 [0x3C2]
  | dotted : Lowers 0x130 [0x69, 0x307]

inductive Lowered : List Nat → List Nat → Prop
  | nil : Lowered [] []
  | cons {n : Nat} {ms ns us : List Nat} (h : Lowers n ms) (hr : Lowered ns us) : Lowered (n :: ns) (ms ++ us)

theorem lowers_lowered (c : Char) (final : Bool) :
    Lowers c.toNat ((lowerAfter.lowered c final).map Char.toNat) := by
  have hsigma : shiftCase lowerRuns 0x3A3 = 0x3C3 := by decide +kernel
  rw [lowerAfter.lowered]
  split
  case isTrue h =>
    subst h
    cases final
    case true  => exact .final
    case false =>
      have h := Lowers.one (n := 0x3A3) (by decide)
      rw [hsigma] at h
      exact h
  case isFalse =>
    split
    case isTrue h =>
      subst h
      exact .dotted
    case isFalse h =>
      rw [List.map_singleton, toNat_lowerOne]
      exact .one fun hn => h (Char.toNat_inj.mp hn)

theorem lowered_lowerAfter (before cs : List Char) :
    Lowered (cs.map Char.toNat) ((lowerAfter before cs).map Char.toNat) := by
  induction cs generalizing before
  case nil => exact .nil
  case cons c cs hi =>
    rw [lowerAfter, List.map_append]
    exact .cons (lowers_lowered c _) (hi _)

theorem lowered_lower (s : String) : Lowered (codes s) (codes (lower s)) := by
  rw [lower, codes, codes, String.toList_ofList]
  exact lowered_lowerAfter [] s.toList

-- A capital letter becomes a small one, in one case with a dot behind it, and everything else stays as it is.
theorem Lowers.cases (h : Lowers n ms) : (n ∉ capitals ∧ ms = [n]) ∨
    n ∈ capitals ∧ ∃ m, (n, m) ∈ lowerings ∧ (ms = [m] ∨ m = 0x69 ∧ ms = [0x69, 0x307]) := by
  cases h
  case one =>
    obtain ⟨hn, hs⟩ | ⟨hn, hm⟩ := shiftCase_lower n
    · exact .inl ⟨hn, by rw [hs]⟩
    · exact .inr ⟨hn, _, hm, .inl rfl⟩
  case final => exact .inr ⟨.head _, _, .head _, .inl rfl⟩
  case dotted =>
    have hdot : shiftCase lowerRuns 0x130 = 0x69 := by decide +kernel
    obtain ⟨-, hs⟩ | ⟨hn, hm⟩ := shiftCase_lower 0x130
    · rw [hdot] at hs; cases hs
    · exact .inr ⟨hn, _, hdot ▸ hm, .inr ⟨rfl, rfl⟩⟩

theorem Lowers.small (h : Lowers n ms) : ∀ m ∈ ms, m ∉ capitals := by
  obtain ⟨hn, rfl⟩ | ⟨-, m, hm, rfl | ⟨rfl, rfl⟩⟩ := h.cases
  · exact List.forall_mem_singleton.mpr hn
  · exact List.forall_mem_singleton.mpr (small_of_lowering hm).left
  · have hdot : 0x307 ∉ capitals := testBit_bits_eq_false.mp (by decide +kernel)
    exact List.forall_mem_cons.mpr ⟨(small_of_lowering hm).left, List.forall_mem_singleton.mpr hdot⟩

theorem Lowered.small (h : Lowered ns us) : ∀ m ∈ us, m ∉ capitals := by
  induction h
  case nil => exact List.forall_mem_nil _
  case cons h hr hi => exact List.forall_mem_append.mpr ⟨h.small, hi⟩

theorem Lowered.eq_of_small (h : Lowered ns us) (hn : ∀ n ∈ ns, n ∉ capitals) : us = ns := by
  induction h
  case nil => rfl
  case cons n ms ns us h hr hi =>
    obtain ⟨hn, hns⟩ := List.forall_mem_cons.mp hn
    obtain ⟨-, rfl⟩ | ⟨hc, -⟩ := h.cases
    · rw [hi hns, List.singleton_append]
    · exact absurd hc hn

theorem lower_eq_self_iff : lower s = s ↔ ∀ n ∈ codes s, n ∉ capitals := by
  have h := lowered_lower s
  exact ⟨fun hs => hs ▸ h.small, fun hn => codes_inj.mp (h.eq_of_small hn)⟩

theorem lower_idem (s : String) : lower (lower s) = lower s :=
  lower_eq_self_iff.mpr (lowered_lower s).small

-- Each small letter with its capital letters.
def raisings : List (Nat × List Nat) := upperExpansions ++ (partners upperRuns).map fun p => (p.1, [p.2])

def smalls : List Nat := raisings.map (·.1)

theorem raisings_capital : (raisings.all fun p => p.2.all fun m =>
    !(bits smalls).testBit m && (Nat.blt m 0xD800 || Nat.blt 0xDFFF m && Nat.blt m 0x110000)) = true := by
  decide +kernel

theorem toUpper_low : ((List.range 0x80).all fun n => !(bits smalls).testBit (Char.ofNat n).toUpper.toNat &&
    ((bits smalls).testBit n || Nat.beq (Char.ofNat n).toUpper.toNat n)) = true := by
  decide +kernel

theorem capital_of_raising (h : (n, ms) ∈ raisings) (hm : m ∈ ms) : m ∉ smalls ∧ m.isValidChar := by
  have hrow := List.all_eq_true.mp (List.all_eq_true.mp raisings_capital _ h) m hm
  simp only [Bool.and_eq_true, Bool.or_eq_true, Bool.not_eq_true', testBit_bits_eq_false, Nat.blt_eq] at hrow
  exact hrow

theorem toUpper_cases (h : c.toNat < 0x80) :
    c.toUpper.toNat ∉ smalls ∧ (c.toNat ∈ smalls ∨ c.toUpper = c) := by
  have hrow := List.all_eq_true.mp toUpper_low _ (List.mem_range.mpr h)
  rw [Char.ofNat_toNat, Bool.and_eq_true, Bool.or_eq_true, Bool.not_eq_true', testBit_bits_eq_false, testBit_bits,
    decide_eq_true_iff, Nat.beq_eq, Char.toNat_inj] at hrow
  exact hrow

theorem not_small (hl : upperExpansions.lookup n = none) (hno : ∀ m, (n, m) ∉ partners upperRuns) : n ∉ smalls := by
  intro hn
  obtain ⟨⟨_, ms⟩, hm, rfl⟩ := List.mem_map.mp hn
  obtain hm | hm := List.mem_append.mp hm
  · exact absurd (List.lookup_eq_none_iff.mp hl _ hm) (by simp)
  · obtain ⟨⟨_, m⟩, hp, he⟩ := List.mem_map.mp hm
    cases he
    exact hno m hp

-- A letter becomes capital letters, and everything else stays as it is.
theorem upperOne_cases (c : Char) :
    (∀ d ∈ upperOne c, d.toNat ∉ smalls) ∧ (c.toNat ∈ smalls ∨ upperOne c = [c]) := by
  have hletters {ms : List Nat} (h : (c.toNat, ms) ∈ raisings) : ∀ d ∈ ms.map Char.ofNat, d.toNat ∉ smalls := by
    refine List.forall_mem_map.mpr fun m hm => ?_
    obtain ⟨hs, hv⟩ := capital_of_raising h hm
    rwa [toNat_ofNat hv]
  rw [upperOne]
  split
  case isTrue hc =>
    obtain ⟨hs, hn⟩ := toUpper_cases hc
    exact ⟨List.forall_mem_singleton.mpr hs, hn.imp id fun h => by rw [h]⟩
  case isFalse =>
    split
    case h_1 ms hl =>
      obtain ⟨front, back, hs, -⟩ := List.lookup_eq_some_iff.mp hl
      have hmem : (c.toNat, ms) ∈ raisings := List.mem_append_left _ (hs ▸ List.mem_append_right _ (.head _))
      exact ⟨hletters hmem, .inl (List.mem_map_of_mem (f := (·.1)) hmem)⟩
    case h_2 hl =>
      obtain ⟨hs, hno⟩ | hm := shiftCase_cases upperRuns c.toNat
      · rw [hs, Char.ofNat_toNat]
        exact ⟨List.forall_mem_singleton.mpr (not_small hl hno), .inr rfl⟩
      · have hmem : (c.toNat, [shiftCase upperRuns c.toNat]) ∈ raisings :=
          List.mem_append_right _ (List.mem_map_of_mem (f := fun p : Nat × Nat => (p.1, [p.2])) hm)
        exact ⟨hletters hmem, .inl (List.mem_map_of_mem (f := (·.1)) hmem)⟩

theorem upper_idem (s : String) : upper (upper s) = upper s := by
  have h : ∀ c ∈ (upper s).toList, upperOne c = [c] := by
    intro c hc
    rw [upper, String.toList_ofList] at hc
    obtain ⟨d, -, hc⟩ := List.mem_flatMap.mp hc
    exact (upperOne_cases c).right.resolve_left ((upperOne_cases d).left c hc)
  rw [upper, List.flatMap_congr h, List.flatMap_singleton', String.ofList_toList]

end FlowGate.Text
