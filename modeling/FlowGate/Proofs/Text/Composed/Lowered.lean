import FlowGate.Proofs.Text.Case
import FlowGate.Proofs.Text.Composed.Blanks
import FlowGate.Proofs.Text.Composed.Pairs

-- Lowering composed texts. A small letter may be composed with a mark that its capital letter is not composed with, so
-- the text stays composed if no capital letter is followed by a character that joins it.

namespace FlowGate.Text

variable {c d m n : Nat} {ms ns us xs rest : List Nat} {s : String}

-- The characters that attach to what stands before them, and those whose first part does.
def attaching : Nat :=
  Nat.lor (Ranges.bits ((0x1161, 0x1175) :: (0x11A8, 0x11C2) :: classRanges fun _ => true))
    (bits (compositions.map (·.2.2)))

def joining : Nat :=
  Nat.lor attaching (bits ((entries.filter fun e => attaching.testBit (e.2.headD 0)).map (·.1)))

theorem joining_closed : (entries.all fun e => !joining.testBit (e.2.headD 0) || joining.testBit e.1) = true := by
  decide +kernel

-- The capital and the small letters. None of them joins anything, and none is white space.
def letters : List Nat := lowerings.flatMap fun p => [p.1, p.2]

theorem letters_joining : Nat.land (Nat.lor (Ranges.bits [(0x1100, 0x1112)]) (bits letters)) joining = 0 := by
  decide +kernel

theorem letters_apart : Nat.land (Ranges.bits ((0x1100, 0x11FF) :: (0xAC00, 0xD7A3) :: blanks)) (bits letters) = 0 := by
  decide +kernel

theorem testBit_attaching (h : Attaches m) : attaching.testBit m = true := by
  unfold attaching
  obtain hk | ⟨a, c, hc⟩ := h
  · obtain ⟨r, hr, hb⟩ := has_classRanges (p := fun _ => true) hk rfl
    exact testBit_lor_left (Ranges.testBit_bits.mpr ⟨r, .tail _ (.tail _ hr), hb⟩)
  · cases composes_of_composePair? hc
    case row hrow => exact testBit_lor_right (testBit_seconds hrow)
    case «open» l v hw =>
      have hb : 0x1161 ≤ 0x1161 + v ∧ 0x1161 + v ≤ 0x1175 := by have := hw.vowel; omega
      exact testBit_lor_left (Ranges.testBit_bits.mpr ⟨_, .head _, hb⟩)
    case closed l v t hw ht =>
      have hb : 0x11A8 ≤ 0x11A7 + t ∧ 0x11A7 + t ≤ 0x11C2 := by have := hw.trail; omega
      exact testBit_lor_left (Ranges.testBit_bits.mpr ⟨_, .tail _ (.head _), hb⟩)

theorem testBit_joining (h : attaching.testBit m = true) : joining.testBit m = true := by
  unfold joining
  exact testBit_lor_left h

theorem joining_of_head (h : decomposeCode d n = m :: rest) (hm : attaching.testBit m = true) :
    joining.testBit n = true := by
  have hself : joining.testBit m = true := testBit_joining hm
  induction d generalizing n rest
  case zero =>
    cases h
    exact hself
  case succ d hi =>
    cases hp : parts? n
    case none =>
      rw [decomposeCode_of_none hp] at h
      cases h
      exact hself
    case some ms =>
      rw [decomposeCode_of_some hp] at h
      cases hasParts_of_parts? hp
      case row he =>
        obtain ⟨x, xs, rfl⟩ := List.exists_cons_of_ne_nil (ne_nil_of_mem he)
        obtain ⟨y, ys, hy⟩ := List.exists_cons_of_ne_nil (decomposeCode_ne_nil d x)
        rw [List.flatMap_cons, hy, List.cons_append] at h
        obtain rfl := (List.cons.inj h).left
        have hclosed := List.all_eq_true.mp joining_closed _ he
        rw [List.headD_cons, hi hy] at hclosed
        exact hclosed
      case syllable l v t hw =>
        rw [flatMap_letters hw, Syllable.letters, List.cons_append] at h
        obtain rfl := (List.cons.inj h).left
        have hb : 0x1100 ≤ 0x1100 + l ∧ 0x1100 + l ≤ 0x1112 := by have := hw.lead; omega
        have hlead : (Ranges.bits [(0x1100, 0x1112)]).testBit (0x1100 + l) = true :=
          Ranges.testBit_bits.mpr ⟨_, .head _, hb⟩
        cases (not_testBit_of_land letters_joining hself).symm.trans (testBit_lor_left hlead)

theorem not_joins_letter (h : n ∈ letters) : ¬Joins n := by
  rintro ⟨m, hm, ha⟩
  obtain ⟨x, xs, hx⟩ := List.exists_cons_of_ne_nil (full_ne_nil n)
  rw [hx] at hm
  cases hm
  have hbit := not_testBit_of_land letters_joining (joining_of_head hx (testBit_attaching ha))
  cases hbit.symm.trans (testBit_lor_right (testBit_of_mem h))

theorem mem_letters_of_lowering (h : (n, m) ∈ lowerings) : n ∈ letters ∧ m ∈ letters :=
  ⟨List.mem_flatMap.mpr ⟨_, h, .head _⟩, List.mem_flatMap.mpr ⟨_, h, .tail _ (.head _)⟩⟩

theorem letter_apart (h : n ∈ letters) :
    ¬IsBlankCode n ∧ Syllable.isSyllable n = false ∧ ¬(0x1100 ≤ n ∧ n < 0x1200) := by
  have hbit := not_testBit_of_land letters_apart (testBit_of_mem h)
  rw [← Bool.not_eq_true, Ranges.testBit_bits] at hbit
  refine ⟨fun hb => hbit ?_, Bool.eq_false_iff.mpr fun hs => hbit ?_, fun hl => hbit ?_⟩
  · obtain ⟨r, hr, hn⟩ := Ranges.testBit_bits.mp (testBit_blanks.trans hb)
    exact ⟨r, .tail _ (.tail _ hr), hn⟩
  · have hn := Syllable.isSyllable_iff.mp hs
    exact ⟨_, .tail _ (.head _), hn.left, by omega⟩
  · exact ⟨_, .head _, hl.left, by omega⟩

-- A small letter is in composed form if its capital letter is.
theorem lowerings_composed : (lowerings.all fun p =>
    !(bits uncomposed).testBit p.2 || (bits uncomposed).testBit p.1) = true := by
  decide +kernel

theorem composeCodes_lowering (h : (n, m) ∈ lowerings) (hn : composeCodes [n] = [n]) : composeCodes [m] = [m] := by
  have hformed : n ∉ uncomposed := by
    refine not_uncomposed_of_formed (formed_of_mem_composeCodes (?_ : n ∈ composeCodes [n]))
    rw [hn]
    exact .head _
  have hrow := List.all_eq_true.mp lowerings_composed _ h
  simp only [testBit_bits, decide_eq_false hformed, Bool.or_false, Bool.not_eq_true', decide_eq_false_iff_not] at hrow
  exact composeCodes_of_not_uncomposed hrow (letter_apart (mem_letters_of_lowering h).right).right.left

theorem composeCodes_dotted : composeCodes [0x69, 0x307] = [0x69, 0x307] :=
  composeCodes_beside rfl (by decide +kernel) rfl (by decide +kernel) (by decide +kernel)

theorem Lowers.composed (h : Lowers n ms) (hn : composeCodes [n] = [n]) : composeCodes ms = ms := by
  obtain ⟨-, rfl⟩ | ⟨-, m, hm, rfl | ⟨rfl, rfl⟩⟩ := h.cases
  · exact hn
  · exact composeCodes_lowering hm hn
  · exact composeCodes_dotted

theorem Lowers.fresh (h : Lowers n ms) (hn : Fresh [n]) (us : List Nat) : Fresh (ms ++ us) := by
  have hfirst : ∃ m rest, ms = m :: rest ∧ ¬Joins m := by
    obtain ⟨-, rfl⟩ | ⟨-, m, hm, rfl | ⟨rfl, rfl⟩⟩ := h.cases
    · exact ⟨n, [], rfl, hn n rfl⟩
    · exact ⟨m, [], rfl, not_joins_letter (mem_letters_of_lowering hm).right⟩
    · exact ⟨_, _, rfl, not_joins_letter (mem_letters_of_lowering hm).right⟩
  obtain ⟨m, rest, rfl, hm⟩ := hfirst
  intro x hx
  cases hx
  exact hm

theorem Lowered.fresh (h : Lowered ns us) (hn : Fresh ns) : Fresh us := by
  cases h
  case nil => exact hn
  case cons n ms ns us h hr => exact h.fresh (fun x hx => hn x hx) us

-- No letter that lowering changes is followed by a character that joins it.
def Unjoined (ns : List Nat) : Prop :=
  ns.IsChain fun n m => shiftCase lowerRuns n ≠ n → ¬Joins m

-- The text in front is what has been lowered already. It ends where a capital letter begins the rest.
theorem Lowered.composed (h : Lowered ns us) (hu : Unjoined ns) (hc : composeCodes (xs ++ ns) = xs ++ ns) :
    composeCodes (xs ++ us) = xs ++ us := by
  induction h generalizing xs
  case nil => exact hc
  case cons n ms ns us h hr hi =>
    obtain ⟨hn, rfl⟩ | ⟨hn, m, hm, -⟩ := h.cases
    case inl =>
      rw [List.append_cons] at hc
      rw [← List.append_assoc]
      exact hi hu.of_cons hc
    case inr =>
      have hfirst : ¬Joins n := not_joins_letter (mem_letters_of_lowering hm).left
      have hfresh : Fresh [n] := fun x hx => by cases hx; exact hfirst
      have hns : Fresh ns := fun k hk => (List.isChain_cons.mp hu).left k hk (mem_capitals_iff.mp hn)
      obtain ⟨hx, hrest⟩ := (composed_append_iff fun x hx => by cases hx; exact hfirst).mp hc
      obtain ⟨hone, hrest⟩ := (composed_append_iff hns).mp (List.singleton_append ▸ hrest)
      have hus : composeCodes ([] ++ us) = [] ++ us := hi hu.of_cons hrest
      have hms : composeCodes (ms ++ us) = ms ++ us :=
        (composed_append_iff (hr.fresh hns)).mpr ⟨h.composed hone, hus⟩
      exact (composed_append_iff (h.fresh hfresh us)).mpr ⟨hx, hms⟩

-- Composing, stripping and lowering.

theorem entries_capital : (entries.all fun e =>
    (!(bits capitals).testBit e.1 && e.2.all fun m => !(bits capitals).testBit m) ||
      (bits capitals).testBit e.1 && e.2.any (bits capitals).testBit) = true := by
  decide +kernel

theorem mem_letters_of_capital (h : n ∈ capitals) : n ∈ letters := by
  obtain ⟨⟨_, m⟩, hm, rfl⟩ := List.mem_map.mp h
  exact (mem_letters_of_lowering hm).left

-- Neither taking a text apart nor composing it makes or takes away capital letters.
theorem hereditary_not_capital : Hereditary fun n => n ∉ capitals := by
  refine hereditary_of_entries (fun n hl hh hn => ?_) (fun n hl hh hn => ?_) fun e he => ?_
  · have hs := (letter_apart (mem_letters_of_capital hn)).right.left
    rw [Syllable.isSyllable_iff.mpr ⟨hl, hh⟩] at hs
    cases hs
  · exact (letter_apart (mem_letters_of_capital hn)).right.right ⟨hl, hh⟩
  · have hrow := List.all_eq_true.mp entries_capital e he
    simp only [Bool.or_eq_true, Bool.and_eq_true, Bool.not_eq_true', List.all_eq_true, List.any_eq_true,
      testBit_bits_eq_false] at hrow
    obtain ⟨hn, hm⟩ | ⟨hn, m, hm, hc⟩ := hrow
    · exact iff_of_true hm hn
    · refine iff_of_false (fun h => ?_) (fun h => ?_)
      · rw [testBit_bits_eq_false.mpr (h m hm)] at hc
        cases hc
      · rw [testBit_bits_eq_false.mpr h] at hn
        cases hn

theorem lower_composed (h : lower s = s) : lower (composed s) = composed s := by
  rw [lower_eq_self_iff] at h ⊢
  rw [codes_composed]
  exact (hereditary_not_capital.composeCodes _).mpr h

theorem composed_lower (hu : Unjoined (codes s)) (h : composed s = s) : composed (lower s) = lower s := by
  have hc : composeCodes ([] ++ codes s) = [] ++ codes s := composed_eq_self_iff.mp h
  have hl := (lowered_lower s).composed hu hc
  rw [List.nil_append] at hl
  exact composed_eq_self_iff.mpr hl

theorem Lowers.not_blank (h : Lowers n ms) (hn : ¬IsBlankCode n) : ∀ m ∈ ms, ¬IsBlankCode m := by
  obtain ⟨-, rfl⟩ | ⟨-, m, hm, rfl | ⟨rfl, rfl⟩⟩ := h.cases
  · exact List.forall_mem_singleton.mpr hn
  · exact List.forall_mem_singleton.mpr (letter_apart (mem_letters_of_lowering hm).right).left
  · simp [IsBlankCode, blanks, Ranges.containsCode]

theorem Lowers.ne_nil (h : Lowers n ms) : ms ≠ [] := by
  cases h <;> exact List.cons_ne_nil _ _

-- Lowering puts no white space at the ends of a text.
theorem Lowered.not_blank_first (h : Lowered ns us) (hn : ∀ n, ns.head? = some n → ¬IsBlankCode n) :
    ∀ m, us.head? = some m → ¬IsBlankCode m := by
  cases h
  case nil => exact hn
  case cons n ms ns us h hr =>
    obtain ⟨x, xs, rfl⟩ := List.exists_cons_of_ne_nil h.ne_nil
    intro m hm
    cases hm
    exact h.not_blank (hn n rfl) x (.head _)

theorem Lowered.not_blank_last (h : Lowered ns us) (hn : ∀ n, ns.getLast? = some n → ¬IsBlankCode n) :
    ∀ m, us.getLast? = some m → ¬IsBlankCode m := by
  induction h
  case nil => exact hn
  case cons n ms ns us h hr hi =>
    cases hr
    case nil =>
      intro m hm
      rw [List.append_nil] at hm
      exact h.not_blank (hn n rfl) m (List.mem_of_getLast? hm)
    case cons k ks ns us h' hr' =>
      intro m hm
      rw [List.getLast?_append_of_ne_nil _ (List.append_ne_nil_of_left_ne_nil h'.ne_nil us)] at hm
      exact hi (fun x hx => hn x (by rw [List.getLast?_cons_cons, hx])) m hm

theorem strip_lower (h : strip s = s) : strip (lower s) = lower s := by
  have hs := stripped_codes.mp h
  exact stripped_codes.mpr ⟨(lowered_lower s).not_blank_first hs.left, (lowered_lower s).not_blank_last hs.right⟩

end FlowGate.Text
