import FlowGate.Proofs.Text.Blank
import FlowGate.Proofs.Text.Composed.Texts

-- White space in composed texts. It is in no pair and joins nothing, and nothing but white space is composed to it. So
-- a composed text stays composed when white space is taken off its ends, and no other text gets any by being composed.

namespace FlowGate.Text

variable {n m c : Nat} {ns xs ys zs : List Nat} {s : String}

def IsBlankCode (n : Nat) : Prop := blanks.containsCode n = true

theorem testBit_blanks : (Ranges.bits blanks).testBit n = blanks.containsCode n :=
  Ranges.testBit_bits_eq (by decide)

theorem entries_blank : (entries.all fun e =>
    (!(Ranges.bits blanks).testBit e.1 && e.2.all fun m => !(Ranges.bits blanks).testBit m) ||
      (Ranges.bits blanks).testBit e.1 && e.2.all (Ranges.bits blanks).testBit && Nat.beq e.2.length 1) = true := by
  decide +kernel

theorem compositions_blank : (compositions.all fun row =>
    !(Ranges.bits blanks).testBit row.2.1 && !(Ranges.bits blanks).testBit row.2.2) = true := by
  decide +kernel

theorem classes_blank : Nat.land (Ranges.bits blanks) (Ranges.bits (classRanges fun _ => true)) = 0 := by
  decide +kernel

theorem isBlankCode_bounds (h : IsBlankCode n) : n < 0x1100 ∨ 0x1200 ≤ n ∧ n ≤ 0x3000 := by
  simp only [IsBlankCode, blanks, Ranges.containsCode] at h
  grind

theorem not_isBlankCode : ¬IsBlankCode n ↔ blanks.containsCode n = false :=
  Bool.not_eq_true _ |>.to_iff

theorem blank_cases {e : Nat × List Nat} (he : e ∈ entries) :
    (¬IsBlankCode e.1 ∧ ∀ m ∈ e.2, ¬IsBlankCode m) ∨ IsBlankCode e.1 ∧ ∃ m, e.2 = [m] ∧ IsBlankCode m := by
  have hrow := List.all_eq_true.mp entries_blank e he
  simp only [testBit_blanks, Bool.or_eq_true, Bool.and_eq_true, Bool.not_eq_true', List.all_eq_true,
    Nat.beq_eq, List.length_eq_one_iff] at hrow
  obtain h | ⟨⟨hb, hm⟩, m, hl⟩ := hrow
  · simp only [not_isBlankCode]
    exact .inl h
  · exact .inr ⟨hb, m, hl, hm m (hl ▸ .head _)⟩

theorem hereditary_not_blank : Hereditary fun n => ¬IsBlankCode n := by
  refine hereditary_of_entries (fun n hl hh hb => ?_) (fun n hl hh hb => ?_) fun e he => ?_
  · have := isBlankCode_bounds hb; omega
  · have := isBlankCode_bounds hb; omega
  · obtain ⟨hn, hm⟩ | ⟨hn, m, hl, hm⟩ := blank_cases he
    · exact iff_of_true hm hn
    · exact iff_of_false (fun h => h m (hl ▸ .head _) hm) (not_not_intro hn)

theorem full_blank (h : IsBlankCode n) : ∃ m, full n = [m] ∧ IsBlankCode m := by
  have hd (d n : Nat) (h : IsBlankCode n) : ∃ m, decomposeCode d n = [m] ∧ IsBlankCode m := by
    induction d generalizing n
    case zero => exact ⟨n, rfl, h⟩
    case succ d hi =>
      cases hp : parts? n
      case none => exact ⟨n, decomposeCode_of_none hp, h⟩
      case some ms =>
        cases hasParts_of_parts? hp
        case row he =>
          obtain ⟨hn, -⟩ | ⟨-, m, rfl, hm⟩ := blank_cases he
          · exact absurd h hn
          · rw [decomposeCode_of_some hp, List.flatMap_singleton]
            exact hi m hm
        case syllable hw =>
          have := Syllable.isSyllable_iff.mp (Syllable.isSyllable_code hw)
          have := isBlankCode_bounds h
          omega
  exact hd 4 n h

theorem class_blank (h : IsBlankCode n) : combiningClass n = 0 := by
  by_contra hk
  have hbit := not_testBit_of_land classes_blank (Ranges.testBit_bits.mpr (has_classRanges hk rfl))
  rw [testBit_blanks.trans h] at hbit
  cases hbit

-- White space is in no pair.
theorem composes_apart {a b : Nat} (h : Composes a b c) : ¬IsBlankCode a ∧ ¬IsBlankCode b := by
  cases h
  case row hrow =>
    have h := List.all_eq_true.mp compositions_blank _ hrow
    simp only [Bool.and_eq_true, Bool.not_eq_true', testBit_blanks] at h
    exact ⟨not_isBlankCode.mpr h.left, not_isBlankCode.mpr h.right⟩
  case «open» l v h =>
    obtain ⟨hl, hv, -⟩ := h
    refine ⟨fun hb => ?_, fun hb => ?_⟩
    all_goals
      have := isBlankCode_bounds hb
      omega
  case closed l v t h ht =>
    obtain ⟨hl, hv, ht⟩ := h
    refine ⟨fun hb => ?_, fun hb => ?_⟩
    · have hb := isBlankCode_bounds hb
      rw [Syllable.code] at hb
      omega
    · have := isBlankCode_bounds hb
      omega

theorem not_joins_blank (h : IsBlankCode n) : ¬Joins n := by
  obtain ⟨m, hf, hm⟩ := full_blank h
  rintro ⟨x, hx, hk | ⟨a, c, hc⟩⟩
  all_goals
    rw [hf] at hx
    cases hx
  · exact hk (class_blank hm)
  · exact (composes_apart (composes_of_composePair? hc)).right hm

theorem composeCodes_blank (h : IsBlankCode n) (ns : List Nat) :
    ∃ m, IsBlankCode m ∧ composeCodes (n :: ns) = m :: composeCodes ns := by
  obtain ⟨m, hf, hm⟩ := full_blank h
  refine ⟨m, hm, composeCodes_inert hf (class_blank hm) fun x => Option.eq_none_iff_forall_ne_some.mpr fun c hc => ?_⟩
  exact (composes_apart (composes_of_composePair? hc)).left hm

-- A composed text stays composed when white space is taken off its ends.
theorem composed_of_blanks_append (hx : ∀ n ∈ xs, IsBlankCode n) (h : composeCodes (xs ++ ys) = xs ++ ys) :
    composeCodes ys = ys := by
  induction xs
  case nil => exact h
  case cons n xs hi =>
    obtain ⟨hn, hx⟩ := List.forall_mem_cons.mp hx
    obtain ⟨m, -, hc⟩ := composeCodes_blank hn (xs ++ ys)
    rw [List.cons_append, hc] at h
    exact hi hx (List.cons.inj h).right

theorem composed_of_append_blanks (hy : ∀ n ∈ ys, IsBlankCode n) (h : composeCodes (xs ++ ys) = xs ++ ys) :
    composeCodes xs = xs := by
  cases ys
  case nil => rwa [List.append_nil] at h
  case cons n ys => exact (composed_cut (not_joins_blank (hy n (.head _))) h).left

-- Composing neither puts white space at the ends of a text nor takes it away.
theorem blank_first (h : composeCodes ns = c :: zs) (hc : IsBlankCode c) : ∃ n ys, ns = n :: ys ∧ IsBlankCode n := by
  obtain ⟨m, hf, hm⟩ := full_blank hc
  have hr := rearranged_composeCodes ns
  rw [h, decompose_cons, hf, List.singleton_append] at hr
  obtain ⟨ws, hd⟩ := hr.eq_cons (class_blank hm)
  cases ns
  case nil => cases hd
  case cons n ys =>
    refine ⟨n, ys, rfl, by_contra fun hn => ?_⟩
    obtain ⟨x, rest, hx⟩ := List.exists_cons_of_ne_nil (full_ne_nil n)
    rw [decompose_cons, hx, List.cons_append] at hd
    obtain rfl := (List.cons.inj hd).left
    exact (hereditary_not_blank.full n).mpr hn x (hx ▸ .head _) hm

theorem blank_last (h : composeCodes ns = zs ++ [c]) (hc : IsBlankCode c) : ∃ ys n, ns = ys ++ [n] ∧ IsBlankCode n := by
  obtain ⟨m, hf, hm⟩ := full_blank hc
  have hr := rearranged_composeCodes ns
  rw [h, decompose_append, decompose_cons, hf] at hr
  obtain ⟨ws, hd⟩ := hr.eq_concat (class_blank hm)
  obtain rfl | ⟨ys, n, rfl⟩ := ns.eq_nil_or_concat'
  case inl => cases ws <;> cases hd
  case inr =>
    refine ⟨ys, n, rfl, by_contra fun hn => ?_⟩
    obtain hx | ⟨rest, x, hx⟩ := (full n).eq_nil_or_concat'
    · exact full_ne_nil n hx
    · have hnil : decompose [] = [] := rfl
      rw [decompose_append, decompose_cons, hx, hnil, List.append_nil, ← List.append_assoc] at hd
      obtain rfl := List.singleton_inj.mp (List.append_inj_right' hd rfl)
      exact (hereditary_not_blank.full n).mpr hn x (hx ▸ by simp) hm

theorem codes_strip (s : String) : ∃ front back, codes s = front ++ codes (strip s) ++ back ∧
    (∀ n ∈ front, IsBlankCode n) ∧ ∀ n ∈ back, IsBlankCode n := by
  obtain ⟨front, back, hs, hf, hb⟩ := (stripped_strip s).parts
  refine ⟨front.map Char.toNat, back.map Char.toNat, ?_, List.forall_mem_map.mpr hf, List.forall_mem_map.mpr hb⟩
  rw [codes, hs, List.map_append, List.map_append]
  rfl

theorem composed_strip (h : composed s = s) : composed (strip s) = strip s := by
  obtain ⟨front, back, hs, hf, hb⟩ := codes_strip s
  rw [composed_eq_self_iff, hs, List.append_assoc] at h
  exact composed_eq_self_iff.mpr (composed_of_append_blanks hb (composed_of_blanks_append hf h))

theorem stripped_codes : strip s = s ↔
    (∀ n, (codes s).head? = some n → ¬IsBlankCode n) ∧ ∀ n, (codes s).getLast? = some n → ¬IsBlankCode n := by
  rw [strip_eq_self_iff]
  simp [codes, not_isBlankCode]
  rfl

theorem strip_composed (h : strip s = s) : strip (composed s) = composed s := by
  rw [stripped_codes] at h
  rw [stripped_codes, codes_composed]
  constructor
  · intro n hn hb
    obtain ⟨zs, hz⟩ := List.head?_eq_some_iff.mp hn
    obtain ⟨m, ys, hm, hb⟩ := blank_first hz hb
    exact h.left m (by rw [hm, List.head?_cons]) hb
  · intro n hn hb
    obtain ⟨zs, hz⟩ := List.getLast?_eq_some_iff.mp hn
    obtain ⟨ys, m, hm, hb⟩ := blank_last hz hb
    exact h.right m (by rw [hm, List.getLast?_concat]) hb

end FlowGate.Text
