import FlowGate.Proofs.Text.Composed.Joined

-- Composed texts. A text can be cut before it is composed: in front of every character that neither is a mark nor is
-- composed with what stands before it.

namespace FlowGate.Text

open Classical

variable {m n : Nat} {ns xs ys zs marks : List Nat} {o o' : OpenBase} {current : Option OpenBase}

def Attaches (m : Nat) : Prop :=
  combiningClass m ≠ 0 ∨ ∃ a c, composePair? a m = some c

-- A character joins what stands before it if what it stands for begins with something that does.
def Joins (n : Nat) : Prop :=
  ∃ m ∈ (full n).head?, Attaches m

theorem class_of_not_attaches (h : ¬Attaches m) : combiningClass m = 0 :=
  not_not.mp (not_or.mp h).left

theorem OpenBase.Takes.attaches (h : o.Takes n o') : Attaches n := by
  cases h
  case composed hc => exact .inr ⟨_, _, hc⟩
  case beside hk => exact .inl hk

theorem joinMarks_none_cons (h : combiningClass n = 0) : joinMarks none (n :: ns) = joinMarks (some (.start n)) ns := by
  rw [joinMarks]
  exact if_pos h

theorem joinMarks_cut (h : ¬Attaches n) :
    joinMarks current (xs ++ n :: ys) = joinMarks current xs ++ joinMarks (some (.start n)) ys := by
  induction xs generalizing current
  case nil =>
    cases current
    case none => exact joinMarks_none_cons (class_of_not_attaches h)
    case some o =>
      obtain ⟨o', ht, -⟩ | ⟨-, hj⟩ := joinMarks_some_cons o n
      · exact absurd ht.attaches h
      · exact hj ys
  case cons x xs hi =>
    cases current
    case none =>
      rw [List.cons_append, joinMarks, joinMarks]
      split
      case isTrue  => exact hi
      case isFalse => rw [hi, List.cons_append]
    case some o =>
      rw [List.cons_append]
      obtain ⟨o', -, hj⟩ | ⟨-, hj⟩ := joinMarks_some_cons o x
      · rw [hj, hj, hi]
      · rw [hj, hj, hi, List.append_assoc]

theorem orderMarks_cons (h : combiningClass n = 0) : orderMarks [] (n :: ns) = n :: orderMarks [] ns := by
  rw [orderMarks, if_pos h, sorted_eq, List.mergeSort_nil, List.nil_append]

theorem orderMarks_cut (h : combiningClass n = 0) :
    orderMarks marks (xs ++ n :: ys) = orderMarks marks xs ++ n :: orderMarks [] ys := by
  induction xs generalizing marks
  case nil =>
    rw [List.nil_append, orderMarks, orderMarks, if_pos h]
  case cons x xs hi =>
    rw [List.cons_append, orderMarks, orderMarks]
    split
    case isTrue  => rw [hi, List.append_assoc, List.cons_append]
    case isFalse => exact hi

theorem exists_full_of_not_joins (h : ¬Joins n) : ∃ m rest, full n = m :: rest ∧ ¬Attaches m := by
  obtain ⟨m, rest, hf⟩ := List.exists_cons_of_ne_nil (full_ne_nil n)
  exact ⟨m, rest, hf, fun ha => h ⟨m, by rw [hf]; rfl, ha⟩⟩

theorem composeCodes_nil : composeCodes [] = [] := by
  rw [composeCodes_eq, inOrder, decompose, List.flatMap_nil, orderMarks, sorted_eq, List.mergeSort_nil]
  rfl

theorem composeCodes_cut (h : ¬Joins n) (xs ys : List Nat) :
    composeCodes (xs ++ n :: ys) = composeCodes xs ++ composeCodes (n :: ys) := by
  obtain ⟨m, rest, hf, hm⟩ := exists_full_of_not_joins h
  have hz : combiningClass m = 0 := class_of_not_attaches hm
  have hall : inOrder (xs ++ n :: ys) = inOrder xs ++ m :: orderMarks [] (rest ++ decompose ys) := by
    rw [inOrder, decompose_append, decompose_cons, hf, List.cons_append, orderMarks_cut hz]
    rfl
  have hend : inOrder (n :: ys) = m :: orderMarks [] (rest ++ decompose ys) := by
    rw [inOrder, decompose_cons, hf, List.cons_append]
    exact orderMarks_cons hz
  rw [composeCodes_eq, composeCodes_eq, composeCodes_eq, hall, hend, joinMarks_cut hm, joinMarks_none_cons hz]

-- How many characters of a text taken apart start anew. Composing leaves their number as it is.
noncomputable def starts (ns : List Nat) : Nat := (decompose ns).countP fun m => ¬Attaches m

theorem starts_append : starts (xs ++ ys) = starts xs + starts ys := by
  rw [starts, decompose_append, List.countP_append]
  rfl

theorem countP_only : (only 0 ns).countP (fun m => ¬Attaches m) = ns.countP fun m => ¬Attaches m := by
  rw [only, List.countP_filter]
  refine List.countP_congr fun m _ => ?_
  simp only [Bool.and_eq_true, decide_eq_true_iff]
  exact ⟨And.left, fun h => ⟨h, .inl (class_of_not_attaches h)⟩⟩

theorem starts_composeCodes : starts (composeCodes ns) = starts ns := by
  rw [starts, starts, ← countP_only, rearranged_composeCodes ns, countP_only]

theorem starts_pos (h : ¬Joins n) (ns : List Nat) : 0 < starts (n :: ns) := by
  obtain ⟨m, rest, hf, hm⟩ := exists_full_of_not_joins h
  rw [starts, List.countP_pos_iff]
  refine ⟨m, ?_, decide_eq_true hm⟩
  rw [decompose_cons, hf]
  exact .head _

theorem composeCodes_cons_of_not_joins (h : ¬Joins n) (ns : List Nat) :
    ∃ c zs, composeCodes (n :: ns) = c :: zs ∧ ¬Joins c := by
  obtain ⟨m, rest, hf, hm⟩ := exists_full_of_not_joins h
  have hr := (rearranged_composeCodes (n :: ns)).symm
  rw [decompose_cons, hf, List.cons_append] at hr
  obtain ⟨_, hd⟩ := hr.eq_cons (class_of_not_attaches hm)
  cases hc : composeCodes (n :: ns)
  case nil =>
    rw [hc] at hd
    cases hd
  case cons c zs =>
    refine ⟨c, zs, rfl, ?_⟩
    rintro ⟨x, hx, ha⟩
    obtain ⟨y, tail, hy⟩ := List.exists_cons_of_ne_nil (full_ne_nil c)
    rw [hc, decompose_cons, hy, List.cons_append] at hd
    rw [hy, List.head?_cons] at hx
    obtain rfl := Option.some.inj hx
    exact hm ((List.cons.inj hd).left ▸ ha)

-- Both parts of a composed text that is cut are composed.
theorem composed_cut (hn : ¬Joins n) (h : composeCodes (xs ++ n :: ys) = xs ++ n :: ys) :
    composeCodes xs = xs ∧ composeCodes (n :: ys) = n :: ys := by
  rw [composeCodes_cut hn] at h
  obtain ⟨c, zs, hc, hj⟩ := composeCodes_cons_of_not_joins hn ys
  rw [hc] at h
  -- Were the cut at another place, characters that start anew would have gone from one side to the other.
  obtain ⟨front, hx, hy⟩ | ⟨front, hx, hy⟩ := List.append_eq_append_iff.mp h
  case inl =>
    cases front
    case nil =>
      rw [List.append_nil] at hx
      exact ⟨hx.symm, hc.trans hy⟩
    case cons x front =>
      obtain rfl := (List.cons.inj hy).left
      have hpos := starts_pos hj front
      have hs := congrArg starts hx
      rw [starts_append, starts_composeCodes] at hs
      omega
  case inr =>
    cases front
    case nil =>
      rw [List.append_nil] at hx
      exact ⟨hx, hc.trans hy.symm⟩
    case cons x front =>
      obtain rfl := (List.cons.inj hy).left
      have hpos := starts_pos hn front
      have hs := congrArg starts hx
      rw [starts_append, starts_composeCodes] at hs
      omega

-- A text that joins nothing when it is put behind another one.
def Fresh (ns : List Nat) : Prop :=
  ∀ n ∈ ns.head?, ¬Joins n

theorem composed_append_iff (h : Fresh ys) :
    composeCodes (xs ++ ys) = xs ++ ys ↔ composeCodes xs = xs ∧ composeCodes ys = ys := by
  cases ys
  case nil => simp [composeCodes_nil]
  case cons n ys =>
    have hn : ¬Joins n := h n rfl
    refine ⟨composed_cut hn, fun ⟨hx, hy⟩ => ?_⟩
    rw [composeCodes_cut hn, hx, hy]

-- A base that is composed with nothing leaves what follows it as it is.
theorem joinMarks_inert (h : ∀ n, composePair? o.base n = none) :
    joinMarks (some o) ns = o.codes ++ joinMarks none ns := by
  induction ns generalizing o
  case nil => exact (List.append_nil _).symm
  case cons n ns hi =>
    obtain ⟨o', ht, hj⟩ | ⟨hz, hj⟩ := joinMarks_some_cons o n
    case inr => rw [hj, joinMarks_none_cons hz]
    case inl =>
      cases ht
      case composed hc => rw [h n] at hc; cases hc
      case beside hk =>
        have hnone : joinMarks none (n :: ns) = n :: joinMarks none ns := by
          rw [joinMarks]
          exact if_neg hk
        have hrest := hi (o := ⟨o.base, max o.last (combiningClass n), o.marks ++ [n]⟩) h
        rw [hj, hrest, hnone]
        exact (List.append_cons o.codes n _).symm

theorem composeCodes_inert (hf : full n = [m]) (hz : combiningClass m = 0) (hi : ∀ x, composePair? m x = none) :
    composeCodes (n :: ns) = m :: composeCodes ns := by
  have ho : inOrder (n :: ns) = m :: inOrder ns := by
    rw [inOrder, decompose_cons, hf, List.singleton_append, orderMarks_cons hz]
    rfl
  rw [composeCodes_eq, ho, joinMarks_none_cons hz]
  exact joinMarks_inert hi

end FlowGate.Text

-- Composing a text again leaves it as it is, and without a character that has parts or joins another one a text is
-- composed as it stands.

namespace FlowGate.Text

variable {n m : Nat} {ns : List Nat} {s : String}

theorem entries_valid : (entries.all fun e =>
    decide e.1.isValidChar && e.2.all fun m => decide m.isValidChar) = true := by
  decide +kernel

theorem hereditary_valid : Hereditary Nat.isValidChar := by
  refine hereditary_of_entries (fun n hl hh => .inl (by omega)) (fun n hl hh => .inl (by omega)) fun e he => ?_
  have hrow := List.all_eq_true.mp entries_valid e he
  rw [Bool.and_eq_true, decide_eq_true_iff, List.all_eq_true] at hrow
  exact iff_of_true (fun m hm => of_decide_eq_true (hrow.right m hm)) hrow.left

theorem codes_composed (s : String) : codes (composed s) = composeCodes (codes s) :=
  codes_ofList ((hereditary_valid.composeCodes _).mpr (List.forall_mem_map.mpr fun c _ => c.valid))

theorem composed_eq_self_iff : composed s = s ↔ composeCodes (codes s) = codes s := by
  rw [← codes_inj, codes_composed]

theorem composed_idem (s : String) : composed (composed s) = composed s := by
  rw [composed_eq_self_iff, codes_composed, composeCodes_idem]

-- What stands for itself and joins nothing is composed to itself.
theorem inOrder_of_ordered (hp : ∀ n ∈ ns, parts? n = none) (ho : Ordered ns) : inOrder ns = ns := by
  have hr := rearranged_inOrder ns
  rw [decompose_eq hp] at hr
  exact (ordered_inOrder ns).eq_of_rearranged ho hr

theorem composeCodes_singleton (h : parts? n = none) : composeCodes [n] = [n] := by
  rw [composeCodes_eq, inOrder_of_ordered (List.forall_mem_singleton.mpr h) (.singleton n), joinMarks]
  split <;> rfl

theorem composeCodes_beside (hn : parts? n = none) (hm : parts? m = none) (hz : combiningClass n = 0)
    (hk : combiningClass m ≠ 0) (hp : composePair? n m = none) : composeCodes [n, m] = [n, m] := by
  have ho : Ordered [n, m] := .cons_cons (.inr (hz ▸ Nat.zero_le _)) (.singleton m)
  have hps : ∀ x ∈ [n, m], parts? x = none := List.forall_mem_cons.mpr ⟨hn, List.forall_mem_singleton.mpr hm⟩
  rw [composeCodes_eq, inOrder_of_ordered hps ho, joinMarks_none_cons hz]
  simp [joinMarks, OpenBase.start, OpenBase.codes, hp, hk]

theorem composeCodes_plain (h : ∀ n ∈ ns, parts? n = none ∧ ¬Joins n) : composeCodes ns = ns := by
  induction ns
  case nil => exact composeCodes_nil
  case cons n ns hi =>
    obtain ⟨⟨hn, -⟩, hns⟩ := List.forall_mem_cons.mp h
    have hfresh : Fresh ns := fun m hm => (hns m (List.mem_of_mem_head? hm)).right
    exact (composed_append_iff hfresh).mpr ⟨composeCodes_singleton hn, hi hns⟩

-- No joining character is below the marks.
theorem not_joins_of_lt (h : n < 0xC0) : ¬Joins n := by
  rintro ⟨m, hm, ha⟩
  rw [full_of_none (if_pos h)] at hm
  cases hm
  obtain hk | ⟨a, c, hc⟩ := ha
  · exact hk (if_pos (by omega))
  · have := le_of_composes (composes_of_composePair? hc)
    omega

theorem composed_of_lt (h : ∀ n ∈ codes s, n < 0xC0) : composed s = s := by
  rw [composed_eq_self_iff]
  exact composeCodes_plain fun n hn => ⟨if_pos (h n hn), not_joins_of_lt (h n hn)⟩

end FlowGate.Text
