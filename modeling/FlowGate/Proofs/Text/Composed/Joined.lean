import FlowGate.Proofs.Text.Composed.Entries
import FlowGate.Proofs.Text.Composed.Marks

-- Joining bases and marks again. What is joined stands for the same characters as before, and so composing a text
-- once more changes nothing.

namespace FlowGate.Text

variable {n c : Nat} {ns xs ys : List Nat} {o o' : OpenBase} {current : Option OpenBase}

namespace OpenBase

-- What an open base becomes when a character goes to it: it is composed with the character, or the character stays
-- beside it.
inductive Takes (o : OpenBase) (n : Nat) : OpenBase → Prop
  | composed {c : Nat} (hl : o.last ≠ 0 → o.last < combiningClass n) (h : composePair? o.base n = some c) :
    Takes o n { o with base := c }
  | beside (h : combiningClass n ≠ 0) : Takes o n ⟨o.base, max o.last (combiningClass n), o.marks ++ [n]⟩

-- The marks that stay beside a base stand for themselves, and their classes are no greater than the last one.
structure Keeps (o : OpenBase) : Prop where
  whole : ∀ m ∈ o.marks, parts? m = none
  marks : ∀ m ∈ o.marks, combiningClass m ≠ 0 ∧ combiningClass m ≤ o.last

theorem keeps_start (n : Nat) : (start n).Keeps :=
  ⟨List.forall_mem_nil _, List.forall_mem_nil _⟩

theorem decompose_start (h : parts? n = none) : decompose (start n).codes = [n] :=
  decompose_eq (List.forall_mem_singleton.mpr h)

theorem Takes.keeps (h : o.Takes n o') (ho : o.Keeps) (hn : parts? n = none) : o'.Keeps := by
  cases h
  case composed => exact ⟨ho.whole, ho.marks⟩
  case beside hk =>
    refine ⟨List.forall_mem_append.mpr ⟨ho.whole, List.forall_mem_singleton.mpr hn⟩, ?_⟩
    refine List.forall_mem_append.mpr ⟨fun m hm => ?_, List.forall_mem_singleton.mpr ⟨hk, Nat.le_max_right ..⟩⟩
    exact ⟨(ho.marks m hm).left, Nat.le_trans (ho.marks m hm).right (Nat.le_max_left ..)⟩

theorem Takes.rearranged (h : o.Takes n o') (ho : o.Keeps) (hn : parts? n = none) :
    Rearranged (decompose o'.codes) (decompose o.codes ++ [n]) := by
  cases h
  case beside =>
    have hcodes : codes ⟨o.base, max o.last (combiningClass n), o.marks ++ [n]⟩ = o.codes ++ [n] := rfl
    rw [hcodes, decompose_append, decompose_eq (List.forall_mem_singleton.mpr hn)]
    exact .refl _
  case composed c hl hc =>
    rw [codes, codes, decompose_cons, decompose_cons, decompose_eq ho.whole,
      full_composes (composes_of_composePair? hc) hn, List.append_assoc, List.append_assoc]
    refine (Rearranged.refl _).append ?_
    by_cases hz : o.last = 0
    case pos =>
      have hm : o.marks = [] := by
        refine List.eq_nil_iff_forall_not_mem.mpr fun m hm => ?_
        have := ho.marks m hm
        omega
      rw [hm]
      exact .refl _
    case neg =>
      have hlt := hl hz
      exact .swap (by omega) fun m hm => by have := ho.marks m hm; omega

end OpenBase

-- A character goes to the open base, or it starts anew, whatever follows it.
theorem joinMarks_some_cons (o : OpenBase) (n : Nat) :
    (∃ o', o.Takes n o' ∧ ∀ ns, joinMarks (some o) (n :: ns) = joinMarks (some o') ns) ∨
      combiningClass n = 0 ∧ ∀ ns, joinMarks (some o) (n :: ns) = o.codes ++ joinMarks (some (.start n)) ns := by
  simp only [joinMarks]
  by_cases hstop : o.last ≠ 0 ∧ combiningClass n = 0
  case pos => exact .inr ⟨hstop.right, fun ns => if_pos hstop⟩
  simp only [if_neg hstop]
  by_cases hle : o.last ≠ 0 ∧ combiningClass n ≤ o.last
  case pos =>
    have hmax : max o.last (combiningClass n) = o.last := Nat.max_eq_left hle.right
    have hb : o.Takes n ⟨o.base, max o.last (combiningClass n), o.marks ++ [n]⟩ := .beside (by omega)
    rw [hmax] at hb
    exact .inl ⟨_, hb, fun ns => if_pos hle⟩
  simp only [if_neg hle]
  cases hc : composePair? o.base n
  case some c => exact .inl ⟨_, .composed (by omega) hc, fun ns => rfl⟩
  by_cases hz : combiningClass n = 0
  case pos => exact .inr ⟨hz, fun ns => if_pos hz⟩
  case neg =>
    have hmax : max o.last (combiningClass n) = combiningClass n := Nat.max_eq_right (by omega)
    have hb : o.Takes n ⟨o.base, max o.last (combiningClass n), o.marks ++ [n]⟩ := .beside hz
    rw [hmax] at hb
    exact .inl ⟨_, hb, fun ns => if_neg hz⟩

theorem joinMarks_some (ho : o.Keeps) (hns : ∀ n ∈ ns, parts? n = none) :
    Rearranged (decompose (joinMarks (some o) ns)) (decompose o.codes ++ ns) := by
  induction ns generalizing o
  case nil =>
    rw [List.append_nil]
    exact .refl _
  case cons n ns hi =>
    obtain ⟨hn, hns⟩ := List.forall_mem_cons.mp hns
    obtain ⟨o', ht, hj⟩ | ⟨-, hj⟩ := joinMarks_some_cons o n
    · rw [hj, List.append_cons (decompose o.codes) n ns]
      exact (hi (ht.keeps ho hn) hns).trans ((ht.rearranged ho hn).append (.refl ns))
    · have hrest := hi (OpenBase.keeps_start n) hns
      rw [OpenBase.decompose_start hn] at hrest
      rw [hj, decompose_append]
      exact (Rearranged.refl _).append hrest

theorem joinMarks_none (hns : ∀ n ∈ ns, parts? n = none) : Rearranged (decompose (joinMarks none ns)) ns := by
  induction ns
  case nil => exact .refl _
  case cons n ns hi =>
    obtain ⟨hn, hns⟩ := List.forall_mem_cons.mp hns
    rw [joinMarks]
    split
    case isTrue =>
      have hrest := joinMarks_some (OpenBase.keeps_start n) hns
      rwa [OpenBase.decompose_start hn] at hrest
    case isFalse =>
      rw [decompose_cons, full_of_none hn]
      exact (Rearranged.refl [n]).append (hi hns)

-- The characters of a text taken apart, with the marks in order.
def inOrder (ns : List Nat) : List Nat := orderMarks [] (decompose ns)

theorem ordered_inOrder (ns : List Nat) : Ordered (inOrder ns) :=
  (orderMarks_orders (List.forall_mem_nil _)).left

theorem rearranged_inOrder (ns : List Nat) : Rearranged (inOrder ns) (decompose ns) :=
  (orderMarks_orders (List.forall_mem_nil _)).right

theorem mem_of_rearranged (h : Rearranged xs ys) (hn : n ∈ xs) : n ∈ ys := by
  have hmem : n ∈ only (combiningClass n) xs := List.mem_filter.mpr ⟨hn, decide_eq_true (.inr rfl)⟩
  exact List.mem_of_mem_filter (h _ ▸ hmem)

theorem composeCodes_eq (ns : List Nat) : composeCodes ns = joinMarks none (inOrder ns) :=
  rfl

-- A composed text stands for what the text has stood for, but for the order of its marks.
theorem rearranged_composeCodes (ns : List Nat) : Rearranged (decompose (composeCodes ns)) (decompose ns) :=
  (joinMarks_none fun _ hn => parts?_of_mem_decompose (mem_of_rearranged (rearranged_inOrder ns) hn)).trans
    (rearranged_inOrder ns)

-- Texts that stand for the same have the same composed form.
theorem composeCodes_congr (h : Rearranged (decompose xs) (decompose ys)) : composeCodes xs = composeCodes ys := by
  have he : inOrder xs = inOrder ys :=
    (ordered_inOrder xs).eq_of_rearranged (ordered_inOrder ys)
      ((rearranged_inOrder xs).trans (h.trans (rearranged_inOrder ys).symm))
  rw [composeCodes_eq, he, composeCodes_eq]

theorem Hereditary.composeCodes {p : Nat → Prop} (h : Hereditary p) (ns : List Nat) :
    (∀ n ∈ Text.composeCodes ns, p n) ↔ ∀ n ∈ ns, p n := by
  have hr := rearranged_composeCodes ns
  refine h.decompose.symm.trans (Iff.trans ?_ h.decompose)
  exact ⟨fun hp m hm => hp m (mem_of_rearranged hr.symm hm), fun hp m hm => hp m (mem_of_rearranged hr hm)⟩

-- What a text is composed to stands for itself or comes from a pair.
def Formed (n : Nat) : Prop :=
  parts? n = none ∨ ∃ a b, Composes a b n

theorem OpenBase.Takes.formed (h : o.Takes n o') (ho : ∀ m ∈ o.codes, Formed m) (hn : Formed n) :
    ∀ m ∈ o'.codes, Formed m := by
  obtain ⟨hb, hm⟩ := List.forall_mem_cons.mp ho
  cases h
  case composed c hl hc =>
    exact List.forall_mem_cons.mpr ⟨.inr ⟨_, _, composes_of_composePair? hc⟩, hm⟩
  case beside =>
    exact List.forall_mem_cons.mpr ⟨hb, List.forall_mem_append.mpr ⟨hm, List.forall_mem_singleton.mpr hn⟩⟩

theorem joinMarks_formed (hc : ∀ o ∈ current, ∀ m ∈ o.codes, Formed m) (hns : ∀ n ∈ ns, Formed n) :
    ∀ m ∈ joinMarks current ns, Formed m := by
  induction ns generalizing current
  case nil =>
    cases current
    case none   => exact List.forall_mem_nil _
    case some o => exact hc o rfl
  case cons n ns hi =>
    obtain ⟨hn, hns⟩ := List.forall_mem_cons.mp hns
    have hstart : ∀ m ∈ joinMarks (some (.start n)) ns, Formed m := by
      refine hi (fun o ho => ?_) hns
      cases ho
      exact List.forall_mem_singleton.mpr hn
    cases current
    case none =>
      rw [joinMarks]
      split
      case isTrue  => exact hstart
      case isFalse => exact List.forall_mem_cons.mpr ⟨hn, hi (fun _ ho => nomatch ho) hns⟩
    case some o =>
      obtain ⟨o', ht, hj⟩ | ⟨-, hj⟩ := joinMarks_some_cons o n
      · rw [hj]
        refine hi (fun _ ho => ?_) hns
        cases ho
        exact ht.formed (hc o rfl) hn
      · rw [hj]
        exact List.forall_mem_append.mpr ⟨hc o rfl, hstart⟩

theorem formed_of_mem_composeCodes (h : n ∈ composeCodes ns) : Formed n := by
  rw [composeCodes_eq] at h
  refine joinMarks_formed ?_ (fun m hm => .inl ?_) n h
  · exact fun _ ho => nomatch ho
  · exact parts?_of_mem_decompose (mem_of_rearranged (rearranged_inOrder ns) hm)

theorem composeCodes_idem (ns : List Nat) : composeCodes (composeCodes ns) = composeCodes ns :=
  composeCodes_congr (rearranged_composeCodes ns)

end FlowGate.Text
