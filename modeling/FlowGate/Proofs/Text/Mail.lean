import FlowGate.Proofs.Text.Split
import FlowGate.Text.Mail

-- Addresses as they are meant to be: no white space, one at sign with something before it, and after it a dot
-- with something on both sides. A text counts as an address if it is one but for a line break at its end.

namespace FlowGate.Text

variable {s : String} {cs name domain host top : List Char}

structure IsAddress (cs : List Char) : Prop where
  blankless : ∀ x ∈ cs, isBlank x = false
  single    : cs.count '@' = 1
  parts     : ∃ name host top,
    cs = name ++ '@' :: (host ++ '.' :: top) ∧ name ≠ [] ∧ host ≠ [] ∧ top ≠ []

-- What can stand around the at sign and the dot.
def IsPart (cs : List Char) : Prop := cs ≠ [] ∧ isAddressPart cs = true

theorem isAddressPart_iff : isAddressPart cs = true ↔ (∀ x ∈ cs, isBlank x = false) ∧ '@' ∉ cs := by
  simp only [isAddressPart, List.all_eq_true, Bool.and_eq_true, Bool.not_eq_true', bne_iff_ne]
  exact ⟨fun h => ⟨fun x hx => (h x hx).1, fun hat => (h _ hat).2 rfl⟩,
    fun ⟨hb, hat⟩ x hx => ⟨hb x hx, fun he => hat (he ▸ hx)⟩⟩

theorem isAddressPart_append :
    isAddressPart (name ++ domain) = true ↔ isAddressPart name = true ∧ isAddressPart domain = true := by
  simp [isAddressPart]

theorem isAddress_iff_parts : IsAddress cs ↔
    ∃ name host top, cs = name ++ '@' :: (host ++ '.' :: top) ∧ IsPart name ∧ IsPart host ∧ IsPart top := by
  constructor
  · rintro ⟨hblank, hsingle, name, host, top, rfl, hname, hhost, htop⟩
    have hat : name.count '@' = 0 ∧ host.count '@' = 0 ∧ top.count '@' = 0 := by
      simp at hsingle
      omega
    simp only [List.count_eq_zero] at hat
    simp only [List.forall_mem_append, List.forall_mem_cons] at hblank
    exact ⟨name, host, top, rfl, ⟨hname, isAddressPart_iff.mpr ⟨hblank.1, hat.1⟩⟩,
      ⟨hhost, isAddressPart_iff.mpr ⟨hblank.2.2.1, hat.2.1⟩⟩,
      ⟨htop, isAddressPart_iff.mpr ⟨hblank.2.2.2.2, hat.2.2⟩⟩⟩
  · rintro ⟨name, host, top, rfl, ⟨hname, hn⟩, ⟨hhost, hh⟩, ⟨htop, ht⟩⟩
    obtain ⟨hnblank, hnat⟩ := isAddressPart_iff.mp hn
    obtain ⟨hhblank, hhat⟩ := isAddressPart_iff.mp hh
    obtain ⟨htblank, htat⟩ := isAddressPart_iff.mp ht
    refine ⟨?_, ?_, name, host, top, rfl, hname, hhost, htop⟩
    · simp only [List.forall_mem_append, List.forall_mem_cons]
      exact ⟨hnblank, by decide, hhblank, by decide, htblank⟩
    · simp [List.count_eq_zero.mpr hnat, List.count_eq_zero.mpr hhat, List.count_eq_zero.mpr htat]

theorem hasInnerDot_iff : hasInnerDot domain = true ↔
    ∃ host top, domain = host ++ '.' :: top ∧ host ≠ [] ∧ top ≠ [] := by
  rw [hasInnerDot, List.contains_iff_mem]
  constructor
  · intro h
    obtain ⟨host, top, hd⟩ := List.append_of_mem h
    cases domain
    case nil => simp at h
    case cons x rest =>
      have hne : rest ≠ [] := by rintro rfl; simp at h
      have hr : rest = host ++ '.' :: (top ++ [rest.getLast hne]) := by
        rw [← List.cons_append, ← List.append_assoc, ← hd]
        exact (List.dropLast_append_getLast hne).symm
      exact ⟨x :: host, top ++ [rest.getLast hne], by rw [List.cons_append, ← hr], by simp, by simp⟩
  · rintro ⟨host, top, rfl, hhost, htop⟩
    obtain ⟨x, host, rfl⟩ := List.exists_cons_of_ne_nil hhost
    simp [htop, List.dropLast_append_of_ne_nil, List.dropLast_cons_of_ne_nil]

theorem isAddress_eq : isAddress s = true ↔ IsAddress (withoutFinalBreak s.toList) := by
  rw [isAddress, isAddress_iff_parts]
  generalize withoutFinalBreak s.toList = cs
  constructor
  · intro h
    split at h
    case h_2 => cases h
    case h_1 name domain hs =>
      simp only [Bool.and_eq_true, Bool.not_eq_true', List.isEmpty_eq_false_iff] at h
      obtain ⟨⟨⟨hne, hname⟩, hdomain⟩, hdot⟩ := h
      obtain ⟨host, top, rfl, hhost, htop⟩ := hasInnerDot_iff.mp hdot
      have hcs : cs = name ++ '@' :: (host ++ '.' :: top) := by
        rw [← @intercalate_splitChars '@' cs, hs]
        simp [List.intercalate]
      rw [isAddressPart_append, ← List.singleton_append, isAddressPart_append] at hdomain
      exact ⟨name, host, top, hcs, ⟨hne, hname⟩, ⟨hhost, hdomain.1⟩, ⟨htop, hdomain.2.2⟩⟩
  · rintro ⟨name, host, top, rfl, ⟨hname, hn⟩, ⟨hhost, hh⟩, ⟨htop, ht⟩⟩
    have hdomain : isAddressPart (host ++ '.' :: top) = true := by
      rw [isAddressPart_append, ← List.singleton_append, isAddressPart_append]
      exact ⟨hh, by decide, ht⟩
    have hs : splitChars '@' (name ++ '@' :: (host ++ '.' :: top)) = [name, host ++ '.' :: top] := by
      rw [splitChars_append (isAddressPart_iff.mp hn).2, splitChars_of_not_mem (isAddressPart_iff.mp hdomain).2]
    simp only [hs, hn, hdomain, hasInnerDot_iff.mpr ⟨host, top, rfl, hhost, htop⟩]
    simpa using hname

-- A line break is white space, so no address ends in one.
theorem isAddress_withoutFinalBreak_iff : IsAddress (withoutFinalBreak cs) ↔
    ∃ taken rest, cs = taken ++ rest ∧ IsAddress taken ∧ (rest = [] ∨ rest = ['\n']) := by
  unfold withoutFinalBreak
  constructor
  · intro h
    split at h
    case isTrue hl  =>
      exact ⟨cs.dropLast, ['\n'], (List.dropLast_append_getLast? _ hl).symm, h, .inr rfl⟩
    case isFalse => exact ⟨cs, [], (List.append_nil cs).symm, h, .inl rfl⟩
  · rintro ⟨taken, rest, rfl, h, rfl | rfl⟩
    · rw [List.append_nil]
      split
      case isTrue hl  => cases h.blankless _ (List.mem_of_getLast? hl)
      case isFalse => exact h
    · rwa [if_pos List.getLast?_concat, List.dropLast_concat]

end FlowGate.Text
