import FlowGate.Text.Blank
import Mathlib.Data.List.DropRight

-- Texts without the white space at both ends.

namespace FlowGate.Text

structure Stripped (s t : String) : Prop where
  parts : ∃ front back, s.toList = front ++ t.toList ++ back ∧
    (∀ c ∈ front, isBlank c = true) ∧ ∀ c ∈ back, isBlank c = true
  first : ∀ c, t.toList.head? = some c → isBlank c = false
  last  : ∀ c, t.toList.getLast? = some c → isBlank c = false

theorem toList_strip (s : String) :
    (strip s).toList = (s.toList.dropWhile isBlank).rdropWhile isBlank := by
  rw [strip, String.toList_ofList, stripChars, List.rdropWhile]

theorem stripped_strip (s : String) : Stripped s (strip s) where
  parts := by
    refine ⟨s.toList.takeWhile isBlank, (s.toList.dropWhile isBlank).rtakeWhile isBlank, ?_, ?_, ?_⟩
    · rw [toList_strip, List.append_assoc, List.rdropWhile_append_rtakeWhile, List.takeWhile_append_dropWhile]
    · exact fun c hc => List.mem_takeWhile_imp hc
    · exact fun c hc => List.mem_rtakeWhile_imp hc
  first c hc := by
    rw [toList_strip] at hc
    obtain ⟨back, hb⟩ := List.rdropWhile_prefix isBlank (s.toList.dropWhile isBlank)
    have hn := List.head?_dropWhile_not isBlank s.toList
    rw [← hb, List.head?_append, hc] at hn
    exact hn
  last c hc := by
    rw [toList_strip] at hc
    obtain ⟨ys, hys⟩ := List.getLast?_eq_some_iff.mp hc
    have hn := List.rdropWhile_last_not isBlank (s.toList.dropWhile isBlank) (by simp [hys])
    simpa [hys] using hn

theorem strip_eq_self_iff {s : String} : strip s = s ↔
    (∀ c, s.toList.head? = some c → isBlank c = false) ∧ ∀ c, s.toList.getLast? = some c → isBlank c = false := by
  constructor
  case mp =>
    intro h
    have hs := stripped_strip s
    rw [h] at hs
    exact ⟨hs.first, hs.last⟩
  case mpr =>
    rintro ⟨hf, hl⟩
    have hd : s.toList.dropWhile isBlank = s.toList := by
      rw [List.dropWhile_eq_self_iff]
      intro hp
      simp [hf _ (List.head?_eq_getElem? .. ▸ List.getElem?_eq_getElem hp)]
    have hr : s.toList.rdropWhile isBlank = s.toList := by
      rw [List.rdropWhile_eq_self_iff]
      intro hne
      simp [hl _ (List.getLast?_eq_some_getLast hne)]
    rw [← String.toList_inj, toList_strip, hd, hr]

theorem strip_idem (s : String) : strip (strip s) = strip s :=
  have hs := stripped_strip s
  strip_eq_self_iff.mpr ⟨hs.first, hs.last⟩

end FlowGate.Text
