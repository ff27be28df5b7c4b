import FlowGate.Context
import FlowGate.Proofs.Text.Blank

-- Which values are placeholders. A text in double braces names a field, also with a line break behind the braces;
-- every other value stands for itself.

namespace FlowGate.Context

open Value

variable {c : Context} {s path behind : String} {cs : List Char} {v : Value}

def braced (path behind : String) : String := "\x7b\x7b" ++ path ++ "\x7d\x7d" ++ behind

theorem toList_braced : (braced path behind).toList =
    '\x7b' :: '\x7b' :: (path.toList ++ '\x7d' :: '\x7d' :: behind.toList) := by
  simp [braced]

theorem inside_closed (hb : behind ∈ ["", "\n"]) :
    placeholder?.inside (path.toList ++ '\x7d' :: '\x7d' :: behind.toList).reverse = some path := by
  obtain rfl | rfl := List.mem_pair.mp hb
  all_goals simp [placeholder?.inside]

theorem exists_closed (h : placeholder?.inside cs.reverse = some path) :
    ∃ behind ∈ ["", "\n"], cs = path.toList ++ '\x7d' :: '\x7d' :: behind.toList := by
  unfold placeholder?.inside at h
  split at h
  case h_1 hr =>
    obtain rfl := Option.some.inj h
    refine ⟨"\n", by simp, ?_⟩
    rw [← List.reverse_reverse cs, hr]
    simp
  case h_2 hr =>
    obtain rfl := Option.some.inj h
    refine ⟨"", by simp, ?_⟩
    rw [← List.reverse_reverse cs, hr]
    simp
  case h_3 => cases h

theorem placeholder?_eq_some_iff : placeholder? s = some path ↔ ∃ behind ∈ ["", "\n"], s = braced path behind where
  mp h := by
    unfold placeholder? at h
    split at h
    case h_1 rest hs =>
      obtain ⟨behind, hb, hr⟩ := exists_closed h
      exact ⟨behind, hb, String.toList_inj.mp (by rw [hs, toList_braced, hr])⟩
    case h_2 => cases h
  mpr := by
    rintro ⟨behind, hb, rfl⟩
    rw [placeholder?, toList_braced]
    exact inside_closed hb

theorem resolveValue_braced (hb : behind ∈ ["", "\n"]) :
    c.resolveValue (text (braced path behind)) = c.resolveField (Text.strip path) := by
  rw [resolveValue, placeholder?_eq_some_iff.mpr ⟨behind, hb, rfl⟩]

theorem resolveValue_of_ne (h : ∀ path, ∀ behind ∈ ["", "\n"], v ≠ text (braced path behind)) : c.resolveValue v = v := by
  unfold resolveValue
  split
  case h_2 => rfl
  case h_1 s =>
    split
    case h_2 => rfl
    case h_1 path hp =>
      obtain ⟨behind, hb, hs⟩ := placeholder?_eq_some_iff.mp hp
      exact absurd (congrArg text hs) (h path behind hb)

-- What is put in the place of a value.
structure Places (c : Context) : Prop where
  whole    : ∀ s, ∃ path, Text.Stripped s path ∧ c.resolveValue (text (braced s "")) = c.resolveField path
  broken   : ∀ s, c.resolveValue (text (braced s "\n")) = c.resolveValue (text (braced s ""))
  other    : ∀ v, (∀ s, v ≠ text (braced s "") ∧ v ≠ text (braced s "\n")) → c.resolveValue v = v
  unopened : ∀ s : String, ¬['\x7b', '\x7b'] <+: s.toList → c.resolveValue (text s) = text s
  unclosed : ∀ s : String, ¬['\x7d', '\x7d'] <:+ s.toList → ¬['\x7d', '\x7d', '\n'] <:+ s.toList →
    c.resolveValue (text s) = text s

theorem placeholders_whole (c : Context) : c.Places where
  whole s  := ⟨_, Text.stripped_strip s, resolveValue_braced (.head _)⟩
  broken s := (resolveValue_braced (.tail _ (.head _))).trans (resolveValue_braced (.head _)).symm
  other v h := by
    refine resolveValue_of_ne fun path behind hb => ?_
    obtain rfl | rfl := List.mem_pair.mp hb
    · exact (h path).left
    · exact (h path).right
  unopened s h := by
    refine resolveValue_of_ne fun path behind hb hs => h ?_
    cases hs
    rw [toList_braced]
    exact ⟨_, rfl⟩
  unclosed s h h' := by
    refine resolveValue_of_ne fun path behind hb hs => ?_
    cases hs
    rw [toList_braced, ← List.cons_append, ← List.cons_append] at h h'
    obtain rfl | rfl := List.mem_pair.mp hb
    · exact h ⟨_, rfl⟩
    · exact h' ⟨_, rfl⟩

end FlowGate.Context
