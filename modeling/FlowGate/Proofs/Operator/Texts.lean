import FlowGate.Operator.Comparison
import FlowGate.Proofs.Engine

-- The operators that read a field as a text, on fields that hold nothing, false or zero. Most take such a field for
-- the empty text, but a pattern is looked for in the text that the field is displayed as.

namespace FlowGate

open Value

theorem Double.toInt?_of_isZero {x : Double} (h : x.isZero = true) : x.toInt? = some 0 := by
  cases x <;> simp only [isZero, Bool.false_eq_true, beq_iff_eq] at h
  case finite negative units wf =>
    subst h
    cases negative <;> simp [toInt?]

namespace Value

variable {v : Value} {shown : String}

-- The values that count as the empty text, each with the text that it is displayed as.
inductive Falsy : Value → String → Prop
  | missing : Falsy missing "undefined"
  | null : Falsy null "null"
  | bool : Falsy (bool false) "false"
  | int : Falsy (int 0) "0"
  | double {x : Double} (h : x.isZero = true) : Falsy (double x) "0"

theorem isBlank_iff : v.isBlank = true ↔ ∃ shown, v.Falsy shown := by
  constructor
  · intro h
    unfold isBlank at h
    split at h
    case h_1 => exact ⟨_, .missing⟩
    case h_2 => exact ⟨_, .null⟩
    case h_3 => exact ⟨_, .bool⟩
    case h_4 =>
      obtain rfl := beq_iff_eq.mp h
      exact ⟨_, .int⟩
    case h_5 => exact ⟨_, .double h⟩
    case h_6 => cases h
  · rintro ⟨shown, h⟩
    cases h
    case double h => exact h
    all_goals rfl

theorem display_text (s : String) : (text s).display = .ok s := by
  simp [Value.display, Scalar.plain]

theorem asText_empty : (text "").asText = .ok "" := by
  rw [Value.asText, display_text]
  exact ite_self _

theorem Falsy.asText (h : v.Falsy shown) : v.asText = .ok "" :=
  if_pos (isBlank_iff.mpr ⟨shown, h⟩)

theorem Falsy.display (h : v.Falsy shown) : v.display = .ok shown := by
  cases h
  case int =>
    simp only [Value.display, Scalar.plain]
    rfl
  case double h =>
    rw [Value.display, Double.toInt?_of_isZero h]
    rfl
  all_goals simp [Value.display]

end Value

namespace Comparison

variable {a e : Value} {part pattern shown : String} {f : Fault}

theorem contains_blank (ha : a.asText = .ok "") (he : e.display = .ok part) :
    contains a e = .ok (decide (part = "")) := by
  rw [contains, ha, he]
  change Except.ok (Text.occurs part.toList []) = _
  rw [Except.ok.injEq, Bool.eq_iff_iff, Text.occurs, List.isEmpty_iff, decide_eq_true_iff, String.toList_eq_nil_iff]

theorem startsWith_blank (ha : a.asText = .ok "") (he : e.display = .ok part) :
    startsWith a e = .ok (decide (part = "")) := by
  rw [startsWith, ha, he]
  change Except.ok (part.toList.isPrefixOf []) = _
  rw [Except.ok.injEq, Bool.eq_iff_iff, List.isPrefixOf_iff_prefix, List.prefix_nil, decide_eq_true_iff,
    String.toList_eq_nil_iff]

theorem endsWith_blank (ha : a.asText = .ok "") (he : e.display = .ok part) :
    endsWith a e = .ok (decide (part = "")) := by
  rw [endsWith, ha, he]
  change Except.ok (part.toList.isSuffixOf []) = _
  rw [Except.ok.injEq, Bool.eq_iff_iff, List.isSuffixOf_iff_suffix, List.suffix_nil, decide_eq_true_iff,
    String.toList_eq_nil_iff]

theorem matchesRegex_of_display (ha : a.display = .ok shown) :
    matchesRegex a e = e.display >>= fun pattern => patternFound pattern shown := by
  rw [matchesRegex, ha]
  rfl

-- Whether a pattern can be read does not depend on the text that it is looked for in.
theorem patternFound_eq_error_iff : patternFound pattern shown = .error f ↔
    ∃ p, Pattern.read pattern = .error p ∧ f = .pattern p := by
  unfold patternFound
  split
  case h_1 node h => simp [h]
  case h_2 p h    => simp [h, eq_comm]

theorem matchesRegex_eq_error_iff (ha : a.display = .ok shown) : matchesRegex a e = .error f ↔
    e.display = .error f ∨
      ∃ pattern p, e.display = .ok pattern ∧ Pattern.read pattern = .error p ∧ f = .pattern p := by
  rw [matchesRegex_of_display ha]
  cases e.display
  case error g    => simp [bind, Except.bind]
  case ok pattern => simp [bind, Except.bind, patternFound_eq_error_iff]

theorem matchesRegex_of_read {node : Pattern.Node} (ha : a.display = .ok shown) (he : e.display = .ok pattern)
    (hr : Pattern.read pattern = .ok node) : matchesRegex a e = .ok (node.found shown.toList) := by
  rw [matchesRegex_of_display ha, he]
  simp [bind, Except.bind, patternFound, hr]

theorem matchesRegex_agrees_iff (h : a.display = .ok shown) : matchesRegex a e = matchesRegex (text "") e ↔
    ∀ pattern node, e.display = .ok pattern → Pattern.read pattern = .ok node →
      node.found shown.toList = node.found [] := by
  constructor
  · intro heq pattern node he hr
    rw [matchesRegex_of_read h he hr, matchesRegex_of_read (display_text "") he hr] at heq
    exact Except.ok.inj heq
  · intro hfound
    rw [matchesRegex_of_display h, matchesRegex_of_display (display_text "")]
    cases he : e.display
    case error => rfl
    case ok pattern =>
      cases hr : Pattern.read pattern
      case error   => simp [bind, Except.bind, patternFound, hr]
      case ok node => simp [bind, Except.bind, patternFound, hr, hfound pattern node he hr]

end Comparison

namespace Comparer

open Comparison

variable {t : Comparer} {a b e v : Value} {o : Operator} {shown : String}

-- The operators that look for one text in another.
def searching : List Operator := [.contains, .notContains, .startsWith, .endsWith]

theorem applyKnown_searching (ho : o ∈ searching) (h : a.asText = b.asText) :
    t.applyKnown o a e = t.applyKnown o b e := by
  simp only [searching, List.mem_cons, List.not_mem_nil, or_false] at ho
  rcases ho with rfl | rfl | rfl | rfl <;> simp only [applyKnown, contains, startsWith, endsWith, h]

theorem apply_textual (t : Comparer) (ho : o ∈ Operator.matchesRegex :: searching) :
    t.apply (.known o) a e = t.applyKnown o a e ∧ t.applyFilter (.known o) a e = t.applyKnown o a e := by
  refine ⟨rfl, if_pos ?_⟩
  simp only [searching, List.mem_cons, List.not_mem_nil, or_false] at ho
  rcases ho with rfl | rfl | rfl | rfl | rfl <;> rfl

-- What the operators answer on such a field. A pattern answers as for the empty text exactly if it is found in both
-- texts or in neither.
structure TakesFalsy (t : Comparer) (v : Value) (shown : String) (e : Value) : Prop where
  tables   : ∀ o ∈ Operator.matchesRegex :: searching,
    t.apply (.known o) v e = t.applyKnown o v e ∧ t.applyFilter (.known o) v e = t.applyKnown o v e
  searched : ∀ o ∈ searching, t.applyKnown o v e = t.applyKnown o (text "") e
  found    : ∀ part, e.display = .ok part → ∀ o ∈ [Operator.contains, .startsWith, .endsWith],
    t.applyKnown o v e = .ok (decide (part = ""))
  lacked   : ∀ part, e.display = .ok part → t.applyKnown .notContains v e = .ok (decide (part ≠ ""))
  matched  : t.applyKnown .matchesRegex v e = t.applyKnown .matchesRegex (text shown) e
  faults   : ∀ f, t.applyKnown .matchesRegex v e = .error f ↔ t.applyKnown .matchesRegex (text "") e = .error f
  agrees   : t.applyKnown .matchesRegex v e = t.applyKnown .matchesRegex (text "") e ↔
    ∀ pattern node, e.display = .ok pattern → Pattern.read pattern = .ok node →
      node.found shown.toList = node.found []

theorem falsy_taken (t : Comparer) (h : v.Falsy shown) (e : Value) : t.TakesFalsy v shown e where
  tables _ ho   := t.apply_textual ho
  searched _ ho := applyKnown_searching ho (h.asText.trans asText_empty.symm)
  found part he := by
    simp only [List.forall_mem_cons]
    exact ⟨contains_blank h.asText he, startsWith_blank h.asText he, endsWith_blank h.asText he, List.forall_mem_nil _⟩
  lacked part he := by
    rw [applyKnown, contains_blank h.asText he, decide_not]
    rfl
  matched       := by
    simp only [applyKnown, matchesRegex_of_display h.display, matchesRegex_of_display (display_text shown)]
  faults f      := (matchesRegex_eq_error_iff h.display).trans (matchesRegex_eq_error_iff (display_text "")).symm
  agrees        := matchesRegex_agrees_iff h.display

def letterE : Pattern.Node := .set ⟨[.one 101], false, .exact, false⟩

-- An absent field is displayed with a letter in it, which the empty text does not hold.
theorem absent_taken : Falsy missing "undefined" ∧
    (Engine.ofFunctions []).comparer.applyKnown .contains missing (text "e") = .ok false ∧
    (Engine.ofFunctions []).comparer.applyKnown .matchesRegex missing (text "e") = .ok true ∧
    (Engine.ofFunctions []).comparer.applyKnown .matchesRegex missing (text "e") ≠
      (Engine.ofFunctions []).comparer.applyKnown .matchesRegex (text "") (text "e") := by
  have ht := falsy_taken (Engine.ofFunctions []).comparer .missing (text "e")
  have hread : Pattern.read "e" = .ok letterE := rfl
  have hfound : letterE.found "undefined".toList = true := by decide +kernel
  have hempty : letterE.found [] = false := by decide +kernel
  refine ⟨.missing, ?_, ?_, fun h => ?_⟩
  · exact ht.found "e" (display_text _) .contains (.head _)
  · rw [ht.matched, applyKnown, matchesRegex_of_read (display_text _) (display_text _) hread, hfound]
  · have hsame := ht.agrees.mp h "e" letterE (display_text _) hread
    rw [hfound, hempty] at hsame
    cases hsame

end Comparer

end FlowGate
