import FlowGate.Text.Search
import Mathlib.Data.List.Basic

-- Splitting a text at a character undoes joining pieces that do not hold it.

namespace FlowGate.Text

variable {c : Char} {cs piece : List Char} {pieces : List (List Char)}

theorem splitChars_of_not_mem (h : c ∉ cs) : splitChars c cs = [cs] := by
  induction cs
  case nil => rfl
  case cons d rest hi =>
    rw [splitChars, if_neg (Ne.symm (List.ne_of_not_mem_cons h)), hi (List.not_mem_of_not_mem_cons h)]

theorem splitChars_append (h : c ∉ piece) : splitChars c (piece ++ c :: cs) = piece :: splitChars c cs := by
  induction piece
  case nil => simp [splitChars]
  case cons d rest hi =>
    rw [List.cons_append, splitChars, if_neg (Ne.symm (List.ne_of_not_mem_cons h)),
      hi (List.not_mem_of_not_mem_cons h)]

theorem splitChars_ne_nil : splitChars c cs ≠ [] := by
  induction cs <;> simp only [splitChars]
  case nil => exact List.cons_ne_nil _ _
  case cons d rest _ =>
    split
    case isTrue => exact List.cons_ne_nil _ _
    case isFalse => split <;> exact List.cons_ne_nil _ _

theorem intercalate_splitChars : [c].intercalate (splitChars c cs) = cs := by
  induction cs
  case nil => rfl
  case cons d rest hi =>
    obtain ⟨piece, pieces, hs⟩ := List.exists_cons_of_ne_nil (@splitChars_ne_nil c rest)
    rw [hs] at hi
    by_cases hd : d = c
    case pos =>
      rw [splitChars, if_pos hd, hs, ← hi, hd]
      simp [List.intercalate]
    case neg => cases pieces <;> simp_all [splitChars, List.intercalate]

theorem splitChars_joined (h : c ∉ piece) (hs : ∀ p ∈ pieces, c ∉ p) :
    splitChars c (piece ++ pieces.flatMap (c :: ·)) = piece :: pieces := by
  induction pieces generalizing piece
  case nil => rw [List.flatMap_nil, List.append_nil, splitChars_of_not_mem h]
  case cons p rest hi =>
    obtain ⟨hp, hr⟩ := List.forall_mem_cons.mp hs
    rw [List.flatMap_cons, List.cons_append, splitChars_append h, hi hp hr]

theorem intercalate_cons (c : Char) (piece : List Char) (pieces : List (List Char)) :
    [c].intercalate (piece :: pieces) = piece ++ pieces.flatMap (c :: ·) := by
  induction pieces generalizing piece
  case nil => simp
  case cons p rest hi => rw [List.intercalate_cons_cons, hi p, List.flatMap_cons, List.append_assoc]; rfl

end FlowGate.Text
