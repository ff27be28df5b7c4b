import FlowGate.Path
import FlowGate.Proofs.Text.Digit
import FlowGate.Proofs.Text.Split

-- Paths that are written with dots and brackets. Splitting gives the segments back, except that it finds an empty
-- one in front of a bracket that stands at the very start.

namespace FlowGate.Path

inductive Segment
  | name (s : String)
  | index (n : Nat)

namespace Segment

def text : Segment → String
  | name s  => s
  | index n => toString n

-- Names with a dot or an opening bracket in them cannot be written.
def Writable : Segment → Prop
  | name s  => '.' ∉ s.toList ∧ '[' ∉ s.toList
  | index _ => True

def behind : Segment → List Char
  | name s  => '.' :: s.toList
  | index n => '[' :: ((toString n).toList ++ [']'])

end Segment

open Segment

def written : List Segment → String
  | name s :: rest => String.ofList (s.toList ++ rest.flatMap behind)
  | segments       => String.ofList (segments.flatMap behind)

variable {c : Char} {cs digits rest : List Char} {segments : List Segment}

theorem toList_text_index (n : Nat) : (index n).text.toList = Nat.toDigits 10 n :=
  Nat.toList_repr

theorem isDigit_of_mem_toDigits {n : Nat} (h : c ∈ Nat.toDigits 10 n) : Text.isDigit c = true := by
  rw [Text.isDigit_eq, Text.digitValue?_of_isDigit (Nat.isDigit_of_mem_toDigits (by decide) (by decide) h)]
  rfl

theorem Segment.Writable.dotless {s : Segment} (h : s.Writable) : '.' ∉ s.text.toList := by
  cases s
  case name    => exact h.left
  case index n =>
    rw [toList_text_index]
    exact fun hd => absurd (isDigit_of_mem_toDigits hd) (by decide)

theorem bracketed?_of_ne (h : c ≠ '[') : bracketed? (c :: cs) = none := by
  unfold bracketed?
  split
  case h_1 he => exact absurd (List.cons.inj he).left h
  case h_2    => rfl

theorem bracketed?_digits (hne : digits ≠ []) (h : ∀ c ∈ digits, Text.isDigit c = true) :
    bracketed? ('[' :: (digits ++ ']' :: rest)) = some (digits, rest) := by
  have hclose : Text.isDigit ']' = false := by decide
  simp [bracketed?, List.takeWhile_append_of_pos h, List.dropWhile_append_of_pos h, hclose, hne]

theorem undoBrackets_of_none (h : bracketed? (c :: cs) = none) : undoBrackets (c :: cs) = c :: undoBrackets cs := by
  rw [undoBrackets]
  split
  case h_1 hs => cases h.symm.trans hs
  case h_2    => rfl

theorem undoBrackets_of_some (h : bracketed? cs = some (digits, rest)) :
    undoBrackets cs = '.' :: (digits ++ undoBrackets rest) := by
  rw [undoBrackets]
  split
  case h_1 hs =>
    cases h.symm.trans hs
    rfl
  case h_2 hn => cases h.symm.trans hn

theorem undoBrackets_append (h : '[' ∉ cs) : undoBrackets (cs ++ rest) = cs ++ undoBrackets rest := by
  induction cs
  case nil => rfl
  case cons c cs hi =>
    have hc : c ≠ '[' := Ne.symm (List.ne_of_not_mem_cons h)
    rw [List.cons_append, undoBrackets_of_none (bracketed?_of_ne hc), hi (List.not_mem_of_not_mem_cons h)]
    rfl

theorem undoBrackets_nil : undoBrackets [] = [] := by
  rw [undoBrackets]
  rfl

-- Behind another segment, a name and an index come to the same form.
theorem undoBrackets_behind {s : Segment} (h : s.Writable) :
    undoBrackets (s.behind ++ rest) = '.' :: (s.text.toList ++ undoBrackets rest) := by
  cases s
  case name s =>
    have hs : '[' ∉ '.' :: s.toList := List.not_mem_cons_of_ne_of_not_mem (by decide) h.right
    rw [behind, undoBrackets_append hs]
    rfl
  case index n =>
    have hb : bracketed? ((index n).behind ++ rest) = some (Nat.toDigits 10 n, rest) := by
      rw [behind, List.cons_append, List.append_assoc, ← text, toList_text_index]
      exact bracketed?_digits Nat.toDigits_ne_nil fun c hc => isDigit_of_mem_toDigits hc
    rw [undoBrackets_of_some hb, toList_text_index]

theorem undoBrackets_flatMap (h : ∀ s ∈ segments, s.Writable) :
    undoBrackets (segments.flatMap behind) = (segments.map fun s => s.text.toList).flatMap ('.' :: ·) := by
  induction segments
  case nil => exact undoBrackets_nil
  case cons s rest hi =>
    obtain ⟨hs, hr⟩ := List.forall_mem_cons.mp h
    rw [List.flatMap_cons, undoBrackets_behind hs, hi hr, List.map_cons, List.flatMap_cons]
    rfl

theorem split_joined {s : String} (hs : '.' ∉ s.toList ∧ '[' ∉ s.toList) (h : ∀ s ∈ segments, s.Writable) :
    split (String.ofList (s.toList ++ segments.flatMap behind)) = s :: segments.map text := by
  have htexts : ∀ p ∈ segments.map fun s => s.text.toList, '.' ∉ p :=
    List.forall_mem_map.mpr fun s hs => (h s hs).dotless
  rw [split, dotted, String.toList_ofList, String.toList_ofList, undoBrackets_append hs.right,
    undoBrackets_flatMap h, Text.splitChars_joined hs.left htexts]
  simp [Function.comp_def]

-- What is made of the segments that a path was written from.
structure Decodes (segments : List Segment) : Prop where
  named   : ∀ s rest, segments = name s :: rest → split (written segments) = segments.map text
  indexed : ∀ n rest, segments = index n :: rest → split (written segments) = "" :: segments.map text

theorem decodes (h : ∀ s ∈ segments, s.Writable) : Decodes segments where
  named s rest he := by
    subst he
    obtain ⟨hs, hr⟩ := List.forall_mem_cons.mp h
    exact split_joined hs hr
  indexed n rest he := by
    have hw : written segments = String.ofList ("".toList ++ segments.flatMap behind) := by
      rw [he, String.toList_empty, List.nil_append]
      rfl
    rw [hw, split_joined ⟨by simp, by simp⟩ h]

end FlowGate.Path
