import FlowGate.Text.Digit
import FlowGate.Text.Search
import FlowGate.Number.Numeral
import FlowGate.Value.Basic

-- Paths into nested values. A segment is a key of a mapping or, on a list, a position written in decimal
-- digits.

namespace FlowGate.Path

open Value

def position? (segment : String) : Option Nat :=
  let cs := segment.toList
  if cs.isEmpty || !cs.all Text.isDigit || Numeral.digitLimit < cs.length then none
  else some (Numeral.value (cs.filterMap Text.digitValue?))

def step? (v : Value) (segment : String) : Option Value :=
  match v with
  | map entries => Entries.get? entries segment
  | list items => (position? segment).bind fun i => items[i]?
  | _ => none

def walk (v : Value) : List String → Value
  | [] => v
  | segment :: rest =>
    match step? v segment with
    | some w => walk w rest
    | none => missing

def dotted (path : String) : List String := (Text.splitChars '.' path.toList).map String.ofList

def bracketed? (cs : List Char) : Option (List Char × List Char) :=
  match cs with
  | '[' :: rest =>
    let digits := rest.takeWhile Text.isDigit
    match rest.dropWhile Text.isDigit with
    | ']' :: after => if digits.isEmpty then none else some (digits, after)
    | _ => none
  | _ => none

theorem length_of_bracketed? {cs digits after : List Char} (h : bracketed? cs = some (digits, after)) :
    after.length < cs.length := by
  unfold bracketed? at h
  split at h
  · rename_i rest
    have hd : (rest.dropWhile Text.isDigit).length ≤ rest.length :=
      (List.dropWhile_sublist Text.isDigit).length_le
    dsimp only at h
    split at h
    · rename_i tail ht
      split at h
      · cases h
      · cases h
        rw [ht] at hd
        simp only [List.length_cons] at hd ⊢
        omega
    · cases h
  · cases h

def undoBrackets (cs : List Char) : List Char :=
  match _h : bracketed? cs with
  | some (digits, after) => '.' :: digits ++ undoBrackets after
  | none =>
    match cs with
    | [] => []
    | c :: rest => c :: undoBrackets rest
termination_by cs.length
decreasing_by
  · exact length_of_bracketed? ‹_›
  · simp

def split (path : String) : List String := dotted (String.ofList (undoBrackets path.toList))

end FlowGate.Path
