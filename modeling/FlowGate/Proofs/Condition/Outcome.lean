import FlowGate.Condition.Evaluation
import FlowGate.Proofs.List

-- The three outcomes of a condition, and how each connective combines those of its children. The
-- children are looked at from left to right, and a fault is as good a reason to stop as any other.

namespace FlowGate

inductive Outcome
  | holds
  | fails
  | faults (errors : List String)
deriving DecidableEq

namespace Outcome

def ofBool : Bool → Outcome
  | true  => holds
  | false => fails

def ofAnswer : Except Fault Bool → Outcome
  | .ok b        => ofBool b
  | .error fault => faults [fault.message]

def truth : Outcome → Bool
  | holds => true
  | _     => false

def isFault : Outcome → Bool
  | faults _ => true
  | _        => false

def errors : Outcome → List String
  | faults errors => errors
  | _             => []

def fault? : Outcome → Option (List String)
  | faults errors => some errors
  | _             => none

def negate : Outcome → Outcome
  | holds         => fails
  | fails         => holds
  | faults errors => faults errors

-- The first outcome other than this one, if there is any.
def firstOther (o : Outcome) : List Outcome → Outcome
  | []        => o
  | p :: rest => if p = o then firstOther o rest else p

-- The first fault, or else whether exactly one holds.
def exactlyOne (os : List Outcome) : Outcome :=
  match os.findSome? fault? with
  | some errors => faults errors
  | none        => ofBool (os.countP truth == 1)

variable {b : Bool} {o : Outcome} {os : List Outcome}

theorem truth_ofBool : (ofBool b).truth = b := by
  cases b <;> rfl

theorem isFault_ofBool : (ofBool b).isFault = false := by
  cases b <;> rfl

theorem errors_ofBool : (ofBool b).errors = [] := by
  cases b <;> rfl

theorem ofBool_truth (h : o.isFault = false) : ofBool o.truth = o := by
  cases o
  case faults => cases h
  all_goals rfl

theorem eq_faults_iff {es : List String} : o = faults es ↔ o.fault? = some es := by
  cases o <;> simp [fault?]

theorem fault?_eq_none_iff : o.fault? = none ↔ o.isFault = false := by
  cases o <;> simp [fault?, isFault]

theorem findSome?_eq_none_iff : os.findSome? fault? = none ↔ ∀ o ∈ os, o.isFault = false := by
  simp only [List.findSome?_eq_none_iff, fault?_eq_none_iff]

theorem firstOther_through : firstOther o (through (· != o) os) = firstOther o os := by
  induction os
  case nil => rfl
  case cons p rest hi => by_cases h : p = o <;> simp [through, firstOther, h, hi]

theorem firstOther_append {p : Outcome} (h : ∀ q ∈ os, q = o) : firstOther o (os ++ [p]) = p := by
  induction os
  case nil => by_cases hp : p = o <;> simp [firstOther, hp]
  case cons q rest hi =>
    have ⟨hq, hr⟩ := List.forall_mem_cons.mp h
    simp [firstOther, hq, hi hr]

end Outcome

namespace Connective

open Outcome

def combine : Connective → List Outcome → Outcome
  | and, os     => firstOther holds os
  | or, os      => firstOther fails os
  | xor, os     => exactlyOne os
  | not, []     => faults [Fault.noChild.message]
  | not, o :: _ => o.negate

-- Whether the children after one with this outcome are left alone.
def settles : Connective → Outcome → Bool
  | and, o => o != holds
  | or, o  => o != fails
  | xor, o => o.isFault
  | not, _ => true

variable {k : Connective} {b : Bool} {o : Outcome} {os : List Outcome}

theorem settles_ofBool : k.settles (ofBool b) = k.decides b := by
  cases k <;> cases b <;> rfl

theorem settles_of_isFault (h : o.isFault = true) : k.settles o = true := by
  cases o
  case faults => cases k <;> rfl
  all_goals cases h

theorem isFault_of_not_settles (h : k.settles o = false) : o.isFault = false := by
  cases ho : o.isFault
  case false => rfl
  case true  => simp [settles_of_isFault ho] at h

-- Nothing but the outcomes up to the first that settles the matter counts.
theorem combine_through : k.combine (through k.settles os) = k.combine os := by
  cases k
  case and => exact firstOther_through
  case or  => exact firstOther_through
  case not => cases os <;> rfl
  case xor =>
    have hf : (through xor.settles os).findSome? fault? = os.findSome? fault? := by
      induction os
      case nil => rfl
      case cons o rest hi =>
        cases o <;> simp_all [through, settles, isFault, List.findSome?_cons, fault?]
    simp only [combine, exactlyOne, hf]
    cases h : os.findSome? fault?
    case some => rfl
    case none =>
      have h : ∀ o ∈ os, xor.settles o = false := findSome?_eq_none_iff.mp h
      rw [through_eq_self h]

-- Among outcomes without a fault a connective works as it does on truth values.
theorem combine_of_no_fault (h : ∀ o ∈ os, o.isFault = false) :
    k.combine os = ofAnswer (k.conclude (os.map truth)) := by
  cases k
  case and =>
    induction os
    case nil => rfl
    case cons o rest hi =>
      cases o <;> simp_all [combine, firstOther, conclude, ofAnswer, ofBool, truth, isFault]
  case or =>
    induction os
    case nil => rfl
    case cons o rest hi =>
      cases o <;> simp_all [combine, firstOther, conclude, ofAnswer, ofBool, truth, isFault]
  case not =>
    cases os
    case nil => rfl
    case cons o rest =>
      cases o <;> simp_all [combine, negate, conclude, ofAnswer, ofBool, truth, isFault]
  case xor =>
    have hc : os.countP truth = (os.map truth).count true := by
      simp [List.count, List.countP_map, Function.comp_def]
    simp only [combine, exactlyOne, findSome?_eq_none_iff.mpr h, conclude, ofAnswer, hc]

-- The first fault that is met is that of the whole.
theorem combine_of_fault {front : List Outcome} {es : List String}
    (h : ∀ o ∈ front, k.settles o = false) : k.combine (front ++ [faults es]) = faults es := by
  cases k
  case and => exact firstOther_append fun o hm => by simpa [settles] using h o hm
  case or  => exact firstOther_append fun o hm => by simpa [settles] using h o hm
  case not =>
    cases front
    case nil         => rfl
    case cons o rest => cases h o (by simp)
  case xor =>
    have hf : (front ++ [faults es]).findSome? fault? = some es := by
      simp [List.findSome?_append, findSome?_eq_none_iff.mpr h, fault?]
    simp only [combine, exactlyOne, hf]

-- A fault among the outcomes that count is the last of them, since nothing is looked at after it.
theorem through_of_fault {es : List String}
    (h : (through k.settles os).findSome? fault? = some es) :
    ∃ front, through k.settles os = front ++ [faults es] ∧ (∀ o ∈ front, o.isFault = false) ∧
      k.combine os = faults es := by
  cases through_cases k.settles os
  case inl hu =>
    have ⟨hu, ht⟩ := hu
    rw [ht, findSome?_eq_none_iff.mpr fun o hm => isFault_of_not_settles (hu o hm)] at h
    cases h
  case inr hu =>
    have ⟨front, last, _, _, hu, _, ht⟩ := hu
    have hf : ∀ o ∈ front, o.isFault = false := fun o hm => isFault_of_not_settles (hu o hm)
    have hl : last = faults es := by
      simpa [ht, List.findSome?_append, findSome?_eq_none_iff.mpr hf, ← eq_faults_iff] using h
    rw [← combine_through, ht, hl]
    exact ⟨front, rfl, hf, combine_of_fault hu⟩

-- Only a fault among the children makes a connective with children fault.
theorem isFault_combine (hne : os ≠ []) (h : ∀ o ∈ os, o.isFault = false) :
    (k.combine os).isFault = false := by
  rw [combine_of_no_fault h]
  cases k
  case not =>
    cases os
    case nil  => exact absurd rfl hne
    case cons => exact isFault_ofBool
  all_goals exact isFault_ofBool

end Connective

end FlowGate
