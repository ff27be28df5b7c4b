import FlowGate.Json.Printer
import FlowGate.Proofs.Engine
import FlowGate.Proofs.List
import Mathlib.Data.List.Basic

-- What the document of a value consists of: the documents of the values in it, in their order or in
-- that of their keys, with commas between them.

namespace FlowGate

namespace Value

-- A property that a value has as soon as the values in it have it.
structure Hereditary (P : Value → Prop) : Prop where
  scalar : ∀ s, P (.scalar s)
  list   : ∀ xs, (∀ x ∈ xs, P x) → P (.list xs)
  map    : ∀ es : Entries, (∀ e ∈ es, P e.2) → P (.map es)

variable {P : Value → Prop}

mutual

theorem Hereditary.holds (h : Hereditary P) : ∀ v, P v
  | .scalar s => h.scalar s
  | .list xs  => h.list xs (h.holds_items xs)
  | .map es   => h.map es (h.holds_entries es)

theorem Hereditary.holds_items (h : Hereditary P) : ∀ xs : List Value, ∀ x ∈ xs, P x
  | []        => List.forall_mem_nil _
  | x :: rest => List.forall_mem_cons.mpr ⟨h.holds x, h.holds_items rest⟩

theorem Hereditary.holds_entries (h : Hereditary P) : ∀ es : Entries, ∀ e ∈ es, P e.2
  | []             => List.forall_mem_nil _
  | (_, v) :: rest => List.forall_mem_cons.mpr ⟨h.holds v, h.holds_entries rest⟩

end

end Value

namespace Json

variable {style : Style} {t : String} {ts : List String} {xs : List Value} {es : Entries}

abbrev Member := Scalar × String × String

def joined (pieces : List (List Char)) : List Char :=
  [',', ' '].intercalate pieces

def Member.chars (m : Member) : List Char :=
  (Text.quoted m.2.1).toList ++ ':' :: ' ' :: m.2.2.toList

-- The members of a mapping in the order in which they are written.
def arranged (style : Style) (ms : List Member) : List Member :=
  if style.sortKeys then ms.mergeSort fun a b => keyOrder? a.1 b.1 != some .gt else ms

theorem arranged_perm (ms : List Member) : (arranged style ms).Perm ms := by
  unfold arranged
  split
  case isTrue  => exact List.mergeSort_perm ..
  case isFalse => exact .refl _

-- A member as it is written for an entry.
structure Writes (style : Style) (e : Scalar × Value) (m : Member) : Prop where
  key   : m.1 = e.1
  name  : keyText e.1 = .ok m.2.1
  value : write style e.2 = .ok m.2.2

theorem writeItems_eq_ok_iff :
    writeItems style xs = .ok ts ↔ List.Forall₂ (fun x t => write style x = .ok t) xs ts := by
  induction xs generalizing ts
  case nil => cases ts <;> simp [writeItems]
  case cons x rest hi =>
    rw [writeItems]
    constructor
    case mp =>
      intro h
      have ⟨t, ht, h⟩ := ok_of_bind h
      have ⟨ts, hts, h⟩ := ok_of_bind h
      cases h
      exact .cons ht (hi.mp hts)
    case mpr =>
      intro h
      cases h
      case cons ht hts =>
        rw [ht, hi.mpr hts]
        rfl

theorem writeMembers_eq_ok_iff {ms : List Member} :
    writeMembers style es = .ok ms ↔ List.Forall₂ (Writes style) es ms := by
  induction es generalizing ms
  case nil => cases ms <;> simp [writeMembers]
  case cons e rest hi =>
    rw [writeMembers]
    constructor
    case mp =>
      intro h
      have ⟨name, hn, h⟩ := ok_of_bind h
      have ⟨t, ht, h⟩ := ok_of_bind h
      have ⟨ms, hms, h⟩ := ok_of_bind h
      cases h
      exact .cons ⟨rfl, hn, ht⟩ (hi.mp hms)
    case mpr =>
      intro h
      cases h
      case cons m ms hm hms =>
        rw [hm.name, hm.value, hi.mpr hms, ← hm.key]
        rfl

theorem write_list :
    write style (.list xs) = .ok t ↔ ∃ ts, List.Forall₂ (fun x t => write style x = .ok t) xs ts ∧
      t.toList = '[' :: joined (ts.map String.toList) ++ [']'] := by
  have hl (ts : List String) : ("[" ++ ", ".intercalate ts ++ "]").toList =
      '[' :: joined (ts.map String.toList) ++ [']'] := by simp [joined]
  simp only [← writeItems_eq_ok_iff, ← hl, String.toList_inj, write]
  cases writeItems style xs <;> simp [Except.map, eq_comm]

theorem object_eq_ok_iff {ms : List Member} :
    object style ms = .ok t ↔ (style.sortKeys = true → sortable (ms.map (·.1)) = true) ∧
      t.toList = '\x7b' :: joined ((arranged style ms).map Member.chars) ++ ['\x7d'] := by
  have hl (ms : List Member) :
      ("\x7b" ++ ", ".intercalate (ms.map fun m => Text.quoted m.2.1 ++ ": " ++ m.2.2) ++
        "\x7d").toList = '\x7b' :: joined (ms.map Member.chars) ++ ['\x7d'] := by
    simp [joined, Function.comp_def]
    rfl
  rw [← hl, String.toList_inj, object, arranged]
  cases style.sortKeys <;> cases sortable (ms.map (·.1)) <;> simp [eq_comm]

theorem write_map :
    write style (.map es) = .ok t ↔ ∃ ms, List.Forall₂ (Writes style) es ms ∧
      (style.sortKeys = true → sortable (ms.map (·.1)) = true) ∧
      t.toList = '\x7b' :: joined ((arranged style ms).map Member.chars) ++ ['\x7d'] := by
  simp only [← object_eq_ok_iff, ← writeMembers_eq_ok_iff, write]
  cases writeMembers style es <;> simp [Except.bind]

end Json

end FlowGate
