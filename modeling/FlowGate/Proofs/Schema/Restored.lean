import Mathlib.Data.List.Forall2
import FlowGate.Proofs.Schema.Parsed

-- Readers beside writers. A reader restores what is written if it reads it back, not whatever the writer can
-- write, but all that the reader has given. Records are restored field by field.

namespace FlowGate.Schema

open Value Parsed

variable {α β : Type} {a : α} {r : Reader α} {w : α → Value}

def Restores (r : Reader α) (w : α → Value) : Prop :=
  ∀ ⦃v a⦄, r v = .done a → r (w a) = .done a

theorem text_restores : Restores Schema.text Value.text :=
  fun _ _ _ => rfl

theorem nonEmptyText_restores : Restores nonEmptyText Value.text := by
  intro v s h
  have ⟨_, hs⟩ := nonEmptyText_eq_done.mp h
  exact nonEmptyText_eq_done.mpr ⟨rfl, hs⟩

theorem whole_restores : Restores whole Value.int :=
  fun _ _ _ => rfl

theorem natural_restores : Restores natural fun n => Value.int n := by
  intro v n _
  have hn : ¬(n : Int) < 0 := by omega
  simp [natural, whole, Parsed.bind, hn]

theorem truth_restores : Restores truth Value.bool :=
  fun _ _ _ => rfl

theorem word_restores {words : List α} {name : α → String} :
    Restores (word words name) fun a => Value.text (name a) := by
  intro v a h
  unfold word at h
  dsimp only at h
  split at h
  case h_2 => exact absurd h problem_ne_done
  case h_1 b hb =>
    cases h
    split at hb
    case h_2 => cases hb
    case h_1 s =>
      have hn : name a = s := by simpa using List.find?_some hb
      simp only [word, hn, hb]

theorem mapping_restores : Restores mapping Value.map := by
  intro v entries h
  unfold mapping at h
  split at h
  case h_2 => exact absurd h problem_ne_done
  case h_1 es =>
    split at h
    case h_1 hk => cases h; simp [mapping, hk]
    case h_2    => cases h

-- What may be absent is written as null, which nothing else is written as.
theorem optional_restores (hr : Restores r w) (hn : ∀ a, w a ≠ null) :
    Restores (optional r) fun a => (a.map w).getD null := by
  intro v a h
  cases a
  case none => rfl
  case some a =>
    unfold optional at h
    split at h
    case h_1 => cases h
    case h_2 =>
      obtain ⟨a, ha, h⟩ := map_eq_done.mp h
      cases h
      change optional r (w a) = _
      unfold optional
      split
      case h_1 h => exact absurd h (hn a)
      case h_2   => exact map_eq_done.mpr ⟨a, hr ha, rfl⟩

theorem optionalText_restores : Restores (optional Schema.text) optionalText :=
  optional_restores text_restores nofun

theorem optionalWord_restores {words : List α} {name : α → String} :
    Restores (optional (word words name)) fun a => optionalText (a.map name) := by
  intro v a h
  have h := optional_restores word_restores nofun h
  cases a <;> exact h

theorem items_iff {i : Nat} {vs : List Value} {as : List α} :
    items r i vs = .done as ↔ List.Forall₂ (fun v a => r v = .done a) vs as := by
  induction vs generalizing i as <;> simp only [items, seq_eq_done, map_eq_done]
  case nil =>
    constructor
    · rintro ⟨⟩
      exact .nil
    · rintro ⟨⟩
      rfl
  case cons v rest hi =>
    constructor
    · rintro ⟨_, ⟨a, ha, rfl⟩, as, has, rfl⟩
      exact .cons (under_eq_done.mp ha) (hi.mp has)
    · rintro (_ | ⟨ha, has⟩)
      exact ⟨_, ⟨_, under_eq_done.mpr ha, rfl⟩, _, hi.mpr has, rfl⟩

theorem listOf_iff {v : Value} {as : List α} : listOf r v = .done as ↔
    ∃ vs, v = .list vs ∧ List.Forall₂ (fun v a => r v = .done a) vs as := by
  unfold listOf
  split
  case h_1 vs => simp [items_iff]
  case h_2 h  => simpa [problem_ne_done] using fun vs hv => absurd hv (h vs)

theorem texts_restores : Restores (listOf Schema.text) texts := by
  intro v as h
  exact listOf_iff.mpr ⟨_, rfl, List.forall₂_map_left_iff.mpr (List.forall₂_same.mpr fun _ _ => rfl)⟩

-- A list is read back if its members are.
theorem listOf_done {as : List α} (h : ∀ a ∈ as, r (w a) = .done a) :
    listOf r (.list (as.map w)) = .done as := by
  refine listOf_iff.mpr ⟨_, rfl, ?_⟩
  rw [List.forall₂_map_left_iff]
  exact List.forall₂_same.mpr h

theorem listOf_restores (hr : Restores r w) : Restores (listOf r) fun as => .list (as.map w) :=
  fun _ _ h => listOf_done fun a hm =>
    have ⟨_, ha⟩ := listOf_eq_done h a hm
    hr ha

section Fields

variable {entries : Entries} {names : List String} {d : α} {name : String}

-- What is given under one of these names, or another value if nothing is.
def held (entries : Entries) (names : List String) (default : Value) : Value :=
  match given? entries names with
  | some (_, v) => v
  | none        => default

theorem held_of_given {v default : Value} (h : given? entries names = some (name, v)) :
    held entries names default = v := by
  simp [held, h]

-- A field that is left out is as good as one that holds what is written for its default.
theorem defaulted_iff {default : Value} (hd : r default = .done d) :
    defaulted entries names d r = .done a ↔ r (held entries names default) = .done a := by
  cases h : given? entries names
  case none => simp [defaulted, held, h, hd]
  case some => simp [defaulted, held, h, under_eq_done]

theorem required_iff (hm : ∀ a, r missing ≠ .done a) :
    required entries names r = .done a ↔ r (held entries names missing) = .done a := by
  cases h : given? entries names
  case none => simp [required, held, h, under_eq_done, problem_ne_done, hm]
  case some => simp [required, held, h, under_eq_done]

-- The members of a record are read apart from its other fields, and under two names.
theorem members_iff {x y : Option (Parsed (List α))} {m n : String} {as : List α}
    (hx : x = (Entries.get? entries m).map fun v => (listOf r v).under (.key m))
    (hy : y = (Entries.get? entries n).map fun v => (listOf r v).under (.key n)) :
    (x <|> y).getD (.done []) = .done as ↔ listOf r (held entries [m, n] (.list [])) = .done as := by
  subst hx hy
  cases hm : Entries.get? entries m
  case some v => simp [held, given?, hm, under_eq_done]
  case none =>
    cases hn : Entries.get? entries n
    case some v => simp [held, given?, hm, hn, under_eq_done]
    case none   => simp [held, given?, hm, hn, listOf, items]

end Fields

end FlowGate.Schema
