import FlowGate.Proofs.List
import FlowGate.Proofs.Schema.RoundTrip

-- The free values of a configuration: what fields are compared with, what functions are called with, and what
-- branches set. They are taken as they are given, and written as they were taken.

namespace FlowGate

open Value Schema Parsed

variable {v : Value}

-- What a mapping holds under one of these names, or another value if it holds nothing there.
def part (v : Value) (names : List String) (default : Value) : Value :=
  match v with
  | .map entries => held entries names default
  | _            => default

theorem forall₂_of_listOf {α : Type} {r : Reader α} {R : Value → α → Prop} {as : List α}
    (h : listOf r v = .done as) (hr : ∀ a ∈ as, ∀ v, r v = .done a → R v a) :
    ∃ vs, v = list vs ∧ List.Forall₂ R vs as := by
  have ⟨vs, hv, h⟩ := listOf_iff.mp h
  exact ⟨vs, hv, forall₂_of_mem h fun v _ a ha h => hr a ha v h⟩

-- What holds of whatever a reader reads, holds of what it reads in a place that may be empty.
theorem of_optional {α : Type} {r : Reader α} {R : Value → α → Prop} {o : Option α}
    (h : optional r v = .done o) (hr : ∀ a, r v = .done a → R v a) : ∀ a, o = some a → R v a := by
  rintro a rfl
  unfold Schema.optional at h
  split at h
  case h_1 => cases h
  case h_2 =>
    obtain ⟨_, ha, h⟩ := map_eq_done.mp h
    cases h
    exact hr a ha

def Transformation.Carries (v : Value) (t : Transformation) : Prop :=
  part v ["params"] (map []) = map t.params

structure Filter.Carries (v : Value) (f : Filter) : Prop where
  value  : part v ["value"] null = f.value
  params : ∀ t, f.transformation = some t → t.Carries (part v ["transformation"] null)

inductive FilterGroup.Carries : Value → FilterGroup → Prop
  | intro {v : Value} {g : FilterGroup} {vs us : List Value}
    (filters   : part v ["filters"] (list []) = list vs)
    (own       : List.Forall₂ Filter.Carries vs g.filters)
    (subGroups : part v ["sub_groups", "subGroups"] (list []) = list us)
    (below     : List.Forall₂ Carries us g.subGroups) : Carries v g

inductive Condition.Carries : Value → Condition → Prop
  | simple {v value : Value} {header field operator} (h : part v ["value"] null = value) :
    Carries v (.simple header field operator value)
  | complex {v : Value} {header operator cs stray} {vs : List Value}
    (children : part v ["children", "conditions"] (list []) = list vs)
    (each     : List.Forall₂ Carries vs cs) : Carries v (.complex header operator cs stray)
  | filter {v : Value} {header} {g : FilterGroup} (h : g.Carries (part v ["group"] missing)) :
    Carries v (.filter header (.known g))
  | custom {v value : Value} {header function} (h : part v ["value"] null = value) :
    Carries v (.custom header function value)

def Branch.Carries (v : Value) (b : Branch) : Prop :=
  part v ["setVariables", "set_variables"] (map []) = map b.setVariables

-- The free values of this configuration are those that this value holds in their places.
structure Action.Carries (v : Value) (a : Action) : Prop where
  conditions : ∃ vs, part v ["conditions"] (list []) = list vs ∧
    List.Forall₂ Condition.Carries vs a.conditions
  filters    : ∃ vs, part v ["filters"] (list []) = list vs ∧
    List.Forall₂ FilterGroup.Carries vs a.filters
  onTrue     : ∃ b, a.onTrue = .known b ∧ b.Carries (part v ["onTrue", "on_true"] missing)
  onFalse    : ∀ b, a.onFalse = some b → b.Carries (part v ["onFalse", "on_false"] null)
  onError    : ∀ b, a.onError = some b → b.Carries (part v ["onError", "on_error"] null)

theorem mapping_eq_done {entries : Entries} (h : mapping v = .done entries) : v = .map entries := by
  unfold mapping at h
  split at h
  case h_2 => exact absurd h problem_ne_done
  case h_1 =>
    split at h
    case h_1 => cases h; rfl
    case h_2 => cases h

theorem eq_map_of_fields {α : Type} {model : String} {f : Entries → Parsed α} {a : α}
    (h : fields model f v = .done a) : ∃ entries, v = .map entries ∧ f entries = .done a := by
  unfold fields at h
  split at h
  case h_1 entries => exact ⟨entries, rfl, h⟩
  case h_2         => exact absurd h problem_ne_done

theorem Transformation.carries_of_read {t : Transformation} (h : read v = .done t) : t.Carries v := by
  obtain ⟨entries, rfl, h⟩ := eq_map_of_fields h
  exact mapping_eq_done (ofFields_iff.mp h).params

theorem Filter.carries_of_read {f : Filter} (h : read v = .done f) : f.Carries v := by
  obtain ⟨entries, rfl, h⟩ := eq_map_of_fields h
  obtain ⟨_, _, _, _, value, _, _, _, transformation⟩ := ofFields_iff.mp h
  exact ⟨value, of_optional transformation fun _ => Transformation.carries_of_read⟩

theorem FilterGroup.carries_of_read {g : FilterGroup} (h : read v = .done g) : g.Carries v := by
  induction g using bySubGroups generalizing v
  case node g hi =>
    obtain ⟨entries, rfl, _, _, _, _, filters, subGroups, _, _⟩ := read_done h
    obtain ⟨vs, hvs, own⟩ := forall₂_of_listOf filters fun _ _ _ => Filter.carries_of_read
    obtain ⟨us, hus, below⟩ := forall₂_of_listOf subGroups fun s hm _ => hi s hm
    exact .intro hvs own hus below

theorem Condition.carries_of_read {condition : Condition} (h : read v = .done condition) :
    condition.Carries v := by
  induction condition using byChildren generalizing v
  case node condition hi =>
    obtain ⟨entries, rfl, hr⟩ := read_done h
    cases hr
    case simple value => exact .simple value
    case complex children _ =>
      obtain ⟨vs, hvs, each⟩ := forall₂_of_listOf children fun child hm _ => hi child hm
      exact .complex hvs each
    case filter group => exact .filter (FilterGroup.carries_of_read group)
    case custom value => exact .custom value

theorem Branch.carries_of_read {b : Branch} (h : read v = .done b) : b.Carries v := by
  obtain ⟨entries, rfl, h⟩ := eq_map_of_fields h
  exact mapping_eq_done (ofFields_iff.mp h).setVariables

namespace Action

variable {a : Action}

theorem carries_of_read (h : read v = .done a) : a.Carries v := by
  obtain ⟨entries, rfl, _, _, _, conditions, filters, onTrue, onFalse, onError, _⟩ := read_done h
  exact {
    conditions := forall₂_of_listOf conditions fun _ _ _ => Condition.carries_of_read
    filters    := forall₂_of_listOf filters fun _ _ _ => FilterGroup.carries_of_read
    onTrue     := ⟨_, rfl, Branch.carries_of_read onTrue⟩
    onFalse    := of_optional onFalse fun _ => Branch.carries_of_read
    onError    := of_optional onError fun _ => Branch.carries_of_read
  }

theorem read_dump (h : read v = .done a) :
    read a.dump = .done a ∧ (dump <$> read a.dump) = .done a.dump ∧ a.Carries v ∧ a.Carries a.dump := by
  have hd := read_restores h
  refine ⟨hd, ?_, carries_of_read h, carries_of_read hd⟩
  rw [hd]
  rfl

-- A configuration in which every part is given under the other of its names, and numbers and truth values are
-- written as texts.
def aliasedRaw : Value := record [
  ("conditions", list [record [
    ("kind", text "complex"), ("operator", text "and"), ("conditions", list [
      record [("kind", text "simple"), ("field", text "x"), ("operator", text "in"),
        ("value", list [null, map [(.text "a", double .nan)]])],
      record [("kind", text "custom"), ("customFunction", text "asked"),
        ("value", map [(.text "timezone", text "{{user.zone}}")])],
      record [("kind", text "filter"), ("metadata", record [("priority", text " +1_0 ")]),
        ("group", record [("sub_groups", list [record []])])]])]]),
  ("filters", list [record [("operator", text "or"), ("filters", list [record [
    ("field", text "y"), ("operator", text "exists"), ("enabled", text "Yes"),
    ("validation", record [("min_length", text "3"), ("data_type", text "string")]),
    ("transformation", record [("type", text "custom"), ("custom_function", text "shorten"),
      ("params", map [(.text "to", int 3)])])]])]]),
  ("on_true", record [("action_ids", list [text "go"]), ("set_variables", map [(.text "done", bool true)])]),
  ("on_false", null),
  ("options", record [("evaluation_mode", text "any"), ("timeout_ms", text "50")])]

theorem aliased_restored : ∃ a, read aliasedRaw = .done a ∧ read a.dump = .done a ∧
    a.Carries aliasedRaw ∧ a.Carries a.dump := by
  have ⟨a, h⟩ : ∃ a, read aliasedRaw = .done a := ⟨_, rfl⟩
  have ⟨hr, _, hc, hd⟩ := read_dump h
  exact ⟨a, h, hr, hc, hd⟩

end Action

end FlowGate
