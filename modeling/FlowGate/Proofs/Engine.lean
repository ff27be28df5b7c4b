import FlowGate.Registry

-- Engines and what can be asked of their functions.

namespace FlowGate

variable {α β : Type} {b : β}

-- Steps that can fail have all succeeded where the last one has.
theorem ok_of_bind {x : Except Fault α} {f : α → Except Fault β} (h : x >>= f = .ok b) :
    ∃ a, x = .ok a ∧ f a = .ok b := by
  cases x
  case error => cases h
  case ok a  => exact ⟨a, rfl, h⟩

theorem ok_of_map {x : Except Fault α} {f : α → β} (h : x.map f = .ok b) : ∃ a, x = .ok a ∧ f a = b := by
  cases x
  case error => cases h
  case ok a  => exact ⟨a, rfl, Except.ok.inj h⟩

theorem bind_ok_iff {x : Except Fault α} {f : α → Except Fault β} :
    (∃ b, x >>= f = .ok b) ↔ ∃ a, x = .ok a ∧ ∃ b, f a = .ok b := by
  constructor
  case mp =>
    rintro ⟨b, h⟩
    obtain ⟨a, hx, h⟩ := ok_of_bind h
    exact ⟨a, hx, b, h⟩
  case mpr =>
    rintro ⟨a, rfl, b, h⟩
    exact ⟨b, h⟩

theorem Logged.ok_of_andThen {x : Logged (Except Fault α)} {f : α → Logged (Except Fault β)}
    (h : (x.andThen f).value = .ok b) : ∃ a, x.value = .ok a ∧ (f a).value = .ok b := by
  unfold andThen at h
  split at h
  case h_1 a hx => exact ⟨a, hx, h⟩
  case h_2      => cases h

-- Every registered function answers or fails; none of them keeps its caller waiting for ever.
def Registry.Answers (r : Registry) : Prop :=
  ∀ name f, r.function? name = some f → ∀ now c params, f now c params ≠ .never

-- The last of these calls is one of a function that never answers.
def Engine.Stalls (e : Engine) (c : Context) (calls : List Call) : Prop :=
  ∃ name f params, calls.getLast? = some (.function name) ∧
    e.registry.function? name = some f ∧ f e.comparer.now c params = .never

theorem Engine.Stalls.append {e : Engine} {c : Context} {calls : List Call}
    (h : e.Stalls c calls) (earlier : List Call) : e.Stalls c (earlier ++ calls) := by
  have ⟨name, f, params, hl, hf, hn⟩ := h
  exact ⟨name, f, params, by simp [List.getLast?_append, hl], hf, hn⟩

theorem validDate_newYear : Calendar.ValidDate 2024 1 1 := by decide

-- An engine that has nothing but these functions, at the first moment of a year.
def Engine.ofFunctions (functions : List (String × CustomFunction)) : Engine where
  registry := ⟨functions, [], []⟩
  comparer := ⟨.ofDate ⟨2024, 1, 1, validDate_newYear⟩, .zero⟩

theorem Engine.ofFunctions_answers {functions : List (String × CustomFunction)}
    (h : ∀ p ∈ functions, ∀ now c params, p.2 now c params ≠ .never) :
    (ofFunctions functions).registry.Answers := by
  intro name f hf
  have ⟨front, back, hs, _⟩ := List.lookup_eq_some_iff.mp hf
  have hs : functions = front ++ (name, f) :: back := hs
  exact h (name, f) (by simp [hs])

-- A context in which nothing but these variables is there.
def Context.ofVars (vars : Entries) : Context where
  trigger     := []
  vars        := vars
  executionId := .text ""
  workflowId  := .text ""
  userId      := .null
  stepIndex   := 0
  startedAt   := .null

end FlowGate
