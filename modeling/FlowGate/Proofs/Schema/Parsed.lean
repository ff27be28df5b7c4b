import FlowGate.Schema.Reader

-- What it takes for a reader to succeed. A record is read field by field, so each lemma takes one
-- combinator apart and leaves a statement about the parts that it was given.

namespace FlowGate.Schema

open Value

namespace Parsed

variable {α β : Type} {a : α} {b : β} {p : Problem} {step : Step}

theorem map_eq_done {f : α → β} {x : Parsed α} : (f <$> x) = done b ↔ ∃ a, x = done a ∧ f a = b := by
  cases x <;> simp [Functor.map, Parsed.map]

theorem seq_eq_done {f : Parsed (α → β)} {x : Parsed α} :
    (f <*> x) = done b ↔ ∃ g, f = done g ∧ ∃ a, x = done a ∧ g a = b := by
  cases f <;> cases x <;> simp [Seq.seq, Parsed.seq]

theorem bind_eq_done {f : α → Parsed β} {x : Parsed α} :
    x.bind f = done b ↔ ∃ a, x = done a ∧ f a = done b := by
  cases x <;> simp [Parsed.bind]

theorem under_eq_done {x : Parsed α} : x.under step = done a ↔ x = done a := by
  cases x <;> simp [under]

theorem problem_ne_done : problem p ≠ done a :=
  nofun

end Parsed

open Parsed

variable {α : Type} {a d : α} {entries : Entries} {names : List String} {r : Reader α}

theorem text_eq_done {v : Value} {s : String} : Schema.text v = .done s ↔ v = .text s := by
  unfold Schema.text
  split
  case h_1     => simp
  case h_2 h   => simpa [problem_ne_done] using h s

theorem nonEmptyText_eq_done {v : Value} {s : String} :
    nonEmptyText v = .done s ↔ v = .text s ∧ s ≠ "" := by
  simp only [nonEmptyText, bind_eq_done, text_eq_done]
  constructor
  case mp =>
    intro ⟨t, hv, h⟩
    split at h
    case isTrue       => exact absurd h problem_ne_done
    case isFalse hne  => cases h; exact ⟨hv, by simpa using hne⟩
  case mpr =>
    intro ⟨hv, hne⟩
    exact ⟨s, hv, by simp [hne]⟩

theorem required_eq_done (h : required entries names r = .done a) : ∃ v, r v = .done a := by
  unfold required at h
  split at h
  case h_1 _ v _ => exact ⟨v, under_eq_done.mp h⟩
  case h_2       => exact absurd (under_eq_done.mp h) problem_ne_done

theorem defaulted_eq_done (h : defaulted entries names d r = .done a) : a = d ∨ ∃ v, r v = .done a := by
  unfold defaulted at h
  split at h
  case h_1 _ v _ => exact .inr ⟨v, under_eq_done.mp h⟩
  case h_2       => cases h; exact .inl rfl

theorem items_eq_done {vs : List Value} {as : List α} {i : Nat} (h : items r i vs = .done as) :
    ∀ a ∈ as, ∃ v, r v = .done a := by
  induction vs generalizing as i <;> simp only [items, seq_eq_done, map_eq_done] at h
  case nil => cases h; simp
  case cons v vs hi =>
    obtain ⟨_, ⟨a, ha, rfl⟩, rest, hr, rfl⟩ := h
    intro b hb
    cases List.mem_cons.mp hb
    case inl hb => exact ⟨v, hb ▸ under_eq_done.mp ha⟩
    case inr hb => exact hi hr b hb

theorem listOf_eq_done {v : Value} {as : List α} (h : listOf r v = .done as) :
    ∀ a ∈ as, ∃ v, r v = .done a := by
  unfold listOf at h
  split at h
  case h_1 => exact items_eq_done h
  case h_2 => exact absurd h problem_ne_done

theorem fields_eq_done {model : String} {f : Entries → Parsed α} {v : Value}
    (h : fields model f v = .done a) : ∃ entries, f entries = .done a := by
  unfold fields at h
  split at h
  case h_1 entries => exact ⟨entries, h⟩
  case h_2         => exact absurd h problem_ne_done

theorem newId_ne_empty (kind : String) : newId kind ≠ "" := by
  simp [newId]

end FlowGate.Schema
