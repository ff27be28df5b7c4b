import FlowGate.Value.Basic

-- The keys of mappings. A key that is put in finds its place under any key that counts the same,
-- and no other key comes or goes.

namespace FlowGate.Entries

variable {es fs base other : Entries} {k key : Scalar} {v w : Value} {name different : String}

def keys (es : Entries) : List Scalar :=
  es.map (·.1)

-- A key is there if it is, or another that counts the same.
def Has (es : Entries) (k : Scalar) : Prop :=
  ∃ k' ∈ keys es, k' = k ∨ k'.same k = true

theorem Has.mono {fs : Entries} (h : Has es k) (hs : keys es ⊆ keys fs) : Has fs k :=
  have ⟨k', hm, hk⟩ := h
  ⟨k', hs hm, hk⟩

theorem keys_insert (es : Entries) (key : Scalar) (v : Value) :
    keys (insert es key v) = keys es ∨ keys (insert es key v) = keys es ++ [key] := by
  induction es <;> simp only [keys, insert, List.map_nil, List.map_cons]
  case nil => exact .inr rfl
  case cons e rest hi =>
    split
    case isTrue => exact .inl rfl
    case isFalse =>
      cases hi
      case inl h => exact .inl (congrArg (e.1 :: ·) h)
      case inr h => exact .inr (congrArg (e.1 :: ·) h)

theorem mem_keys_of_insert (h : k ∈ keys (insert es key v)) : k ∈ keys es ∨ k = key := by
  cases keys_insert es key v <;> simp_all

-- A text is the only key that counts the same as it.
theorem same_text_iff : k.same (.text name) = true ↔ k = .text name := by
  cases k <;> simp [Scalar.same, Scalar.numericOrder?, Scalar.countsAs]

theorem get?_append : get? (es ++ fs) name = (get? es name).or (get? fs name) := by
  simp only [get?, find?, List.find?_append, Option.map_or]

theorem get?_cons_self : get? ((.text name, v) :: es) name = some v := by
  simp [get?, find?, Scalar.same]

theorem get?_cons_of_ne (h : name ≠ different) : get? ((.text name, v) :: es) different = get? es different := by
  simp [get?, find?, Scalar.same, h]

theorem get?_eq_none (h : ∀ e ∈ es, e.1 ≠ .text name) : get? es name = none := by
  simp only [get?, find?, Option.map_eq_none_iff, List.find?_eq_none, same_text_iff]
  exact h

theorem mem_of_get? (h : get? es name = some v) : (.text name, v) ∈ es := by
  obtain ⟨e, he, rfl⟩ := Option.map_eq_some_iff.mp h
  have hs := List.find?_some he
  have hk : e.1 = .text name := same_text_iff.mp hs
  exact hk ▸ List.mem_of_find?_eq_some he

theorem get?_of_mem (hd : es.keys.Nodup) (h : (.text name, v) ∈ es) : get? es name = some v := by
  induction es
  case nil => cases h
  case cons e rest hi =>
    have ⟨hn, hd⟩ := List.nodup_cons.mp hd
    cases List.mem_cons.mp h
    case inl h => exact h ▸ get?_cons_self
    case inr h =>
      have hm : .text name ∈ keys rest := List.mem_map_of_mem h
      have hk : e.1 ≠ .text name := by
        intro hk
        rw [← hk] at hm
        exact hn hm
      have he : get? (e :: rest) name = get? rest name := by
        simp [get?, find?, mt same_text_iff.mp hk]
      rw [he, hi hd h]

theorem get?_eq_none_iff : get? es name = none ↔ .text name ∉ es.keys where
  mp h hm := by
    obtain ⟨e, he, hk⟩ := List.mem_map.mp hm
    simp only [get?, find?, Option.map_eq_none_iff, List.find?_eq_none, same_text_iff] at h
    exact h e he hk
  mpr h := get?_eq_none fun _ he hk => h (hk ▸ List.mem_map_of_mem he)

end FlowGate.Entries
