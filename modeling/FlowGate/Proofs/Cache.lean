import FlowGate.Cache

-- What is in a cache. Looking up brings nothing in, and putting brings in one entry, which is there
-- afterwards.

namespace FlowGate.Cache

variable {α : Type} {cache : Cache α} {key : String} {a : α} {entry : String × α}

theorem mem_of_find? (h : cache.find? key = some a) : (key, a) ∈ cache.entries := by
  have ⟨front, back, hs, _⟩ := List.lookup_eq_some_iff.mp h
  simp [hs]

theorem mem_of_get (h : entry ∈ (cache.get key).2.entries) : entry ∈ cache.entries := by
  unfold get at h
  split at h
  case h_2 => exact h
  case h_1 a hf =>
    cases List.mem_append.mp h
    case inl h => exact (List.mem_filter.mp h).left
    case inr h => exact List.mem_singleton.mp h ▸ mem_of_find? hf

theorem mem_of_set (h : entry ∈ (cache.set key a).entries) :
    entry ∈ cache.entries ∨ entry = (key, a) := by
  cases List.mem_append.mp (List.mem_of_mem_drop h)
  case inl h => exact .inl (List.mem_filter.mp h).left
  case inr h => exact .inr (List.mem_singleton.mp h)

theorem without_without (es : List (String × α)) (key : String) :
    without (without es key) key = without es key := by
  simp [without, List.filter_filter]

theorem without_append (es : List (String × α)) (key : String) (a : α) :
    without (es ++ [(key, a)]) key = without es key := by
  simp [without]

theorem lookup_without_drop (es : List (String × α)) (key : String) (n : Nat) :
    ((without es key).drop n).lookup key = none := by
  refine List.lookup_eq_none_iff.mpr fun entry hm => ?_
  have h := (List.mem_filter.mp (List.mem_of_mem_drop hm)).right
  simpa using (bne_iff_ne.mp h).symm

-- There is room for one entry at least, so the one that is put in stays.
theorem set_entries (cache : Cache α) (key : String) (a : α) :
    ∃ n, (cache.set key a).entries = (without cache.entries key).drop n ++ [(key, a)] ∧
      (cache.set key a).evictions = cache.evictions + n := by
  have hc := cache.capacity_pos
  refine ⟨(without cache.entries key ++ [(key, a)]).length - cache.capacity, ?_, rfl⟩
  refine List.drop_append_of_le_length ?_
  rw [List.length_append, List.length_singleton]
  omega

theorem find?_set : (cache.set key a).find? key = some a := by
  have ⟨n, hs, _⟩ := set_entries cache key a
  rw [find?, hs, List.lookup_append, lookup_without_drop]
  simp

theorem find?_get : (cache.get key).2.find? key = cache.find? key := by
  unfold get
  split
  case h_1 a hf =>
    have hn := lookup_without_drop cache.entries key 0
    rw [List.drop_zero] at hn
    rw [hf, find?, List.lookup_append, hn]
    simp
  case h_2 => rfl

-- What a single look-up may change. It is counted, and the entries under other keys keep their values and
-- their order. If some of them go, they are those that were touched least recently.
structure Touches (key : String) (cache cache' : Cache α) : Prop where
  counted : cache'.hits + cache'.misses = cache.hits + cache.misses + 1
  others  : ∃ n, without cache'.entries key = (without cache.entries key).drop n ∧
    cache'.evictions = cache.evictions + n

theorem get_touches : Touches key cache (cache.get key).2 := by
  unfold get
  split
  case h_1 a _ =>
    refine ⟨Nat.add_right_comm .., 0, ?_, rfl⟩
    rw [without_append, without_without, List.drop_zero]
  case h_2 => exact ⟨rfl, 0, rfl, rfl⟩

theorem Touches.set {cache' : Cache α} (h : Touches key cache cache') (a : α) :
    Touches key cache (cache'.set key a) := by
  have ⟨n, hw, he⟩ := h.others
  have ⟨m, hs, hm⟩ := set_entries cache' key a
  refine ⟨h.counted, n + m, ?_, by rw [hm, he, Nat.add_assoc]⟩
  rw [hs, without_append, hw, List.drop_drop]
  refine List.filter_eq_self.mpr fun entry hm => ?_
  exact (List.mem_filter.mp (List.mem_of_mem_drop hm)).right

end FlowGate.Cache
