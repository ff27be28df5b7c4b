import FlowGate.Proofs.Gate.Recording

-- What a store in memory tells of a workflow: the newest of its records, the newest first.

namespace FlowGate.AuditStore

open Value

variable {α : Type} {n : Nat} {saved found found' : List α}

-- Hands records to a store, one after the other.
def saveAll (s : AuditStore) (rs : List AuditRecord) : Except Fault AuditStore := rs.foldlM save s

theorem saveAll_memory (kept rs : List AuditRecord) :
    (memory kept).saveAll rs = .ok (memory (kept ++ rs)) := by
  induction rs generalizing kept
  case nil =>
    rw [List.append_nil]
    rfl
  case cons r rest hi =>
    have hsave : (memory kept).saveAll (r :: rest) = (memory (kept ++ [r])).saveAll rest := rfl
    rw [hsave, hi, List.append_assoc, List.singleton_append]

-- So many of what was saved: the last of it, backwards.
structure Newest (n : Nat) (saved found : List α) : Prop where
  length : found.length = n
  last   : found.reverse <:+ saved

-- There is one way to take them.
theorem Newest.unique (h : Newest n saved found) (h' : Newest n saved found') : found = found' := by
  have hl : found.reverse.length = found'.reverse.length := by simp [h.length, h'.length]
  have hs : found.reverse <:+ found'.reverse := List.suffix_of_suffix_length_le h.last h'.last hl.le
  exact List.reverse_inj.mp (hs.eq_of_length hl)

theorem newest_pos {limit : Nat} (xs : List α) (h : 0 < limit) :
    Newest (min limit xs.length) xs (newest limit xs).reverse := by
  have hd : newest limit xs = xs.drop (xs.length - limit) := if_pos (Int.natCast_pos.mpr h)
  rw [hd]
  refine ⟨?_, by simpa using List.drop_suffix ..⟩
  rw [List.length_reverse, List.length_drop]
  omega

-- A limit of zero leaves nothing out.
theorem newest_zero (xs : List α) : Newest xs.length xs (newest 0 xs).reverse :=
  ⟨List.length_reverse, by simp [newest]⟩

-- The records of a workflow in the order in which they were saved.
def ofOne (id : Value) (rs : List AuditRecord) : List AuditRecord := rs.filter fun r => r.workflowId.same id

-- What is told of a workflow if these records were saved and at most so many are wanted.
structure Tells (rs : List AuditRecord) (id : Value) (limit : Nat) (found : List AuditRecord) : Prop where
  own     : ∀ r ∈ found, r.workflowId.same id = true
  named   : ∀ name, id = text name → ∀ r ∈ found, r.workflowId = text name
  newest  : 0 < limit → Newest (min limit (ofOne id rs).length) (ofOne id rs) found
  bounded : 0 < limit → found.length ≤ limit
  whole   : limit = 0 → Newest (ofOne id rs).length (ofOne id rs) found
  only    : ∀ others, Newest found.length (ofOne id rs) others → others = found

theorem tells_newest (rs : List AuditRecord) (id : Value) (limit : Nat) :
    Tells rs id limit (newest limit (ofOne id rs)).reverse := by
  have hnewest (h : 0 < limit) := newest_pos (ofOne id rs) h
  have hwhole : limit = 0 → Newest (ofOne id rs).length (ofOne id rs) (newest limit (ofOne id rs)).reverse := by
    rintro rfl
    exact newest_zero (ofOne id rs)
  generalize (newest limit (ofOne id rs)).reverse = found at hnewest hwhole ⊢
  have hlast : found.reverse <:+ ofOne id rs := by
    rcases Nat.eq_zero_or_pos limit with h | h
    · exact (hwhole h).last
    · exact (hnewest h).last
  have hown : ∀ r ∈ found, r.workflowId.same id = true := fun r hr =>
    (List.mem_filter.mp (hlast.subset (List.mem_reverse.mpr hr))).right
  refine ⟨hown, ?_, hnewest, fun h => ?_, hwhole, fun others ho => ho.unique ⟨rfl, hlast⟩⟩
  case refine_1 =>
    rintro name rfl r hr
    exact Gate.same_text.mp (hown r hr)
  case refine_2 =>
    rw [(hnewest h).length]
    exact Nat.min_le_left ..

-- Whatever has been saved, the newest records of each workflow are found, and none of another. Only a limit of zero
-- does not count: all records of the workflow are found then.
theorem saveAll_recent (rs : List AuditRecord) : ∃ s, (memory []).saveAll rs = .ok s ∧
    ∀ (id : Value) (limit : Nat), ∃ found, s.ofWorkflow id limit = .ok found ∧ Tells rs id limit found := by
  exact ⟨memory rs, saveAll_memory [] rs, fun id limit => ⟨_, rfl, tells_newest rs id limit⟩⟩

end FlowGate.AuditStore
