import FlowGate.Filter.Evaluation

-- Traces put together one after the other, and the relation between a trace and one that leaves some
-- of it out.

namespace FlowGate

namespace Trace

variable {s s' t t' : Trace} {ts us : List Trace}

@[simp] theorem details_append (s t : Trace) : (s ++ t).details = s.details ++ t.details := rfl
@[simp] theorem matched_append (s t : Trace) : (s ++ t).matched = s.matched ++ t.matched := rfl
@[simp] theorem failed_append (s t : Trace) : (s ++ t).failed = s.failed ++ t.failed := rfl
@[simp] theorem errors_append (s t : Trace) : (s ++ t).errors = s.errors ++ t.errors := rfl
@[simp] theorem calls_append (s t : Trace) : (s ++ t).calls = s.calls ++ t.calls := rfl

theorem eq_of_fields (hd : s.details = t.details) (hm : s.matched = t.matched)
    (hf : s.failed = t.failed) (he : s.errors = t.errors) (hc : s.calls = t.calls) : s = t := by
  cases s
  cases t
  simp_all

@[simp] theorem append_empty (t : Trace) : t ++ {} = t := by
  apply eq_of_fields <;> simp

@[simp] theorem empty_append (t : Trace) : {} ++ t = t := by
  apply eq_of_fields <;> simp

theorem append_assoc (s t u : Trace) : s ++ t ++ u = s ++ (t ++ u) := by
  apply eq_of_fields <;> simp

def join : List Trace → Trace
  | []      => {}
  | t :: ts => t ++ join ts

theorem join_append : join (ts ++ us) = join ts ++ join us := by
  induction ts <;> simp [join, append_assoc, *]

-- The first trace leaves out some of what the second one holds, and adds nothing.
structure PartOf (s t : Trace) : Prop where
  details : s.details.Sublist t.details
  matched : s.matched.Sublist t.matched
  failed  : s.failed.Sublist t.failed
  errors  : s.errors.Sublist t.errors

theorem PartOf.refl (t : Trace) : t.PartOf t :=
  ⟨.refl _, .refl _, .refl _, .refl _⟩

theorem PartOf.append (h : s.PartOf t) (h' : s'.PartOf t') : (s ++ s').PartOf (t ++ t') where
  details := h.details.append h'.details
  matched := h.matched.append h'.matched
  failed  := h.failed.append h'.failed
  errors  := h.errors.append h'.errors

theorem PartOf.append_right (h : s.PartOf t) : s.PartOf (t ++ t') where
  details := h.details.trans (List.sublist_append_left ..)
  matched := h.matched.trans (List.sublist_append_left ..)
  failed  := h.failed.trans (List.sublist_append_left ..)
  errors  := h.errors.trans (List.sublist_append_left ..)

theorem join_partOf_of_isPrefix (h : ts <+: us) : (join ts).PartOf (join us) := by
  obtain ⟨rest, rfl⟩ := h
  exact join_append ▸ (PartOf.refl _).append_right

end Trace

namespace Traced

variable {α β γ : Type} {x : Traced α} {f : α → Traced β}

-- Goes on with an outcome unless it is a fault.
def andThen (x : Traced α) (f : α → Traced β) : Traced β :=
  match x with
  | (trace, .error fault) => (trace, .error fault)
  | (trace, .ok a)        => (trace ++ (f a).1, (f a).2)

theorem andThen_assoc (g : β → Traced γ) :
    (x.andThen f).andThen g = x.andThen fun a => (f a).andThen g := by
  obtain ⟨_, _ | a⟩ := x
  case error => rfl
  case ok =>
    simp only [andThen]
    rcases f a with ⟨_, _ | _⟩ <;> simp [Trace.append_assoc]

end Traced

end FlowGate
