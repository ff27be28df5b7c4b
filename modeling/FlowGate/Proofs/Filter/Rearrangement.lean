import FlowGate.Proofs.Engine
import FlowGate.Proofs.Filter.Evaluation

-- Rearranging a group tree: putting filters or sub-groups in another order and giving any part
-- another priority, at any level. What a group means does not depend on any of it.

namespace FlowGate

namespace Filter

variable {e : Engine} {c : Context} {f : Filter} {n : Int}

def rerank (f : Filter) (n : Int) : Filter :=
  { f with priority := .int n }

theorem passes_rerank : (f.rerank n).passes e c = f.passes e c :=
  rfl

theorem valid_rerank (h : f.Valid) : (f.rerank n).Valid :=
  { h with priority := ⟨n, rfl⟩ }

end Filter

namespace FilterGroup

inductive Rearranged : FilterGroup → FilterGroup → Prop
  | filters {g fs} (h : fs.Perm g.filters) : Rearranged g { g with filters := fs }
  | subGroups {g gs} (h : gs.Perm g.subGroups) : Rearranged g { g with subGroups := gs }
  | priority {g} (n : Int) : Rearranged g { g with priority := .int n }
  | filterPriority {g front f back} (h : g.filters = front ++ f :: back) (n : Int) :
    Rearranged g { g with filters := front ++ f.rerank n :: back }
  | inside {g front s s' back} (h : g.subGroups = front ++ s :: back) (hs : Rearranged s s') :
    Rearranged g { g with subGroups := front ++ s' :: back }
  | trans {g₁ g₂ g₃} (h₁ : Rearranged g₁ g₂) (h₂ : Rearranged g₂ g₃) : Rearranged g₁ g₃

variable {e : Engine} {c : Context} {g g' : FilterGroup}

namespace Rearranged

theorem isEnabled_eq (h : Rearranged g g') : g'.isEnabled = g.isEnabled := by
  induction h
  case trans h₁ h₂ => exact h₂.trans h₁
  all_goals rfl

-- Two groups that differ in their members only mean the same if the members taken together do.
theorem passes_eq_of_members (he : g'.isEnabled = g.isEnabled) (ho : g'.operator = g.operator)
    (hall : (g'.filters.all (fun f => !f.isEnabled || f.passes e c) &&
        g'.subGroups.all (fun s => !s.isEnabled || s.passes e c)) =
      (g.filters.all (fun f => !f.isEnabled || f.passes e c) &&
        g.subGroups.all (fun s => !s.isEnabled || s.passes e c)))
    (hany : (g'.filters.any (fun f => f.isEnabled && f.passes e c) ||
        g'.subGroups.any (fun s => s.isEnabled && s.passes e c)) =
      (g.filters.any (fun f => f.isEnabled && f.passes e c) ||
        g.subGroups.any (fun s => s.isEnabled && s.passes e c))) :
    g'.passes e c = g.passes e c := by
  cases hen : g.isEnabled
  case false => rw [passes_disabled hen, passes_disabled (he.trans hen)]
  case true =>
    cases hop : g.operator.is .and
    case true  => rw [passes_and hen hop, passes_and (he.trans hen) (ho ▸ hop), hall]
    case false => rw [passes_or hen hop, passes_or (he.trans hen) (ho ▸ hop), hany]

theorem passes_eq (h : Rearranged g g') : g'.passes e c = g.passes e c := by
  induction h
  case trans h₁ h₂ => exact h₂.trans h₁
  case filters g fs h =>
    exact passes_eq_of_members rfl rfl (by simp [h.all_eq]) (by simp [h.any_eq])
  case subGroups g gs h =>
    exact passes_eq_of_members rfl rfl (by simp [h.all_eq]) (by simp [h.any_eq])
  case priority => exact passes_eq_of_members rfl rfl rfl rfl
  case filterPriority g front f back h n =>
    have he : (f.rerank n).isEnabled = f.isEnabled := rfl
    refine passes_eq_of_members rfl rfl ?_ ?_ <;> simp [h, he, Filter.passes_rerank]
  case inside g front s s' back h hs hi =>
    refine passes_eq_of_members rfl rfl ?_ ?_ <;> simp [h, hs.isEnabled_eq, hi]

theorem valid (h : Rearranged g g') (hv : g.Valid) : g'.Valid := by
  induction h
  case trans hi₁ hi₂ => exact hi₂ (hi₁ hv)
  case filters h =>
    have ⟨hid, hname, ho, hf, hsf, hs, hss, hen, hpr⟩ := hv
    exact .intro hid hname ho (fun f hm => hf f (h.mem_iff.mp hm)) hsf hs hss hen hpr
  case subGroups h =>
    have ⟨hid, hname, ho, hf, hsf, hs, hss, hen, hpr⟩ := hv
    exact .intro hid hname ho hf hsf (fun s hm => hs s (h.mem_iff.mp hm)) hss hen hpr
  case priority n =>
    have ⟨hid, hname, ho, hf, hsf, hs, hss, hen, _⟩ := hv
    exact .intro hid hname ho hf hsf hs hss hen ⟨n, rfl⟩
  case filterPriority h n =>
    have ⟨hid, hname, ho, hf, hsf, hs, hss, hen, hpr⟩ := hv
    refine .intro hid hname ho ?_ hsf hs hss hen hpr
    simp only [h, List.forall_mem_append, List.forall_mem_cons] at hf ⊢
    exact ⟨hf.left, Filter.valid_rerank hf.right.left, hf.right.right⟩
  case inside h _ hi =>
    have ⟨hid, hname, ho, hf, hsf, hs, hss, hen, hpr⟩ := hv
    refine .intro hid hname ho hf hsf ?_ hss hen hpr
    simp only [h, List.forall_mem_append, List.forall_mem_cons] at hs ⊢
    exact ⟨hs.left, hi hs.right.left, hs.right.right⟩

end Rearranged

-- What stopping leaves out of a result.
theorem run_stop_sublist (hv : g.Valid) (includeDetails : Bool) :
    let fast := (g.run e c { stopOnFirstFailure := true, includeDetails }).value
    let slow := (g.run e c { stopOnFirstFailure := false, includeDetails }).value
    fast.details.Sublist slow.details ∧ fast.matched.Sublist slow.matched ∧
      fast.failed.Sublist slow.failed ∧ fast.errors.Sublist slow.errors := by
  have ⟨fast, slow, hf, hs, hp⟩ := agrees (e := e) (c := c) hv
  cases includeDetails
  case true  => simpa [run, hf, hs] using ⟨hp.details, hp.matched, hp.failed, hp.errors⟩
  case false => simpa [run, hf, hs] using ⟨hp.matched, hp.failed, hp.errors⟩

-- Whatever the options and however the tree is arranged, a valid group passes exactly when its
-- members make it pass.
theorem run_meaning (hv : g.Valid) :
    (∀ options, (g.run e c options).value.passed = g.passes e c) ∧
    (g.passes e c = true ↔
      g.isEnabled = false ∨
      (g.operator.is .and = true ∧ (∀ f ∈ g.filters, f.isEnabled = true → f.passes e c = true) ∧
        (∀ s ∈ g.subGroups, s.isEnabled = true → s.passes e c = true)) ∨
      (g.operator.is .and = false ∧ ((∃ f ∈ g.filters, f.isEnabled = true ∧ f.passes e c = true) ∨
        (∃ s ∈ g.subGroups, s.isEnabled = true ∧ s.passes e c = true)))) ∧
    (∀ g', Rearranged g g' → ∀ options, (g'.run e c options).value.passed = g.passes e c) ∧
    (∀ includeDetails,
      let fast := (g.run e c { stopOnFirstFailure := true, includeDetails }).value
      let slow := (g.run e c { stopOnFirstFailure := false, includeDetails }).value
      fast.details.Sublist slow.details ∧ fast.matched.Sublist slow.matched ∧
        fast.failed.Sublist slow.failed ∧ fast.errors.Sublist slow.errors) := by
  refine ⟨run_passed hv, passes_iff, ?_, run_stop_sublist hv⟩
  intro g' h options
  rw [run_passed (h.valid hv), h.passes_eq]

-- Any of: a filter that fails with an error, and all of a filter that fails and one that passes.
def mixed : FilterGroup :=
  .build "mixed" "" none .or [.build "a" "" "x" .isNull .null true 0 none none]
    [.build "inner" "" none .and
      [.build "b" "" "x" .isAbsent .null true 0 none none,
       .build "c" "" "x" .isPresent .null true 1 none none] [] true 0,
     .build "none" "" none .and [] [] true 0] true 0

theorem mixed_valid : mixed.Valid := by
  have leaf (s : String) (h : s ≠ "") (o : Operator) (n : Int) :
      (Filter.build s "" "x" o .null true n none none).Valid :=
    Filter.valid_build (Schema.isName_text h) (Schema.isName_text (by decide))
  refine valid_build (Schema.isName_text (by decide)) ?_ ?_
  · exact List.forall_mem_singleton.mpr (leaf "a" (by decide) .isNull 0)
  · refine List.forall_mem_cons.mpr ⟨?_, List.forall_mem_singleton.mpr ?_⟩
    · refine valid_build (Schema.isName_text (by decide)) ?_ (List.forall_mem_nil _)
      exact List.forall_mem_cons.mpr ⟨leaf "b" (by decide) .isAbsent 0,
        List.forall_mem_singleton.mpr (leaf "c" (by decide) .isPresent 1)⟩
    · exact valid_build (Schema.isName_text (by decide))
        (List.forall_mem_nil _) (List.forall_mem_nil _)

theorem mixed_meaning :
    mixed.Valid ∧ Rearranged mixed { mixed with subGroups := mixed.subGroups.reverse } ∧
      (FilterGroup.run (.ofFunctions []) (.ofVars [(.text "x", .int 3)])
        { stopOnFirstFailure := true } { mixed with subGroups := mixed.subGroups.reverse }).value.passed
        = true := by
  have hp : mixed.passes (.ofFunctions []) (.ofVars [(.text "x", .int 3)]) = true := by decide
  have hr : Rearranged mixed { mixed with subGroups := mixed.subGroups.reverse } :=
    .subGroups (List.reverse_perm _)
  have ⟨_, _, hm, _⟩ :=
    run_meaning (e := .ofFunctions []) (c := .ofVars [(.text "x", .int 3)]) mixed_valid
  exact ⟨mixed_valid, hr, (hm _ hr { stopOnFirstFailure := true }).trans hp⟩

end FilterGroup

end FlowGate
