import FlowGate.Filter.Evaluation
import FlowGate.Proofs.Filter.Priority
import FlowGate.Proofs.Schema.Validity

-- What filters and groups mean: a filter passes when its pipeline says so, and a group passes when
-- all of its enabled members do or when one of them does. Nothing here has an order.

namespace FlowGate

namespace Filter

def passes (e : Engine) (c : Context) (f : Filter) : Bool :=
  match f.path with
  | .error _ => false
  | .ok path =>
    match (f.pipeline e c (c.resolveField path)).value with
    | .error _ => false
    | .ok d    => d.passed

end Filter

namespace FilterGroup

mutual

def passes (e : Engine) (c : Context) : FilterGroup → Bool
  | ⟨_, _, _, operator, filters, _, subGroups, _, enabled, _⟩ =>
    if !enabled.truthy then true
    else if operator.is .and then
      filters.all (fun f => !f.isEnabled || f.passes e c) && allPass e c subGroups
    else
      filters.any (fun f => f.isEnabled && f.passes e c) || anyPasses e c subGroups

def allPass (e : Engine) (c : Context) : List FilterGroup → Bool
  | []        => true
  | g :: rest => (!g.isEnabled || passes e c g) && allPass e c rest

def anyPasses (e : Engine) (c : Context) : List FilterGroup → Bool
  | []        => false
  | g :: rest => (g.isEnabled && passes e c g) || anyPasses e c rest

end

variable {e : Engine} {c : Context} {g : FilterGroup} {gs : List FilterGroup}

theorem allPass_eq : allPass e c gs = gs.all fun g => !g.isEnabled || g.passes e c := by
  induction gs <;> simp [allPass, *]

theorem anyPasses_eq : anyPasses e c gs = gs.any fun g => g.isEnabled && g.passes e c := by
  induction gs <;> simp [anyPasses, *]

theorem passes_disabled (h : g.isEnabled = false) : g.passes e c = true := by
  cases g
  simp_all [passes, isEnabled]

theorem passes_and (he : g.isEnabled = true) (ho : g.operator.is .and = true) :
    g.passes e c =
      (g.filters.all (fun f => !f.isEnabled || f.passes e c) &&
        g.subGroups.all (fun s => !s.isEnabled || s.passes e c)) := by
  cases g
  simp_all [passes, isEnabled, allPass_eq]

theorem passes_or (he : g.isEnabled = true) (ho : g.operator.is .and = false) :
    g.passes e c =
      (g.filters.any (fun f => f.isEnabled && f.passes e c) ||
        g.subGroups.any (fun s => s.isEnabled && s.passes e c)) := by
  cases g
  simp_all [passes, isEnabled, anyPasses_eq]

theorem passes_iff : g.passes e c = true ↔
    g.isEnabled = false ∨
    (g.operator.is .and = true ∧ (∀ f ∈ g.filters, f.isEnabled = true → f.passes e c = true) ∧
      (∀ s ∈ g.subGroups, s.isEnabled = true → s.passes e c = true)) ∨
    (g.operator.is .and = false ∧ ((∃ f ∈ g.filters, f.isEnabled = true ∧ f.passes e c = true) ∨
      (∃ s ∈ g.subGroups, s.isEnabled = true ∧ s.passes e c = true))) := by
  cases he : g.isEnabled
  case false => simp [passes_disabled he]
  case true =>
    cases ho : g.operator.is .and
    case true  => simp [passes_and he ho, ← Bool.not_eq_true, Decidable.imp_iff_not_or]
    case false => simp [passes_or he ho]

end FilterGroup

end FlowGate
