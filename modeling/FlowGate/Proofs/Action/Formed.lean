import FlowGate.Proofs.Action.Rules

-- What reading settles for the check. Nodes and groups of a configuration that was read are well formed
-- at every depth, so all that the check can still have against it is how much there is of something, how
-- deep it lies, and what the action says of itself.

namespace FlowGate

open Value

variable {limits : Limits} {f : Finding}

-- A condition that has whatever its kind asks for.
def Condition.Formed : Condition → Prop
  | .simple header field operator _               =>
    header.id.IsName ∧ field.IsName ∧ ∃ o, operator = .known o
  | .complex header operator children stray       =>
    header.id.IsName ∧ (∃ k, operator = .known k) ∧ stray = none ∧ children ≠ [] ∧
      (operator = .known .not → ∃ child, children = [child])
  | .filter header group                          => header.id.IsName ∧ ∃ g, group = .known g
  | .custom header function _                     => header.id.IsName ∧ function.IsName
  | .foreign ..                                   => False

theorem Condition.Valid.formed {c : Condition} (hv : c.Valid) : c.Formed := by
  cases hv
  case simple hid hf                => exact ⟨hid, hf, _, rfl⟩
  case complex hid arity hn _       =>
    refine ⟨hid, ⟨_, rfl⟩, rfl, hn, fun ho => List.length_eq_one_iff.mp (arity ?_)⟩
    exact Slot.known.inj ho
  case filter hid _                 => exact ⟨hid, _, rfl⟩
  case custom hid hf                => exact ⟨hid, hf⟩

-- A group is left with too many filters.
theorem FilterGroup.Valid.blames {g : FilterGroup} (hv : g.Valid) (hb : g.Blames limits f) :
    f.code = "E_TOO_MANY_FILTERS" := by
  cases hb
  case room          => rfl
  case id h          => simp [hv.id.truthy] at h
  case filter x hm h => simp [(hv.filters x hm).id.truthy] at h

-- A node is left with its place and with the groups that it asks.

theorem Condition.Valid.lacks {c : Condition} (hv : c.Valid) (hl : Lacks limits c f) :
    f.code = "E_TOO_MANY_FILTERS" := by
  cases hl
  case field h =>
    obtain ⟨_, hf, _⟩ := hv.formed
    simp [hf.truthy] at h
  case function h =>
    obtain ⟨_, hf⟩ := hv.formed
    simp [hf.truthy] at h
  case children =>
    obtain ⟨_, _, _, hn, _⟩ := hv.formed
    exact absurd rfl hn
  case arity h =>
    obtain ⟨_, _, _, _, hc⟩ := hv.formed
    obtain ⟨child, rfl⟩ := hc rfl
    exact absurd rfl h
  case group hm hb =>
    cases hv
    case filter hg => exact (hg.tree _ hm).blames hb

theorem Condition.Valid.blames {p : Nat × Condition} (hv : p.2.Valid) (hb : Blames limits p f) :
    f.code = "E_DEPTH" ∨ f.code = "E_TOO_MANY_FILTERS" := by
  cases hb
  case depth    => exact .inl rfl
  case id h     => simp [hv.id.truthy] at h
  case own _ hl => exact .inr (hv.lacks hl)

namespace Action

variable {a : Action}

-- The codes of what can block an action that was read, other than that it has no id.
def openCodes : List String :=
  ["E_NO_CONDITIONS", "E_INVALID_TIMEOUT", "E_TOO_MANY_CONDITIONS", "E_DEPTH", "E_TOO_MANY_FILTERS"]

theorem Valid.blames (hv : a.Valid) (hb : a.Blames limits f) :
    f.code ∈ openCodes ∨ (f = .actionWithoutId ∧ a.id = text "") := by
  cases hb
  case id h =>
    obtain ⟨s, hs⟩ := hv.id
    exact .inr ⟨rfl, by simpa [hs, truthy] using h⟩
  case onTrue h =>
    obtain ⟨b, ho⟩ := hv.onTrue
    exact absurd ho (h b)
  case node p hm hb =>
    cases (hv.nodes p (surveyed_subset hm)).blames hb <;> simp [openCodes, *]
  case group g s hm hs hb =>
    have hc := ((hv.filters g hm).tree s hs).blames hb
    simp [openCodes, hc]
  all_goals simp [openCodes, Finding.code]

-- Reading leaves nothing of its nodes and groups for the check to find.
theorem read_formed {v : Value} {a : Action} (h : Action.read v = .done a) :
    (∀ p ∈ a.nodes, p.2.Formed) ∧
    (∀ g ∈ a.groups, g.id.IsName ∧ ∀ x ∈ g.filters, x.id.IsName ∧ x.field.IsName) ∧
    ∀ limits known, ∃ report, a.check limits known = .ok report ∧
      ∀ f ∈ report.errors, f.code ∈ openCodes ∨ (f = .actionWithoutId ∧ a.id = text "") := by
  have hv := valid_of_read h
  refine ⟨fun p hm => (hv.nodes p hm).formed, fun g hm => ?_, fun limits known => ?_⟩
  case refine_1 =>
    have hg := hv.groups g hm
    exact ⟨hg.id, fun x hx => ⟨(hg.filters x hx).id, (hg.filters x hx).field⟩⟩
  case refine_2 =>
    obtain ⟨report, hr⟩ := check_ok_iff hv.placed |>.mpr hv.readable
    refine ⟨report, hr, fun f hf => ?_⟩
    obtain ⟨hm, hw⟩ := List.mem_filter.mp hf
    exact hv.blames (mem_of_check hv.placed hr (by simpa using hw) |>.mp hm)

-- An action without a name of its own, whose children are given under the other of their keys.
def unnamed : Action where
  id         := text ""
  conditions := [.complex ⟨text "negated", {}⟩ (.known .not)
    [.custom ⟨text "asked", {}⟩ (text "is_business_hours") null] none]
  onTrue     := .known {}

def unnamedRaw : Value := record [
  ("id", text ""),
  ("conditions", list [record [("kind", text "complex"), ("id", text "negated"), ("operator", text "not"),
    ("conditions", list [record [
      ("kind", text "custom"), ("id", text "asked"), ("functionName", text "is_business_hours")]])]]),
  ("onTrue", map [])]

theorem unnamed_formed : Action.read unnamedRaw = .done unnamed ∧
    (∃ child, unnamed.conditions.flatMap Condition.children = [child]) ∧
    ∃ report, unnamed.check {} none = .ok report ∧
      ∀ f ∈ report.errors, f.code ∈ openCodes ∨ (f = .actionWithoutId ∧ unnamed.id = text "") := by
  have hr : Action.read unnamedRaw = .done unnamed := rfl
  obtain ⟨hn, _, hc⟩ := read_formed hr
  obtain ⟨_, _, _, _, hnot⟩ := hn (1, .complex _ _ _ _) (.head _)
  exact ⟨hr, hnot rfl, hc {} none⟩

end Action

end FlowGate
