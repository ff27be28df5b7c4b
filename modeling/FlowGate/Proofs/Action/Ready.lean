import FlowGate.Proofs.Action.Rules
import FlowGate.Proofs.Condition.Visited

-- What the check is worth to evaluation. The check has looked at every node of an action that passes it, so
-- whatever evaluation gets to has been looked at: no function is missing, and every negation has its one child.

namespace FlowGate

open Value

theorem Registry.mem_functionNames {r : Registry} {name : String} :
    name ∈ r.functionNames ↔ ∃ f, r.function? name = some f := by
  simp only [functionNames, function?, List.mem_mergeSort, List.mem_map]
  constructor
  case mp =>
    rintro ⟨⟨name, f⟩, hm, rfl⟩
    refine Option.ne_none_iff_exists'.mp fun hn => ?_
    simpa using List.lookup_eq_none_iff.mp hn _ hm
  case mpr =>
    rintro ⟨f, hf⟩
    obtain ⟨front, back, hs, _⟩ := List.lookup_eq_some_iff.mp hf
    exact ⟨(name, f), by simp [hs], rfl⟩

namespace Condition

variable {e : Engine} {c : Context} {root node : Condition}

-- A node that evaluation can take on: its function is there to be called, and a negation has its child.
def Ready (e : Engine) : Condition → Prop
  | custom _ function params                =>
    ∃ name f, function = text name ∧ e.registry.function? name = some f ∧
      ∀ c, (call e c function params).calls = [.function name]
  | complex _ (.known .not) children stray  => stray = none ∧ ∃ child, children = [child]
  | _                                       => True

theorem calls_of_registered {name : String} {f : CustomFunction} {params : Value}
    (h : e.registry.function? name = some f) :
    (call e c (text name) params).calls = [.function name] := by
  simp only [call, h]
  cases f e.comparer.now c params <;> rfl

-- Evaluation stays among the nodes.
theorem Visits.mem_nodes (h : Visits e c root node) : ∀ depth, ∃ d, (d, node) ∈ root.nodes depth := by
  induction h
  case root => exact fun depth => ⟨depth, by rw [nodes_eq]; exact List.mem_cons_self⟩
  case under header operator stray k children child node _ hb _ hi =>
    intro depth
    obtain ⟨d, hd⟩ := hi (depth + 1)
    have hm : child ∈ children := through_isPrefix.subset hb
    exact ⟨d, by rw [nodes_eq]; exact .tail _ (List.mem_flatMap.mpr ⟨child, hm, hd⟩)⟩

end Condition

namespace Action

variable {limits : Limits} {known : Option (List String)} {a : Action} {report : Report} {f : Finding}
  {p : Nat × Condition}

-- What the check finds at a node that it looks at, it reports, unless it is an id that was seen before.
theorem mem_findings {found : List Finding} (h : a.check limits known = .ok report)
    (hm : p ∈ a.surveyed limits) (hr : limits.reaches p.1 = true)
    (hn : Condition.checkNode limits known p.2 = .ok found) (hf : f ∈ found)
    (hd : f.isDuplicate = false) : f ∈ report.findings := by
  obtain ⟨own, survey, groups, hc, rfl⟩ := check_eq_ok_iff.mp h
  obtain ⟨hs, _⟩ := Condition.checkAll_surveys (fun _ _ => Condition.check_surveys) hc.survey
  have hf : f ∈ Condition.foundAt limits known p := by simp [Condition.foundAt, hr, hn, hf]
  have hf := hs f hd |>.mpr (.inr ⟨p, hm, hf⟩)
  simp [hf]

-- Nothing is wrong with an action by the check, not even that a function has not been registered.
structure Passes (limits : Limits) (e : Engine) (a : Action) (report : Report) : Prop where
  check    : a.check limits (some e.registry.functionNames) = .ok report
  errors   : report.errors = []
  warnings : ∀ f ∈ report.warnings, f.code ≠ "W_UNKNOWN_FUNCTION"

namespace Passes

variable {e : Engine}

theorem complete (hp : a.Placed) (h : Passes limits e a report) : a.Complete limits :=
  complete_of_not_blames <| isValid_iff hp h.check |>.mp <| by simp [Report.isValid, h.errors]

-- A function that the check has nothing to say about is registered.
theorem registered (hp : a.Placed) (h : Passes limits e a report) {header : Header} {function params : Value}
    (hm : p ∈ a.nodes) (hc : p.2 = .custom header function params) :
    ∃ name f, function = text name ∧ e.registry.function? name = some f := by
  have hk := h.complete hp
  have hs : p ∈ a.surveyed limits := hk.surveyed_eq ▸ hm
  have hr : limits.reaches p.1 = true := by simpa [Limits.reaches] using hk.depth p hm
  have ht : function.truthy = true := by simpa [hc, Condition.Complete] using hk.nodes p hm
  obtain ⟨_, survey, _, hck, _⟩ := check_eq_ok_iff.mp h.check
  obtain ⟨found, hf⟩ := (survey_ok_iff.mp ⟨survey, hck.survey⟩ p hs).right hr
  have hu : Finding.unknownFunction header.id function ∉ found := fun hu =>
    have hw := mem_findings h.check hs hr hf hu rfl
    h.warnings _ (List.mem_filter.mpr ⟨hw, rfl⟩) rfl
  rw [hc, Condition.checkNode] at hf
  rw [Condition.mem_of_checkFunction hf] at hu
  obtain ⟨name, hn, he⟩ : ∃ name ∈ e.registry.functionNames, function = text name := by
    by_contra hn
    exact hu (.inr ⟨ht, rfl, _, rfl, fun name hm he => hn ⟨name, hm, he⟩⟩)
  obtain ⟨f, hf⟩ := Registry.mem_functionNames.mp hn
  exact ⟨name, f, he, hf⟩

-- A negation that the check has nothing to say about has one child.
theorem negated (hp : a.Placed) (h : Passes limits e a report) {header : Header} {children : List Condition}
    {stray : Option Value} (hm : p ∈ a.nodes) (hc : p.2 = .complex header (.known .not) children stray) :
    stray = none ∧ ∃ child, children = [child] := by
  have hn : Condition.Complete (.complex header (.known .not) children stray) :=
    hc ▸ (h.complete hp).nodes p hm
  obtain ⟨hne, hl⟩ := hn
  refine ⟨Option.eq_none_iff_forall_ne_some.mpr fun v hv => ?_, List.length_eq_one_iff.mp (hl rfl)⟩
  exact hne ((hp.nodes p hm).children _ _ _ _ hc v hv).left

theorem ready (hp : a.Placed) (h : Passes limits e a report) (hm : p ∈ a.nodes) : p.2.Ready e := by
  unfold Condition.Ready
  split
  case h_1 header function params hc =>
    obtain ⟨name, f, hn, hf⟩ := h.registered hp hm hc
    exact ⟨name, f, hn, hf, fun c => hn ▸ Condition.calls_of_registered hf⟩
  case h_2 hc => exact h.negated hp hm hc
  case h_3    => trivial

end Passes

-- Whatever evaluation gets to in any context is ready for it, and so is what it does not get to. So each result
-- that comes of it is that of a node that was ready.
theorem check_prepares {v : Value} {a : Action} {limits : Limits} {e : Engine} {report : Report}
    (h : Action.read v = .done a ∨ Action.draft v = .done a) (hp : Passes limits e a report) :
    (∀ p ∈ a.nodes, p.2.Ready e) ∧
    ∀ c, ∀ root ∈ a.conditions,
      (∀ node, Condition.Visits e c root node → node.Ready e) ∧
      ∀ r s, (root.evaluate e c).value = some (.ok r) → r.Holds s →
        ∃ node : Condition, node.Ready e ∧ (node.evaluate e c).value = some (.ok s) := by
  have hn : ∀ p ∈ a.nodes, p.2.Ready e := fun p hm => hp.ready (placed_of_offered h) hm
  refine ⟨hn, fun c root hm => ?_⟩
  have hv : ∀ node, Condition.Visits e c root node → node.Ready e := by
    intro node hv
    obtain ⟨d, hd⟩ := hv.mem_nodes 1
    exact hn (d, node) (List.mem_flatMap.mpr ⟨root, hm, hd⟩)
  refine ⟨hv, fun r s hr hs => ?_⟩
  obtain ⟨node, hvisits, hs⟩ := Condition.Visits.of_holds hr hs
  exact ⟨node, hv node hvisits, hs⟩

-- A configuration that calls a function under a negation, and is taken as it stands.
def calling : Action where
  id         := text "calling"
  conditions := [.complex ⟨text "closed", {}⟩ (.known .not)
    [.custom ⟨text "open", {}⟩ (text "is_open") null] none]
  onTrue     := .known {}

def callingRaw : Value := record [
  ("id", text "calling"),
  ("conditions", list [record [("kind", text "complex"), ("id", text "closed"), ("operator", text "not"),
    ("children", list [record [
      ("kind", text "custom"), ("id", text "open"), ("functionName", text "is_open")]])]]),
  ("on_true", map [])]

def opening : Engine := .ofFunctions [("is_open", fun _ _ _ => .value (bool true))]

theorem calling_prepared : Action.draft callingRaw = .done calling ∧
    ∃ report, Passes {} opening calling report ∧ ∀ p ∈ calling.nodes, p.2.Ready opening := by
  have hr : Action.draft callingRaw = .done calling := rfl
  have hn : opening.registry.functionNames = ["is_open"] := by
    simp [opening, Engine.ofFunctions, Registry.functionNames]
  have hp : Passes {} opening calling ⟨[.noFalseBranch]⟩ := by
    refine ⟨?_, rfl, ?_⟩
    case refine_1 => rw [hn]; rfl
    case refine_2 => exact List.forall_mem_singleton.mpr (by decide)
  obtain ⟨hready, _⟩ := check_prepares (.inr hr) hp
  exact ⟨hr, _, hp, hready⟩

end Action

end FlowGate
