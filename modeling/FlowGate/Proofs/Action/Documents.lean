import FlowGate.Proofs.Condition.Documents
import FlowGate.Proofs.Filter.Documents
import FlowGate.Proofs.Gate.Table
import FlowGate.Proofs.Schema.FreeForm

-- What documents show of configurations. A configuration that was read has texts in its places for names, and
-- all other values in it are parts of the value that it was read from.

namespace FlowGate

open Value

variable {q : ClockTime → Prop} {v : Value}

theorem Value.IsName.plainBut (h : v.IsName) : v.PlainBut q := by
  obtain ⟨s, _, rfl⟩ := h
  exact .text s

theorem Value.TimesIn.part {names : List String} {default : Value} (h : v.TimesIn q) (hd : default.TimesIn q) :
    (part v names default).TimesIn q := by
  unfold FlowGate.part
  split
  case h_2 => exact hd
  case h_1 entries =>
    unfold Schema.held
    split
    case h_2 => exact hd
    case h_1 name w hg =>
      induction names
      case nil => cases hg
      case cons name rest hi =>
        rw [Schema.given?] at hg
        split at hg
        case h_2 => exact hi hg
        case h_1 hf =>
          cases hg
          obtain ⟨e, he, rfl⟩ := Entries.mem_of_find? hf
          exact timesIn_map.mp h e he

theorem timesIn_of_part {names : List String} {vs : List Value} (h : v.TimesIn q)
    (hp : part v names (list []) = list vs) : ∀ x ∈ vs, x.TimesIn q :=
  timesIn_list.mp (hp ▸ h.part (.list (List.forall_mem_nil _)))

theorem Filter.legible_of_carries {f : Filter} (hv : f.Valid) (hc : f.Carries v) (h : v.TimesIn q) :
    f.Legible q where
  id     := hv.id.plainBut
  name   := by
    obtain ⟨s, hs⟩ := hv.name
    exact hs ▸ .text s
  field  := hv.field.plainBut
  value  := hc.value ▸ h.part plainBut_null.timesIn
  params := by
    intro t ht
    have hp : part (part v ["transformation"] null) ["params"] (map []) = map t.params := hc.params t ht
    exact hp ▸ (h.part plainBut_null.timesIn).part (.map (List.forall_mem_nil _))

theorem FilterGroup.legible_of_carries {g : FilterGroup} (hv : g.Valid) (hc : g.Carries v) (h : v.TimesIn q) :
    g.Legible q := by
  induction hv generalizing v
  case intro g hid hname ho hf hsf hs hss hen hpr hi =>
    refine ⟨hid.plainBut, ?_, fun f hm => ?_⟩
    case refine_1 =>
      obtain ⟨s, hs⟩ := hname
      exact hs ▸ .text s
    case refine_2 =>
      obtain ⟨hvs, own, hus, below⟩ := hc
      cases he : g.isEnabled
      case false => simp [enabledFilters_disabled he] at hm
      case true =>
        rw [enabledFilters_enabled he, List.mem_append, List.mem_flatMap] at hm
        rcases hm with hm | ⟨s, hm, hms⟩
        case inl =>
          have hm := List.mem_of_mem_filter hm
          obtain ⟨w, hw, hc⟩ := exists_of_mem own hm
          exact Filter.legible_of_carries (hf f hm) hc (timesIn_of_part h hvs w hw)
        case inr =>
          obtain ⟨w, hw, hc⟩ := exists_of_mem below hm
          exact (hi s hm hc (timesIn_of_part h hus w hw)).filters f hms

namespace Condition

variable {node : Condition}

theorem Carries.children (hc : node.Carries v) (h : v.TimesIn q) :
    ∀ child ∈ node.children, ∃ w, child.Carries w ∧ w.TimesIn q := by
  intro child hm
  cases hc
  case complex each hvs =>
    obtain ⟨w, hw, hc⟩ := exists_of_mem each hm
    exact ⟨w, hc, timesIn_of_part h hvs w hw⟩
  all_goals cases hm

theorem Valid.legible (hv : node.Valid) (hc : node.Carries v) (h : v.TimesIn q) : node.Legible q where
  id    := by
    cases hv
    all_goals exact Value.IsName.plainBut ‹_›
  kind  := by
    cases hv
    all_goals exact .text _
  label := by
    intro w hw
    cases hv
    all_goals
      cases hw
      exact .text _
  field := by
    cases hv
    case simple hfield =>
      obtain ⟨s, _, rfl⟩ := hfield
      exact .text s
    all_goals exact plainBut_null
  value := by
    rintro header field operator w rfl
    cases hc
    case simple hp => exact hp ▸ h.part plainBut_null.timesIn

theorem legible_of_carries {depth : Nat} (hv : node.Valid) (hc : node.Carries v) (h : v.TimesIn q) :
    ∀ p ∈ node.nodes depth, p.2.Legible q := by
  induction node using byChildren generalizing v depth
  case node node hi =>
    rw [nodes_eq, List.forall_mem_cons, List.forall_mem_flatMap]
    refine ⟨hv.legible hc h, fun child hm => ?_⟩
    obtain ⟨w, hw, ht⟩ := hc.children h child hm
    exact hi child hm (hv.children child hm) hw ht

end Condition

theorem Branch.timesIn_of_carries {b : Branch} (hc : b.Carries v) (h : v.TimesIn q) :
    (map b.setVariables).TimesIn q := by
  have hp : part v ["setVariables", "set_variables"] (map []) = map b.setVariables := hc
  exact hp ▸ h.part (.map (List.forall_mem_nil _))

namespace Action

variable {a : Action}

-- An action whose names and other values documents can show, but for times of day, which are among these.
structure Legible (q : ClockTime → Prop) (a : Action) : Prop where
  id       : a.id.PlainBut q
  name     : a.name.PlainBut q
  nodes    : ∀ p ∈ a.nodes, p.2.Legible q
  filters  : ∀ g ∈ a.filters, g.Legible q
  branches : ∀ way, (map (a.branchOf way).setVariables).TimesIn q

theorem branches_of_carries (hc : a.Carries v) (h : v.TimesIn q) (way : Way) :
    (map (a.branchOf way).setVariables).TimesIn q := by
  have given {o : Option Branch} {names : List String} (ho : ∀ b, o = some b → b.Carries (part v names null)) :
      (map (o.getD {}).setVariables).TimesIn q := by
    cases o
    case none   => exact .map (List.forall_mem_nil _)
    case some b => exact Branch.timesIn_of_carries (ho b rfl) (h.part plainBut_null.timesIn)
  cases way
  case onTrue =>
    obtain ⟨b, hb, hc⟩ := hc.onTrue
    rw [branchOf, hb]
    exact Branch.timesIn_of_carries hc (h.part timesIn_missing)
  case onFalse => exact given hc.onFalse
  case onError => exact given hc.onError

theorem legible_of_read (hr : read v = .done a) (h : v.TimesIn q) : a.Legible q := by
  have hv := valid_of_read hr
  have hc := carries_of_read hr
  obtain ⟨vs, hvs, hcs⟩ := hc.conditions
  obtain ⟨us, hus, hgs⟩ := hc.filters
  obtain ⟨id, hid⟩ := hv.id
  obtain ⟨name, hname⟩ := hv.name
  constructor
  case id       => exact hid ▸ .text id
  case name     => exact hname ▸ .text name
  case nodes    =>
    refine List.forall_mem_flatMap.mpr fun condition hm => ?_
    obtain ⟨w, hw, hc⟩ := exists_of_mem hcs hm
    exact Condition.legible_of_carries (hv.conditions condition hm) hc (timesIn_of_part h hvs w hw)
  case filters  =>
    intro g hm
    obtain ⟨w, hw, hc⟩ := exists_of_mem hgs hm
    exact FilterGroup.legible_of_carries (hv.filters g hm) hc (timesIn_of_part h hus w hw)
  case branches => exact branches_of_carries hc h

-- The error branch may be known of a configuration that was not read.
theorem timesIn_rescueBranch (h : v.TimesIn q) :
    (map ((rescueBranch v).getD {}).setVariables).TimesIn q := by
  have hn : (map ({} : Branch).setVariables).TimesIn q := .map (List.forall_mem_nil _)
  unfold rescueBranch
  split
  case h_2 => exact hn
  case h_1 entries =>
    split
    case h_1 => exact hn
    case h_3 => exact hn
    case h_2 name raw _ hg =>
      have hp : (part (.map entries) ["onError", "on_error"] null).TimesIn q := h.part plainBut_null.timesIn
      rw [FlowGate.part, Schema.held_of_given hg] at hp
      cases hb : Branch.read raw
      case failed => exact hn
      case done   => exact Branch.timesIn_of_carries (Branch.carries_of_read hb) hp

end Action

namespace Offer

-- What is offered raw may hold anything but other times of day than these.
def Legible (q : ClockTime → Prop) : Offer → Prop
  | raw v    => v.TimesIn q
  | action a => a.Legible q

theorem Legible.action {offer : Offer} {a : Action} (h : offer.Legible q) (ha : offer.action? = some a) :
    a.Legible q := by
  cases offer
  case action => cases ha; exact h
  case raw v =>
    cases hr : Action.read v <;> simp [action?, hr, Schema.Parsed.toOption] at ha
    case done a' => exact ha ▸ Action.legible_of_read hr h

end Offer

end FlowGate
