import Mathlib.Data.Option.Basic
import FlowGate.Proofs.Schema.Parsed
import FlowGate.Schema.Action

-- Validity of configurations: what the types of their parts leave open and every configuration
-- that was read has settled. Names are texts, operators are known, lists are lists, and a complex
-- condition has as many children as its connective asks for.

namespace FlowGate

open Schema Parsed

def Value.IsName (v : Value) : Prop :=
  ∃ s, s ≠ "" ∧ v = .text s

theorem Value.IsName.truthy {v : Value} : v.IsName → v.truthy = true
  | ⟨_, hne, hv⟩ => by simp [hv, Value.truthy, hne]

structure Filter.Valid (f : Filter) : Prop where
  id       : f.id.IsName
  name     : ∃ s, f.name = .text s
  field    : f.field.IsName
  operator : ∃ o, f.operator = .known o
  enabled  : ∃ b, f.enabled = .bool b
  priority : ∃ n, f.priority = .int n

inductive FilterGroup.Valid : FilterGroup → Prop
  | intro {g : FilterGroup}
    (id : g.id.IsName)
    (name : ∃ s, g.name = .text s)
    (operator : ∃ o, g.operator = .known o)
    (filters : ∀ f ∈ g.filters, f.Valid)
    (noStrayFilters : g.strayFilters = none)
    (subGroups : ∀ s ∈ g.subGroups, Valid s)
    (noStraySubGroups : g.straySubGroups = none)
    (enabled : ∃ b, g.enabled = .bool b)
    (priority : ∃ n, g.priority = .int n) : Valid g

namespace FilterGroup.Valid

variable {g : FilterGroup}

theorem filters : g.Valid → ∀ f ∈ g.filters, f.Valid
  | intro _ _ _ h .. => h

theorem subGroups : g.Valid → ∀ s ∈ g.subGroups, s.Valid
  | intro _ _ _ _ _ h .. => h

theorem noStrayFilters : g.Valid → g.strayFilters = none
  | intro _ _ _ _ h .. => h

theorem noStraySubGroups : g.Valid → g.straySubGroups = none
  | intro _ _ _ _ _ _ h .. => h

theorem priority : g.Valid → ∃ n, g.priority = .int n
  | intro _ _ _ _ _ _ _ _ h => h

end FilterGroup.Valid

inductive Condition.Valid : Condition → Prop
  | simple {header operator value} {field : Value}
    (hid : header.id.IsName) (hfield : field.IsName) :
    Valid (.simple header field (.known operator) value)
  | complex {header operator} {children : List Condition}
    (hid : header.id.IsName)
    (arity : operator = .not → children.length = 1)
    (nonempty : children ≠ [])
    (each : ∀ child ∈ children, Valid child) :
    Valid (.complex header (.known operator) children none)
  | filter {header} {group : FilterGroup}
    (hid : header.id.IsName) (hgroup : group.Valid) : Valid (.filter header (.known group))
  | custom {header params} {function : Value}
    (hid : header.id.IsName) (hfunction : function.IsName) : Valid (.custom header function params)

structure Action.Valid (a : Action) : Prop where
  id                : ∃ s, a.id = .text s
  name              : ∃ s, a.name = .text s
  conditions        : ∀ condition ∈ a.conditions, condition.Valid
  noStrayConditions : a.strayConditions = none
  filters           : ∀ g ∈ a.filters, g.Valid
  noStrayFilters    : a.strayFilters = none
  onTrue            : ∃ b, a.onTrue = .known b

namespace Schema

theorem isName_text {s : String} (h : s ≠ "") : (Value.text s).IsName :=
  ⟨s, h, rfl⟩

theorem isName_of_nonEmptyText {v : Value} {s : String} (h : nonEmptyText v = .done s) :
    (Value.text s).IsName :=
  isName_text (nonEmptyText_eq_done.mp h).right

-- A field whose default is a new id holds a name in any case.
theorem isName_of_defaulted {entries : Entries} {names : List String} {kind s : String}
    (h : defaulted entries names (newId kind) nonEmptyText = .done s) : (Value.text s).IsName := by
  cases defaulted_eq_done h
  case inl h => exact isName_text (h ▸ newId_ne_empty kind)
  case inr h => exact isName_of_nonEmptyText h.choose_spec

theorem isName_of_required {entries : Entries} {names : List String} {s : String}
    (h : required entries names nonEmptyText = .done s) : (Value.text s).IsName :=
  have ⟨_, h⟩ := required_eq_done h
  isName_of_nonEmptyText h

theorem forall_of_defaulted {α : Type} {P : α → Prop} {entries : Entries} {names : List String}
    {r : Reader α} {as : List α} (hr : ∀ {v a}, r v = .done a → P a)
    (h : defaulted entries names [] (listOf r) = .done as) : ∀ a ∈ as, P a := by
  cases defaulted_eq_done h
  case inl h => simp [h]
  case inr h =>
    intro a hm
    have ⟨_, ha⟩ := listOf_eq_done h.choose_spec a hm
    exact hr ha

-- What holds of the members of every list that a reader gives, holds of them also where a list
-- that is not there counts as empty.
theorem forall_of_getD {α : Type} {P : α → Prop} {x : Option (Parsed (List α))} {as : List α}
    (hx : ∀ as, x = some (.done as) → ∀ a ∈ as, P a) (h : x.getD (.done []) = .done as) :
    ∀ a ∈ as, P a := by
  cases x
  case none   => cases h; simp
  case some x => exact hx as (congrArg some h)

end Schema

theorem Filter.valid_build {id name field : String} {operator : Operator} {value : Value}
    {enabled : Bool} {priority : Int} {rules : Option Rules} {transformation : Option Transformation}
    (hid : (Value.text id).IsName) (hfield : (Value.text field).IsName) :
    (build id name field operator value enabled priority rules transformation).Valid where
  id       := hid
  name     := ⟨name, rfl⟩
  field    := hfield
  operator := ⟨operator, rfl⟩
  enabled  := ⟨enabled, rfl⟩
  priority := ⟨priority, rfl⟩

theorem Filter.valid_of_read {v : Value} {f : Filter} (h : Filter.read v = .done f) : f.Valid := by
  have ⟨_, h⟩ := fields_eq_done h
  simp only [ofFields, seq_eq_done, map_eq_done] at h
  obtain ⟨_, ⟨_, ⟨_, ⟨_, ⟨_, ⟨_, ⟨_, ⟨_, ⟨_, hid, rfl⟩, _, -, rfl⟩, _, hfield, rfl⟩, _, -, rfl⟩,
    _, -, rfl⟩, _, -, rfl⟩, _, -, rfl⟩, _, -, rfl⟩, _, -, rfl⟩ := h
  exact valid_build (isName_of_defaulted hid) (isName_of_required hfield)

namespace FilterGroup

theorem valid_build {id name : String} {description : Option String} {operator : Combination}
    {filters : List Filter} {subGroups : List FilterGroup} {enabled : Bool} {priority : Int}
    (hid : (Value.text id).IsName) (hf : ∀ f ∈ filters, f.Valid) (hs : ∀ s ∈ subGroups, s.Valid) :
    (build id name description operator filters subGroups enabled priority).Valid :=
  .intro hid ⟨name, rfl⟩ ⟨operator, rfl⟩ hf rfl hs rfl ⟨enabled, rfl⟩ ⟨priority, rfl⟩

theorem valid_of_ofFields {entries : Entries} {subGroups : Option (Parsed (List FilterGroup))}
    {g : FilterGroup} (hs : ∀ gs, subGroups = some (.done gs) → ∀ g ∈ gs, g.Valid)
    (h : ofFields entries subGroups = .done g) : g.Valid := by
  simp only [ofFields, seq_eq_done, map_eq_done] at h
  obtain ⟨_, ⟨_, ⟨_, ⟨_, ⟨_, ⟨_, ⟨_, ⟨_, hid, rfl⟩, _, -, rfl⟩, _, -, rfl⟩, _, -, rfl⟩,
    _, hf, rfl⟩, _, hgs, rfl⟩, _, -, rfl⟩, _, -, rfl⟩ := h
  exact valid_build (isName_of_defaulted hid)
    (forall_of_defaulted (fun h => Filter.valid_of_read h) hf) (forall_of_getD hs hgs)

mutual

theorem valid_of_read : ∀ {v : Value} {g : FilterGroup}, read v = .done g → g.Valid
  | .map entries, _, h => by
    rw [read] at h
    refine valid_of_ofFields (fun gs hgs => ?_) h
    cases (Option.orElse_eq_some ..).mp hgs
    case inl h => exact valid_of_readUnder h
    case inr h => exact valid_of_readUnder h.right
  | .scalar _, _, h | .list _, _, h => by
    rw [read] at h
    · exact absurd h problem_ne_done
    · nofun

theorem valid_of_readUnder {name : String} : ∀ {entries : Entries} {gs : List FilterGroup},
    readUnder name entries = some (.done gs) → ∀ g ∈ gs, g.Valid
  | [], _, h => by simp [readUnder] at h
  | (k, v) :: rest, gs, h => by
    rw [readUnder] at h
    split at h
    · exact valid_of_readList (under_eq_done.mp (Option.some.inj h))
    · exact valid_of_readUnder h

theorem valid_of_readList : ∀ {v : Value} {gs : List FilterGroup},
    readList v = .done gs → ∀ g ∈ gs, g.Valid
  | .list vs, _, h => by
    rw [readList] at h
    exact valid_of_readItems h
  | .scalar _, _, h | .map _, _, h => by
    rw [readList] at h
    · exact absurd h problem_ne_done
    · nofun

theorem valid_of_readItems : ∀ {vs : List Value} {i : Nat} {gs : List FilterGroup},
    readItems i vs = .done gs → ∀ g ∈ gs, g.Valid
  | [], _, _, h => by
    rw [readItems] at h
    cases h
    simp
  | v :: vs, i, _, h => by
    simp only [readItems, seq_eq_done, map_eq_done] at h
    obtain ⟨_, ⟨g, hg, rfl⟩, gs, hgs, rfl⟩ := h
    exact List.forall_mem_cons.mpr ⟨valid_of_read (under_eq_done.mp hg), valid_of_readItems hgs⟩

end

end FilterGroup

namespace Condition

theorem isName_of_header {entries : Entries} {header : Header}
    (h : Header.ofFields entries = .done header) : header.id.IsName := by
  simp only [Header.ofFields, seq_eq_done, map_eq_done] at h
  obtain ⟨_, ⟨id, hid, rfl⟩, _, -, rfl⟩ := h
  exact isName_of_defaulted hid

theorem valid_of_simpleOfFields {entries : Entries} {condition : Condition}
    (h : simpleOfFields entries = .done condition) : condition.Valid := by
  simp only [simpleOfFields, seq_eq_done, map_eq_done] at h
  obtain ⟨_, ⟨_, ⟨_, ⟨_, hh, rfl⟩, _, hfield, rfl⟩, _, -, rfl⟩, _, -, rfl⟩ := h
  exact .simple (isName_of_header hh) (isName_of_required hfield)

theorem valid_of_withChildren {header : Header} {operator : Connective}
    {children : List Condition} {condition : Condition} (hid : header.id.IsName)
    (hc : ∀ child ∈ children, child.Valid)
    (h : withChildren header operator children = .done condition) : condition.Valid := by
  unfold withChildren at h
  split at h
  case isTrue => exact absurd h problem_ne_done
  split at h
  case isTrue => exact absurd h problem_ne_done
  case isFalse hn he =>
    cases h
    simp only [Bool.and_eq_true, beq_iff_eq, bne_iff_ne, ne_eq, not_and, not_not] at hn
    exact .complex hid hn (by simpa using he) hc

theorem valid_of_complexOfFields {entries : Entries} {children : Option (Parsed (List Condition))}
    {condition : Condition} (hc : ∀ cs, children = some (.done cs) → ∀ c ∈ cs, c.Valid)
    (h : complexOfFields entries children = .done condition) : condition.Valid := by
  simp only [complexOfFields, bind_eq_done, seq_eq_done, map_eq_done] at h
  obtain ⟨_, ⟨_, ⟨_, ⟨header, hh, rfl⟩, operator, -, rfl⟩, cs, hcs, rfl⟩, h⟩ := h
  exact valid_of_withChildren (isName_of_header hh) (forall_of_getD hc hcs) h

theorem valid_of_filterOfFields {entries : Entries} {condition : Condition}
    (h : filterOfFields entries = .done condition) : condition.Valid := by
  simp only [filterOfFields, seq_eq_done, map_eq_done] at h
  obtain ⟨_, ⟨_, hh, rfl⟩, group, hg, rfl⟩ := h
  have ⟨_, hr⟩ := required_eq_done hg
  exact .filter (isName_of_header hh) (FilterGroup.valid_of_read hr)

theorem valid_of_customOfFields {entries : Entries} {condition : Condition}
    (h : customOfFields entries = .done condition) : condition.Valid := by
  simp only [customOfFields, seq_eq_done, map_eq_done] at h
  obtain ⟨_, ⟨_, ⟨_, hh, rfl⟩, _, hfunction, rfl⟩, _, -, rfl⟩ := h
  exact .custom (isName_of_header hh) (isName_of_required hfunction)

theorem valid_of_ofFields {entries : Entries} {children : Option (Parsed (List Condition))}
    {condition : Condition} (hc : ∀ cs, children = some (.done cs) → ∀ c ∈ cs, c.Valid)
    (h : ofFields entries children = .done condition) : condition.Valid := by
  unfold ofFields at h
  split at h
  case h_1 => exact absurd h problem_ne_done
  case h_2 => exact valid_of_simpleOfFields (under_eq_done.mp h)
  case h_3 => exact valid_of_complexOfFields hc (under_eq_done.mp h)
  case h_4 => exact valid_of_filterOfFields (under_eq_done.mp h)
  case h_5 => exact valid_of_customOfFields (under_eq_done.mp h)
  case h_6 => exact absurd h problem_ne_done

mutual

theorem valid_of_read : ∀ {v : Value} {condition : Condition},
    read v = .done condition → condition.Valid
  | .map entries, _, h => by
    rw [read] at h
    refine valid_of_ofFields (fun cs hcs => ?_) h
    cases (Option.orElse_eq_some ..).mp hcs
    case inl h => exact valid_of_readUnder h
    case inr h => exact valid_of_readUnder h.right
  | .scalar _, _, h | .list _, _, h => by
    rw [read] at h
    exact absurd h problem_ne_done

theorem valid_of_readUnder {name : String} : ∀ {entries : Entries} {cs : List Condition},
    readUnder name entries = some (.done cs) → ∀ c ∈ cs, c.Valid
  | [], _, h => by simp [readUnder] at h
  | (k, v) :: rest, _, h => by
    rw [readUnder] at h
    split at h
    · exact valid_of_readList (under_eq_done.mp (Option.some.inj h))
    · exact valid_of_readUnder h

theorem valid_of_readList : ∀ {v : Value} {cs : List Condition},
    readList v = .done cs → ∀ c ∈ cs, c.Valid
  | .list vs, _, h => by
    rw [readList] at h
    exact valid_of_readItems h
  | .scalar _, _, h | .map _, _, h => by
    rw [readList] at h
    · exact absurd h problem_ne_done
    · nofun

theorem valid_of_readItems : ∀ {vs : List Value} {i : Nat} {cs : List Condition},
    readItems i vs = .done cs → ∀ c ∈ cs, c.Valid
  | [], _, _, h => by
    rw [readItems] at h
    cases h
    simp
  | v :: vs, i, _, h => by
    simp only [readItems, seq_eq_done, map_eq_done] at h
    obtain ⟨_, ⟨c, hc, rfl⟩, cs, hcs, rfl⟩ := h
    exact List.forall_mem_cons.mpr ⟨valid_of_read (under_eq_done.mp hc), valid_of_readItems hcs⟩

end

end Condition

theorem Action.valid_of_read {v : Value} {a : Action} (h : Action.read v = .done a) : a.Valid := by
  have ⟨_, h⟩ := fields_eq_done h
  simp only [ofFields, seq_eq_done, map_eq_done] at h
  obtain ⟨_, ⟨_, ⟨_, ⟨_, ⟨_, ⟨_, ⟨_, ⟨_, ⟨id, -, rfl⟩, name, -, rfl⟩, _, -, rfl⟩, conditions, hc, rfl⟩,
    filters, hf, rfl⟩, onTrue, -, rfl⟩, _, -, rfl⟩, _, -, rfl⟩, _, -, rfl⟩ := h
  exact {
    id                := ⟨id, rfl⟩
    name              := ⟨name, rfl⟩
    conditions        := forall_of_defaulted (fun h => Condition.valid_of_read h) hc
    noStrayConditions := rfl
    filters           := forall_of_defaulted (fun h => FilterGroup.valid_of_read h) hf
    noStrayFilters    := rfl
    onTrue            := ⟨onTrue, rfl⟩
  }

end FlowGate
