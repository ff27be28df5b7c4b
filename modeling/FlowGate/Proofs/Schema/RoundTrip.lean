import FlowGate.Proofs.Condition.Nodes
import FlowGate.Proofs.Schema.Restored
import FlowGate.Schema.Action

-- Configurations that are written and read back. Whatever was accepted, under whichever of its names, is
-- accepted again in the form in which it is written, and comes to the same.

namespace FlowGate

open Value Schema Parsed

variable {entries : Entries} {v : Value}

namespace Rules

variable {rules : Rules}

structure Reads (entries : Entries) (rules : Rules) : Prop where
  required  : truth (held entries ["required"] (bool false)) = .done rules.required
  dataType  : optional (word DataType.all DataType.name)
    (held entries ["dataType", "data_type"] null) = .done rules.dataType
  minLength : optional natural (held entries ["minLength", "min_length"] null) = .done rules.minLength
  maxLength : optional natural (held entries ["maxLength", "max_length"] null) = .done rules.maxLength
  pattern   : optional Schema.text (held entries ["pattern"] null) = .done rules.pattern
  validator : optional Schema.text
    (held entries ["customValidator", "custom_validator"] null) = .done rules.customValidator

theorem ofFields_iff : ofFields entries = .done rules ↔ rules.Reads entries := by
  simp only [ofFields, seq_eq_done, map_eq_done]
  constructor
  case mp =>
    rintro ⟨_, ⟨_, ⟨_, ⟨_, ⟨_, ⟨_, required, rfl⟩, _, dataType, rfl⟩, _, minLength, rfl⟩,
      _, maxLength, rfl⟩, _, pattern, rfl⟩, _, validator, rfl⟩
    exact {
      required  := (defaulted_iff (by rfl)).mp required
      dataType  := (defaulted_iff (by rfl)).mp dataType
      minLength := (defaulted_iff (by rfl)).mp minLength
      maxLength := (defaulted_iff (by rfl)).mp maxLength
      pattern   := (defaulted_iff (by rfl)).mp pattern
      validator := (defaulted_iff (by rfl)).mp validator
    }
  case mpr =>
    intro h
    exact ⟨_, ⟨_, ⟨_, ⟨_, ⟨_, ⟨_, (defaulted_iff (by rfl)).mpr h.required, rfl⟩,
      _, (defaulted_iff (by rfl)).mpr h.dataType, rfl⟩, _, (defaulted_iff (by rfl)).mpr h.minLength, rfl⟩,
      _, (defaulted_iff (by rfl)).mpr h.maxLength, rfl⟩, _, (defaulted_iff (by rfl)).mpr h.pattern, rfl⟩,
      _, (defaulted_iff (by rfl)).mpr h.validator, rfl⟩

theorem ofLength_restores : Restores (optional natural) ofLength := by
  intro v n h
  have h := optional_restores natural_restores nofun h
  cases n <;> exact h

theorem read_restores : Restores read dump := by
  intro v rules h
  have ⟨entries, h⟩ := fields_eq_done h
  have h := ofFields_iff.mp h
  refine ofFields_iff.mpr ?_
  exact {
    required  := truth_restores h.required
    dataType  := optionalWord_restores h.dataType
    minLength := ofLength_restores h.minLength
    maxLength := ofLength_restores h.maxLength
    pattern   := optionalText_restores h.pattern
    validator := optionalText_restores h.validator
  }

end Rules

namespace Transformation

variable {t : Transformation}

structure Reads (entries : Entries) (t : Transformation) : Prop where
  kind           : word TransformKind.all TransformKind.name (held entries ["type"] missing) = .done t.kind
  customFunction : optional Schema.text
    (held entries ["customFunction", "custom_function"] null) = .done t.customFunction
  params         : mapping (held entries ["params"] (map [])) = .done t.params

theorem ofFields_iff : ofFields entries = .done t ↔ t.Reads entries := by
  simp only [ofFields, seq_eq_done, map_eq_done]
  constructor
  case mp =>
    rintro ⟨_, ⟨_, ⟨_, kind, rfl⟩, _, customFunction, rfl⟩, _, params, rfl⟩
    exact {
      kind           := (required_iff nofun).mp kind
      customFunction := (defaulted_iff (by rfl)).mp customFunction
      params         := (defaulted_iff (by rfl)).mp params
    }
  case mpr =>
    intro h
    exact ⟨_, ⟨_, ⟨_, (required_iff nofun).mpr h.kind, rfl⟩,
      _, (defaulted_iff (by rfl)).mpr h.customFunction, rfl⟩, _, (defaulted_iff (by rfl)).mpr h.params, rfl⟩

theorem read_restores : Restores read dump := by
  intro v t h
  have ⟨entries, h⟩ := fields_eq_done h
  have h := ofFields_iff.mp h
  refine ofFields_iff.mpr ?_
  exact {
    kind           := word_restores h.kind
    customFunction := optionalText_restores h.customFunction
    params         := mapping_restores h.params
  }

end Transformation

namespace Filter

variable {f : Filter}

inductive Reads (entries : Entries) : Filter → Prop
  | intro {i n x : String} {o : Operator} {u : Value} {b : Bool} {p : Int} {r : Option Rules}
    {t : Option Transformation}
    (id             : nonEmptyText (held entries ["id"] (.text (newId "filter"))) = .done i)
    (name           : Schema.text (held entries ["name"] (.text "")) = .done n)
    (field          : nonEmptyText (held entries ["field"] missing) = .done x)
    (operator       : Operator.read (held entries ["operator"] missing) = .done o)
    (value          : held entries ["value"] null = u)
    (enabled        : truth (held entries ["enabled"] (bool true)) = .done b)
    (priority       : whole (held entries ["priority"] (int 0)) = .done p)
    (rules          : optional Rules.read (held entries ["validation"] null) = .done r)
    (transformation : optional Transformation.read (held entries ["transformation"] null) = .done t) :
    Reads entries (build i n x o u b p r t)

theorem ofFields_iff : ofFields entries = .done f ↔ Reads entries f := by
  simp only [ofFields, seq_eq_done, map_eq_done]
  constructor
  case mp =>
    rintro ⟨_, ⟨_, ⟨_, ⟨_, ⟨_, ⟨_, ⟨_, ⟨_, ⟨_, id, rfl⟩, _, name, rfl⟩, _, field, rfl⟩,
      _, operator, rfl⟩, _, value, rfl⟩, _, enabled, rfl⟩, _, priority, rfl⟩, _, rules, rfl⟩,
      _, transformation, rfl⟩
    exact .intro ((defaulted_iff (by rfl)).mp id) ((defaulted_iff (by rfl)).mp name)
      ((required_iff nofun).mp field) ((required_iff nofun).mp operator)
      (Parsed.done.inj ((defaulted_iff (by rfl)).mp value)) ((defaulted_iff (by rfl)).mp enabled)
      ((defaulted_iff (by rfl)).mp priority) ((defaulted_iff (by rfl)).mp rules)
      ((defaulted_iff (by rfl)).mp transformation)
  case mpr =>
    rintro ⟨id, name, field, operator, value, enabled, priority, rules, transformation⟩
    exact ⟨_, ⟨_, ⟨_, ⟨_, ⟨_, ⟨_, ⟨_, ⟨_, ⟨_, (defaulted_iff (by rfl)).mpr id, rfl⟩,
      _, (defaulted_iff (by rfl)).mpr name, rfl⟩, _, (required_iff nofun).mpr field, rfl⟩,
      _, (required_iff nofun).mpr operator, rfl⟩,
      _, (defaulted_iff (by rfl)).mpr (congrArg Parsed.done value), rfl⟩,
      _, (defaulted_iff (by rfl)).mpr enabled, rfl⟩, _, (defaulted_iff (by rfl)).mpr priority, rfl⟩,
      _, (defaulted_iff (by rfl)).mpr rules, rfl⟩, _, (defaulted_iff (by rfl)).mpr transformation, rfl⟩

theorem read_restores : Restores read dump := by
  intro v f h
  have ⟨entries, h⟩ := fields_eq_done h
  have ⟨id, name, field, operator, value, enabled, priority, rules, transformation⟩ :=
    ofFields_iff.mp h
  refine ofFields_iff.mpr (.intro ?_ ?_ ?_ ?_ ?_ ?_ ?_ ?_ ?_)
  · exact nonEmptyText_restores id
  · exact text_restores name
  · exact nonEmptyText_restores field
  · exact word_restores operator
  · rfl
  · exact truth_restores enabled
  · exact whole_restores priority
  · exact optional_restores Rules.read_restores nofun rules
  · exact optional_restores Transformation.read_restores nofun transformation

end Filter

namespace FilterGroup

variable {g : FilterGroup} {gs : List FilterGroup}

theorem readItems_eq {i : Nat} {vs : List Value} : readItems i vs = items read i vs := by
  induction vs generalizing i <;> simp [readItems, items, *]

theorem readUnder_eq {name : String} : readUnder name entries =
    (Entries.get? entries name).map fun v => (listOf read v).under (.key name) := by
  induction entries
  case nil => rfl
  case cons e rest hi =>
    rw [readUnder, hi]
    cases h : e.1.same (.text name)
    case false => simp [Entries.get?, Entries.find?, h]
    case true =>
      cases hv : e.2 <;> simp [Entries.get?, Entries.find?, h, hv, readList, listOf, readItems_eq]

theorem dumps_eq : dumps gs = gs.map dump := by
  induction gs <;> simp [dumps, *]

inductive Reads (entries : Entries) : FilterGroup → Prop
  | intro {i n : String} {d : Option String} {o : Combination} {fs : List Filter}
    {gs : List FilterGroup} {b : Bool} {p : Int}
    (id          : nonEmptyText (held entries ["id"] (.text (newId "group"))) = .done i)
    (name        : Schema.text (held entries ["name"] (.text "")) = .done n)
    (description : optional Schema.text (held entries ["description"] null) = .done d)
    (operator    : Combination.read (held entries ["operator"] (.text "and")) = .done o)
    (filters     : listOf Filter.read (held entries ["filters"] (list [])) = .done fs)
    (subGroups   : listOf read (held entries ["sub_groups", "subGroups"] (list [])) = .done gs)
    (enabled     : truth (held entries ["enabled"] (bool true)) = .done b)
    (priority    : whole (held entries ["priority"] (int 0)) = .done p) :
    Reads entries (build i n d o fs gs b p)

theorem read_map_iff : read (.map entries) = .done g ↔ Reads entries g := by
  simp only [read, ofFields, seq_eq_done, map_eq_done]
  constructor
  case mp =>
    rintro ⟨_, ⟨_, ⟨_, ⟨_, ⟨_, ⟨_, ⟨_, ⟨_, id, rfl⟩, _, name, rfl⟩, _, description, rfl⟩,
      _, operator, rfl⟩, _, filters, rfl⟩, _, subGroups, rfl⟩, _, enabled, rfl⟩, _, priority, rfl⟩
    exact .intro ((defaulted_iff (by rfl)).mp id) ((defaulted_iff (by rfl)).mp name)
      ((defaulted_iff (by rfl)).mp description) ((defaulted_iff (by rfl)).mp operator)
      ((defaulted_iff (by rfl)).mp filters) ((members_iff readUnder_eq readUnder_eq).mp subGroups)
      ((defaulted_iff (by rfl)).mp enabled) ((defaulted_iff (by rfl)).mp priority)
  case mpr =>
    rintro ⟨id, name, description, operator, filters, subGroups, enabled, priority⟩
    exact ⟨_, ⟨_, ⟨_, ⟨_, ⟨_, ⟨_, ⟨_, ⟨_, (defaulted_iff (by rfl)).mpr id, rfl⟩,
      _, (defaulted_iff (by rfl)).mpr name, rfl⟩, _, (defaulted_iff (by rfl)).mpr description, rfl⟩,
      _, (defaulted_iff (by rfl)).mpr operator, rfl⟩, _, (defaulted_iff (by rfl)).mpr filters, rfl⟩,
      _, (members_iff readUnder_eq readUnder_eq).mpr subGroups, rfl⟩, _, (defaulted_iff (by rfl)).mpr enabled, rfl⟩,
      _, (defaulted_iff (by rfl)).mpr priority, rfl⟩

theorem read_done (h : read v = .done g) : ∃ entries, v = .map entries ∧ Reads entries g := by
  cases v
  case map entries => exact ⟨entries, rfl, read_map_iff.mp h⟩
  case scalar | list =>
    rw [read] at h
    · exact absurd h problem_ne_done
    · nofun

theorem read_restores : Restores read dump := by
  intro v g h
  induction g using bySubGroups generalizing v
  case node g hi =>
    obtain ⟨entries, rfl, id, name, description, operator, filters, subGroups, enabled, priority⟩ :=
      read_done h
    rw [build, dump, dumps_eq]
    refine read_map_iff.mpr (.intro ?_ ?_ ?_ ?_ ?_ ?_ ?_ ?_)
    · exact nonEmptyText_restores id
    · exact text_restores name
    · exact optionalText_restores description
    · exact word_restores operator
    · exact listOf_restores Filter.read_restores filters
    · refine listOf_done fun s hm => ?_
      have ⟨_, hs⟩ := listOf_eq_done subGroups s hm
      exact hi s hm hs
    · exact truth_restores enabled
    · exact whole_restores priority

end FilterGroup

namespace Remarks

variable {remarks : Remarks}

structure Reads (entries : Entries) (remarks : Remarks) : Prop where
  name        : optional Schema.text (held entries ["name"] null) = .done remarks.name
  description : optional Schema.text (held entries ["description"] null) = .done remarks.description
  priority    : whole (held entries ["priority"] (int 0)) = .done remarks.priority
  tags        : listOf Schema.text (held entries ["tags"] (list [])) = .done remarks.tags

theorem ofFields_iff : ofFields entries = .done remarks ↔ remarks.Reads entries := by
  simp only [ofFields, seq_eq_done, map_eq_done]
  constructor
  case mp =>
    rintro ⟨_, ⟨_, ⟨_, ⟨_, name, rfl⟩, _, description, rfl⟩, _, priority, rfl⟩, _, tags, rfl⟩
    exact {
      name        := (defaulted_iff (by rfl)).mp name
      description := (defaulted_iff (by rfl)).mp description
      priority    := (defaulted_iff (by rfl)).mp priority
      tags        := (defaulted_iff (by rfl)).mp tags
    }
  case mpr =>
    intro h
    exact ⟨_, ⟨_, ⟨_, ⟨_, (defaulted_iff (by rfl)).mpr h.name, rfl⟩,
      _, (defaulted_iff (by rfl)).mpr h.description, rfl⟩, _, (defaulted_iff (by rfl)).mpr h.priority, rfl⟩,
      _, (defaulted_iff (by rfl)).mpr h.tags, rfl⟩

theorem read_restores : Restores read dump := by
  intro v remarks h
  have ⟨entries, h⟩ := fields_eq_done h
  have h := ofFields_iff.mp h
  refine ofFields_iff.mpr ?_
  exact {
    name        := optionalText_restores h.name
    description := optionalText_restores h.description
    priority    := whole_restores h.priority
    tags        := texts_restores h.tags
  }

end Remarks

namespace Header

variable {header : Header}

inductive Reads (entries : Entries) : Header → Prop
  | intro {i : String} {r : Remarks}
    (id      : nonEmptyText (held entries ["id"] (.text (newId "cond"))) = .done i)
    (remarks : Remarks.read (held entries ["metadata"] (map [])) = .done r) :
    Reads entries (build i r)

theorem ofFields_iff : ofFields entries = .done header ↔ Reads entries header := by
  simp only [ofFields, seq_eq_done, map_eq_done]
  constructor
  case mp =>
    rintro ⟨_, ⟨_, id, rfl⟩, _, remarks, rfl⟩
    exact .intro ((defaulted_iff (by rfl)).mp id) ((defaulted_iff (by rfl)).mp remarks)
  case mpr =>
    rintro ⟨id, remarks⟩
    exact ⟨_, ⟨_, (defaulted_iff (by rfl)).mpr id, rfl⟩, _, (defaulted_iff (by rfl)).mpr remarks, rfl⟩

-- The fields of a header are found among those of its condition.
theorem Reads.restored {written : Entries} (h : Reads entries header)
    (hi : held written ["id"] (.text (newId "cond")) = header.id)
    (hr : held written ["metadata"] (map []) = header.remarks.dump) : Reads written header := by
  obtain ⟨id, remarks⟩ := h
  refine .intro ?_ ?_
  · rw [hi]; exact nonEmptyText_restores id
  · rw [hr]; exact Remarks.read_restores remarks

end Header

namespace Condition

variable {condition : Condition} {cs : List Condition}

theorem readItems_eq {i : Nat} {vs : List Value} : readItems i vs = items read i vs := by
  induction vs generalizing i <;> simp [readItems, items, *]

theorem readUnder_eq {name : String} : readUnder name entries =
    (Entries.get? entries name).map fun v => (listOf read v).under (.key name) := by
  induction entries
  case nil => rfl
  case cons e rest hi =>
    rw [readUnder, hi]
    cases h : e.1.same (.text name)
    case false => simp [Entries.get?, Entries.find?, h]
    case true =>
      cases hv : e.2 <;> simp [Entries.get?, Entries.find?, h, hv, readList, listOf, readItems_eq]

theorem dumps_eq : dumps cs = cs.map dump := by
  induction cs <;> simp [dumps, *]

inductive Reads (entries : Entries) : Condition → Prop
  | simple {h : Header} {x : String} {o : Operator} {u : Value}
    (kind     : Entries.get? entries "kind" = some (.text "simple"))
    (header   : h.Reads entries)
    (field    : nonEmptyText (held entries ["field"] missing) = .done x)
    (operator : Operator.read (held entries ["operator"] missing) = .done o)
    (value    : held entries ["value"] null = u) : Reads entries (.simple h (.text x) (.known o) u)
  | complex {h : Header} {k : Connective} {cs : List Condition}
    (kind     : Entries.get? entries "kind" = some (.text "complex"))
    (header   : h.Reads entries)
    (operator : word Connective.all Connective.name (held entries ["operator"] missing) = .done k)
    (children : listOf read (held entries ["children", "conditions"] (list [])) = .done cs)
    (arity    : withChildren h k cs = .done (.complex h (.known k) cs none)) :
    Reads entries (.complex h (.known k) cs none)
  | filter {h : Header} {g : FilterGroup}
    (kind   : Entries.get? entries "kind" = some (.text "filter"))
    (header : h.Reads entries)
    (group  : FilterGroup.read (held entries ["group"] missing) = .done g) :
    Reads entries (.filter h (.known g))
  | custom {h : Header} {x : String} {u : Value}
    (kind     : Entries.get? entries "kind" = some (.text "custom"))
    (header   : h.Reads entries)
    (function : nonEmptyText (held entries functionNames missing) = .done x)
    (value    : held entries ["value"] null = u) : Reads entries (.custom h (.text x) u)

theorem withChildren_done {header : Header} {k : Connective}
    (h : withChildren header k cs = .done condition) : condition = .complex header (.known k) cs none := by
  unfold withChildren at h
  split at h
  case isTrue => exact absurd h problem_ne_done
  split at h
  case isTrue  => exact absurd h problem_ne_done
  case isFalse => cases h; rfl

theorem reads_of_simple (kind : Entries.get? entries "kind" = some (.text "simple"))
    (h : simpleOfFields entries = .done condition) : Reads entries condition := by
  simp only [simpleOfFields, seq_eq_done, map_eq_done] at h
  obtain ⟨_, ⟨_, ⟨_, ⟨_, header, rfl⟩, _, field, rfl⟩, _, operator, rfl⟩, _, value, rfl⟩ := h
  exact .simple kind (Header.ofFields_iff.mp header) ((required_iff nofun).mp field)
    ((required_iff nofun).mp operator) (Parsed.done.inj ((defaulted_iff (by rfl)).mp value))

theorem reads_of_complex (kind : Entries.get? entries "kind" = some (.text "complex"))
    (h : complexOfFields entries (readUnder "children" entries <|> readUnder "conditions" entries) =
      .done condition) : Reads entries condition := by
  simp only [complexOfFields, bind_eq_done, seq_eq_done, map_eq_done] at h
  obtain ⟨_, ⟨_, ⟨_, ⟨_, header, rfl⟩, _, operator, rfl⟩, _, children, rfl⟩, h⟩ := h
  have hc := withChildren_done h
  rw [hc] at h ⊢
  exact .complex kind (Header.ofFields_iff.mp header) ((required_iff nofun).mp operator)
    ((members_iff readUnder_eq readUnder_eq).mp children) h

theorem reads_of_filter (kind : Entries.get? entries "kind" = some (.text "filter"))
    (h : filterOfFields entries = .done condition) : Reads entries condition := by
  simp only [filterOfFields, seq_eq_done, map_eq_done] at h
  obtain ⟨_, ⟨_, header, rfl⟩, _, group, rfl⟩ := h
  exact .filter kind (Header.ofFields_iff.mp header) ((required_iff nofun).mp group)

theorem reads_of_custom (kind : Entries.get? entries "kind" = some (.text "custom"))
    (h : customOfFields entries = .done condition) : Reads entries condition := by
  simp only [customOfFields, seq_eq_done, map_eq_done] at h
  obtain ⟨_, ⟨_, ⟨_, header, rfl⟩, _, function, rfl⟩, _, value, rfl⟩ := h
  exact .custom kind (Header.ofFields_iff.mp header) ((required_iff nofun).mp function)
    (Parsed.done.inj ((defaulted_iff (by rfl)).mp value))

theorem read_map_iff : read (.map entries) = .done condition ↔ Reads entries condition := by
  rw [read, ofFields]
  constructor
  case mp =>
    intro h
    split at h
    case h_1      => exact absurd h problem_ne_done
    case h_2 kind => exact reads_of_simple kind (under_eq_done.mp h)
    case h_3 kind => exact reads_of_complex kind (under_eq_done.mp h)
    case h_4 kind => exact reads_of_filter kind (under_eq_done.mp h)
    case h_5 kind => exact reads_of_custom kind (under_eq_done.mp h)
    case h_6      => exact absurd h problem_ne_done
  case mpr =>
    intro h
    cases h
    case simple kind header field operator value =>
      simp only [kind, under_eq_done, simpleOfFields, seq_eq_done, map_eq_done]
      exact ⟨_, ⟨_, ⟨_, ⟨_, Header.ofFields_iff.mpr header, rfl⟩, _, (required_iff nofun).mpr field, rfl⟩,
        _, (required_iff nofun).mpr operator, rfl⟩,
        _, (defaulted_iff (by rfl)).mpr (congrArg Parsed.done value), rfl⟩
    case complex kind header operator children arity =>
      simp only [kind, under_eq_done, complexOfFields, bind_eq_done, seq_eq_done, map_eq_done]
      exact ⟨_, ⟨_, ⟨_, ⟨_, Header.ofFields_iff.mpr header, rfl⟩, _, (required_iff nofun).mpr operator, rfl⟩,
        _, (members_iff readUnder_eq readUnder_eq).mpr children, rfl⟩, arity⟩
    case filter kind header group =>
      simp only [kind, under_eq_done, filterOfFields, seq_eq_done, map_eq_done]
      exact ⟨_, ⟨_, Header.ofFields_iff.mpr header, rfl⟩, _, (required_iff nofun).mpr group, rfl⟩
    case custom kind header function value =>
      simp only [kind, under_eq_done, customOfFields, seq_eq_done, map_eq_done]
      exact ⟨_, ⟨_, ⟨_, Header.ofFields_iff.mpr header, rfl⟩, _, (required_iff nofun).mpr function, rfl⟩,
        _, (defaulted_iff (by rfl)).mpr (congrArg Parsed.done value), rfl⟩

theorem read_done (h : read v = .done condition) :
    ∃ entries, v = .map entries ∧ Reads entries condition := by
  cases v
  case map entries => exact ⟨entries, rfl, read_map_iff.mp h⟩
  case scalar | list =>
    rw [read] at h
    exact absurd h problem_ne_done

theorem read_restores : Restores read dump := by
  intro v condition h
  induction condition using byChildren generalizing v
  case node condition hi =>
    obtain ⟨entries, rfl, hr⟩ := read_done h
    cases hr
    case simple _ header field operator value =>
      rw [dump]
      refine read_map_iff.mpr (.simple rfl (header.restored rfl rfl) ?_ ?_ rfl)
      · exact nonEmptyText_restores field
      · exact word_restores operator
    case complex _ header operator children arity =>
      rw [dump, dumps_eq]
      refine read_map_iff.mpr (.complex rfl (header.restored rfl rfl) ?_ ?_ arity)
      · exact word_restores operator
      · refine listOf_done fun child hm => ?_
        have ⟨_, hc⟩ := listOf_eq_done children child hm
        exact hi child hm hc
    case filter _ header group =>
      rw [dump]
      exact read_map_iff.mpr (.filter rfl (header.restored rfl rfl) (FilterGroup.read_restores group))
    case custom _ header function value =>
      rw [dump]
      refine read_map_iff.mpr (.custom rfl (header.restored rfl rfl) ?_ rfl)
      exact nonEmptyText_restores function

end Condition

namespace BranchNote

variable {note : BranchNote}

structure Reads (entries : Entries) (note : BranchNote) : Prop where
  description : optional Schema.text (held entries ["description"] null) = .done note.description
  tags        : listOf Schema.text (held entries ["tags"] (list [])) = .done note.tags

theorem ofFields_iff : ofFields entries = .done note ↔ note.Reads entries := by
  simp only [ofFields, seq_eq_done, map_eq_done]
  constructor
  case mp =>
    rintro ⟨_, ⟨_, description, rfl⟩, _, tags, rfl⟩
    exact ⟨(defaulted_iff (by rfl)).mp description, (defaulted_iff (by rfl)).mp tags⟩
  case mpr =>
    intro h
    exact ⟨_, ⟨_, (defaulted_iff (by rfl)).mpr h.description, rfl⟩,
      _, (defaulted_iff (by rfl)).mpr h.tags, rfl⟩

theorem read_restores : Restores read dump := by
  intro v note h
  have ⟨entries, h⟩ := fields_eq_done h
  have h := ofFields_iff.mp h
  exact ofFields_iff.mpr ⟨optionalText_restores h.description, texts_restores h.tags⟩

end BranchNote

namespace Branch

variable {b : Branch}

structure Reads (entries : Entries) (b : Branch) : Prop where
  actionIds        : listOf Schema.text (held entries ["actionIds", "action_ids"] (list [])) =
    .done b.actionIds
  continueWorkflow : truth (held entries ["continueWorkflow", "continue_workflow"] (bool false)) =
    .done b.continueWorkflow
  setVariables     : mapping (held entries ["setVariables", "set_variables"] (map [])) =
    .done b.setVariables
  note             : optional BranchNote.read (held entries ["metadata"] null) = .done b.note

theorem ofFields_iff : ofFields entries = .done b ↔ b.Reads entries := by
  simp only [ofFields, seq_eq_done, map_eq_done]
  constructor
  case mp =>
    rintro ⟨_, ⟨_, ⟨_, ⟨_, actionIds, rfl⟩, _, continueWorkflow, rfl⟩, _, setVariables, rfl⟩, _, note, rfl⟩
    exact {
      actionIds        := (defaulted_iff (by rfl)).mp actionIds
      continueWorkflow := (defaulted_iff (by rfl)).mp continueWorkflow
      setVariables     := (defaulted_iff (by rfl)).mp setVariables
      note             := (defaulted_iff (by rfl)).mp note
    }
  case mpr =>
    intro h
    exact ⟨_, ⟨_, ⟨_, ⟨_, (defaulted_iff (by rfl)).mpr h.actionIds, rfl⟩,
      _, (defaulted_iff (by rfl)).mpr h.continueWorkflow, rfl⟩,
      _, (defaulted_iff (by rfl)).mpr h.setVariables, rfl⟩, _, (defaulted_iff (by rfl)).mpr h.note, rfl⟩

theorem read_restores : Restores read dump := by
  intro v b h
  have ⟨entries, h⟩ := fields_eq_done h
  have h := ofFields_iff.mp h
  refine ofFields_iff.mpr ?_
  exact {
    actionIds        := texts_restores h.actionIds
    continueWorkflow := truth_restores h.continueWorkflow
    setVariables     := mapping_restores h.setVariables
    note             := optional_restores BranchNote.read_restores nofun h.note
  }

theorem optional_read_restores : Restores (optional read) dumpOption :=
  optional_restores read_restores nofun

end Branch

namespace Options

variable {o : Options}

structure Reads (entries : Entries) (o : Options) : Prop where
  mode               : word Mode.list Mode.name
    (held entries ["evaluationMode", "evaluation_mode"] (.text "all")) = .done o.mode
  stopOnFirstFailure : truth
    (held entries ["stopOnFirstFailure", "stop_on_first_failure"] (bool false)) = .done o.stopOnFirstFailure
  timeoutMs          : optional whole (held entries ["timeoutMs", "timeout_ms"] null) = .done o.timeoutMs
  cacheResults       : truth (held entries ["cacheResults", "cache_results"] (bool false)) =
    .done o.cacheResults
  detail             : word Detail.list Detail.name
    (held entries ["logLevel", "log_level"] (.text "basic")) = .done o.detail

theorem ofFields_iff : ofFields entries = .done o ↔ o.Reads entries := by
  simp only [ofFields, seq_eq_done, map_eq_done]
  constructor
  case mp =>
    rintro ⟨_, ⟨_, ⟨_, ⟨_, ⟨_, mode, rfl⟩, _, stopOnFirstFailure, rfl⟩, _, timeoutMs, rfl⟩,
      _, cacheResults, rfl⟩, _, detail, rfl⟩
    exact {
      mode               := (defaulted_iff (by rfl)).mp mode
      stopOnFirstFailure := (defaulted_iff (by rfl)).mp stopOnFirstFailure
      timeoutMs          := (defaulted_iff (by rfl)).mp timeoutMs
      cacheResults       := (defaulted_iff (by rfl)).mp cacheResults
      detail             := (defaulted_iff (by rfl)).mp detail
    }
  case mpr =>
    intro h
    exact ⟨_, ⟨_, ⟨_, ⟨_, ⟨_, (defaulted_iff (by rfl)).mpr h.mode, rfl⟩,
      _, (defaulted_iff (by rfl)).mpr h.stopOnFirstFailure, rfl⟩,
      _, (defaulted_iff (by rfl)).mpr h.timeoutMs, rfl⟩,
      _, (defaulted_iff (by rfl)).mpr h.cacheResults, rfl⟩, _, (defaulted_iff (by rfl)).mpr h.detail, rfl⟩

theorem read_restores : Restores read dump := by
  intro v o h
  have ⟨entries, h⟩ := fields_eq_done h
  have h := ofFields_iff.mp h
  refine ofFields_iff.mpr ?_
  exact {
    mode               := word_restores h.mode
    stopOnFirstFailure := truth_restores h.stopOnFirstFailure
    timeoutMs          := optional_restores whole_restores nofun h.timeoutMs
    cacheResults       := truth_restores h.cacheResults
    detail             := word_restores h.detail
  }

end Options

namespace Action

variable {a : Action}

inductive Reads (entries : Entries) : Action → Prop
  | intro {i n : String} {d : Option String} {cs : List Condition} {gs : List FilterGroup}
    {t : Branch} {f x : Option Branch} {o : Options}
    (id          : Schema.text (held entries ["id"] (.text (newId "conditional"))) = .done i)
    (name        : Schema.text (held entries ["name"] (.text "Conditional Action")) = .done n)
    (description : optional Schema.text (held entries ["description"] null) = .done d)
    (conditions  : listOf Condition.read (held entries ["conditions"] (list [])) = .done cs)
    (filters     : listOf FilterGroup.read (held entries ["filters"] (list [])) = .done gs)
    (onTrue      : Branch.read (held entries ["onTrue", "on_true"] missing) = .done t)
    (onFalse     : optional Branch.read (held entries ["onFalse", "on_false"] null) = .done f)
    (onError     : optional Branch.read (held entries ["onError", "on_error"] null) = .done x)
    (options     : Options.read (held entries ["options"] (map [])) = .done o) :
    Reads entries (build i n d cs gs t f x o)

theorem ofFields_iff : ofFields entries = .done a ↔ Reads entries a := by
  simp only [ofFields, seq_eq_done, map_eq_done]
  constructor
  case mp =>
    rintro ⟨_, ⟨_, ⟨_, ⟨_, ⟨_, ⟨_, ⟨_, ⟨_, ⟨_, id, rfl⟩, _, name, rfl⟩, _, description, rfl⟩,
      _, conditions, rfl⟩, _, filters, rfl⟩, _, onTrue, rfl⟩, _, onFalse, rfl⟩, _, onError, rfl⟩,
      _, options, rfl⟩
    exact .intro ((defaulted_iff (by rfl)).mp id) ((defaulted_iff (by rfl)).mp name)
      ((defaulted_iff (by rfl)).mp description) ((defaulted_iff (by rfl)).mp conditions)
      ((defaulted_iff (by rfl)).mp filters) ((required_iff nofun).mp onTrue)
      ((defaulted_iff (by rfl)).mp onFalse) ((defaulted_iff (by rfl)).mp onError)
      ((defaulted_iff (by rfl)).mp options)
  case mpr =>
    rintro ⟨id, name, description, conditions, filters, onTrue, onFalse, onError, options⟩
    exact ⟨_, ⟨_, ⟨_, ⟨_, ⟨_, ⟨_, ⟨_, ⟨_, ⟨_, (defaulted_iff (by rfl)).mpr id, rfl⟩,
      _, (defaulted_iff (by rfl)).mpr name, rfl⟩, _, (defaulted_iff (by rfl)).mpr description, rfl⟩,
      _, (defaulted_iff (by rfl)).mpr conditions, rfl⟩, _, (defaulted_iff (by rfl)).mpr filters, rfl⟩,
      _, (required_iff nofun).mpr onTrue, rfl⟩, _, (defaulted_iff (by rfl)).mpr onFalse, rfl⟩,
      _, (defaulted_iff (by rfl)).mpr onError, rfl⟩, _, (defaulted_iff (by rfl)).mpr options, rfl⟩

theorem read_done (h : read v = .done a) : ∃ entries, v = .map entries ∧ Reads entries a := by
  cases v
  case map entries   => exact ⟨entries, rfl, ofFields_iff.mp h⟩
  case scalar | list => exact absurd h problem_ne_done

theorem read_restores : Restores read dump := by
  intro v a h
  obtain ⟨entries, rfl, id, name, description, conditions, filters, onTrue, onFalse, onError, options⟩ :=
    read_done h
  rw [build, dump, Condition.dumps_eq, FilterGroup.dumps_eq]
  refine ofFields_iff.mpr (.intro ?_ ?_ ?_ ?_ ?_ ?_ ?_ ?_ ?_)
  · exact text_restores id
  · exact text_restores name
  · exact optionalText_restores description
  · exact listOf_restores Condition.read_restores conditions
  · exact listOf_restores FilterGroup.read_restores filters
  · exact Branch.read_restores onTrue
  · exact Branch.optional_read_restores onFalse
  · exact Branch.optional_read_restores onError
  · exact Options.read_restores options

end Action

end FlowGate
