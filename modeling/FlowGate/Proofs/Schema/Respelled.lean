import FlowGate.Proofs.Schema.Spelling
import Mathlib.Logic.Relation

-- Reading a configuration in another spelling. Whatever the names of its keys, it is accepted or not, and comes to
-- the same.

namespace FlowGate.Schema

open Value Parsed

variable {m : Model} {shape : Shape} {names : List String} {entries entries' : Entries} {v w : Value}

namespace Model.Kin

section Fields

variable {α : Type} {r : Reader α} {a : α} {d : Value}

theorem held (k : m.Kin entries entries') (h : m.Has names shape) :
    shape.Alike (held entries names d) (held entries' names d) := by
  rw [held_eq, held_eq]
  have hr := k h
  generalize found entries names = o, found entries' names = o' at hr ⊢
  cases hr
  case none   => exact .refl
  case some h => exact h

theorem same (k : m.Kin entries entries') (h : m.Has names .free) :
    Schema.held entries names d = Schema.held entries' names d :=
  k.held h

theorem free (k : m.Kin entries entries') (h : m.Has names .free)
    (hr : r (Schema.held entries names d) = .done a) : r (Schema.held entries' names d) = .done a := by
  rwa [← k.same h]

theorem deep (k : m.Kin entries entries') (shape : Shape) (hs : shape.Alike = SameReading r)
    (h : m.Has names shape) (hr : r (Schema.held entries names d) = .done a) :
    r (Schema.held entries' names d) = .done a := by
  have hd := k.held (d := d) h
  rw [hs] at hd
  exact (hd.reads a).mp hr

theorem deepOptional {a : Option α} (k : m.Kin entries entries') (shape : Shape)
    (hs : shape.Alike = SameReading r) (h : m.Has names shape)
    (hr : optional r (Schema.held entries names d) = .done a) :
    optional r (Schema.held entries' names d) = .done a := by
  have hd := k.held (d := d) h
  rw [hs] at hd
  exact (hd.optional.reads a).mp hr

end Fields

theorem rules {rules : Rules} (k : Kin .rules entries entries') (h : rules.Reads entries) :
    rules.Reads entries' where
  required  := k.free (by decide) h.required
  dataType  := k.free (by decide) h.dataType
  minLength := k.free (by decide) h.minLength
  maxLength := k.free (by decide) h.maxLength
  pattern   := k.free (by decide) h.pattern
  validator := k.free (by decide) h.validator

theorem transformation {t : Transformation} (k : Kin .transformation entries entries') (h : t.Reads entries) :
    t.Reads entries' where
  kind           := k.free (by decide) h.kind
  customFunction := k.free (by decide) h.customFunction
  params         := k.free (by decide) h.params

theorem branch {b : Branch} (k : Kin .branch entries entries') (h : b.Reads entries) : b.Reads entries' where
  actionIds        := k.free (by decide) h.actionIds
  continueWorkflow := k.free (by decide) h.continueWorkflow
  setVariables     := k.free (by decide) h.setVariables
  note             := k.free (by decide) h.note

theorem options {o : Options} (k : Kin .options entries entries') (h : o.Reads entries) : o.Reads entries' where
  mode               := k.free (by decide) h.mode
  stopOnFirstFailure := k.free (by decide) h.stopOnFirstFailure
  timeoutMs          := k.free (by decide) h.timeoutMs
  cacheResults       := k.free (by decide) h.cacheResults
  detail             := k.free (by decide) h.detail

theorem filter {f : Filter} (k : Kin .filter entries entries') (h : f.Reads entries) : f.Reads entries' := by
  obtain ⟨id, name, field, operator, value, enabled, priority, rules, transformation⟩ := h
  refine .intro ?_ ?_ ?_ ?_ ((k.same (by decide)).symm.trans value) ?_ ?_ ?_ ?_
  · exact k.free (by decide) id
  · exact k.free (by decide) name
  · exact k.free (by decide) field
  · exact k.free (by decide) operator
  · exact k.free (by decide) enabled
  · exact k.free (by decide) priority
  · exact k.deepOptional (.one .rules) rfl (by decide) rules
  · exact k.deepOptional (.one .transformation) rfl (by decide) transformation

theorem group {g : FilterGroup} (k : Kin .group entries entries') (h : g.Reads entries) : g.Reads entries' := by
  obtain ⟨id, name, description, operator, filters, subGroups, enabled, priority⟩ := h
  refine .intro ?_ ?_ ?_ ?_ ?_ ?_ ?_ ?_
  · exact k.free (by decide) id
  · exact k.free (by decide) name
  · exact k.free (by decide) description
  · exact k.free (by decide) operator
  · exact k.deep (.many .filter) rfl (by decide) filters
  · exact k.deep (.many .group) rfl (by decide) subGroups
  · exact k.free (by decide) enabled
  · exact k.free (by decide) priority

theorem kind {kind : Value} (k : Kin .condition entries entries')
    (h : Entries.get? entries "kind" = some kind) : Entries.get? entries' "kind" = some kind := by
  have hr := k (by decide : Has .condition ["kind"] .free)
  rw [found_cons, found_cons, h, Option.some_or, found, List.findSome?_nil, Option.or_none] at hr
  generalize Entries.get? entries' "kind" = o at hr ⊢
  cases hr
  case some hk => rw [show kind = _ from hk]

theorem header {h : Header} (k : Kin .condition entries entries') (hr : h.Reads entries) : h.Reads entries' := by
  obtain ⟨id, remarks⟩ := hr
  exact .intro (k.free (by decide) id) (k.free (by decide) remarks)

theorem condition {c : Condition} (k : Kin .condition entries entries') (h : c.Reads entries) :
    c.Reads entries' := by
  cases h
  case simple kind header field operator value =>
    refine .simple (k.kind kind) (k.header header) ?_ ?_ ((k.same (by decide)).symm.trans value)
    · exact k.free (by decide) field
    · exact k.free (by decide) operator
  case complex kind header operator children arity =>
    refine .complex (k.kind kind) (k.header header) ?_ ?_ arity
    · exact k.free (by decide) operator
    · exact k.deep (.many .condition) rfl (by decide) children
  case filter kind header group =>
    exact .filter (k.kind kind) (k.header header) (k.deep (.one .group) rfl (by decide) group)
  case custom kind header function value =>
    refine .custom (k.kind kind) (k.header header) ?_ ((k.same (by decide)).symm.trans value)
    exact k.free (by decide) function

theorem action {a : Action} (k : Kin .action entries entries') (h : a.Reads entries) : a.Reads entries' := by
  obtain ⟨id, name, description, conditions, filters, onTrue, onFalse, onError, options⟩ := h
  refine .intro ?_ ?_ ?_ ?_ ?_ ?_ ?_ ?_ ?_
  · exact k.free (by decide) id
  · exact k.free (by decide) name
  · exact k.free (by decide) description
  · exact k.deep (.many .condition) rfl (by decide) conditions
  · exact k.deep (.many .group) rfl (by decide) filters
  · exact k.deep (.one .branch) rfl (by decide) onTrue
  · exact k.deepOptional (.one .branch) rfl (by decide) onFalse
  · exact k.deepOptional (.one .branch) rfl (by decide) onError
  · exact k.deep (.one .options) rfl (by decide) options

theorem reads {a : m.Result} (k : m.Kin entries entries') (h : m.read (.map entries) = .done a) :
    m.read (.map entries') = .done a := by
  cases m
  case action         => exact Action.ofFields_iff.mpr (k.action (Action.ofFields_iff.mp h))
  case condition      => exact Condition.read_map_iff.mpr (k.condition (Condition.read_map_iff.mp h))
  case group          => exact FilterGroup.read_map_iff.mpr (k.group (FilterGroup.read_map_iff.mp h))
  case filter         => exact Filter.ofFields_iff.mpr (k.filter (Filter.ofFields_iff.mp h))
  case rules          => exact Rules.ofFields_iff.mpr (k.rules (Rules.ofFields_iff.mp h))
  case transformation =>
    exact Transformation.ofFields_iff.mpr (k.transformation (Transformation.ofFields_iff.mp h))
  case branch         => exact Branch.ofFields_iff.mpr (k.branch (Branch.ofFields_iff.mp h))
  case options        => exact Options.ofFields_iff.mpr (k.options (Options.ofFields_iff.mp h))

theorem sameReading (k : m.Kin entries entries') : SameReading m.read (.map entries) (.map entries') :=
  ⟨by simp, fun _ => ⟨k.reads, k.symm.reads⟩⟩

end Model.Kin

-- Respelling one key leaves everything as it is read.
theorem Respells.alike (h : Respells shape v w) : shape.Alike v w := by
  induction h
  case key hf hn ho once => exact (kin_key hf hn ho once).sameReading
  case within hf hn _ hi => exact (kin_within hf hn hi).sameReading
  case item hi           => exact SameReading.item hi

theorem Respells.kin (h : Respells (.one m) v w) :
    ∃ entries entries', v = .map entries ∧ w = .map entries' ∧ m.Kin entries entries' := by
  cases h
  case key hn ho once hf => exact ⟨_, _, rfl, rfl, kin_key hf hn ho once⟩
  case within hn h hf    => exact ⟨_, _, rfl, rfl, kin_within hf hn h.alike⟩

theorem toOption_eq_some_iff {α : Type} {x : Parsed α} {a : α} : x.toOption = some a ↔ x = .done a := by
  cases x <;> simp [Parsed.toOption]

theorem SameReading.toOption_eq {α : Type} {r : Reader α} (h : SameReading r v w) :
    (r v).toOption = (r w).toOption :=
  Option.ext fun a => by simp only [toOption_eq_some_iff, h.reads]

theorem toOption_optional {α : Type} {r : Reader α} (h : v ≠ null) :
    (optional r v).toOption.join = (r v).toOption := by
  unfold optional
  split
  case h_1 => exact absurd rfl h
  case h_2 => cases r v <;> rfl

theorem rescueBranch_map : Action.rescueBranch (.map entries) =
    (optional Branch.read (held entries ["onError", "on_error"] null)).toOption.join := by
  unfold Action.rescueBranch held
  dsimp only
  split
  case h_1 hg     => simp [hg, optional, Parsed.toOption]
  case h_2 hn hg  => simpa [hg] using (toOption_optional hn).symm
  case h_3 hg     => simp [hg, optional, Parsed.toOption]

theorem Respells.rescueBranch_eq (h : Respells (.one .action) v w) :
    Action.rescueBranch v = Action.rescueBranch w := by
  obtain ⟨entries, entries', rfl, rfl, k⟩ := h.kin
  have hbranch : SameReading Branch.read _ _ :=
    k.held (d := null) (by decide : Model.Has .action ["onError", "on_error"] (.one .branch))
  rw [rescueBranch_map, rescueBranch_map, hbranch.optional.toOption_eq]

-- However a raw configuration is respelled, it is accepted or not as before and comes to the same action, and if
-- it is not accepted the same branch is found for the error.
theorem respelled_read (h : Relation.ReflTransGen (Respells (.one .action)) v w) :
    (∀ a, Action.read v = .done a ↔ Action.read w = .done a) ∧
      Action.rescueBranch v = Action.rescueBranch w := by
  induction h
  case refl => exact ⟨fun _ => .rfl, rfl⟩
  case tail hs hi =>
    obtain ⟨hread, hbranch⟩ := hi
    have hstep : SameReading Action.read _ _ := hs.alike
    exact ⟨fun a => (hread a).trans (hstep.reads a), hbranch.trans hs.rescueBranch_eq⟩

section Spellings

def asking (name : String) : Value :=
  .map [(.text "kind", .text "custom"), (.text name, .text "isValidEmail")]

def combining (name function : String) : Value :=
  .map [(.text "kind", .text "complex"), (.text "operator", .text "and"), (.text name, .list [asking function])]

def acting (condition : Value) (branch ids : String) : Value :=
  .map [
    (.text "conditions", .list [condition]),
    (.text "onTrue", .map []),
    (.text branch, .map [(.text ids, .list [.text "alert"])])]

def snakeCase : Value := acting (combining "conditions" "customFunction") "on_error" "action_ids"

def camelCase : Value := acting (combining "children" "functionName") "onError" "actionIds"

theorem asking_respells : Respells (.one .condition) (asking "customFunction") (asking "functionName") :=
  @Respells.key .condition ⟨["function_name", "functionName", "customFunction"], .free⟩
    [(.text "kind", .text "custom")] [] "customFunction" "functionName" _
    (by simp [Model.fields]) (by simp) (by simp) (by simp)

theorem combining_respells : Relation.ReflTransGen (Respells (.one .condition))
    (combining "conditions" "customFunction") (combining "children" "functionName") := by
  have hf : ⟨["children", "conditions"], .many .condition⟩ ∈ Model.condition.fields := by simp [Model.fields]
  have within : Respells (.one .condition) (combining "conditions" "customFunction")
      (combining "conditions" "functionName") :=
    @Respells.within _ _ [_, _] [] _ _ _ hf (by simp) (@Respells.item _ [] [] _ _ asking_respells)
  have key : Respells (.one .condition) (combining "conditions" "functionName")
      (combining "children" "functionName") :=
    @Respells.key _ _ [_, _] [] "conditions" "children" _ hf (by simp) (by simp) (by simp)
  exact .tail (.single within) key

theorem snakeCase_respells : Relation.ReflTransGen (Respells (.one .action)) snakeCase camelCase := by
  have hf : ⟨["conditions"], .many .condition⟩ ∈ Model.action.fields := by simp [Model.fields]
  have hb : ⟨["onError", "on_error"], .one .branch⟩ ∈ Model.action.fields := by simp [Model.fields]
  have conditions : Relation.ReflTransGen (Respells (.one .action)) snakeCase
      (acting (combining "children" "functionName") "on_error" "action_ids") :=
    combining_respells.lift (acting · "on_error" "action_ids") fun _ _ h =>
      @Respells.within _ _ [] _ "conditions" _ _ hf (by simp) (@Respells.item _ [] [] _ _ h)
  have key : Respells (.one .action) (acting (combining "children" "functionName") "on_error" "action_ids")
      (acting (combining "children" "functionName") "onError" "action_ids") :=
    @Respells.key _ _ [_, _] [] "on_error" "onError" _ hb (by simp) (by simp) (by simp)
  have branch : Respells (.one .branch) (.map [(.text "action_ids", .list [.text "alert"])])
      (.map [(.text "actionIds", .list [.text "alert"])]) :=
    @Respells.key .branch ⟨["actionIds", "action_ids"], .free⟩ [] [] "action_ids" "actionIds" _
      (by simp [Model.fields]) (by simp) (by simp) (by simp)
  have within : Respells (.one .action) (acting (combining "children" "functionName") "onError" "action_ids")
      camelCase :=
    @Respells.within _ _ [_, _] [] "onError" _ _ hb (by simp) branch
  exact (conditions.tail key).tail within

theorem snakeCase_read :
    Relation.ReflTransGen (Respells (.one .action)) snakeCase camelCase ∧
      (∃ a, Action.read snakeCase = .done a ∧ Action.read camelCase = .done a) ∧
      Action.rescueBranch snakeCase = Action.rescueBranch camelCase := by
  have ⟨hread, hbranch⟩ := respelled_read snakeCase_respells
  have ⟨a, ha⟩ : ∃ a, Action.read snakeCase = .done a := ⟨_, rfl⟩
  exact ⟨snakeCase_respells, ⟨a, ha, (hread a).mp ha⟩, hbranch⟩

end Spellings

end FlowGate.Schema
