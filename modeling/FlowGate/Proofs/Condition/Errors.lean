import FlowGate.Proofs.Condition.Leaves
import FlowGate.Proofs.Filter.Accounting

-- The errors that the results of a tree hold. They are those of the leaves that fault, and a leaf that
-- asks filters never does, whatever becomes of the filters.

namespace FlowGate

open Value

namespace ConditionResult

mutual

-- The errors of a result and of all those under it.
def allErrors : ConditionResult → List String
  | ⟨_, _, _, subResults, errors⟩ => errors ++ allErrorsAmong subResults

def allErrorsAmong : List ConditionResult → List String
  | []        => []
  | r :: rest => allErrors r ++ allErrorsAmong rest

end

theorem allErrorsAmong_eq {rs : List ConditionResult} :
    allErrorsAmong rs = rs.flatMap allErrors := by
  induction rs <;> simp [allErrorsAmong, *]

theorem allErrors_eq {r : ConditionResult} :
    r.allErrors = r.errors ++ r.subResults.flatMap allErrors := by
  cases r
  rw [allErrors, allErrorsAmong_eq]

end ConditionResult

namespace Condition

variable {e : Engine} {c : Context} {condition : Condition} {r : ConditionResult}

theorem Reports.alone : Reports e c condition r → condition.isLeaf = true → r.subResults = []
  | leaf _ _ _ _ h, _ => h

theorem Reports.parts {header : Header} {k : Connective} {children : List Condition}
    {stray : Option Value} : Reports e c (complex header (.known k) children stray) r →
      List.Forall₂ (Reports e c) (evaluated e c k children) r.subResults
  | node _ _ _ h _ => h

def isFilter : Condition → Bool
  | filter .. => true
  | _         => false

theorem valid_of_reached (hv : condition.Valid) : ∀ l ∈ condition.reached e c, l.Valid := by
  induction hv
  case complex _ _ _ _ hi =>
    intro l hl
    rw [reached_complex] at hl
    have ⟨child, hm, hl⟩ := List.mem_flatMap.mp hl
    exact hi child (through_isPrefix.subset hm) l hl
  case simple hid hfield    => exact List.forall_mem_singleton.mpr (.simple hid hfield)
  case filter hid hgroup    => exact List.forall_mem_singleton.mpr (.filter hid hgroup)
  case custom hid hfunction => exact List.forall_mem_singleton.mpr (.custom hid hfunction)

-- Filters make a condition hold or not, but never fault.
theorem isFault_of_isFilter (hv : condition.Valid) (h : condition.isFilter = true) :
    (condition.meaning e c).isFault = false := by
  cases hv
  case filter => exact Outcome.isFault_ofBool
  all_goals cases h

-- The errors of the whole are those of one of the leaves.
theorem mem_errors_meaning (hv : condition.Valid) {error : String}
    (h : error ∈ (condition.meaning e c).errors) :
    ∃ leaf ∈ condition.reached e c, error ∈ (leaf.meaning e c).errors := by
  have hx := explains (e := e) (c := c) hv
  cases hm : condition.meaning e c
  case faults es =>
    rw [hm] at h hx
    have ⟨front, leaf, hl, hleaf, _⟩ := hx
    exact ⟨leaf, by simp [hl], hleaf ▸ h⟩
  all_goals
    rw [hm] at h
    cases h

-- What is in the results of the children comes from under the children.
theorem mem_flatMap_allErrors {children : List Condition} {rs : List ConditionResult} {error : String}
    (h : List.Forall₂ (fun child r => error ∈ ConditionResult.allErrors r ↔
      ∃ leaf ∈ child.reached e c, error ∈ (leaf.meaning e c).errors) children rs) :
    error ∈ rs.flatMap ConditionResult.allErrors ↔
      ∃ leaf ∈ children.flatMap (reached e c), error ∈ (leaf.meaning e c).errors := by
  induction h
  case nil => simp
  case cons h _ hi =>
    simp only [List.flatMap_cons, List.mem_append, h, hi, or_and_right, exists_or]

theorem Reports.mem_allErrors (hv : condition.Valid) (hr : Reports e c condition r) {error : String} :
    error ∈ r.allErrors ↔ ∃ leaf ∈ condition.reached e c, error ∈ (leaf.meaning e c).errors := by
  induction hv generalizing r
  case complex header k children hi hn hne hc ih =>
    have hv : (complex header (.known k) children none).Valid := .complex hi hn hne hc
    have hih : ∀ child ∈ evaluated e c k children, ∀ r, Reports e c child r →
        (error ∈ r.allErrors ↔ ∃ leaf ∈ child.reached e c, error ∈ (leaf.meaning e c).errors) :=
      fun child hm _ hr => ih child (through_isPrefix.subset hm) hr
    have hparts := List.forall₂_and_left .. |>.mpr ⟨hih, hr.parts⟩ |>.imp
      fun _ r h => h.left r h.right
    rw [ConditionResult.allErrors_eq, List.mem_append, hr.shows.errors,
      mem_flatMap_allErrors hparts, ← reached_complex]
    exact or_iff_right_of_imp (mem_errors_meaning hv)
  all_goals
    simp [ConditionResult.allErrors_eq, hr.alone rfl, reached, hr.shows.errors]

-- The errors in the results are those of the leaves that do not ask filters.
theorem Reports.mem_allErrors_iff (hv : condition.Valid) (hr : Reports e c condition r)
    {error : String} : error ∈ r.allErrors ↔ ∃ leaf ∈ condition.reached e c,
      leaf.isFilter = false ∧ error ∈ (leaf.meaning e c).errors := by
  rw [hr.mem_allErrors hv]
  refine exists_congr fun leaf => and_congr_right fun hl => ?_
  cases hf : leaf.isFilter
  case false => simp
  case true =>
    have hn := isFault_of_isFilter (e := e) (c := c) (valid_of_reached hv leaf hl) hf
    cases hm : leaf.meaning e c <;> simp_all [Outcome.errors, Outcome.isFault]

-- A condition does not fault if none of the leaves that evaluation gets to does.
theorem isFault_of_reached (hv : condition.Valid)
    (h : ∀ leaf ∈ condition.reached e c, (leaf.meaning e c).isFault = false) :
    (condition.meaning e c).isFault = false := by
  have hx := explains (e := e) (c := c) hv
  cases hm : condition.meaning e c
  case faults es =>
    rw [hm] at hx
    have ⟨front, leaf, hl, hleaf, _⟩ := hx
    have hn := h leaf (by simp [hl])
    rw [hleaf] at hn
    cases hn
  all_goals rfl

-- Evaluating a valid condition gives a result whose errors, at any depth, are those of leaves that do
-- not ask filters. The errors that its filters run into are listed by their groups and go no further,
-- so that conditions with no other leaves always succeed.
theorem evaluate_errors (hv : condition.Valid) (ha : e.registry.Answers) :
    ∃ calls r, condition.evaluate e c = ⟨calls, some (.ok r)⟩ ∧
      r.Shows (condition.meaning e c) ∧
      (∀ error, error ∈ r.allErrors ↔ ∃ leaf ∈ condition.reached e c,
        leaf.isFilter = false ∧ error ∈ (leaf.meaning e c).errors) ∧
      (∀ header group, filter header (.known group) ∈ condition.reached e c →
        ∃ fs, group.Lists fs ∧ (group.run e c { includeDetails := false }).value.errors =
          fs.filterMap (Filter.complaint? e c)) ∧
      ((∀ leaf ∈ condition.reached e c, leaf.isFilter = true) →
        r.success = true ∧ r.allErrors = []) := by
  have ⟨calls, r, he, hr, _⟩ := evaluates (c := c) hv ha
  refine ⟨calls, r, he, hr.shows, fun _ => hr.mem_allErrors_iff hv, ?_, ?_⟩
  case refine_1 =>
    intro header group hg
    cases valid_of_reached hv _ hg
    case filter hgroup => exact FilterGroup.run_errors hgroup false
  case refine_2 =>
    intro hall
    constructor
    case left =>
      have hf := isFault_of_reached (e := e) (c := c) hv fun leaf hl =>
        isFault_of_isFilter (valid_of_reached hv leaf hl) (hall leaf hl)
      rw [hr.shows.success, hf, Bool.not_false]
    case right =>
      refine List.eq_nil_iff_forall_not_mem.mpr fun error h => ?_
      have ⟨leaf, hl, hf, _⟩ := hr.mem_allErrors_iff hv |>.mp h
      simp [hall leaf hl] at hf

-- The negation of a filter that cannot be evaluated.
def unheard : Condition :=
  .complex ⟨text "unheard", {}⟩ (.known .not) [.filter ⟨text "asking", {}⟩ (.known asked)] none
where
  asked : FilterGroup := .build "group" "" none .and [erring] [] true 0
  erring : Filter := .build "erring" "" "x" .isNull .null true 0 none none

theorem asked_valid : unheard.asked.Valid :=
  FilterGroup.valid_build (Schema.isName_text (by decide))
    (List.forall_mem_singleton.mpr <|
      Filter.valid_build (Schema.isName_text (by decide)) (Schema.isName_text (by decide)))
    (List.forall_mem_nil _)

theorem unheard_valid : unheard.Valid :=
  .complex (Schema.isName_text (by decide)) (fun _ => rfl) (by simp) <|
    List.forall_mem_singleton.mpr (.filter (Schema.isName_text (by decide)) asked_valid)

theorem asked_errors : (unheard.asked.run (.ofFunctions []) (.ofVars [])
    { includeDetails := false }).value.errors =
      ["erring: Unsupported filter operator: is_null"] := by
  have hf : Priority.inOrder Filter.priority unheard.asked.filters = [unheard.erring] :=
    List.mergeSort_singleton _
  have hs : Priority.inOrder FilterGroup.priority unheard.asked.subGroups = [] :=
    List.mergeSort_nil
  rw [FilterGroup.run, FilterGroup.evaluate_enabled asked_valid rfl, hf, hs]
  rfl

theorem unheard_passes :
    unheard.Valid ∧ (Engine.ofFunctions []).registry.Answers ∧
      ∃ calls r, unheard.evaluate (.ofFunctions []) (.ofVars []) = ⟨calls, some (.ok r)⟩ ∧
        r.passed = true ∧ r.allErrors = [] ∧
        (unheard.asked.run (.ofFunctions []) (.ofVars []) { includeDetails := false }).value.errors =
          ["erring: Unsupported filter operator: is_null"] := by
  have ha : (Engine.ofFunctions []).registry.Answers :=
    Engine.ofFunctions_answers (List.forall_mem_nil _)
  have ⟨calls, r, he, hs, _, _, hr⟩ := evaluate_errors (c := .ofVars []) unheard_valid ha
  have ⟨hsuccess, herrors⟩ := hr (List.forall_mem_singleton.mpr rfl)
  have hm : unheard.meaning (.ofFunctions []) (.ofVars []) = .holds := by decide
  have hresult : r.result = true := by rw [hs.result, hm, Outcome.truth]
  exact ⟨unheard_valid, ha, calls, r, he, by rw [ConditionResult.passed, hsuccess, hresult]; rfl,
    herrors, asked_errors⟩

end Condition

end FlowGate
