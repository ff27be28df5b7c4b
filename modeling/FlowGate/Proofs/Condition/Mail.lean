import FlowGate.Builder.Condition
import FlowGate.Builtin.Validator
import FlowGate.Catalog.Templates
import FlowGate.Proofs.Condition.Replaying
import FlowGate.Proofs.Operator.Texts
import FlowGate.Proofs.Pattern.Mail

-- The four checks of mail addresses. Three of them take an address with a line break behind it for one, and the
-- condition that is built for a field takes any text that begins with an address for one.

namespace FlowGate.Rules

open Value

-- What the validator has to say of a field, whatever the other rules are.
theorem customProblems_isValidEmail {registry : Registry} {r : Rules} (hr : r.customValidator = some "isValidEmail")
    (hv : registry.validator? "isValidEmail" = some Builtin.validEmail) (v : Value) :
    (r.customProblems registry v).value =
      .ok (if Builtin.ofText v Text.isAddress then [] else [text "Invalid email format"]) := by
  have hcustom : r.customProblems registry v =
      ⟨[.validator "isValidEmail"], (Builtin.validEmail v).map (verdictProblems "isValidEmail")⟩ := by
    simp [customProblems, hr, hv]
  rw [hcustom]
  cases h : Builtin.ofText v Text.isAddress <;>
    simp [Builtin.validEmail, Builtin.verdict, verdictProblems, h, Except.map]

end FlowGate.Rules

namespace FlowGate.Condition

open Value Text

variable {e : Engine} {c : Context} {condition : Condition} {path s : String} {b : Bool} {p : Prop}

-- Evaluation gives an answer without a fault, and the answer is yes if and only if this holds.
def Answers (e : Engine) (c : Context) (condition : Condition) (holds : Prop) : Prop :=
  ∃ r, (condition.evaluate e c).value = some (.ok r) ∧ r.success = true ∧ r.errors = [] ∧
    (r.result = true ↔ holds)

theorem Ending.answers_of_meaning (h : condition.Ending e c) (hm : condition.meaning e c = .ofBool b)
    (hb : b = true ↔ p) : condition.Answers e c p := by
  cases h
  case waits hf => rw [hm, Outcome.isFault_ofBool] at hf; cases hf
  case answers r hv hr =>
    rw [hm] at hr
    refine ⟨r, hv, ?_, ?_, ?_⟩
    · rw [hr.success, Outcome.isFault_ofBool]; rfl
    · rw [hr.errors, Outcome.errors_ofBool]
    · rw [hr.result, Outcome.truth_ofBool, hb]

-- A filter that has its field checked by the validator and asks no more than that something is there.
def validating (path : String) : Filter where
  id       := text "address"
  field    := text path
  operator := .known .isPresent
  rules    := some { customValidator := some "isValidEmail" }

def validatingGroup (path : String) : FilterGroup where
  id      := text "addresses"
  filters := [validating path]

-- What the four checks answer about a field that holds a text.
structure MailChecks (e : Engine) (c : Context) (path s : String) : Prop where
  function : ∀ header params, Entries.get? params "field" = some (text path) →
    (custom header (text "isValidEmail") (map params)).Answers e c (IsAddress (withoutFinalBreak s.toList))
  rules : ∃ problems, (Rules.problems e.registry { customValidator := some "isValidEmail" } (text s)).value =
    .ok problems ∧ (problems = [] ↔ IsAddress (withoutFinalBreak s.toList))
  validator : path ≠ "" → ∀ header,
    (filter header (.known (validatingGroup path))).Answers e c (IsAddress (withoutFinalBreak s.toList))
  template : path = "user.email" → ∃ condition, Catalog.emailValidation.conditions = [condition] ∧
    condition.Answers e c (IsAddress (withoutFinalBreak s.toList))
  builder : path ≠ "" → ∃ condition, Builder.emailCondition (text path) = .ok condition ∧
    condition.Answers e c (∃ address rest, s.toList = address ++ rest ∧ IsAddress address)

theorem meaning_isValidEmail {header : Header} {params : Entries}
    (hf : e.registry.function? "isValidEmail" = some Builtin.isValidEmail)
    (hp : Entries.get? params "field" = some (text path)) (hs : c.resolveField path = text s) :
    (custom header (text "isValidEmail") (map params)).meaning e c = .ofBool (isAddress s) := by
  have hpath : (Entries.getD params "field" (text "")).plain = path := by
    rw [Entries.getD, hp]
    rfl
  simp [meaning, meetsFunction, hf, Builtin.isValidEmail, Builtin.paramsOf, hpath, hs, truthy]

theorem meaning_matchesRegex {header : Header} {pattern : String} {node : Pattern.Node}
    (hr : Pattern.read pattern = .ok node) (hp : Context.placeholder? pattern = none)
    (hs : c.resolveField path = text s) :
    (simple header (text path) (.known .matchesRegex) (text pattern)).meaning e c =
      .ofBool (node.found s.toList) := by
  have hvalue : c.resolveValue (text pattern) = text pattern := by simp only [Context.resolveValue, hp]
  have hmatch : e.comparer.apply (.known .matchesRegex) (text s) (text pattern) = .ok (node.found s.toList) :=
    Comparison.matchesRegex_of_read (display_text s) (display_text pattern) hr
  rw [meaning, meetsOperator, hs, hvalue, hmatch]
  rfl

theorem validating_problems (hv : e.registry.validator? "isValidEmail" = some Builtin.validEmail) :
    (Rules.problems e.registry { customValidator := some "isValidEmail" } (text s)).value =
      .ok (if isAddress s then [] else [text "Invalid email format"]) := by
  have hown : Rules.ownProblems { customValidator := some "isValidEmail" } (text s) = .ok [] := by
    have hlength : Rules.lengthProblems { customValidator := some "isValidEmail" } (text s) = [] := by
      cases h : Rules.length? (text s) <;> simp [Rules.lengthProblems, h]
    rw [Rules.ownProblems, hlength]
    rfl
  have hcustom := Rules.customProblems_isValidEmail (r := { customValidator := some "isValidEmail" }) rfl hv (text s)
  rw [Rules.problems, hown]
  simp only [Logged.map, hcustom, Except.map]
  rfl

theorem validating_passes (hv : e.registry.validator? "isValidEmail" = some Builtin.validEmail)
    (hs : c.resolveField path = text s) : (validating path).passes e c = isAddress s := by
  have hp := validating_problems (s := s) hv
  simp only [Filter.passes, Filter.path, validating, hs, Filter.pipeline]
  cases h : isAddress s
  all_goals
    rw [h] at hp
    simp [Logged.andThen, hp]
  all_goals rfl

theorem validatingGroup_passes (hv : e.registry.validator? "isValidEmail" = some Builtin.validEmail)
    (hs : c.resolveField path = text s) : (validatingGroup path).passes e c = isAddress s := by
  rw [FilterGroup.passes_and rfl rfl]
  have he : (validating path).isEnabled = true := rfl
  simp [validatingGroup, validating_passes hv hs, he]

theorem validatingGroup_valid (hp : path ≠ "") : (validatingGroup path).Valid := by
  have hf : (validating path).Valid :=
    ⟨⟨_, by decide, rfl⟩, ⟨_, rfl⟩, ⟨_, hp, rfl⟩, ⟨_, rfl⟩, ⟨_, rfl⟩, ⟨_, rfl⟩⟩
  exact .intro ⟨_, by decide, rfl⟩ ⟨_, rfl⟩ ⟨_, rfl⟩ (List.forall_mem_singleton.mpr hf) rfl
    (List.forall_mem_nil _) rfl ⟨_, rfl⟩ ⟨_, rfl⟩

theorem emailCondition_eq (hp : path ≠ "") : ∃ header, Builder.emailCondition (text path) =
    .ok (simple header (text path) (.known .matchesRegex) (text Builder.mailPattern)) := by
  have hfield : Build.argument "field" Schema.nonEmptyText (text path) = .done path :=
    congrArg (Schema.Parsed.under (.key "field")) (Schema.nonEmptyText_eq_done.mpr ⟨rfl, hp⟩)
  simp only [Builder.emailCondition, Builder.comparing, hfield]
  exact ⟨_, rfl⟩

theorem mailChecks (hf : e.registry.function? "isValidEmail" = some Builtin.isValidEmail)
    (hv : e.registry.validator? "isValidEmail" = some Builtin.validEmail)
    (hs : c.resolveField path = text s) : MailChecks e c path s where
  function header params hp :=
    (ending_custom ⟨_, by decide, rfl⟩).answers_of_meaning (meaning_isValidEmail hf hp hs) isAddress_eq
  rules := by
    refine ⟨_, validating_problems hv, ?_⟩
    rw [← isAddress_eq]
    cases isAddress s <;> simp
  validator hp header :=
    (Ending.of_evaluates (evaluates_filter (validatingGroup_valid hp))).answers_of_meaning
      (congrArg Outcome.ofBool (validatingGroup_passes hv hs)) isAddress_eq
  template hp := by
    subst hp
    refine ⟨_, rfl, (Ending.of_evaluates (evaluates_simple ⟨_, by decide, rfl⟩)).answers_of_meaning
      (meaning_matchesRegex Pattern.Node.read_wholeAddress (by decide) hs) Pattern.Node.found_wholeAddress⟩
  builder hp := by
    obtain ⟨header, hb⟩ := emailCondition_eq hp
    exact ⟨_, hb, (Ending.of_evaluates (evaluates_simple ⟨_, hp, rfl⟩)).answers_of_meaning
      (meaning_matchesRegex Pattern.Node.read_address (by decide) hs) Pattern.Node.found_address⟩

def checking : Engine := { Engine.ofFunctions [] with registry := Builtin.registry }

def holding (s : String) : Context := .ofVars [(.text "user", record [("email", text s)])]

-- A text that only begins with an address.
theorem trailing_mailChecks :
    (holding "a@b.c d").resolveField "user.email" = text "a@b.c d" ∧
      ¬IsAddress "a@b.c d".toList ∧
      (∃ condition, Builder.emailCondition (text "user.email") = .ok condition ∧
        condition.Answers checking (holding "a@b.c d") True) ∧
      ∃ condition, Catalog.emailValidation.conditions = [condition] ∧
        condition.Answers checking (holding "a@b.c d") False := by
  have hs : (holding "a@b.c d").resolveField "user.email" = text "a@b.c d" := rfl
  have checks : MailChecks checking (holding "a@b.c d") "user.email" "a@b.c d" := mailChecks rfl rfl hs
  have hblank : ¬IsAddress "a@b.c d".toList := fun h => absurd (h.blankless ' ' (by decide)) (by decide)
  have haddress : IsAddress "a@b.c".toList := isAddress_eq (s := "a@b.c") |>.mp (by decide)
  have hbreak : withoutFinalBreak "a@b.c d".toList = "a@b.c d".toList := by decide
  refine ⟨hs, hblank, ?_, ?_⟩
  · obtain ⟨condition, hb, r, hr, hsuccess, herrors, hresult⟩ := checks.builder (by decide)
    have hp : ∃ address rest, "a@b.c d".toList = address ++ rest ∧ IsAddress address :=
      ⟨_, [' ', 'd'], by decide, haddress⟩
    exact ⟨condition, hb, r, hr, hsuccess, herrors, hresult.trans (iff_true_intro hp)⟩
  · obtain ⟨condition, ht, r, hr, hsuccess, herrors, hresult⟩ := checks.template rfl
    exact ⟨condition, ht, r, hr, hsuccess, herrors, hresult.trans (iff_false_intro (hbreak ▸ hblank))⟩

end FlowGate.Condition
