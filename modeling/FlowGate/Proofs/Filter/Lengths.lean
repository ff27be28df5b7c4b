import FlowGate.Proofs.Filter.Built
import FlowGate.Proofs.Filter.Failure
import FlowGate.Proofs.Value.Moment

-- The rules about lengths. They report what is too short or too long whatever the other rules find, and of an empty
-- list nothing.

namespace FlowGate

open Value

namespace Value

-- What has a length: texts that are not empty, and lists.
inductive Sized : Value → Nat → Prop
  | text {s : String} (h : s ≠ "") : Sized (text s) s.length
  | list (items : List Value) : Sized (list items) items.length

end Value

namespace Rules

variable {registry : Registry} {rules : Rules} {v : Value} {n k m : Nat} {f : Fault} {least greatest : Option Nat}

-- The same rules with other bounds for the length.
def bounded (rules : Rules) (least greatest : Option Nat) : Rules :=
  { rules with minLength := least, maxLength := greatest }

-- A date is looked for in a text that stands for a moment beyond the calendar.
def Unreadable (rules : Rules) (v : Value) : Prop :=
  rules.dataType = some .date ∧ ∃ f, v.Untimely f

-- The patterns and validators that the rules name come to an end.
structure Workable (registry : Registry) (rules : Rules) (v : Value) : Prop where
  pattern   : ∀ p, rules.pattern = some p → ∃ node, Pattern.read p = .ok node
  validator : ∀ name validator, rules.customValidator = some name → registry.validator? name = some validator →
    ∃ verdict, validator v = .ok verdict

-- What is reported of a length: that it is below the least one, unless it is zero, or above the greatest one.
structure Measured (least greatest : Option Nat) (n : Nat) (reports : List Value) : Prop where
  short : ∀ k, text (tooShort k) ∈ reports ↔ least = some k ∧ n < k ∧ n ≠ 0
  long  : ∀ k, text (tooLong k) ∈ reports ↔ greatest = some k ∧ k < n
  only  : ∀ report ∈ reports, ∃ k, report = text (tooShort k) ∨ report = text (tooLong k)
  once  : reports.Nodup

theorem toList_tooShort (k : Nat) : (tooShort k).toList =
    "Field must be at least ".toList ++ (Nat.toDigits 10 k ++ " characters/items long".toList) := by
  have h : tooShort k = "Field must be at least " ++ k.repr ++ " characters/items long" := rfl
  rw [h, String.toList_append, String.toList_append, Nat.toList_repr, List.append_assoc]

theorem toList_tooLong (k : Nat) : (tooLong k).toList =
    "Field must be no more than ".toList ++ (Nat.toDigits 10 k ++ " characters/items long".toList) := by
  have h : tooLong k = "Field must be no more than " ++ k.repr ++ " characters/items long" := rfl
  rw [h, String.toList_append, String.toList_append, Nat.toList_repr, List.append_assoc]

theorem toDigits_inj (h : Nat.toDigits 10 k = Nat.toDigits 10 m) : k = m := by
  rw [← Nat.ofDigitChars_ten_toDigits (n := k), h, Nat.ofDigitChars_ten_toDigits]

theorem tooShort_inj : tooShort k = tooShort m ↔ k = m := by
  rw [← String.toList_inj, toList_tooShort, toList_tooShort, List.append_cancel_left_eq, List.append_cancel_right_eq]
  exact ⟨toDigits_inj, congrArg _⟩

theorem tooLong_inj : tooLong k = tooLong m ↔ k = m := by
  rw [← String.toList_inj, toList_tooLong, toList_tooLong, List.append_cancel_left_eq, List.append_cancel_right_eq]
  exact ⟨toDigits_inj, congrArg _⟩

-- The two reports part at their fifteenth character.
theorem tooShort_ne_tooLong : tooShort k ≠ tooLong m := by
  intro h
  have h := congrArg (List.take 15) (congrArg String.toList h)
  rw [toList_tooShort, toList_tooLong, List.take_append_of_le_length (by decide),
    List.take_append_of_le_length (by decide)] at h
  exact absurd h (by decide)

-- The two rules about lengths, asked about a length.
def reportsOf (least greatest : Option Nat) (n : Nat) : List Value :=
  ((least.filter fun k => n < k && n != 0).toList.map fun k => text (tooShort k)) ++
    ((greatest.filter fun k => k < n).toList.map fun k => text (tooLong k))

theorem mem_reportsOf {report : Value} : report ∈ reportsOf least greatest n ↔
    (∃ k, least = some k ∧ (n < k ∧ n ≠ 0) ∧ text (tooShort k) = report) ∨
      ∃ k, greatest = some k ∧ k < n ∧ text (tooLong k) = report := by
  simp only [reportsOf, List.mem_append, List.mem_map, Option.mem_toList, Option.filter_eq_some_iff,
    Bool.and_eq_true, decide_eq_true_eq, bne_iff_ne, and_assoc]

theorem measured_reportsOf (least greatest : Option Nat) (n : Nat) :
    Measured least greatest n (reportsOf least greatest n) where
  short k := by simp [mem_reportsOf, tooShort_inj, tooShort_ne_tooLong.symm]
  long k  := by simp [mem_reportsOf, tooLong_inj, tooShort_ne_tooLong]
  only report h := by
    rcases mem_reportsOf.mp h with ⟨k, _, _, rfl⟩ | ⟨k, _, _, rfl⟩
    · exact ⟨k, .inl rfl⟩
    · exact ⟨k, .inr rfl⟩
  once := by
    rw [reportsOf, List.nodup_append]
    refine ⟨?_, ?_, ?_⟩
    · cases least.filter _ <;> simp
    · cases greatest.filter _ <;> simp
    · simp only [List.forall_mem_map]
      exact fun k _ m _ h => tooShort_ne_tooLong (Scalar.text.inj (scalar.inj h))

theorem reportsOf_zero : reportsOf least greatest 0 = [] := by
  simp [reportsOf]

theorem lengthProblems_of_length (hn : n ≠ 0) (hl : length? v = some n) :
    ((rules.bounded least greatest).lengthProblems v).map text = reportsOf least greatest n := by
  rw [lengthProblems, hl, reportsOf, List.map_append]
  congr 1
  · cases least
    case none   => rfl
    case some k => by_cases h : n < k <;> simp [bounded, Option.filter_some, h, hn]
  · cases greatest
    case none   => rfl
    case some k => by_cases h : k < n <;> simp [bounded, Option.filter_some, h]

-- Of an empty list the rules take no length.
theorem lengthProblems_bounded (rules : Rules) (hs : v.Sized n) :
    ((rules.bounded least greatest).lengthProblems v).map text = reportsOf least greatest n := by
  cases hs
  case text s h =>
    refine lengthProblems_of_length ?_ ?_
    · rwa [ne_eq, String.length_eq_zero_iff]
    · simp [length?, h]
  case list items =>
    cases items
    case nil          => rw [List.length_nil, reportsOf_zero]; rfl
    case cons x items => exact lengthProblems_of_length (by simp) rfl

-- Neither texts nor lists keep the rules about types from coming to an end, apart from dates.
theorem typeProblems_eq_error_iff (hs : v.Sized n) :
    (∃ f, rules.typeProblems v = .error f) ↔ rules.Unreadable v := by
  have hn : v.isNothing = false := by cases hs <;> rfl
  rw [typeProblems, hn, Unreadable]
  cases ht : rules.dataType
  case none => simp
  case some t =>
    simp only [Bool.false_eq_true, if_false, Option.some.injEq]
    cases t
    case date =>
      simp only [isOfType, true_and, ← toMoment_eq_error_iff]
      cases v.toMoment <;> simp [Except.map]
    all_goals cases hs <;> simp [isOfType, isNumber, Except.map]

theorem patternProblems_ok (hw : Workable registry rules v) : ∃ ps, rules.patternProblems v = .ok ps := by
  unfold patternProblems
  split
  case h_1 p s hp =>
    obtain ⟨node, hr⟩ := hw.pattern p hp
    split
    case isTrue  => exact ⟨_, rfl⟩
    case isFalse => exact ⟨_, by rw [Comparison.patternFound, hr]; rfl⟩
  case h_2 => exact ⟨_, rfl⟩

theorem customProblems_ok (hw : Workable registry rules v) :
    ∃ calls ps, rules.customProblems registry v = ⟨calls, .ok ps⟩ := by
  unfold customProblems
  split
  case h_1 => exact ⟨_, _, rfl⟩
  case h_2 name hn =>
    split
    case isTrue  => exact ⟨_, _, rfl⟩
    case isFalse =>
      split
      case h_1 => exact ⟨_, _, rfl⟩
      case h_2 validator hv =>
        obtain ⟨verdict, hr⟩ := hw.validator name validator hn hv
        exact ⟨_, _, by rw [hr]; rfl⟩

-- The other rules have their say before and after the rules about lengths, and it is not about the bounds of these.
theorem problems_bounded (hw : Workable registry rules v) (hs : v.Sized n) (hd : ¬rules.Unreadable v) :
    ∃ calls front back, ∀ least greatest, (rules.bounded least greatest).problems registry v =
      ⟨calls, .ok (front ++ reportsOf least greatest n ++ back)⟩ := by
  obtain ⟨types, ht⟩ : ∃ types, rules.typeProblems v = .ok types := by
    rw [← typeProblems_eq_error_iff hs] at hd
    cases ht : rules.typeProblems v
    case error f  => exact absurd ⟨f, ht⟩ hd
    case ok types => exact ⟨types, rfl⟩
  obtain ⟨patterns, hp⟩ := patternProblems_ok hw
  obtain ⟨calls, customs, hc⟩ := customProblems_ok hw
  let required := if rules.lacksRequired v then ["Field is required"] else []
  refine ⟨calls, (required ++ types).map text, patterns.map text ++ customs, fun least greatest => ?_⟩
  have hown : (rules.bounded least greatest).ownProblems v =
      .ok (required ++ types ++ (rules.bounded least greatest).lengthProblems v ++ patterns) := by
    have ht : (rules.bounded least greatest).typeProblems v = .ok types := ht
    have hp : (rules.bounded least greatest).patternProblems v = .ok patterns := hp
    rw [ownProblems, ht, hp]
    rfl
  have hc : (rules.bounded least greatest).customProblems registry v = ⟨calls, .ok customs⟩ := hc
  rw [problems, hown, hc, ← lengthProblems_bounded rules hs]
  simp [Logged.map, Except.map]

-- Where there are problems at all, those with the length are among them.
theorem mem_of_problems {ps : List Value} {report : Value} (h : (rules.problems registry v).value = .ok ps)
    (hr : report ∈ (rules.lengthProblems v).map text) : report ∈ ps := by
  unfold problems at h
  split at h
  case h_1 => cases h
  case h_2 own ho =>
    obtain ⟨types, _, ho⟩ := ok_of_bind ho
    obtain ⟨patterns, _, ho⟩ := ok_of_bind ho
    cases ho
    obtain ⟨customs, _, rfl⟩ := ok_of_map h
    rw [List.map_append, List.map_append]
    simp [hr]

theorem problems_nil (rules : Rules) :
    rules.problems registry (list []) = (rules.bounded none none).problems registry (list []) := rfl

end Rules

namespace Filter

variable {e : Engine} {c : Context} {f : Filter} {rules : Rules} {path : String}

theorem evaluate_ne_true (h : f.passes e c = false) : (f.evaluate e c).2 ≠ .ok true := by
  cases hm : f.mute?
  case none =>
    obtain ⟨d, calls, _, he⟩ := evaluate_reported e c hm
    simp [he, h]
  case some again =>
    obtain ⟨_, calls, he⟩ := evaluate_mute e c hm
    simp [he]

-- A filter whose value has a problem with its length does not pass.
theorem passes_of_lengthProblems (hr : f.rules = some rules) (hf : f.field = text path)
    (h : rules.lengthProblems (c.resolveField path) ≠ []) : f.passes e c = false := by
  have hp : f.path = .ok path := by rw [Filter.path, hf]
  rw [← Bool.not_eq_true, passes_of_path hp, pipeline_passed]
  rintro ⟨hrules, -⟩
  obtain ⟨report, rest, hl⟩ := List.exists_cons_of_ne_nil h
  have hmem : text report ∈ [] := Rules.mem_of_problems (hrules rules hr) (by rw [hl]; exact .head _)
  exact List.not_mem_nil hmem

theorem evaluate_bounded (hr : f.rules = some rules) (hf : f.field = text path)
    (h : c.resolveField path = list []) :
    f.evaluate e c = { f with rules := some (rules.bounded none none) }.evaluate e c := by
  have hp : f.path = .ok path := by rw [Filter.path, hf]
  have hp' : { f with rules := some (rules.bounded none none) }.path = .ok path := hp
  rw [evaluate, evaluate, hp, hp']
  simp only [h, pipeline, hr, Rules.problems_nil rules]
  rfl

end Filter

namespace Rules

variable {rules : Rules} {v : Value} {n : Nat}

-- How the rules about lengths treat a value of this length. Only the least length of a list that is empty is not
-- looked at.
structure Lengthwise (registry : Registry) (rules : Rules) (v : Value) (n : Nat) : Prop where
  faults  : Workable registry rules v → ((∃ f, (rules.problems registry v).value = .error f) ↔ rules.Unreadable v)
  reports : Workable registry rules v → ¬rules.Unreadable v → ∃ front back, ∀ least greatest, ∃ reports,
    ((rules.bounded least greatest).problems registry v).value = .ok (front ++ reports ++ back) ∧
      Measured least greatest n reports
  refuses : ∀ e c (f : Filter) path, f.rules = some rules → f.field = text path → c.resolveField path = v →
    ((∃ k, rules.minLength = some k ∧ n < k ∧ n ≠ 0) ∨ ∃ k, rules.maxLength = some k ∧ k < n) →
    (f.evaluate e c).2 ≠ .ok true
  empty   : n = 0 → ∀ e c (f : Filter) path, f.rules = some rules → f.field = text path → c.resolveField path = v →
    f.evaluate e c = { f with rules := some (rules.bounded none none) }.evaluate e c

theorem lengthProblems_ne_nil (hs : v.Sized n)
    (h : (∃ k, rules.minLength = some k ∧ n < k ∧ n ≠ 0) ∨ ∃ k, rules.maxLength = some k ∧ k < n) :
    rules.lengthProblems v ≠ [] := by
  have hreports : (rules.lengthProblems v).map text = reportsOf rules.minLength rules.maxLength n :=
    lengthProblems_bounded rules hs
  have hm := measured_reportsOf rules.minLength rules.maxLength n
  rw [← hreports] at hm
  rintro hnil
  rw [hnil, List.map_nil] at hm
  rcases h with ⟨k, h⟩ | ⟨k, h⟩
  · exact List.not_mem_nil ((hm.short k).mpr h)
  · exact List.not_mem_nil ((hm.long k).mpr h)

theorem lengths_reported (registry : Registry) (rules : Rules) (hs : v.Sized n) : Lengthwise registry rules v n where
  faults hw := by
    constructor
    · rintro ⟨f, hf⟩
      by_contra hd
      obtain ⟨calls, front, back, h⟩ := problems_bounded hw hs hd
      have h : rules.problems registry v = _ := h rules.minLength rules.maxLength
      rw [h] at hf
      cases hf
    · intro hd
      obtain ⟨f, hf⟩ := (typeProblems_eq_error_iff hs).mpr hd
      exact ⟨f, by rw [problems, ownProblems, hf]; rfl⟩
  reports hw hd := by
    obtain ⟨calls, front, back, h⟩ := problems_bounded hw hs hd
    exact ⟨front, back, fun least greatest => ⟨_, by rw [h], measured_reportsOf least greatest n⟩⟩
  refuses e c f path hr hf hv h := by
    subst hv
    exact Filter.evaluate_ne_true (Filter.passes_of_lengthProblems hr hf (lengthProblems_ne_nil hs h))
  empty hn e c f path hr hf hv := by
    subst hn
    generalize hz : 0 = n at hs
    cases hs
    case text s h    => exact absurd (String.length_eq_zero_iff.mp hz.symm) h
    case list items  => exact Filter.evaluate_bounded hr hf (hv.trans (by rw [List.length_eq_zero_iff.mp hz.symm]))

def wanting (k : Nat) : Filter where
  id       := text "tags"
  field    := text "tags"
  operator := .known .isPresent
  rules    := some { required := true, dataType := some .array, minLength := some k }

-- One tag is too few where there are to be two, and no tags at all are enough.
theorem tags_reported :
    (list [null]).Sized 1 ∧
      ((wanting 2).evaluate (.ofFunctions []) (.ofVars [(.text "tags", list [null])])).2 ≠ .ok true ∧
      (list []).Sized 0 ∧
      ((wanting 1).evaluate (.ofFunctions []) (.ofVars [(.text "tags", list [])])).2 = .ok true := by
  have hone : (list [null]).Sized 1 := .list [null]
  have hnone : (list []).Sized 0 := .list []
  refine ⟨hone, ?_, hnone, ?_⟩
  · exact (lengths_reported (Engine.ofFunctions []).registry _ hone).refuses _ _ _ "tags" rfl rfl rfl
      (.inl ⟨2, rfl, by decide, by decide⟩)
  · rw [(lengths_reported (Engine.ofFunctions []).registry _ hnone).empty rfl _ _ _ "tags" rfl rfl rfl]
    decide

end Rules

end FlowGate
