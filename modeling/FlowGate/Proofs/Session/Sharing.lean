import FlowGate.Proofs.Condition.Key
import FlowGate.Proofs.Session.History

-- Results that one context has from another. A key tells how the variables are written, not what they are.

namespace FlowGate

open Value Condition

-- A condition that is asked in a context.
abbrev Question := Context × Condition

namespace Question

def request (q : Question) : Request :=
  .evaluate q.1 true q.2

end Question

-- Contexts that differ in nothing but their variables and the index of the step.
structure Context.Siblings (c c' : Context) : Prop where
  trigger     : c.trigger = c'.trigger
  executionId : c.executionId = c'.executionId
  workflowId  : c.workflowId = c'.workflowId
  userId      : c.userId = c'.userId
  startedAt   : c.startedAt = c'.startedAt

-- Questions in contexts of one execution, with one condition for each id.
structure Comparable (qs : List Question) : Prop where
  siblings : ∀ p ∈ qs, ∀ q ∈ qs, p.1.Siblings q.1
  ids      : ∀ p ∈ qs, ∀ q ∈ qs, p.2.id.plain = q.2.id.plain → p.2 = q.2

theorem Context.Siblings.eq {c c' : Context} (h : c.Siblings c') (hv : c.vars = c'.vars)
    (hi : c.stepIndex = c'.stepIndex) : c = c' := by
  cases c
  cases c'
  have ⟨_, _, _, _, _⟩ := h
  simp_all

namespace Session

variable {s start : Session} {before : List Question} {q : Question} {key : String} {r : ConditionResult}

-- The answers of a session to these questions, one after the other.
def asked (start : Session) (before : List Question) : Session :=
  start.serveAll (before.map Question.request)

theorem evaluate_engine (c : Context) (useCache : Bool) (condition : Condition) :
    (s.evaluate c useCache condition).1.gate.engine = s.gate.engine := by
  simp only [evaluate, noteCalls, Gate.evaluate]
  cases s.gate.refusal <;> rfl

theorem asked_engine (start : Session) (before : List Question) :
    (start.asked before).gate.engine = start.gate.engine := by
  induction before using List.reverseRecOn
  case nil => rfl
  case append_singleton before q hi =>
    rw [asked, List.map_append, List.map_singleton, serveAll_append]
    exact (evaluate_engine ..).trans hi

-- The outcome of a condition without the cache.
theorem evaluate_uncached (hw : s.gate.refusal = none) (c : Context) (condition : Condition) :
    (s.evaluate c false condition).2 = (condition.evaluate s.gate.engine c).value := by
  rw [(evaluate_eq hw ..).right, lookUp_keyless rfl]

theorem Earlier.asked (h : start.Earlier (before.map Question.request) key r) :
    ∃ p ∈ before, p.1.cacheKey? p.2.id = some key ∧
      (p.2.evaluate start.gate.engine p.1).value = some (.ok r) := by
  have ⟨past, c, condition, after, hp, _, hc⟩ := h
  obtain ⟨first, others, rfl, rfl, ho⟩ := List.map_eq_append_iff.mp hp
  obtain ⟨p, rest, rfl, hq, _⟩ := List.map_eq_cons_iff.mp ho
  cases hq
  refine ⟨p, by simp, hc.keyed, ?_⟩
  rw [← asked_engine start first]
  exact hc.own

-- The contexts whose answers may be given to a question.
def Answering (before : List Question) (q : Question) (c : Context) : Prop :=
  c = q.1 ∨ (c, q.2) ∈ before ∧ c.WrittenAlike q.1

theorem evaluate_from (hs : start.Accounts (before.map Question.request))
    (hids : ∀ p ∈ before, p.2.id.plain = q.2.id.plain → p.2 = q.2) :
    ∃ c, Answering before q c ∧
      ((start.asked before).evaluate q.1 true q.2).2 = (q.2.evaluate start.gate.engine c).value := by
  have ho := (evaluate_eq hs.works q.1 true q.2).right
  have hown (h : (q.2.lookUp (start.asked before).gate.engine q.1 true
      (start.asked before).gate.cache).2 = q.2.evaluate (start.asked before).gate.engine q.1) :
      ∃ c, Answering before q c ∧
        ((start.asked before).evaluate q.1 true q.2).2 = (q.2.evaluate start.gate.engine c).value :=
    ⟨q.1, .inl rfl, by rw [← asked_engine start before, ← h]; exact ho⟩
  cases hk : q.2.key? q.1 true
  case none => exact hown (congrArg Prod.snd (lookUp_keyless hk))
  case some key =>
    cases hf : (start.asked before).gate.cache.find? key
    case none => exact hown (congrArg Prod.snd (lookUp_miss hk hf))
    case some r =>
      have ⟨p, hp, hpk, hv⟩ := (hs.kept key r (Cache.mem_of_find? hf)).asked
      have ⟨hid, ha⟩ := Context.writtenAlike_of_cacheKey? hpk hk
      have hpq := hids p hp hid
      refine ⟨p.1, .inr ⟨hpq ▸ hp, ha⟩, ?_⟩
      rw [← hpq, hv, hpq]
      exact ho.trans (congrArg (·.2.value) (lookUp_hit hk hf))

-- Every answer is one that the session gives without its cache, in the context at hand or in that of an
-- earlier question that is written alike. So it is the answer that is due unless contexts with different
-- variables are written alike.
theorem evaluate_asked (settings : Settings) (now : Moment) (registry : Registry) (audit : AuditStore)
    (h : Comparable (before ++ [q])) :
    let s := (Session.start settings now registry audit).asked before
    (∃ c, Answering before q c ∧ (s.evaluate q.1 true q.2).2 = (s.evaluate c false q.2).2) ∧
    ((∀ p ∈ before, p.2 = q.2 → p.1.WrittenAlike q.1 → p.1.vars = q.1.vars) →
      (s.evaluate q.1 true q.2).2 = (s.evaluate q.1 false q.2).2) := by
  have hs := start_accounts settings now registry audit (before.map Question.request)
  have ⟨c, hc, he⟩ := evaluate_from (q := q) hs fun p hp => h.ids p (by simp [hp]) q (by simp)
  have hw : ((Session.start settings now registry audit).asked before).gate.refusal = none := hs.works
  rw [← asked_engine _ before, ← evaluate_uncached hw] at he
  refine ⟨⟨c, hc, he⟩, fun hvars => ?_⟩
  rcases hc with rfl | ⟨hm, ha⟩
  case inl => exact he
  case inr =>
    have hsib : c.Siblings q.1 := h.siblings (c, q.2) (by simp [hm]) q (by simp)
    rwa [hsib.eq (hvars _ hm rfl ha) ha.left] at he

def plainSettings : Settings :=
  ⟨{}, 1024, .none, .zero, false, "INFO"⟩

-- A session at the first moment of a year, without any functions.
def plain : Session :=
  .start plainSettings (Engine.ofFunctions []).comparer.now (Engine.ofFunctions []).registry .discarding

-- Whether an outcome is a success, and whether its condition holds.
def flags : Option (Except Fault ConditionResult) → Option (Bool × Bool)
  | some (.ok r) => some (r.success, r.result)
  | _            => none

def isText : Condition :=
  .simple ⟨.text "is_text", {}⟩ (.text "x") (.known .isString) .null

def newYear : Entries := [(.text "x", .date ⟨2024, 1, 1, validDate_newYear⟩)]

def newYearText : Entries := [(.text "x", .text "2024-01-01")]

def atStep (index : Int) (vars : Entries) : Context :=
  { Context.ofVars vars with stepIndex := index }

theorem comparable_atStep (condition : Condition) (m n : Int) (vars vars' : Entries) :
    Comparable [(atStep m vars, condition), (atStep n vars', condition)] := by
  have hs (m n : Int) (vars vars' : Entries) : (atStep m vars).Siblings (atStep n vars') :=
    ⟨rfl, rfl, rfl, rfl, rfl⟩
  constructor <;> simp only [List.forall_mem_cons, List.not_mem_nil, false_implies, implies_true, and_true]
  exact ⟨⟨hs m m vars vars, hs m n vars vars'⟩, hs n m vars' vars, hs n n vars' vars'⟩

-- In the next step, a text is not taken for the date that it spells.
theorem evaluate_next :
    Comparable [(atStep 0 newYear, isText), (atStep 1 newYearText, isText)] ∧
      flags ((plain.asked [(atStep 0 newYear, isText)]).evaluate (atStep 1 newYearText) true isText).2 =
        some (true, true) := by
  have hc := comparable_atStep isText 0 1 newYear newYearText
  have hstep : ∀ p ∈ [(atStep 0 newYear, isText)], p.2 = isText →
      p.1.WrittenAlike (atStep 1 newYearText) → p.1.vars = newYearText := by
    intro p hp _ ha
    rw [List.mem_singleton.mp hp] at ha
    cases ha.left
  have h := (evaluate_asked plainSettings (Engine.ofFunctions []).comparer.now
    (Engine.ofFunctions []).registry .discarding (q := (atStep 1 newYearText, isText)) hc).right hstep
  exact ⟨hc, congrArg flags h⟩

-- A success is given again in every context that is written alike.
theorem evaluate_alike {c c' : Context} {condition : Condition} (settings : Settings) (now : Moment)
    (registry : Registry) (audit : AuditStore) (ha : c.WrittenAlike c')
    (hr : (condition.evaluate (Session.start settings now registry audit).gate.engine c).value =
      some (.ok r)) (ht : r.success = true) :
    (((Session.start settings now registry audit).asked [(c, condition)]).evaluate c' true condition).2 =
      some (.ok r) := by
  have ⟨hi, vars, hp, hp'⟩ := ha
  have hk : condition.key? c true = some _ := Context.cacheKey?_of_printed hp _
  have hk' : condition.key? c' true = some _ := Context.cacheKey?_of_printed hp' _
  rw [← hi] at hk'
  have hone := answers (start_accounts settings now registry audit []).works nofun c true condition
  have hfirst := (evaluate_eq (start_accounts settings now registry audit []).works c true condition).right
  have hkept := hone.own _ hk
  rw [hfirst, lookUp_miss hk rfl] at hkept
  have hw := (start_accounts settings now registry audit [Question.request (c, condition)]).works
  refine (evaluate_eq hw ..).right.trans (congrArg (·.2.value) (lookUp_hit hk' (hkept.trans ?_)))
  exact (congrArg success? hr).trans (if_pos ht)

theorem evaluate_differs {c c' : Context} {condition : Condition} (holds : Bool)
    (ha : c.WrittenAlike c')
    (hc : flags (condition.evaluate plain.gate.engine c).value = some (true, holds))
    (hc' : flags (condition.evaluate plain.gate.engine c').value = some (true, !holds)) :
    ((plain.asked [(c, condition)]).evaluate c' true condition).2 ≠
      ((plain.asked [(c, condition)]).evaluate c' false condition).2 := by
  have hw : (plain.asked [(c, condition)]).gate.refusal = none :=
    (start_accounts _ _ _ _ [Question.request (c, condition)]).works
  intro h
  rw [evaluate_uncached hw, asked_engine] at h
  rw [← h] at hc'
  cases hv : (condition.evaluate plain.gate.engine c).value
  case none => rw [hv] at hc; cases hc
  case some outcome =>
    cases outcome
    case error => rw [hv] at hc; cases hc
    case ok r =>
      rw [hv] at hc
      have ht : r.success = true := (Prod.mk.inj (Option.some.inj hc)).left
      rw [plain, evaluate_alike _ _ _ _ ha hv ht] at hc'
      rw [hc] at hc'
      cases holds <;> cases hc'

def beginsWithX : Condition :=
  .simple ⟨.text "begins_with_x", {}⟩ (.text "both") (.known .startsWith) (.text "\x7b\"x\"")

def both (vars : Entries) : Entries := [(.text "both", .map vars)]

-- The text of a date is kept for the date, and one order of entries for another.
theorem evaluate_shared :
    (Comparable [(atStep 0 newYear, isText), (atStep 0 newYearText, isText)] ∧
      ((plain.asked [(atStep 0 newYear, isText)]).evaluate (atStep 0 newYearText) true isText).2 ≠
        ((plain.asked [(atStep 0 newYear, isText)]).evaluate (atStep 0 newYearText) false isText).2) ∧
    Comparable [(atStep 0 (both Context.twoVars), beginsWithX),
        (atStep 0 (both Context.twoVars.reverse), beginsWithX)] ∧
      ((plain.asked [(atStep 0 (both Context.twoVars), beginsWithX)]).evaluate
          (atStep 0 (both Context.twoVars.reverse)) true beginsWithX).2 ≠
        ((plain.asked [(atStep 0 (both Context.twoVars), beginsWithX)]).evaluate
          (atStep 0 (both Context.twoVars.reverse)) false beginsWithX).2 := by
  have hdate := Context.writtenAlike_single "x" (v := .date ⟨2024, 1, 1, validDate_newYear⟩)
    (w := .text "2024-01-01") rfl rfl
  have hperm := (List.reverse_perm Context.twoVars).symm
  have hv := Context.twoVars_plain
  have hv' := hv.perm hperm
  have horder := Context.writtenAlike_single "both" (Json.printSorted_eq hv)
    ((Json.sortedChars_eq_iff hv hv').mpr (.of_perm hperm) ▸ Json.printSorted_eq hv')
  exact ⟨⟨comparable_atStep .., evaluate_differs false hdate rfl rfl⟩, comparable_atStep ..,
    evaluate_differs true horder rfl rfl⟩

end Session

end FlowGate
