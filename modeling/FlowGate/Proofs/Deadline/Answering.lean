import FlowGate.Deadline
import FlowGate.Proofs.Action.Rules
import FlowGate.Proofs.Gate.Hanging
import FlowGate.Proofs.Number.Whole

-- What a step answers: the decision that its configuration comes to on its own, or a refusal where that
-- would come to no end. What can be in the way is a deadline that no double can hold, and a whole number that
-- is too long to be written.

namespace FlowGate

open Value

variable {g g' : Gate} {c : Context} {a : Action} {offer : Offer} {v : Value} {done : List Condition}
  {condition : Condition} {outcome : Except Fault Decision}

-- The deadline of what is offered is too large for a double.
def Offer.Overlong (limits : Limits) (offer : Offer) : Prop :=
  ∃ a, offer.action? = some a ∧ (2 ^ 54 - 1) * 2 ^ 970 ≤ (Gate.deadline limits a).natAbs

theorem Offer.not_overlong {limits : Limits} (ha : offer.action? = some a)
    (h : (Gate.deadline limits a).natAbs < 2 ^ 54 - 1) : ¬offer.Overlong limits := by
  rintro ⟨_, hb, ho⟩
  obtain rfl := Option.some.inj (ha.symm.trans hb)
  generalize 970 = k at ho
  have hk := Nat.two_pow_pos k
  generalize 2 ^ k = n at ho hk
  omega

namespace Gate

theorem stepAction_overlong (h : (2 ^ 54 - 1) * 2 ^ 970 ≤ (deadline g.limits a).natAbs) :
    g.stepAction c a = (g, ⟨[], false, .error .integerTooLarge⟩) := by
  rw [stepAction, Double.ofInt?_eq_none_iff.mpr h, stepWithin]

-- With any other deadline, the step goes by what becomes of the decision.
theorem stepAction_within (h : ¬(2 ^ 54 - 1) * 2 ^ 970 ≤ (deadline g.limits a).natAbs) :
    g.stepAction c a = ((g.decide c a).1,
      match (g.decide c a).2.value with
      | some outcome => ⟨(g.decide c a).2.calls, false, outcome.map StepResult.ofDecision⟩
      | none         => ⟨(g.decide c a).2.calls, true, (g.decide c a).1.cutOff c a⟩) := by
  have ⟨_, hs⟩ := Option.ne_none_iff_exists'.mp (mt Double.ofInt?_eq_none_iff.mp h)
  rw [stepAction, hs]
  rcases g.decide c a with ⟨_, _, _ | _⟩ <;> rfl

theorem cutOff_refused (h : a.countFault? = none) :
    ∃ d, g.cutOff c a = .ok ⟨false, some d, some timeoutMessage⟩ ∧ d.errors = [timeoutMessage] ∧
      Refused g.now c a.branchOf d := by
  have ⟨d, hd, hr⟩ := refuseAction_refused (g := g) (c := c) h [timeoutMessage]
  obtain ⟨_, rfl⟩ := refuseAction_eq hd
  exact ⟨_, by rw [cutOff, hd]; rfl, rfl, hr⟩

theorem step_eq (h : offer.action? = some a) : g.step c offer = g.stepAction c a := by
  cases offer
  case action => cases h; rfl
  case raw v =>
    unfold step
    split
    case h_1 hr => cases hr
    case h_2 hr => cases hr; cases h
    case h_3 hr =>
      cases hr
      cases hv : Action.read v <;> simp_all [Offer.action?, Schema.Parsed.toOption]

theorem step_overlong (h : offer.Overlong g.limits) :
    g.step c offer = (g, ⟨[], false, .error .integerTooLarge⟩) :=
  have ⟨_, ha, ho⟩ := h
  (step_eq ha).trans (stepAction_overlong ho)

theorem step_within (ha : offer.action? = some a) (ho : ¬offer.Overlong g.limits) :
    g.step c offer = ((g.decide c a).1,
      match (g.decide c a).2.value with
      | some outcome => ⟨(g.decide c a).2.calls, false, outcome.map StepResult.ofDecision⟩
      | none         => ⟨(g.decide c a).2.calls, true, (g.decide c a).1.cutOff c a⟩) :=
  (step_eq ha).trans (stepAction_within fun h => ho ⟨a, ha, h⟩)

-- A configuration that is not read is refused in either way.
theorem step_unread (hn : offer ≠ .raw null) (h : offer.action? = none) :
    ∃ d, g.execute c offer = (g, .pure (.ok d)) ∧ d.success = false ∧
      g.step c offer = (g, ⟨[], false, .ok (.ofDecision d)⟩) := by
  obtain ⟨v, issues, rfl, hv⟩ := Offer.read_failed h
  refine ⟨g.refuseUnread c v issues, execute_failed hv, rfl, ?_⟩
  unfold step
  split
  case h_1 hr => cases hr
  case h_2 hr => exact absurd hr hn
  case h_3 hr =>
    cases hr
    rw [hv]
    rfl

-- A step that answers what its configuration comes to on its own. If its conditions cannot be counted, that
-- is a fault.
structure InTime (g : Gate) (c : Context) (offer : Offer) : Prop where
  gate      : (g.step c offer).1 = (g.execute c offer).1
  calls     : (g.step c offer).2.calls = (g.execute c offer).2.calls
  ended     : (g.step c offer).2.cutOff = false
  decided   : offer.countFault? = none → ∃ d r, (g.execute c offer).2.value = some (.ok d) ∧
    (g.step c offer).2.result = .ok r ∧ r.success = d.success ∧ r.decision = some d ∧
    r.error = if d.success then none else some ("; ".intercalate d.errors)
  uncounted : ∀ fault, offer.countFault? = some fault →
    (g.execute c offer).2.value = some (.error fault) ∧ (g.step c offer).2.result = .error fault

-- A step that is cut off while it waits for a condition. What it answers is a refusal, and what it leaves
-- behind are the results of the conditions before that one.
structure CutOff (g : Gate) (c : Context) (offer : Offer) (a : Action) (done : List Condition) (g' : Gate) :
    Prop where
  value   : (g.execute c offer).2.value = none
  ended   : (g.step c offer).2.cutOff = true
  refused : ∃ d, (g.step c offer).2.result = .ok ⟨false, some d, some timeoutMessage⟩ ∧
    d.errors = [timeoutMessage] ∧ Refused g.now c offer.branchOf d
  gate    : ∃ cache, (g.step c offer).1 = { g with cache } ∧ cache.entries = g'.cache.entries
  learnt  : ∀ entry ∈ (g.step c offer).1.cache.entries,
    entry ∈ g.cache.entries ∨ g.Learnt c a.options.cacheResults done entry

theorem inTime_of_unread (hn : offer ≠ .raw null) (h : offer.action? = none) : InTime g c offer := by
  have ⟨d, he, hd, hs⟩ := step_unread (g := g) (c := c) hn h
  have hc : offer.countFault? = none := by simp [Offer.countFault?, h]
  constructor
  case gate      => rw [he, hs]
  case calls     => rw [he, hs]; rfl
  case ended     => rw [hs]
  case decided   => exact fun _ => ⟨d, .ofDecision d, by rw [he]; rfl, by rw [hs], rfl, rfl, rfl⟩
  case uncounted => simp [hc]

theorem inTime_of_action (ha : offer.action? = some a) (ho : ¬offer.Overlong g.limits)
    (hv : (g.decide c a).2.value = some outcome) : InTime g c offer := by
  have ⟨he, _, _, hc⟩ := execute_eq (g := g) (c := c) ha
  have hs := step_within (c := c) ha ho
  rw [hv] at hs
  constructor
  case gate    => rw [hs, he]
  case calls   => rw [hs, he]
  case ended   => rw [hs]
  case decided =>
    intro hn
    rcases decide_tabled (g := g) (c := c) (hc ▸ hn) with ⟨d, hd, _⟩ | ⟨hd, _⟩
    case inr => cases hd.symm.trans hv
    case inl =>
      obtain rfl := Option.some.inj (hv.symm.trans hd)
      exact ⟨d, .ofDecision d, by rw [he, hv], by rw [hs]; rfl, rfl, rfl, rfl⟩
  case uncounted =>
    intro fault hf
    have hd := decide_uncounted (g := g) (c := c) (hc ▸ hf)
    obtain rfl := Option.some.inj (hv.symm.trans hd)
    exact ⟨by rw [he, hv], by rw [hs]; rfl⟩

theorem HangsAt.countFault?_eq_none (h : g.HangsAt c a done g' condition) : a.countFault? = none := by
  cases hf : a.countFault?
  case none => rfl
  case some fault =>
    have ⟨report, hc, _⟩ := h.unblocked
    obtain ⟨_, he⟩ := Action.check_of_countFault g.limits (some g.engine.registry.functionNames) hf
    cases hc.symm.trans he

theorem HangsAt.cutOff (ha : offer.action? = some a) (ho : ¬offer.Overlong g.limits)
    (h : g.HangsAt c a done g' condition) : CutOff g c offer a done g' := by
  have ⟨he, hb, _, _⟩ := execute_eq (g := g) (c := c) ha
  have hv := decide_eq_none_iff.mpr ⟨done, g', condition, h⟩
  have hs := step_within (c := c) ha ho
  rw [hv] at hs
  have ⟨cache, hg, hk⟩ := h.decide_eq
  constructor
  case value   => rw [he, hv]
  case ended   => rw [hs]
  case refused =>
    have ⟨d, hd, hx, hr⟩ := cutOff_refused (g := (g.decide c a).1) (c := c) h.countFault?_eq_none
    refine ⟨d, by rw [hs, hd], hx, ?_⟩
    rw [hg] at hr
    exact hb ▸ hr
  case gate    => exact ⟨cache, by rw [hs, hg], hk⟩
  case learnt  =>
    intro entry hm
    rw [hs, hg, hk] at hm
    exact h.waits.done.entry hm

theorem step_inTime (hn : offer ≠ .raw null) (ho : ¬offer.Overlong g.limits)
    (hw : ¬∃ a done g' condition, offer.action? = some a ∧ g.HangsAt c a done g' condition) :
    InTime g c offer := by
  cases ha : offer.action?
  case none => exact inTime_of_unread hn ha
  case some a =>
    cases hv : (g.decide c a).2.value
    case some => exact inTime_of_action ha ho hv
    case none =>
      have ⟨done, g', condition, h⟩ := decide_eq_none_iff.mp hv
      exact absurd ⟨a, done, g', condition, ha, h⟩ hw

-- Whatever a step is handed, unless it is nothing at all: a deadline that is too large is a fault. With any
-- other, the step answers what the configuration comes to on its own, or it is cut off where that would
-- wait for a condition for ever. What is raw or has been read can always be counted.
theorem step_follows (g : Gate) (c : Context) (offer : Offer) (hn : offer ≠ .raw null) :
    (offer.Overlong g.limits → g.step c offer = (g, ⟨[], false, .error .integerTooLarge⟩)) ∧
    (¬offer.Overlong g.limits →
      ((¬∃ a done g' condition, offer.action? = some a ∧ g.HangsAt c a done g' condition) →
        InTime g c offer) ∧
      ∀ a done g' condition, offer.action? = some a → g.HangsAt c a done g' condition →
        CutOff g c offer a done g') ∧
    (offer.Valid → offer.countFault? = none) :=
  ⟨step_overlong, fun ho => ⟨step_inTime hn ho, fun _ _ _ _ ha hw => hw.cutOff ha ho⟩, countFault?_of_offered⟩

-- An action with one condition that holds and another one whose function never answers.
def waiting : Action :=
  .build "waiting" "" none
    [.simple ⟨.text "a", {}⟩ (.text "x") (.known .isAbsent) .null,
      .custom ⟨.text "b", {}⟩ (.text "wait") .null]
    [] {} none (some { actionIds := ["alert"] }) { timeoutMs := some 50 }

def mute : Gate where
  engine := .ofFunctions [("wait", fun _ _ _ => .never)]
  limits := {}
  cache  := .empty 1
  audit  := .memory []

theorem waiting_hangs : mute.HangsAt (.ofVars []) waiting (waiting.conditions.take 1) mute
    (.custom ⟨.text "b", {}⟩ (.text "wait") .null) where
  unblocked := by
    have hn : mute.engine.registry.functionNames = ["wait"] := List.mergeSort_singleton _
    rw [hn]
    exact ⟨_, rfl, by decide⟩
  waits     := {
    order := ⟨[], rfl⟩
    done  := .cons rfl rfl .nil
    waits := ⟨rfl, rfl, _, .root, _, "wait", _, _, rfl, rfl, rfl⟩
  }

theorem waiting_cutOff : Offer.action waiting ≠ .raw null ∧
    CutOff mute (.ofVars []) (.action waiting) waiting (waiting.conditions.take 1) mute := by
  have hn : Offer.action waiting ≠ .raw null := nofun
  have ho : ¬(Offer.action waiting).Overlong mute.limits := Offer.not_overlong rfl (by decide)
  have ⟨_, h⟩ := (step_follows mute (.ofVars []) (.action waiting) hn).right.left ho
  exact ⟨hn, h waiting _ _ _ rfl waiting_hangs⟩

theorem step_decided (hn : v ≠ null) (ho : ¬(Offer.raw v).Overlong g.limits) :
    ∃ r d, (g.step c (.raw v)).2.result = .ok r ∧ r.decision = some d := by
  by_cases hw : ∃ a done g' condition, (Offer.raw v).action? = some a ∧ g.HangsAt c a done g' condition
  case pos =>
    have ⟨a, _, _, _, ha, h⟩ := hw
    have ⟨d, hs, _⟩ := (h.cutOff ha ho).refused
    exact ⟨_, d, hs, rfl⟩
  case neg =>
    have hn : Offer.raw v ≠ .raw null := fun h => hn (Offer.raw.inj h)
    have ⟨d, r, _, hs, _, hd, _⟩ := (step_inTime (c := c) hn ho hw).decided (countFault?_raw v)
    exact ⟨r, d, hs, hd⟩

theorem step_result_of_overlong (ho : (Offer.raw v).Overlong g.limits) :
    (g.step c (.raw v)).2.result = .error .integerTooLarge := by
  rw [step_overlong ho]

-- Without a deadline that is too large there is an answer, and it has a decision unless the configuration is
-- nothing at all.
theorem step_answers (ho : ¬(Offer.raw v).Overlong g.limits) :
    ∃ r, (g.step c (.raw v)).2.result = .ok r ∧ (r.decision = none ↔ v = null) := by
  by_cases hn : v = null
  case pos =>
    subst hn
    exact ⟨_, rfl, by simp⟩
  case neg =>
    have ⟨r, d, hr, hd⟩ := step_decided (c := c) hn ho
    exact ⟨r, hr, by simp [hd, hn]⟩

end Gate

variable {limit : Option Nat} {fault : Fault} {numbers : List Int} {n : Int}

-- One of these numbers is beyond what the host writes.
def Unwritable (limit : Option Nat) (numbers : List Int) (fault : Fault) : Prop :=
  ∃ digits, limit = some digits ∧ fault = .integerUnwritten digits ∧ ∃ n ∈ numbers, 10 ^ digits ≤ n.natAbs

theorem Fault.ofWriting_eq_some_iff :
    Fault.ofWriting limit numbers = some fault ↔ Unwritable limit numbers fault := by
  cases limit
  case none => simp [ofWriting, Unwritable]
  case some digits =>
    simp only [ofWriting, Unwritable, Option.bind_some, Option.some.injEq, exists_eq_left']
    split
    case isTrue h =>
      have h : ∀ n ∈ numbers, n.natAbs < 10 ^ digits := by simpa using h
      refine iff_of_false nofun ?_
      rintro ⟨_, n, hn, hd⟩
      exact Nat.not_lt.mpr hd (h n hn)
    case isFalse h =>
      have h : ∃ n ∈ numbers, 10 ^ digits ≤ n.natAbs := by simpa using h
      rw [Option.some.injEq, eq_comm, and_iff_left h]

-- Among the numbers that a check writes is a timeout that is not positive.
theorem Action.timeout_mem_written (limits : Limits) (known : Option (List String)) {branch : Branch}
    (hb : a.onTrue = .known branch) (ht : a.options.timeoutMs = some n) (hn : n ≤ 0) :
    n ∈ a.written limits known := by
  have ⟨own, ho⟩ : ∃ own, a.checkOwn = .ok own := checkOwn_ok_iff.mpr (by simp [hb])
  have hm : n ∈ own.flatMap Finding.written :=
    List.mem_flatMap.mpr ⟨.timeout n, (mem_of_checkOwn ho rfl).mpr (by simp [ht, hn]), List.mem_singleton.mpr rfl⟩
  unfold written
  split
  case h_1 hc =>
    obtain ⟨_, _, _, h, rfl⟩ := check_eq_ok_iff.mp hc
    obtain rfl := Except.ok.inj (ho.symm.trans h.own)
    simp [Report.written, hm]
  case h_2 =>
    rw [ho]
    exact hm

theorem StepResult.handOn_eq_error_iff {r : StepResult} :
    r.handOn limit = .error fault ↔ ∃ d, r.decision = some d ∧ Unwritable limit d.written fault := by
  unfold handOn
  cases hd : r.decision
  case none => simp
  case some d =>
    simp only [Option.bind_some, Option.some.injEq, exists_eq_left', ← Fault.ofWriting_eq_some_iff]
    cases Fault.ofWriting limit d.written <;> simp

theorem StepResult.handOn_eq_ok {r r' : StepResult} (h : r.handOn limit = .ok r') : r' = r := by
  unfold handOn at h
  split at h
  case h_1 => cases h
  case h_2 => cases h; rfl

namespace Gate

-- What keeps a step from answering a raw configuration: a finding that cannot be written, a deadline that no
-- double can hold, and a decision whose document cannot be written.
inductive Hindered (limit : Option Nat) (g : Gate) (c : Context) (v : Value) : Fault → Prop
  | finding {a : Action} {fault : Fault} (ha : Action.read v = .done a)
    (hn : Unwritable limit (a.written g.limits none) fault) : Hindered limit g c v fault
  | deadline (hr : g.readFault? limit v = none) (ho : (Offer.raw v).Overlong g.limits) :
    Hindered limit g c v .integerTooLarge
  | document {r : StepResult} {d : Decision} {fault : Fault} (hr : g.readFault? limit v = none)
    (hs : (g.step c (.raw v)).2.result = .ok r) (hd : r.decision = some d)
    (hn : Unwritable limit d.written fault) : Hindered limit g c v fault

theorem readFault?_eq_some_iff : g.readFault? limit v = some fault ↔
    ∃ a, Action.read v = .done a ∧ Unwritable limit (a.written g.limits none) fault := by
  unfold readFault?
  cases Action.read v
  case failed => simp
  case done a => simp [Fault.ofWriting_eq_some_iff]

theorem stepActionUnder_eq (hf : g.checkFault? limit a = none) (hl : Fault.ofWriting limit a.logged = none) :
    g.stepActionUnder limit c a = g.stepAction c a := by
  have hm : mentionCutOff limit a = id := funext fun run => by simp [mentionCutOff, mention_eq hl]
  rw [stepActionUnder, decideUnder_eq hf hl, ← stepAction, hm, Prod.map_id, id_eq]

-- Where everything can be written the limit is only on how the result is handed on.
theorem stepUnder_eq (h : offer.Writable limit g) :
    g.stepUnder limit c offer = (g.step c offer).map id (StepRun.handOn limit) := by
  cases offer
  case raw v    => rw [stepUnder, h.read v rfl]
  case action a => rw [stepUnder, stepActionUnder_eq (h.checked a rfl) (h.logged a rfl), step]

theorem stepUnder_none : g.stepUnder none c offer = g.step c offer := by
  have hr (r : StepResult) : r.handOn none = .ok r := by
    cases hd : r.decision <;> simp [StepResult.handOn, hd, Fault.ofWriting]
  have hh : StepRun.handOn none = id := by
    funext ⟨calls, ended, result⟩
    cases result <;> simp [StepRun.handOn, Except.bind, hr]
  rw [stepUnder_eq writable_none, hh, Prod.map_id, id_eq]

theorem stepUnder_of_fault (h : g.readFault? limit v = some fault) :
    (g.stepUnder limit c (.raw v)).2.result = .error fault := by
  rw [stepUnder, h]

theorem stepUnder_of_none (h : g.readFault? limit v = none) :
    (g.stepUnder limit c (.raw v)).2.result = (g.step c (.raw v)).2.result.bind (StepResult.handOn limit) := by
  rw [stepUnder, h]
  rfl

theorem stepUnder_eq_error_iff : (g.stepUnder limit c (.raw v)).2.result = .error fault ↔
    Hindered limit g c v fault := by
  cases hr : g.readFault? limit v
  case some fault' =>
    rw [stepUnder_of_fault hr, Except.error.injEq]
    constructor
    case mp =>
      rintro rfl
      have ⟨a, ha, hn⟩ := readFault?_eq_some_iff.mp hr
      exact .finding ha hn
    case mpr =>
      intro h
      cases h
      case finding a ha hn => exact Option.some.inj (hr.symm.trans (readFault?_eq_some_iff.mpr ⟨a, ha, hn⟩))
      case deadline h _ => cases hr.symm.trans h
      case document h _ _ _ => cases hr.symm.trans h
  case none =>
    rw [stepUnder_of_none hr]
    constructor
    case mp =>
      intro h
      by_cases ho : (Offer.raw v).Overlong g.limits
      case pos =>
        rw [step_result_of_overlong ho] at h
        cases h
        exact .deadline hr ho
      case neg =>
        have ⟨r, hs, _⟩ := step_answers (c := c) ho
        rw [hs] at h
        have ⟨d, hd, hn⟩ := StepResult.handOn_eq_error_iff.mp h
        exact .document hr hs hd hn
    case mpr =>
      intro h
      cases h
      case finding a ha hn => cases hr.symm.trans (readFault?_eq_some_iff.mpr ⟨a, ha, hn⟩)
      case deadline ho => rw [step_result_of_overlong ho]; rfl
      case document hs hd hn =>
        rw [hs]
        exact StepResult.handOn_eq_error_iff.mpr ⟨_, hd, hn⟩

-- Whatever the configuration and whatever the gate, its functions and its store do, these are the only faults of a
-- step. Any other step answers as it does without a limit, and with a decision unless the configuration is nothing
-- at all. A timeout that is not positive is a finding, so one that is too long to be written keeps a step from
-- answering.
theorem stepUnder_returns (limit : Option Nat) (g : Gate) (c : Context) (v : Value) :
    (∀ fault, (g.stepUnder limit c (.raw v)).2.result = .error fault ↔ Hindered limit g c v fault) ∧
    (∀ r, (g.stepUnder limit c (.raw v)).2.result = .ok r →
      (g.step c (.raw v)).2.result = .ok r ∧ (r.decision = none ↔ v = null)) ∧
    ∀ a n digits, Action.read v = .done a → a.options.timeoutMs = some n → n ≤ 0 → limit = some digits →
      10 ^ digits ≤ n.natAbs →
      (g.stepUnder limit c (.raw v)).2.result = .error (.integerUnwritten digits) := by
  refine ⟨fun _ => stepUnder_eq_error_iff, fun r h => ?_, fun a n digits ha ht hn hl hd => ?_⟩
  case refine_1 =>
    cases hr : g.readFault? limit v
    case some => cases (stepUnder_of_fault hr).symm.trans h
    case none =>
      rw [stepUnder_of_none hr] at h
      by_cases ho : (Offer.raw v).Overlong g.limits
      case pos => rw [step_result_of_overlong ho] at h; cases h
      case neg =>
        have ⟨r', hs, hv⟩ := step_answers (c := c) ho
        rw [hs] at h
        obtain rfl := StepResult.handOn_eq_ok h
        exact ⟨hs, hv⟩
  case refine_2 =>
    have ⟨branch, hb⟩ := (Action.valid_of_read ha).onTrue
    have hm := a.timeout_mem_written g.limits none hb ht hn
    exact stepUnder_eq_error_iff.mpr (.finding ha ⟨digits, hl, rfl, n, hm, hd⟩)

end Gate

end FlowGate
