import FlowGate.Proofs.Entries
import FlowGate.Proofs.Gate.Running
import FlowGate.Proofs.Schema.Validity

-- The table of decisions: what a gate makes of a configuration, whatever becomes of it on the way.

namespace FlowGate

open Value

namespace Action

-- The fault of counting the conditions of an action that has another value in their place.
def countFault? (a : Action) : Option Fault :=
  match a.strayConditions with
  | none   => none
  | some v =>
    match v.size with
    | .ok _        => none
    | .error fault => some fault

-- The branch that goes one way, empty where there is none.
def branchOf (a : Action) : Way → Branch
  | .onTrue =>
    match a.onTrue with
    | .known branch => branch
    | .stray _      => {}
  | .onFalse => a.onFalse.getD {}
  | .onError => a.onError.getD {}

variable {a : Action} {way : Way} {branch : Branch}

theorem branch_eq (h : a.branch way = .ok branch) : branch = a.branchOf way := by
  unfold Action.branch at h
  unfold branchOf
  split at h
  case h_1 =>
    split at h
    case h_1 hb => cases h; simp [hb]
    all_goals cases h
  all_goals
    cases h
    rfl

theorem countFault?_of_valid (h : a.Valid) : a.countFault? = none := by
  rw [countFault?, h.noStrayConditions]

-- Conditions that cannot be counted cannot be checked either.
theorem check_of_countFault (limits : Limits) (known : Option (List String)) {fault : Fault}
    (h : a.countFault? = some fault) : ∃ fault, a.check limits known = .error fault := by
  unfold countFault? at h
  split at h
  case h_1 => cases h
  case h_2 v hv =>
    have hs : ∃ fault, strayMembers a.strayConditions "id" = .error fault := by
      rw [hv]
      cases v
      case scalar s =>
        cases s
        case text => cases h
        all_goals exact ⟨_, rfl⟩
      case list => cases h
      case map  => cases h
    have ⟨fault, hs⟩ := hs
    unfold check
    cases a.checkOwn
    case error fault => exact ⟨fault, rfl⟩
    case ok own      => exact ⟨fault, by rw [hs]; rfl⟩

end Action

namespace Offer

-- The action that a gate is left with once it has read what it was handed.
def action? : Offer → Option Action
  | action a => some a
  | raw v    => (Action.read v).toOption

def branchOf : Offer → Way → Branch
  | action a, way => a.branchOf way
  | raw v, way    =>
    match Action.read v with
    | .done a   => a.branchOf way
    | .failed _ => (Action.rescueBranch v).getD {}

def hasFalse (offer : Offer) : Bool :=
  offer.action?.any fun a => a.onFalse.isSome

def countFault? (offer : Offer) : Option Fault :=
  offer.action?.bind Action.countFault?

-- All that has to be written can be written.
structure Writable (limit : Option Nat) (g : Gate) (offer : Offer) : Prop where
  read    : ∀ v, offer = .raw v → g.readFault? limit v = none
  checked : ∀ a, offer = .action a → g.checkFault? limit a = none
  logged  : ∀ a, offer = .action a → Fault.ofWriting limit a.logged = none

-- Raw, or an action as reading gives it.
def Valid : Offer → Prop
  | raw _    => True
  | action a => a.Valid

theorem read_failed {offer : Offer} (h : offer.action? = none) :
    ∃ v issues, offer = .raw v ∧ Action.read v = .failed issues := by
  cases offer
  case action => cases h
  case raw v =>
    cases hr : Action.read v
    case done          => simp [action?, hr, Schema.Parsed.toOption] at h
    case failed issues => exact ⟨v, issues, rfl, hr⟩

end Offer

namespace Gate

variable {g : Gate} {c : Context} {a : Action} {d : Decision}

def check (g : Gate) (a : Action) : Except Fault Report :=
  a.check g.limits (some g.engine.registry.functionNames)

-- What keeps the outcomes of an action from deciding: its check blocks it, or the check or the run
-- comes to a fault.
def Halts (g : Gate) (c : Context) (a : Action) : Prop :=
  match g.check a with
  | .error _   => True
  | .ok report => report.isValid = false ∨ ∃ fault, (g.run c a).2.value = some (.error fault)

-- What follows a decision is what its branch says.
structure Follows (now : Moment) (c : Context) (branchOf : Way → Branch) (d : Decision) : Prop where
  nextActionIds    : d.nextActionIds = (branchOf d.way).actionIds
  continueWorkflow : d.continueWorkflow = (branchOf d.way).continueWorkflow
  vars             : d.vars =
    variablesAfter now c (branchOf d.way) d.conditionsPassed d.filtersPassed d.way

structure Refused (now : Moment) (c : Context) (branchOf : Way → Branch) (d : Decision) : Prop
    extends Follows now c branchOf d where
  success          : d.success = false
  way              : d.way = .onError
  conditionsPassed : d.conditionsPassed = false
  filtersPassed    : d.filtersPassed = false

structure Decided (now : Moment) (c : Context) (branchOf : Way → Branch) (hasFalse : Bool)
    (d : Decision) : Prop extends Follows now c branchOf d where
  success : d.success = true
  onTrue  : d.way = .onTrue ↔ d.conditionsPassed = true ∧ d.filtersPassed = true
  onFalse : d.way = .onFalse ↔
    ¬(d.conditionsPassed = true ∧ d.filtersPassed = true) ∧ hasFalse = true
  onError : d.way = .onError ↔
    ¬(d.conditionsPassed = true ∧ d.filtersPassed = true) ∧ hasFalse = false

theorem select_eq (a : Action) (p q : Bool) :
    (select a p q = .onTrue ↔ p = true ∧ q = true) ∧
    (select a p q = .onFalse ↔ ¬(p = true ∧ q = true) ∧ a.onFalse.isSome = true) ∧
    (select a p q = .onError ↔ ¬(p = true ∧ q = true) ∧ a.onFalse.isSome = false) := by
  cases p <;> cases q <;> cases h : a.onFalse <;> simp [select, h]

theorem refuse_refused {branch : Branch} {branchOf : Way → Branch} {summary : Summary}
    {errors : List String} (h : branch = branchOf .onError) :
    Refused g.now c branchOf (g.refuse c branch summary errors) := by
  subst h
  exact ⟨⟨rfl, rfl, rfl⟩, rfl, rfl, rfl, rfl⟩

theorem refuseAction_eq {errors : List String} (h : g.refuseAction c a errors = .ok d) :
    ∃ summary, d = g.refuse c (a.branchOf .onError) summary errors := by
  have ⟨branch, hb, h⟩ := ok_of_bind (x := a.branch .onError) h
  rw [← Action.branch_eq hb]
  split at h
  case h_1 => cases h; exact ⟨_, rfl⟩
  case h_2 v _ =>
    have ⟨_, _, h⟩ := ok_of_bind (x := v.size) h
    cases h
    exact ⟨_, rfl⟩

theorem refuseAction_refused (h : a.countFault? = none) (errors : List String) :
    ∃ d, g.refuseAction c a errors = .ok d ∧ Refused g.now c a.branchOf d := by
  cases hs : a.strayConditions
  case none =>
    simp only [refuseAction, hs]
    exact ⟨_, rfl, refuse_refused rfl⟩
  case some v =>
    cases hn : v.size
    case error => simp [Action.countFault?, hs, hn] at h
    case ok =>
      simp only [refuseAction, hs, hn]
      exact ⟨_, rfl, refuse_refused rfl⟩

theorem refuseAction_fault {errors : List String} {fault : Fault} (h : a.countFault? = some fault) :
    g.refuseAction c a errors = .error fault := by
  cases hs : a.strayConditions
  case none => simp [Action.countFault?, hs] at h
  case some v =>
    cases hn : v.size
    case ok => simp [Action.countFault?, hs, hn] at h
    case error fault' =>
      have h : fault' = fault := by simpa [Action.countFault?, hs, hn] using h
      simp only [refuseAction, hs, hn, h]
      rfl

theorem conclude_decided {rs : List ConditionResult} {fs : List FilterResult}
    (h : g.conclude c a rs fs = .ok d) : Decided g.now c a.branchOf a.onFalse.isSome d := by
  simp only [conclude, bind, Except.bind] at h
  split at h
  case h_1 => cases h
  case h_2 =>
    split at h
    case h_1 => cases h
    case h_2 branch hb =>
      have hb := Action.branch_eq hb
      cases h
      have ⟨ht, hf, he⟩ := select_eq a (a.options.mode.combine (rs.map ConditionResult.passed))
        (fs.all FilterResult.passed)
      exact ⟨⟨by rw [hb], by rw [hb], by rw [hb]⟩, rfl, ht, hf, he⟩

theorem run_decided (h : (g.run c a).2.value = some (.ok d)) :
    Decided g.now c a.branchOf a.onFalse.isSome d := by
  have he := evaluateAll_engine g c a.options a.conditions
  unfold run at h
  split at h
  case h_1 => cases h
  case h_2 => cases h
  case h_3 g' _ _ hr =>
    have he : g'.engine = g.engine := by simpa only [hr] using he
    have hn : g'.now = g.now := by rw [now, he, now]
    exact hn ▸ conclude_decided (Option.some.inj h)

-- Writing errors down changes nothing else.
theorem Refused.with_errors {now : Moment} {branchOf : Way → Branch} (errors : List String)
    (h : Refused now c branchOf d) : Refused now c branchOf { d with errors } :=
  ⟨⟨h.nextActionIds, h.continueWorkflow, h.vars⟩, h.success, h.way, h.conditionsPassed,
    h.filtersPassed⟩

theorem Decided.with_errors {now : Moment} {branchOf : Way → Branch} {hasFalse : Bool}
    (errors : List String) (h : Decided now c branchOf hasFalse d) :
    Decided now c branchOf hasFalse { d with errors } :=
  ⟨⟨h.nextActionIds, h.continueWorkflow, h.vars⟩, h.success, h.onTrue, h.onFalse, h.onError⟩

theorem keep_eq : ∃ errors, (g.keep c a d).2 = { d with errors } := by
  unfold keep
  split
  case isTrue => exact ⟨d.errors, rfl⟩
  case isFalse =>
    split
    case h_1 => exact ⟨d.errors, rfl⟩
    case h_2 => exact ⟨_, rfl⟩

theorem keep_gate : ∃ audit, (g.keep c a d).1 = { g with audit } := by
  unfold keep
  split
  case isTrue => exact ⟨g.audit, rfl⟩
  case isFalse =>
    split
    case h_1 audit _ => exact ⟨audit, rfl⟩
    case h_2         => exact ⟨g.audit, rfl⟩

theorem settle_ok : ∃ errors, (g.settle c a (.ok d)).2 = .ok { d with errors } :=
  have ⟨errors, h⟩ := keep_eq (g := g) (c := c) (a := a) (d := d)
  ⟨errors, congrArg Except.ok h⟩

theorem settle_fault (h : a.countFault? = none) (fault : Fault) :
    ∃ d, (g.settle c a (.error fault)).2 = .ok d ∧ Refused g.now c a.branchOf d := by
  have ⟨d, hd, hr⟩ := refuseAction_refused (g := g) (c := c) h [fault.message]
  have ⟨errors, hk⟩ := keep_eq (g := g) (c := c) (a := a) (d := d)
  refine ⟨_, ?_, hr.with_errors errors⟩
  simp [settle, hd, hk]

theorem settle_uncounted {fault : Fault} (h : a.countFault? = some fault) (fault' : Fault) :
    (g.settle c a (.error fault')).2 = .error fault := by
  simp [settle, refuseAction_fault h]

-- What a gate makes of an action that can be counted.
theorem decide_tabled (h : a.countFault? = none) :
    (∃ d, (g.decide c a).2.value = some (.ok d) ∧
      ((g.Halts c a ∧ Refused g.now c a.branchOf d) ∨
        (¬g.Halts c a ∧ Decided g.now c a.branchOf a.onFalse.isSome d))) ∨
    ((g.decide c a).2.value = none ∧ g.engine.Stalls c (g.decide c a).2.calls) := by
  cases hc : a.check g.limits (some g.engine.registry.functionNames)
  case error fault =>
    have ⟨d, hd, hr⟩ := settle_fault (g := g) (c := c) h fault
    exact .inl ⟨d, by simp [decide, hc, hd, Run.pure], .inl ⟨by simp [Halts, check, hc], hr⟩⟩
  case ok report =>
    cases hv : report.isValid
    case false =>
      have ⟨d, hd, hr⟩ := refuseAction_refused (g := g) (c := c) h report.messages
      have ⟨errors, hs⟩ := settle_ok (g := g) (c := c) (a := a) (d := d)
      exact .inl ⟨_, by simp [decide, hc, hv, hd, hs, Run.pure],
        .inl ⟨by simp [Halts, check, hc, hv], hr.with_errors errors⟩⟩
    case true =>
      have he := run_engine g c a
      have hends := run_ends g c a
      rcases hr : g.run c a with ⟨g', calls, outcome⟩
      rw [hr] at he hends
      have hn : g'.now = g.now := by rw [now, he, now]
      cases outcome
      case none =>
        exact .inr ⟨by simp [decide, hc, hv, hr], by simpa [decide, hc, hv, hr] using hends rfl⟩
      case some outcome =>
        cases outcome
        case error fault =>
          have ⟨d, hs, hx⟩ := settle_fault (g := g') (c := c) h fault
          exact .inl ⟨d, by simp [decide, hc, hv, hr, hs],
            .inl ⟨by simp [Halts, check, hc, hv, hr], hn ▸ hx⟩⟩
        case ok d =>
          have ⟨errors, hs⟩ := settle_ok (g := g') (c := c) (a := a) (d := d)
          have hd := run_decided (g := g) (c := c) (a := a) (d := d) (by rw [hr])
          exact .inl ⟨_, by simp [decide, hc, hv, hr, hs],
            .inr ⟨by simp [Halts, check, hc, hv, hr], hd.with_errors errors⟩⟩

-- Conditions that cannot be counted make a gate fail with that fault.
theorem decide_uncounted {fault : Fault} (h : a.countFault? = some fault) :
    (g.decide c a).2.value = some (.error fault) := by
  have ⟨fault', hc⟩ :=
    Action.check_of_countFault g.limits (some g.engine.registry.functionNames) h
  simp [decide, hc, settle_uncounted h, Run.pure]

-- A configuration that comes to an action is decided as that action.
theorem execute_eq {offer : Offer} (h : offer.action? = some a) :
    g.execute c offer = g.decide c a ∧ offer.branchOf = a.branchOf ∧
      offer.hasFalse = a.onFalse.isSome ∧ offer.countFault? = a.countFault? := by
  have hf : offer.hasFalse = a.onFalse.isSome := by simp [Offer.hasFalse, h]
  have hc : offer.countFault? = a.countFault? := by simp [Offer.countFault?, h]
  cases offer
  case action =>
    cases h
    exact ⟨rfl, rfl, hf, hc⟩
  case raw v =>
    cases hr : Action.read v
    case failed => simp [Offer.action?, hr, Schema.Parsed.toOption] at h
    case done b =>
      simp only [Offer.action?, hr, Schema.Parsed.toOption, Option.some.injEq] at h
      subst h
      exact ⟨by simp [execute, hr], by funext way; simp [Offer.branchOf, hr], hf, hc⟩

theorem execute_failed {v : Value} {issues : List Schema.Issue} (h : Action.read v = .failed issues) :
    g.execute c (.raw v) = (g, .pure (.ok (g.refuseUnread c v issues))) := by
  simp [execute, h]

theorem countFault?_raw (v : Value) : (Offer.raw v).countFault? = none := by
  cases h : Action.read v
  case failed => simp [Offer.countFault?, Offer.action?, h, Schema.Parsed.toOption]
  case done a =>
    simpa [Offer.countFault?, Offer.action?, h, Schema.Parsed.toOption] using
      Action.countFault?_of_valid (Action.valid_of_read h)

theorem countFault?_of_offered {offer : Offer} (h : offer.Valid) : offer.countFault? = none := by
  cases offer
  case raw v    => exact countFault?_raw v
  case action a => exact Action.countFault?_of_valid h

variable {limit : Option Nat} {offer : Offer} {v : Value}

theorem mention_eq {α : Type} {outcome : Except Fault α} (h : Fault.ofWriting limit a.logged = none) :
    mention limit a outcome = outcome := by
  cases outcome <;> simp [mention, h, bind, Except.bind, pure, Except.pure]

theorem decideUnder_eq (hf : g.checkFault? limit a = none) (hl : Fault.ofWriting limit a.logged = none) :
    g.decideUnder limit c a = g.decide c a := by
  have hm : mention limit a = fun outcome : Except Fault Decision => outcome := funext fun _ => mention_eq hl
  rcases hd : g.decide c a with ⟨g', calls, outcome⟩
  simp [decideUnder, hf, hd, Run.map, hm]

-- Where everything can be written the limit changes nothing.
theorem executeUnder_eq (h : offer.Writable limit g) : g.executeUnder limit c offer = g.execute c offer := by
  cases offer
  case raw v    => simp [executeUnder, h.read v rfl]
  case action a => exact decideUnder_eq (h.checked a rfl) (h.logged a rfl)

-- Without a limit everything can be written.
theorem writable_none : offer.Writable none g where
  read v _    := by
    unfold readFault?
    split <;> rfl
  checked _ _ := rfl
  logged _ _  := rfl

def asking : Condition := .custom ⟨.text "b", {}⟩ (.text "wait") .null

end Gate

end FlowGate
