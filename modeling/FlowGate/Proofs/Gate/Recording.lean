import FlowGate.Proofs.Gate.Caching

-- What a gate puts on record, call after call: one record for each decision on an action that wants one,
-- made out from the decision that was returned. A store that fails adds an error and changes nothing else.

namespace FlowGate

open Value

-- A call that a gate is asked for, with the functions and the clock that it finds.
structure Turn where
  engine  : Engine
  context : Context
  offer   : Offer

-- The members of a mapping under some of its keys.
def Value.only (keys : List String) : Value → Value
  | map es => map (es.filter fun entry => keys.any fun key => entry.1.same (.text key))
  | v      => v

-- The record of a decision on an action.
structure Records (c : Context) (a : Action) (d : Decision) (r : AuditRecord) : Prop where
  actionId         : r.actionId = a.id
  actionName       : r.actionName = a.name
  executionId      : r.executionId = c.executionId
  workflowId       : r.workflowId = c.workflowId
  userId           : r.userId = c.userId
  branch           : r.branch = d.way
  conditionsPassed : r.conditionsPassed = d.conditionsPassed
  filtersPassed    : r.filtersPassed = d.filtersPassed
  errors           : r.errors = d.errors
  detail           : r.detail = a.options.detail
  details          : ∀ v, r.details = some v ↔ a.options.detail = .detailed ∧
    v = d.document.only ["conditionResults", "filterResults", "metadata"]

-- What is left on record of a call with this outcome. Nothing is left if the configuration could not be read
-- or wants no record, and nothing of a call without a decision: its conditions cannot be counted, or it comes
-- to no end.
inductive Leaves (t : Turn) : Option (Except Fault Decision) → List AuditRecord → Prop
  | record {a : Action} {d : Decision} {r : AuditRecord} (ha : t.offer.action? = some a)
      (hd : a.options.detail ≠ .none) (hr : Records t.context a d r) : Leaves t (some (.ok d)) [r]
  | unwanted {a : Action} {outcome : Option (Except Fault Decision)} (ha : t.offer.action? = some a)
      (hd : a.options.detail = .none) : Leaves t outcome []
  | unread {d : Decision} (ha : t.offer.action? = none) : Leaves t (some (.ok d)) []
  | uncounted {fault : Fault} (hc : t.offer.countFault? = some fault) : Leaves t (some (.error fault)) []
  | endless : Leaves t none []

-- What is left of calls is what each of them leaves, in their order.
inductive Chronicle {α β γ : Type} (R : α → β → List γ → Prop) : List α → List β → List γ → Prop
  | nil : Chronicle R [] [] []
  | cons {a : α} {b : β} {as : List α} {bs : List β} {kept more : List γ} (h : R a b kept)
      (hs : Chronicle R as bs more) : Chronicle R (a :: as) (b :: bs) (kept ++ more)

theorem AuditStore.save_saved {store saved : AuditStore} {r : AuditRecord} (h : store.save r = .ok saved)
    (r' : AuditRecord) : (saved.save r').map (fun _ => ()) = (store.save r').map fun _ => () := by
  cases store <;> cases h <;> rfl

namespace Gate

variable {β : Type} {g g' : Gate} {c : Context} {a : Action} {d : Decision} {t : Turn} {ts : List Turn}
  {records : List AuditRecord} {useCache : Bool} {condition : Condition} {conditions : List Condition}
  {options : Options} {audit : AuditStore} {auditRefusal : AuditRecord → Option Fault}

-- A gate that is asked one thing after the other.
def inTurn (f : Gate → Turn → Gate × β) (g : Gate) : List Turn → Gate × List β
  | []      => (g, [])
  | t :: ts =>
    let (g, b) := f { g with engine := t.engine } t
    let (g, bs) := inTurn f g ts
    (g, b :: bs)

def executeAll (g : Gate) (ts : List Turn) : Gate × List (Run (Except Fault Decision)) :=
  g.inTurn (fun g t => g.execute t.context t.offer) ts

-- The same gate with another store.
def storing (g : Gate) (audit : AuditStore) (auditRefusal : AuditRecord → Option Fault) : Gate :=
  { g with audit, auditRefusal }

-- The same gate with a store that takes every record and has these.
def recording (g : Gate) (records : List AuditRecord) : Gate :=
  g.storing (.memory records) fun _ => none

structure Keeps (g : Gate) (records : List AuditRecord) : Prop where
  audit   : g.audit = .memory records
  accepts : ∀ r, g.auditRefusal r = none

theorem recording_keeps (g : Gate) (records : List AuditRecord) : (g.recording records).Keeps records :=
  ⟨rfl, fun _ => rfl⟩

-- What is left of each call adds up to what is left of all of them.
theorem Keeps.inTurn {f : Gate → Turn → Gate × β} {R : Turn → β → List AuditRecord → Prop}
    (h : g.Keeps records) (hf : ∀ g records t, g.Keeps records →
      ∃ kept, (f g t).1.Keeps (records ++ kept) ∧ R t (f g t).2 kept) :
    ∃ more, (g.inTurn f ts).1.Keeps (records ++ more) ∧ Chronicle R ts (g.inTurn f ts).2 more := by
  induction ts generalizing g records
  case nil => exact ⟨[], by rwa [List.append_nil], .nil⟩
  case cons t ts hi =>
    have ⟨kept, hk, hr⟩ := hf { g with engine := t.engine } records t ⟨h.audit, h.accepts⟩
    have ⟨more, hm, hc⟩ := hi hk
    exact ⟨kept ++ more, by rwa [← List.append_assoc], .cons hr hc⟩

theorem auditRecord_records : Records c a d (auditRecord c a d) := by
  refine ⟨rfl, rfl, rfl, rfl, rfl, rfl, rfl, rfl, rfl, rfl, fun v => ?_⟩
  have hd : (auditRecord c a d).details = if a.options.detail = .detailed then
      some (d.document.only ["conditionResults", "filterResults", "metadata"]) else none := rfl
  rw [hd]
  split
  case isTrue h  => simp [h, eq_comm]
  case isFalse h => simp [h]

-- What becomes of an action when a fault selects its error branch.
def rescue (g : Gate) (c : Context) (a : Action) : Except Fault Decision → Except Fault Decision
  | .ok d        => .ok d
  | .error fault => g.refuseAction c a [fault.message]

-- What becomes of an action before its decision is recorded.
def unrecorded (g : Gate) (c : Context) (a : Action) : Gate × Run (Except Fault Decision) :=
  match g.check a with
  | .error fault => (g, .pure (g.rescue c a (.error fault)))
  | .ok report   =>
    if !report.isValid then (g, .pure (g.rescue c a (g.refuseAction c a report.messages)))
    else ((g.run c a).1, (g.run c a).2.map ((g.run c a).1.rescue c a))

def recorded (c : Context) (a : Action) : Gate × Run (Except Fault Decision) → Gate × Run (Except Fault Decision)
  | (g, ⟨calls, some (.ok d)⟩) => ((g.keep c a d).1, ⟨calls, some (.ok (g.keep c a d).2)⟩)
  | found                      => found

theorem recorded_settle {calls : List Call} (outcome : Except Fault Decision) :
    recorded c a (g, ⟨calls, some (g.rescue c a outcome)⟩) =
      ((g.settle c a outcome).1, ⟨calls, some (g.settle c a outcome).2⟩) := by
  cases outcome
  case ok => rfl
  case error fault =>
    rw [settle, rescue]
    cases g.refuseAction c a [fault.message] <;> rfl

-- Recording is the last thing that happens to a decision.
theorem decide_eq_recorded : g.decide c a = recorded c a (g.unrecorded c a) := by
  rw [decide, unrecorded, check]
  cases a.check g.limits (some g.engine.registry.functionNames)
  case error fault => exact (recorded_settle (.error fault)).symm
  case ok report   =>
    dsimp only
    split
    case isTrue  => exact (recorded_settle _).symm
    case isFalse =>
      rcases g.run c a with ⟨g', calls, _ | outcome⟩
      case none => rfl
      case some => exact (recorded_settle outcome).symm

theorem unrecorded_gate (g : Gate) (c : Context) (a : Action) :
    ∃ cache, (g.unrecorded c a).1 = { g with cache } := by
  unfold unrecorded
  split
  case h_1 => exact ⟨g.cache, rfl⟩
  case h_2 =>
    split
    case isTrue  => exact ⟨g.cache, rfl⟩
    case isFalse => exact run_gate g c a

-- The one fault that is left is that of counting the conditions.
theorem unrecorded_fault {fault : Fault} (h : (g.unrecorded c a).2.value = some (.error fault)) :
    a.countFault? = some fault := by
  have hd : (g.decide c a).2.value = some (.error fault) := by
    rw [decide_eq_recorded]
    generalize g.unrecorded c a = found at h ⊢
    obtain ⟨g', calls, outcome⟩ := found
    cases h
    rfl
  cases hf : a.countFault?
  case none => rcases decide_tabled (g := g) (c := c) hf with ⟨_, hv, _⟩ | ⟨hv, _⟩ <;> cases hd.symm.trans hv
  case some fault' =>
    rw [decide_uncounted hf] at hd
    exact congrArg some (Except.error.inj (Option.some.inj hd))

theorem recorded_leaves {calls : List Call} {outcome : Option (Except Fault Decision)}
    (ha : t.offer.action? = some a) (h : g.Keeps records)
    (hf : ∀ fault, outcome = some (.error fault) → t.offer.countFault? = some fault) :
    ∃ kept, (recorded t.context a (g, ⟨calls, outcome⟩)).1.Keeps (records ++ kept) ∧
      Leaves t (recorded t.context a (g, ⟨calls, outcome⟩)).2.value kept := by
  have hnil : g.Keeps (records ++ []) := by rwa [List.append_nil]
  rcases outcome with _ | fault | d
  case none       => exact ⟨[], hnil, .endless⟩
  case some.error => exact ⟨[], hnil, .uncounted (hf fault rfl)⟩
  case some.ok    =>
    by_cases hd : a.options.detail = .none
    case pos => exact ⟨[], by simpa [recorded, keep, hd] using h, .unwanted ha hd⟩
    case neg =>
      refine ⟨[auditRecord t.context a d], ?_, ?_⟩
      all_goals simp only [recorded, keep, hd, if_false, save, h.accepts, h.audit, AuditStore.save]
      case refine_1 => exact ⟨rfl, h.accepts⟩
      case refine_2 => exact .record ha hd auditRecord_records

theorem decide_leaves (ha : t.offer.action? = some a) (h : g.Keeps records) :
    ∃ kept, (g.decide t.context a).1.Keeps (records ++ kept) ∧
      Leaves t (g.decide t.context a).2.value kept := by
  have ⟨cache, hg⟩ := unrecorded_gate g t.context a
  have hk : (g.unrecorded t.context a).1.Keeps records := hg ▸ ⟨h.audit, h.accepts⟩
  rw [decide_eq_recorded]
  refine recorded_leaves ha hk fun fault hv => ?_
  rw [Offer.countFault?, ha]
  exact unrecorded_fault hv

theorem execute_leaves (t : Turn) (h : g.Keeps records) :
    ∃ kept, (g.execute t.context t.offer).1.Keeps (records ++ kept) ∧
      Leaves t (g.execute t.context t.offer).2.value kept := by
  cases ha : t.offer.action?
  case some a =>
    rw [(execute_eq ha).left]
    exact decide_leaves ha h
  case none =>
    have ⟨v, issues, hv, hr⟩ := Offer.read_failed ha
    rw [hv, execute_failed hr]
    exact ⟨[], by rwa [List.append_nil], .unread ha⟩

theorem Keeps.executeAll (h : g.Keeps records) (ts : List Turn) :
    ∃ more, (g.executeAll ts).1.Keeps (records ++ more) ∧
      Chronicle (fun t run => Leaves t run.value) ts (g.executeAll ts).2 more :=
  h.inTurn fun _ _ t h => execute_leaves t h

-- No store has a say in what is decided.
theorem evaluate_storing : (g.storing audit auditRefusal).evaluate c useCache condition =
    ((g.evaluate c useCache condition).1.storing audit auditRefusal,
      (g.evaluate c useCache condition).2) := by
  have hr : (g.storing audit auditRefusal).refusal = g.refusal := rfl
  unfold evaluate
  rw [hr]
  split <;> rfl

theorem evaluateAll_storing : (g.storing audit auditRefusal).evaluateAll options c conditions =
    ((g.evaluateAll options c conditions).1.storing audit auditRefusal,
      (g.evaluateAll options c conditions).2) := by
  induction conditions generalizing g
  case nil => rfl
  case cons condition rest hi =>
    rw [evaluateAll, evaluateAll, evaluate_storing]
    rcases g.evaluate c options.cacheResults condition with ⟨g', calls, _ | _ | r⟩
    case none       => rfl
    case some.error => rfl
    case some.ok    =>
      dsimp only
      split
      case isTrue  => rfl
      case isFalse => rw [hi]

theorem run_storing : (g.storing audit auditRefusal).run c a =
    ((g.run c a).1.storing audit auditRefusal, (g.run c a).2) := by
  rw [run, run, evaluateAll_storing]
  rcases g.evaluateAll a.options c a.conditions with ⟨g', calls, _ | _ | rs⟩ <;> rfl

theorem unrecorded_storing : (g.storing audit auditRefusal).unrecorded c a =
    ((g.unrecorded c a).1.storing audit auditRefusal, (g.unrecorded c a).2) := by
  have hc : (g.storing audit auditRefusal).check a = g.check a := rfl
  have hr {h : Gate} : (h.storing audit auditRefusal).rescue c a = h.rescue c a := by
    funext outcome
    cases outcome <;> rfl
  unfold unrecorded
  rw [hc, run_storing]
  cases g.check a
  case error fault => rfl
  case ok report   =>
    dsimp only
    rw [hr, hr]
    split <;> rfl

-- What a store has to say about a record does not depend on those that it has taken.
theorem auditErrors_saved {r : AuditRecord} (h : g.save r = .ok audit) :
    { g with audit }.auditErrors c a d = g.auditErrors c a d := by
  refine auditErrors_eq ?_
  unfold save at h ⊢
  split at h
  case h_1 => cases h
  case h_2 =>
    dsimp only
    split
    case h_1 => rfl
    case h_2 => exact AuditStore.save_saved h _

theorem auditErrors_keep {c' : Context} {a' : Action} {d' : Decision} :
    (g.keep c a d).1.auditErrors c' a' d' = g.auditErrors c' a' d' := by
  unfold keep
  split
  case isTrue => rfl
  case isFalse =>
    split
    case h_1 hs => exact auditErrors_saved hs
    case h_2    => rfl

-- What the store of a gate has to say about a decision.
def complaints (g : Gate) (t : Turn) (d : Decision) : List String :=
  match t.offer.action? with
  | none   => []
  | some a => g.auditErrors t.context a d

-- A decision with this among its errors, at their end.
def complain (g : Gate) (t : Turn) (run : Run (Except Fault Decision)) : Run (Except Fault Decision) :=
  run.map (Except.map fun d => { d with errors := d.errors ++ g.complaints t d })

-- A gate whose store takes all records, and another store that has to say of them what this gate has to say.
structure Contrasts (start g : Gate) (audit : AuditStore) : Prop where
  accepts   : ∀ c a d, g.auditErrors c a d = []
  complains : ∀ c a d,
    (g.storing audit start.auditRefusal).auditErrors c a d = start.auditErrors c a d

variable {start : Gate}

theorem recorded_storing {run : Run (Except Fault Decision)} (ha : t.offer.action? = some a)
    (h : Contrasts start g audit) :
    ∃ audit', recorded t.context a (g.storing audit start.auditRefusal, run) =
        ((recorded t.context a (g, run)).1.storing audit' start.auditRefusal,
          start.complain t (recorded t.context a (g, run)).2) ∧
      Contrasts start (recorded t.context a (g, run)).1 audit' := by
  rcases run with ⟨calls, _ | fault | d⟩
  case none       => exact ⟨audit, rfl, h⟩
  case some.error => exact ⟨audit, rfl, h⟩
  case some.ok    =>
    have ⟨_, hk⟩ := keep_gate (g := g) (c := t.context) (a := a) (d := d)
    have ⟨audit', hk'⟩ := keep_gate (g := g.storing audit start.auditRefusal) (c := t.context) (a := a) (d := d)
    have hg : ((g.storing audit start.auditRefusal).keep t.context a d).1 =
        (g.keep t.context a d).1.storing audit' start.auditRefusal := by
      rw [hk, hk']
      rfl
    refine ⟨audit', Prod.ext hg ?_, ?_, ?_⟩
    case refine_1 =>
      simp [recorded, complain, complaints, ha, keep_errors, h.accepts, h.complains, Run.map, Except.map]
    case refine_2 => exact fun c' a' d' => auditErrors_keep.trans (h.accepts c' a' d')
    case refine_3 =>
      intro c' a' d'
      exact (hg ▸ auditErrors_keep).trans (h.complains c' a' d')

theorem execute_storing (t : Turn) (h : Contrasts start g audit) :
    ∃ audit', (g.storing audit start.auditRefusal).execute t.context t.offer =
        ((g.execute t.context t.offer).1.storing audit' start.auditRefusal,
          start.complain t (g.execute t.context t.offer).2) ∧
      Contrasts start (g.execute t.context t.offer).1 audit' := by
  cases ha : t.offer.action?
  case some a =>
    have ⟨cache, hg⟩ := unrecorded_gate g t.context a
    rw [(execute_eq ha).left, (execute_eq ha).left, decide_eq_recorded, decide_eq_recorded, unrecorded_storing]
    exact recorded_storing ha (hg ▸ ⟨h.accepts, h.complains⟩)
  case none =>
    have ⟨v, issues, hv, hr⟩ := Offer.read_failed ha
    rw [hv, execute_failed hr, execute_failed hr]
    refine ⟨audit, ?_, h⟩
    simp [complain, complaints, ha, Run.map, Run.pure, Except.map]
    rfl

theorem executeAll_storing (h : Contrasts start g audit) :
    ((g.storing audit start.auditRefusal).executeAll ts).2 =
      List.zipWith start.complain ts (g.executeAll ts).2 := by
  induction ts generalizing g audit
  case nil => rfl
  case cons t ts hi =>
    have ⟨audit', he, hc⟩ := execute_storing (g := { g with engine := t.engine }) t ⟨h.accepts, h.complains⟩
    have hs : { g.storing audit start.auditRefusal with engine := t.engine } =
        { g with engine := t.engine }.storing audit start.auditRefusal := rfl
    rw [executeAll, inTurn, hs, he]
    exact congrArg (_ :: ·) (hi hc)

theorem same_text {v : Value} {s : String} : v.same (text s) = true ↔ v = text s := by
  cases v
  case scalar scalar => cases scalar <;> simp [same, Scalar.same, Scalar.numericOrder?, Scalar.countsAs]
  all_goals simp [same]

-- Whatever a gate is asked, one call after the other, what is on record afterwards is what was there before
-- and what each call leaves, and the records of an execution are found among them in their order. What is
-- raw or has been read can always be counted. A store that fails changes nothing but the errors at the end of
-- each decision that it does not take.
theorem executeAll_recorded (g : Gate) (records : List AuditRecord) (ts : List Turn) :
    (∃ more, ((g.recording records).executeAll ts).1.audit = .memory (records ++ more) ∧
      Chronicle (fun t run => Leaves t run.value) ts ((g.recording records).executeAll ts).2 more ∧
      (∀ id, ((g.recording records).executeAll ts).1.audit.ofExecution id =
        .ok ((records ++ more).filter fun r => r.executionId.same id)) ∧
      (∀ (v : Value) (s : String), v.same (text s) = true ↔ v = text s) ∧
      ∀ t ∈ ts, t.offer.Valid → t.offer.countFault? = none) ∧
    (g.executeAll ts).2 = List.zipWith g.complain ts ((g.recording records).executeAll ts).2 := by
  constructor
  case left =>
    obtain ⟨more, hk, hc⟩ := (recording_keeps g records).executeAll ts
    exact ⟨more, hk.audit, hc, fun id => congrArg (·.ofExecution id) hk.audit, fun _ _ => same_text,
      fun _ _ h => countFault?_of_offered h⟩
  case right =>
    have h : Contrasts g (g.recording records) g.audit := by
      refine ⟨fun c a d => ?_, fun _ _ _ => rfl⟩
      rw [auditErrors]
      split <;> rfl
    exact executeAll_storing h

end Gate

end FlowGate
