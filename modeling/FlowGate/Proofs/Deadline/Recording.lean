import FlowGate.Proofs.Deadline.Answering
import FlowGate.Proofs.Gate.Recording

-- What steps put on record, one after the other. A step that answers in time leaves the record of the
-- decision that it answers with, and a step that is cut off leaves none.

namespace FlowGate

open Value

-- What is left on record of a step. A step that faults or is cut off leaves nothing, whatever record its
-- configuration wants.
inductive StepLeaves (t : Turn) (run : StepRun) : List AuditRecord → Prop
  | record {a : Action} {d : Decision} {r : AuditRecord} {answer : StepResult}
      (ha : t.offer.action? = some a) (hd : a.options.detail ≠ .none) (he : run.cutOff = false)
      (hs : run.result = .ok answer) (hx : answer.decision = some d) (hr : Records t.context a d r) :
      StepLeaves t run [r]
  | unwanted {a : Action} (ha : t.offer.action? = some a) (hd : a.options.detail = .none) :
      StepLeaves t run []
  | unread (ha : t.offer.action? = none) : StepLeaves t run []
  | fault {fault : Fault} (hs : run.result = .error fault) : StepLeaves t run []
  | cutOff (he : run.cutOff = true) : StepLeaves t run []

namespace Gate

variable {g : Gate} {c : Context} {a : Action} {offer : Offer} {t : Turn} {ts : List Turn}
  {records : List AuditRecord}

def stepAll (g : Gate) (ts : List Turn) : Gate × List StepRun :=
  g.inTurn (fun g t => g.step t.context t.offer) ts

theorem step_gate_of_unread (h : offer.action? = none) : (g.step c offer).1 = g := by
  by_cases hn : offer = .raw null
  case pos => rw [hn]; rfl
  case neg =>
    have ⟨_, _, _, hs⟩ := step_unread (g := g) (c := c) hn h
    rw [hs]

theorem step_leaves (t : Turn) (h : g.Keeps records) :
    ∃ kept, (g.step t.context t.offer).1.Keeps (records ++ kept) ∧
      StepLeaves t (g.step t.context t.offer).2 kept := by
  have hnil : g.Keeps (records ++ []) := by rwa [List.append_nil]
  cases ha : t.offer.action?
  case none => exact ⟨[], by rwa [step_gate_of_unread ha], .unread ha⟩
  case some a =>
    by_cases ho : t.offer.Overlong g.limits
    case pos => exact ⟨[], by rwa [step_overlong ho], .fault (congrArg (·.2.result) (step_overlong ho))⟩
    case neg =>
      have ⟨kept, hk, hl⟩ := decide_leaves ha h
      refine ⟨kept, by rwa [step_within ha ho], ?_⟩
      rw [step_within ha ho]
      -- the record, if any, is that of the decision, which the step hands on as it is
      generalize g.decide t.context a = found at hl
      obtain ⟨g', calls, outcome⟩ := found
      cases hl
      case record d _ ha hd hr => exact .record ha hd rfl rfl rfl hr
      case unwanted ha hd      => exact .unwanted ha hd
      case unread ha           => exact .unread ha
      case uncounted           => exact .fault rfl
      case endless             => exact .cutOff rfl

theorem Keeps.stepAll (h : g.Keeps records) (ts : List Turn) :
    ∃ more, (g.stepAll ts).1.Keeps (records ++ more) ∧ Chronicle StepLeaves ts (g.stepAll ts).2 more :=
  h.inTurn fun _ _ t h => step_leaves t h

-- Whatever steps a gate takes, what is on record afterwards is what was there before and what each step
-- leaves: one record for each decision that is answered in time.
theorem stepAll_recorded (g : Gate) (records : List AuditRecord) (ts : List Turn) :
    ∃ more, ((g.recording records).stepAll ts).1.audit = .memory (records ++ more) ∧
      Chronicle StepLeaves ts ((g.recording records).stepAll ts).2 more := by
  have ⟨more, hk, hc⟩ := (recording_keeps g records).stepAll ts
  exact ⟨more, hk.audit, hc⟩

end Gate

end FlowGate
