import FlowGate.Builtin.Validator
import FlowGate.Filter.Transformation
import FlowGate.Proofs.Engine
import FlowGate.Proofs.Json.Times

-- Where times of day come from. What a context gives for a field or a placeholder is found in it, so it
-- brings in none that are not there already, and neither do the transformations of texts.

namespace FlowGate

open Value

variable {q : ClockTime → Prop} {v w : Value}

theorem Path.timesIn_step? {segment : String} (h : v.TimesIn q) (hs : step? v segment = some w) :
    w.TimesIn q := by
  unfold step? at hs
  split at hs
  case h_1 entries =>
    obtain ⟨e, he, rfl⟩ := Entries.mem_of_find? hs
    exact timesIn_map.mp h e he
  case h_2 items =>
    obtain ⟨i, _, hi⟩ := Option.bind_eq_some_iff.mp hs
    exact timesIn_list.mp h w (List.mem_of_getElem? hi)
  case h_3 => cases hs

theorem Path.timesIn_walk {segments : List String} (h : v.TimesIn q) : (walk v segments).TimesIn q := by
  induction segments generalizing v
  case nil => exact h
  case cons segment rest hi =>
    rw [walk]
    split
    case h_1 hs => exact hi (timesIn_step? h hs)
    case h_2    => exact timesIn_missing

namespace Context

variable {c : Context}

-- The times of day in a context are among these. What names the execution, the workflow and the user stands
-- in records as it is, and is a text in any context that keeps to its types.
structure TimesIn (q : ClockTime → Prop) (c : Context) : Prop where
  trigger     : (map c.trigger).TimesIn q
  vars        : (map c.vars).TimesIn q
  executionId : c.executionId.PlainBut q
  workflowId  : c.workflowId.PlainBut q
  userId      : c.userId.PlainBut q
  startedAt   : c.startedAt.TimesIn q

theorem TimesIn.record (h : c.TimesIn q) : c.record.TimesIn q := by
  simp only [Context.record, Value.record, timesIn_map, List.forall_mem_map, List.forall_mem_cons]
  exact ⟨h.executionId.timesIn, h.workflowId.timesIn, h.userId.timesIn, h.startedAt, List.forall_mem_nil _⟩

theorem TimesIn.scope (h : c.TimesIn q) : (map c.scope).TimesIn q := by
  have ht := Entries.forall_merge (List.forall_mem_nil _) (timesIn_map.mp h.trigger)
  exact .map (Entries.forall_insert (Entries.forall_merge ht (timesIn_map.mp h.vars)) h.record)

theorem TimesIn.resolveField (h : c.TimesIn q) (path : String) : (c.resolveField path).TimesIn q :=
  Path.timesIn_walk h.scope

theorem TimesIn.resolveValue (h : c.TimesIn q) (hv : v.TimesIn q) : (c.resolveValue v).TimesIn q := by
  unfold Context.resolveValue
  split
  case h_1 =>
    split
    case h_1 => exact h.resolveField _
    case h_2 => exact hv
  case h_2 => exact hv

end Context

-- The transformations that are registered bring in no times of day but these.
def Registry.TimesIn (q : ClockTime → Prop) (r : Registry) : Prop :=
  ∀ name f, r.transform? name = some f → ∀ v params w, v.TimesIn q → (map params).TimesIn q →
    f v params = .ok w → w.TimesIn q

theorem Transformation.timesIn_apply {r : Registry} {t : Transformation} (hr : r.TimesIn q) (hv : v.TimesIn q)
    (hp : (map t.params).TimesIn q) (h : (t.apply r v).value = .ok w) : w.TimesIn q := by
  unfold apply at h
  split at h
  case isTrue =>
    cases h
    exact hv
  case isFalse =>
    split at h
    case h_1 change _ =>
      obtain ⟨s, _, h⟩ := ok_of_map h
      exact h ▸ timesIn_text _
    case h_2 =>
      dsimp only at h
      split at h
      case h_1 f hf => exact hr _ f hf v t.params w hv hp h
      case h_2      => cases h

namespace Builtin

-- Every transformation that an engine starts with gives a text.
theorem transforms_text : ∀ p ∈ transforms, ∀ v params w, p.2 v params = .ok w → ∃ s, w = text s := by
  have text {x : Except Fault String} {f : String → String} {w : Value}
      (h : (do return .text (f (← x)) : Except Fault Value) = .ok w) : ∃ s, w = .text s := by
    obtain ⟨s, _, h⟩ := ok_of_bind h
    exact ⟨f s, (Except.ok.inj h).symm⟩
  simp only [transforms, List.forall_mem_cons]
  refine ⟨fun v _ w h => text h, fun v _ w h => ?_, fun v params w h => ?_, fun v params w h => ?_,
    fun v _ w h => ?_, List.forall_mem_nil _⟩
  case refine_1 => exact text (f := fun s => String.ofList (s.toList.filter Text.isDigit)) h
  case refine_2 =>
    obtain ⟨s, _, h⟩ := ok_of_bind h
    split at h
    case h_1 =>
      split at h
      case h_1 => exact ⟨_, (Except.ok.inj h).symm⟩
      case h_2 => cases h
    case h_2 => cases h
    case h_3 => cases h
  case refine_3 =>
    obtain ⟨_, _, h⟩ := ok_of_bind h
    obtain ⟨_, _, h⟩ := ok_of_bind h
    obtain ⟨_, _, h⟩ := ok_of_bind h
    exact ⟨_, (Except.ok.inj h).symm⟩
  case refine_4 =>
    obtain ⟨_, _, h⟩ := ok_of_bind h
    exact ⟨_, (Except.ok.inj h).symm⟩

theorem registry_timesIn : registry.TimesIn q := by
  intro name f hf v params w _ _ h
  obtain ⟨front, back, hs, _⟩ := List.lookup_eq_some_iff.mp hf
  have hs : transforms = front ++ (name, f) :: back := hs
  obtain ⟨s, rfl⟩ := transforms_text (name, f) (by simp [hs]) v params w h
  exact timesIn_text s

end Builtin

end FlowGate
