import FlowGate.Proofs.Filter.Priority
import FlowGate.Proofs.Filter.Trace

-- Filters call transforms and validators, and never the functions of custom conditions.

namespace FlowGate

def Call.isFunction : Call → Bool
  | function _ => true
  | _          => false

def Quiet (calls : List Call) : Prop :=
  ∀ call ∈ calls, call.isFunction = false

namespace Quiet

variable {calls more : List Call}

theorem nil : Quiet [] :=
  List.forall_mem_nil _

theorem append (h : Quiet calls) (h' : Quiet more) : Quiet (calls ++ more) :=
  List.forall_mem_append.mpr ⟨h, h'⟩

theorem filter_eq_nil (h : Quiet calls) : calls.filter Call.isFunction = [] :=
  List.filter_eq_nil_iff.mpr fun call hm => by simp [h call hm]

theorem andThen {α β ε : Type} {x : Logged (Except ε α)} {f : α → Logged (Except ε β)}
    (h : Quiet x.calls) (h' : ∀ a, Quiet (f a).calls) : Quiet (x.andThen f).calls := by
  unfold Logged.andThen
  split
  · exact h.append (h' _)
  · exact h

end Quiet

variable {e : Engine} {c : Context} {stop : Bool}

theorem Rules.problems_quiet {rules : Rules} {v : Value} :
    Quiet (rules.problems e.registry v).calls := by
  unfold problems
  split
  · exact .nil
  · simp only [Logged.map, customProblems]
    split
    · exact .nil
    · split
      · exact .nil
      · split
        · exact .nil
        · simp [Quiet, Call.isFunction]

theorem Transformation.apply_quiet {t : Transformation} {v : Value} :
    Quiet (t.apply e.registry v).calls := by
  unfold apply
  split
  · exact .nil
  · split
    · exact .nil
    · simp only
      split
      · simp [Quiet, Call.isFunction]
      · exact .nil

namespace Filter

variable {f : Filter} {v : Value}

theorem compared_quiet : Quiet (f.compared e c v).calls := by
  refine Quiet.andThen ?_ fun _ => .nil
  split
  · exact Transformation.apply_quiet
  · exact .nil

theorem pipeline_quiet : Quiet (f.pipeline e c v).calls := by
  unfold pipeline
  split
  · exact compared_quiet
  · refine Rules.problems_quiet.andThen fun problems => ?_
    split
    · exact compared_quiet
    · exact .nil

theorem failure_quiet {calls : List Call} {fault : Fault} (h : Quiet calls) :
    Quiet (f.failure v calls fault).1.calls := by
  unfold failure
  simp only
  split <;> exact h

theorem evaluate_quiet : Quiet (f.evaluate e c).1.calls := by
  unfold evaluate
  split
  · exact failure_quiet .nil
  · simp only
    split
    · exact pipeline_quiet
    · exact failure_quiet pipeline_quiet

theorem sweep_quiet {fs : List Filter} : Quiet (sweep e c stop fs).1.calls := by
  induction fs
  case nil => exact .nil
  case cons f rest hi =>
    have hf : Quiet (f.evaluate e c).1.calls := evaluate_quiet
    simp only [sweep]
    split
    · exact hi
    · split
      case h_1 h => simpa [h] using hf
      case h_2 passed h =>
        rw [h] at hf
        split
        · cases passed <;> simpa using hf
        · cases passed <;> simpa using hf.append hi

end Filter

namespace FilterGroup

theorem gather_quiet {ms : List Member} (h : ∀ m ∈ ms, Quiet m.outcome.1.calls) :
    Quiet (gather ms).1.calls := by
  induction ms
  case nil => exact .nil
  case cons m rest hi =>
    have ⟨hm, hr⟩ := List.forall_mem_cons.mp h
    simp only [gather]
    split
    · exact hi hr
    · split
      case h_1 h => simpa [h] using hm
      case h_2 h =>
        rw [h] at hm
        exact hm.append (hi hr)

theorem outcome_quiet {operator : Slot Combination} {filters : Except Fault (List Filter)}
    {members : Except Fault (List Member)}
    (h : ∀ ms, members = .ok ms → ∀ m ∈ ms, Quiet m.outcome.1.calls) :
    Quiet (outcome e c stop operator filters members).1.calls := by
  unfold outcome
  split
  case h_1 => exact .nil
  case h_2 fs =>
    have hs : Quiet (Filter.sweep e c (stop && operator.is .and) fs).1.calls := Filter.sweep_quiet
    split
    case h_1 heq => simpa [heq] using hs
    case h_2 heq =>
      rw [heq] at hs
      split
      case isTrue => exact hs
      case isFalse =>
        split
        case h_1     => exact hs
        case h_2 ms  => exact hs.append (gather_quiet (h ms rfl))

theorem mem_of_orderedMembers {ms ns : List Member} {stray : Option Value}
    (h : orderedMembers ms stray = .ok ns) : ∀ m ∈ ns, m ∈ ms := by
  obtain ⟨_, _, h⟩ := ok_of_bind h
  exact fun m hm => (Priority.perm_of_sort h).subset hm

mutual

theorem evaluate_quiet : ∀ g : FilterGroup, Quiet (evaluate e c stop g).1.calls
  | ⟨_, _, _, _, _, _, subGroups, _, enabled, _⟩ => by
    rw [evaluate]
    split
    · exact .nil
    · exact outcome_quiet fun ms h m hm => members_quiet subGroups m (mem_of_orderedMembers h m hm)

theorem members_quiet : ∀ gs : List FilterGroup,
    ∀ m ∈ members e c stop gs, Quiet m.outcome.1.calls
  | [] => by simp [members]
  | g :: rest => by
    rw [members]
    exact List.forall_mem_cons.mpr ⟨evaluate_quiet g, members_quiet rest⟩

end

theorem run_quiet {g : FilterGroup} {options : FilterOptions} : Quiet (g.run e c options).calls :=
  evaluate_quiet g

end FilterGroup

end FlowGate
