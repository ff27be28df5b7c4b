import FlowGate.Gate
import FlowGate.Proofs.Condition.Stalling

-- Running an action touches nothing of a gate but its cache, and comes to a decision or a fault
-- unless it stalls.

namespace FlowGate.Gate

variable (g : Gate) (c : Context) (useCache : Bool) (condition : Condition) (options : Options)
  (conditions : List Condition) (a : Action)

theorem evaluate_engine :
    (g.evaluate c useCache condition).1.engine = g.engine := by
  unfold evaluate
  split <;> rfl

theorem evaluate_ends :
    (g.evaluate c useCache condition).2.Ends g.engine c := by
  unfold evaluate
  split
  case h_1 => exact .of_some
  case h_2 => exact Condition.lookUp_ends

theorem evaluateAll_engine :
    (evaluateAll options c g conditions).1.engine = g.engine := by
  induction conditions generalizing g
  case nil => rfl
  case cons condition rest hi =>
    have he := evaluate_engine g c options.cacheResults condition
    rw [evaluateAll]
    split
    case h_1 h => simpa [h] using he
    case h_2 h => simpa [h] using he
    case h_3 h =>
      split
      case isTrue  => simpa [h] using he
      case isFalse => exact (hi _).trans (by simpa [h] using he)

theorem evaluateAll_ends :
    (evaluateAll options c g conditions).2.Ends g.engine c := by
  induction conditions generalizing g
  case nil => exact .of_some
  case cons condition rest hi =>
    have he := evaluate_engine g c options.cacheResults condition
    have hs := evaluate_ends g c options.cacheResults condition
    rw [evaluateAll]
    split
    case h_1 h => exact .of_none (by simpa only [h] using hs)
    case h_2   => exact .of_some
    case h_3 g' calls r h =>
      split
      case isTrue => exact .of_some
      case isFalse =>
        have he : g'.engine = g.engine := by simpa [h] using he
        intro hn
        exact (he ▸ hi g' (Option.map_eq_none_iff.mp hn)).append calls

theorem run_fst : (g.run c a).1 = (evaluateAll a.options c g a.conditions).1 := by
  unfold run
  split <;> simp_all only

theorem run_engine : (g.run c a).1.engine = g.engine := by
  rw [run_fst]
  exact evaluateAll_engine g c a.options a.conditions

theorem run_ends : (g.run c a).2.Ends g.engine c := by
  have h := evaluateAll_ends g c a.options a.conditions
  unfold run
  split
  case h_1 hr => exact .of_none (by simpa only [hr] using h)
  all_goals exact .of_some

end FlowGate.Gate
