import FlowGate.Condition.Lookup
import FlowGate.Proofs.Engine

-- Evaluating a condition, valid or not, ends with a result or a fault, unless it ends with the call
-- of a function that never answers.

namespace FlowGate

variable {e : Engine} {c : Context}

-- Without a value, the last call is to blame.
def Run.Ends {α : Type} (e : Engine) (c : Context) (x : Run α) : Prop :=
  x.value = none → e.Stalls c x.calls

namespace Run.Ends

variable {α β : Type} {x : Run α}

theorem of_some {calls : List Call} {a : α} : Ends e c ⟨calls, some a⟩ :=
  nofun

theorem of_none {calls : List Call} (h : Ends e c (α := α) ⟨calls, none⟩) :
    Ends e c (α := β) ⟨calls, none⟩ :=
  fun _ => h rfl

theorem map {f : α → β} (h : Ends e c x) : Ends e c (x.map f) :=
  fun hn => h (Option.map_eq_none_iff.mp hn)

theorem bind {f : α → Run β} (h : Ends e c x) (hf : ∀ a, Ends e c (f a)) : Ends e c (x.bind f) := by
  intro hn
  unfold Run.bind at hn ⊢
  split at hn
  case h_1 a ha => simpa only [ha] using (hf a hn).append _
  case h_2 ha   => simpa only [ha] using h ha

end Run.Ends

namespace Condition

theorem call_ends {function params : Value} : (call e c function params).Ends e c := by
  unfold call
  split
  case h_1 name =>
    cases hf : e.registry.function? name
    case none => exact .of_some
    case some f =>
      cases hr : f e.comparer.now c params
      case never => exact fun _ => ⟨name, f, params, by simp [hr], hf, hr⟩
      all_goals simpa only [hr] using .of_some
  all_goals exact .of_some

mutual

theorem evaluate_ends : ∀ {condition : Condition}, (condition.evaluate e c).Ends e c
  | .simple .. => by
    rw [evaluate]
    split <;> exact .of_some
  | .complex .. => by
    rw [evaluate]
    split
    case h_1 => exact .of_some
    case h_2 =>
      dsimp only
      split
      case h_1 => exact .of_some
      case h_2 => exact .of_some
      case h_3 => exact evaluateUntil_ends.map
  | .filter .. => by
    rw [evaluate]
    exact .of_some
  | .custom .. => by
    rw [evaluate]
    exact call_ends.map
  | .foreign .. => by
    rw [evaluate]
    exact .of_some

theorem evaluateUntil_ends {decides : Bool → Bool} : ∀ {children : List Condition},
    (evaluateUntil e c decides children).Ends e c
  | [] => by
    rw [evaluateUntil]
    exact .of_some
  | child :: rest => by
    rw [evaluateUntil]
    refine evaluate_ends.bind fun outcome => ?_
    split
    case h_1 => exact .of_some
    case h_2 =>
      split
      case isTrue => exact .of_some
      case isFalse =>
        split
        case isTrue  => exact .of_some
        case isFalse => exact evaluateUntil_ends.map

end

-- What a cache has for a condition, if it is asked.
def remembered? (c : Context) (useCache : Bool) (cache : Cache ConditionResult)
    (condition : Condition) : Option ConditionResult :=
  (if useCache then c.cacheKey? condition.id else none).bind cache.find?

variable {useCache : Bool} {condition : Condition} {cache : Cache ConditionResult}

theorem lookUp_run : (condition.lookUp e c useCache cache).2 =
    match condition.remembered? c useCache cache with
    | some r => .pure (.ok r)
    | none   => condition.evaluate e c := by
  unfold lookUp remembered?
  cases if useCache then c.cacheKey? condition.id else none
  case none     => rfl
  case some key => cases h : cache.find? key <;> simp [Cache.get, h]

theorem lookUp_ends : (condition.lookUp e c useCache cache).2.Ends e c := by
  rw [lookUp_run]
  split
  case h_1 => exact .of_some
  case h_2 => exact evaluate_ends

end Condition

end FlowGate
