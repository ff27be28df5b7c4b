import FlowGate.Condition.Lookup
import FlowGate.Proofs.Cache

-- What looking a condition up does to a cache. Only the condition itself has a key there; whatever is
-- below it is evaluated without the cache.

namespace FlowGate

namespace Condition

variable {e : Engine} {c : Context} {condition : Condition} {cache : Cache ConditionResult}
variable {useCache : Bool} {key : String} {r : ConditionResult}

-- The key under which a condition is looked up, if it is.
def key? (c : Context) (useCache : Bool) (condition : Condition) : Option String :=
  if useCache then c.cacheKey? condition.id else none

-- What is worth keeping of an outcome.
def success? : Option (Except Fault ConditionResult) → Option ConditionResult
  | some (.ok r) => if r.success then some r else none
  | _ => none

theorem success?_eq_some {outcome : Option (Except Fault ConditionResult)}
    (h : success? outcome = some r) : outcome = some (.ok r) ∧ r.success = true := by
  unfold success? at h
  split at h
  case h_2 => cases h
  case h_1 r' =>
    split at h
    case isFalse => cases h
    case isTrue hs => cases h; exact ⟨rfl, hs⟩

theorem lookUp_keyless (h : condition.key? c useCache = none) :
    condition.lookUp e c useCache cache = (cache, condition.evaluate e c) := by
  unfold lookUp
  rw [← key?, h]

theorem lookUp_hit (hk : condition.key? c useCache = some key) (hf : cache.find? key = some r) :
    condition.lookUp e c useCache cache = ((cache.get key).2, .pure (.ok r)) := by
  unfold lookUp
  rw [← key?, hk]
  simp [Cache.get, hf]

theorem remember_eq (outcome : Option (Except Fault ConditionResult)) :
    remember cache key outcome =
      match success? outcome with
      | some r => cache.set key r
      | none   => cache := by
  rcases outcome with _ | _ | r
  case none       => rfl
  case some.error => rfl
  case some.ok =>
    rw [remember, success?]
    split <;> rfl

theorem lookUp_miss (hk : condition.key? c useCache = some key) (hf : cache.find? key = none) :
    condition.lookUp e c useCache cache =
      (remember (cache.get key).2 key (condition.evaluate e c).value, condition.evaluate e c) := by
  unfold lookUp
  rw [← key?, hk]
  simp [Cache.get, hf]

-- A new entry is a success that has been evaluated because there was none under its key.
theorem entry_of_lookUp {entry : String × ConditionResult}
    (h : entry ∈ (condition.lookUp e c useCache cache).1.entries) :
    entry ∈ cache.entries ∨ condition.key? c useCache = some entry.1 ∧ cache.find? entry.1 = none ∧
      (condition.evaluate e c).value = some (.ok entry.2) ∧ entry.2.success = true := by
  cases hk : condition.key? c useCache
  case none => exact .inl (by rwa [lookUp_keyless hk] at h)
  case some key =>
    cases hf : cache.find? key
    case some r =>
      rw [lookUp_hit hk hf] at h
      exact .inl (Cache.mem_of_get h)
    case none =>
      rw [lookUp_miss hk hf, remember_eq] at h
      split at h
      case h_2 => exact .inl (Cache.mem_of_get h)
      case h_1 r hs =>
        cases Cache.mem_of_set h
        case inl h => exact .inl (Cache.mem_of_get h)
        case inr h =>
          have ⟨hv, hr⟩ := success?_eq_some hs
          subst h
          exact .inr ⟨rfl, hf, hv, hr⟩

-- What a look-up gives was kept, or is what the condition itself comes to.
theorem result_of_lookUp (h : (condition.lookUp e c useCache cache).2.value = some (.ok r)) :
    (∃ key, (key, r) ∈ cache.entries) ∨ (condition.evaluate e c).value = some (.ok r) := by
  cases hk : condition.key? c useCache
  case none => exact .inr (by rwa [lookUp_keyless hk] at h)
  case some key =>
    cases hf : cache.find? key
    case none => exact .inr (by rwa [lookUp_miss hk hf] at h)
    case some r' =>
      rw [lookUp_hit hk hf] at h
      cases h
      exact .inl ⟨key, Cache.mem_of_find? hf⟩

theorem lookUp_touches (hk : condition.key? c useCache = some key) :
    Cache.Touches key cache (condition.lookUp e c useCache cache).1 := by
  cases hf : cache.find? key
  case some r => exact lookUp_hit hk hf ▸ Cache.get_touches
  case none =>
    rw [lookUp_miss hk hf, remember_eq]
    split
    case h_1 r _ => exact Cache.get_touches.set r
    case h_2     => exact Cache.get_touches

-- Afterwards there is under the key what the look-up came to, if that was a success.
theorem lookUp_find? (hk : condition.key? c useCache = some key)
    (hs : ∀ entry ∈ cache.entries, entry.2.success = true) :
    (condition.lookUp e c useCache cache).1.find? key =
      success? (condition.lookUp e c useCache cache).2.value := by
  cases hf : cache.find? key
  case some r =>
    have hr : r.success = true := hs _ (Cache.mem_of_find? hf)
    rw [lookUp_hit hk hf, Cache.find?_get, hf, Run.pure, success?, if_pos hr]
  case none =>
    rw [lookUp_miss hk hf, remember_eq]
    cases success? (condition.evaluate e c).value
    case none   => rw [Cache.find?_get, hf]
    case some r => rw [Cache.find?_set]

-- Without a success, all entries stay as they are.
theorem lookUp_failure (hs : ∀ entry ∈ cache.entries, entry.2.success = true)
    (hn : success? (condition.lookUp e c useCache cache).2.value = none) :
    (condition.lookUp e c useCache cache).1.entries = cache.entries := by
  cases hk : condition.key? c useCache
  case none => rw [lookUp_keyless hk]
  case some key =>
    cases hf : cache.find? key
    case some r =>
      have hr : r.success = true := hs _ (Cache.mem_of_find? hf)
      rw [lookUp_hit hk hf, Run.pure, success?, if_pos hr] at hn
      cases hn
    case none =>
      rw [lookUp_miss hk hf] at hn ⊢
      rw [remember_eq, hn]
      simp [Cache.get, hf]

end Condition

end FlowGate
