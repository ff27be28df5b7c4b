import FlowGate.Proofs.Condition.LookUp
import FlowGate.Session
import Mathlib.Data.List.Induction

-- What the cache of a session holds after any requests: successes that have been computed and returned
-- since the entries were last forgotten, whatever has been registered before and after.

namespace FlowGate

open Condition

inductive Request
  | evaluate (c : Context) (useCache : Bool) (condition : Condition)
  | registerFunction (name : String) (f : CustomFunction)
  | registerTransform (name : String) (f : TransformFunction)
  | registerValidator (name : String) (f : ValidationFunction)
  | setNow (now : Moment)
  | clearCache

namespace Request

-- The key under which a request looks for a result, if it does.
def key? : Request → Option String
  | evaluate c useCache condition => condition.key? c useCache
  | _ => none

end Request

namespace Session

def serve (s : Session) : Request → Session
  | .evaluate c useCache condition => (s.evaluate c useCache condition).1
  | .registerFunction name f       => s.registerFunction name f
  | .registerTransform name f      => s.registerTransform name f
  | .registerValidator name f      => s.registerValidator name f
  | .setNow now                    => s.setNow now
  | .clearCache                    => s.clearCache

def serveAll (s : Session) (requests : List Request) : Session :=
  requests.foldl serve s

variable {s start : Session} {past : List Request} {key : String} {r : ConditionResult}
variable {c : Context} {useCache : Bool} {condition : Condition}

-- A session that evaluates a condition anew, with the functions that it knows, and returns a success.
structure Computes (s : Session) (c : Context) (condition : Condition) (key : String)
    (r : ConditionResult) : Prop where
  keyed    : c.cacheKey? condition.id = some key
  new      : s.gate.cache.find? key = none
  own      : (condition.evaluate s.gate.engine c).value = some (.ok r)
  returned : (s.evaluate c true condition).2 = some (.ok r)
  success  : r.success = true

-- A result of an earlier request with this key, after which the entries have not been forgotten.
def Earlier (start : Session) (past : List Request) (key : String) (r : ConditionResult) : Prop :=
  ∃ before c condition after, past = before ++ .evaluate c true condition :: after ∧
    .clearCache ∉ after ∧ (start.serveAll before).Computes c condition key r

structure Accounts (start : Session) (past : List Request) : Prop where
  works   : (start.serveAll past).gate.refusal = none
  kept    : ∀ key r, (key, r) ∈ (start.serveAll past).gate.cache.entries → start.Earlier past key r
  counted : (start.serveAll past).gate.cache.hits + (start.serveAll past).gate.cache.misses =
    past.countP (·.key?.isSome)

-- What a session does with a condition and its cache. Only the condition itself is looked up and kept,
-- however many others are below it.
structure Answers (s : Session) (c : Context) (useCache : Bool) (condition : Condition) : Prop where
  hit     : ∀ key r, condition.key? c useCache = some key → s.gate.cache.find? key = some r →
    (s.gate.evaluate c useCache condition).2 = ⟨[], some (.ok r)⟩
  own     : ∀ key, condition.key? c useCache = some key →
    (s.evaluate c useCache condition).1.gate.cache.find? key =
      success? (s.evaluate c useCache condition).2
  others  : ∀ key, condition.key? c useCache = some key →
    Cache.Touches key s.gate.cache (s.evaluate c useCache condition).1.gate.cache
  failure : success? (s.evaluate c useCache condition).2 = none →
    (s.evaluate c useCache condition).1.gate.cache.entries = s.gate.cache.entries
  keyless : condition.key? c useCache = none →
    (s.evaluate c useCache condition).1.gate.cache = s.gate.cache

theorem serveAll_append (request : Request) :
    start.serveAll (past ++ [request]) = (start.serveAll past).serve request :=
  List.foldl_append

theorem Earlier.more {request : Request} (h : start.Earlier past key r)
    (hr : request ≠ .clearCache) : start.Earlier (past ++ [request]) key r := by
  have ⟨before, c, condition, after, hp, ha, hc⟩ := h
  refine ⟨before, c, condition, after ++ [request], by rw [hp, List.append_assoc]; rfl, ?_, hc⟩
  intro hm
  rcases List.mem_append.mp hm with hm | hm
  · exact ha hm
  · exact hr (List.mem_singleton.mp hm).symm

theorem Earlier.success (h : start.Earlier past key r) : r.success = true :=
  have ⟨_, _, _, _, _, _, hc⟩ := h
  hc.success

theorem evaluate_eq (hw : s.gate.refusal = none) (c : Context) (useCache : Bool) (condition : Condition) :
    (s.evaluate c useCache condition).1.gate =
        { s.gate with cache := (condition.lookUp s.gate.engine c useCache s.gate.cache).1 } ∧
      (s.evaluate c useCache condition).2 =
        (condition.lookUp s.gate.engine c useCache s.gate.cache).2.value := by
  simp [evaluate, Gate.evaluate, hw, noteCalls]

-- Only looking something up and forgetting everything change the cache.
theorem Accounts.quiet {request : Request} (h : start.Accounts past) (hk : request.key? = none)
    (hr : request ≠ .clearCache)
    (hc : ((start.serveAll past).serve request).gate.cache = (start.serveAll past).gate.cache)
    (hw : ((start.serveAll past).serve request).gate.refusal = (start.serveAll past).gate.refusal) :
    start.Accounts (past ++ [request]) where
  works      := by rw [serveAll_append, hw, h.works]
  kept key r := by
    rw [serveAll_append, hc]
    exact fun hm => (h.kept key r hm).more hr
  counted    := by
    rw [serveAll_append, hc, h.counted, List.countP_append]
    simp [hk]

theorem Accounts.clear (h : start.Accounts past) : start.Accounts (past ++ [.clearCache]) where
  works      := by rw [serveAll_append]; exact h.works
  kept key r := by rw [serveAll_append]; rintro ⟨⟩
  counted    := by
    rw [serveAll_append, List.countP_append]
    exact h.counted

theorem Accounts.evaluate (h : start.Accounts past) (c : Context) (useCache : Bool)
    (condition : Condition) : start.Accounts (past ++ [.evaluate c useCache condition]) := by
  have ⟨hg, ho⟩ := evaluate_eq h.works c useCache condition
  have hs : start.serveAll (past ++ [.evaluate c useCache condition]) =
      ((start.serveAll past).evaluate c useCache condition).1 := serveAll_append _
  refine ⟨?_, fun key r hm => ?_, ?_⟩
  case refine_1 => rw [hs, hg, h.works]
  case refine_2 =>
    rw [hs, hg] at hm
    rcases entry_of_lookUp hm with hm | ⟨hk, hf, hv, hr⟩
    case inl => exact (h.kept key r hm).more nofun
    case inr =>
      obtain rfl : useCache = true := by
        cases useCache
        case false => cases hk
        case true  => rfl
      rw [lookUp_miss hk hf, hv] at ho
      exact ⟨past, c, condition, [], rfl, List.not_mem_nil, hk, hf, hv, ho, hr⟩
  case refine_3 =>
    rw [hs, hg, List.countP_append, ← h.counted]
    cases hk : condition.key? c useCache
    case none     => simp [Request.key?, lookUp_keyless hk, hk]
    case some key => simp [Request.key?, (lookUp_touches hk).counted, hk]

theorem start_accounts (settings : Settings) (now : Moment) (registry : Registry)
    (audit : AuditStore) (past : List Request) :
    (Session.start settings now registry audit).Accounts past := by
  induction past using List.reverseRecOn
  case nil => exact ⟨rfl, fun _ _ hm => (List.not_mem_nil hm).elim, rfl⟩
  case append_singleton past request h =>
    cases request
    case evaluate c useCache condition => exact h.evaluate c useCache condition
    case registerFunction              => exact h.quiet rfl nofun rfl rfl
    case registerTransform             => exact h.quiet rfl nofun rfl rfl
    case registerValidator             => exact h.quiet rfl nofun rfl rfl
    case setNow                        => exact h.quiet rfl nofun rfl rfl
    case clearCache                    => exact h.clear

theorem answers (hw : s.gate.refusal = none)
    (hs : ∀ entry ∈ s.gate.cache.entries, entry.2.success = true) (c : Context) (useCache : Bool)
    (condition : Condition) : s.Answers c useCache condition := by
  have ⟨hg, ho⟩ := evaluate_eq hw c useCache condition
  refine ⟨fun key r hk hf => ?_, fun key hk => ?_, fun key hk => ?_, fun hn => ?_, fun hk => ?_⟩
  case refine_1 =>
    rw [Gate.evaluate, hw]
    exact congrArg Prod.snd (lookUp_hit hk hf)
  case refine_2 => rw [hg, ho, lookUp_find? hk hs]
  case refine_3 =>
    rw [hg]
    exact lookUp_touches hk
  case refine_4 =>
    rw [ho] at hn
    rw [hg, lookUp_failure hs hn]
  case refine_5 => rw [hg, lookUp_keyless hk]

theorem start_answers (settings : Settings) (now : Moment) (registry : Registry) (audit : AuditStore)
    (past : List Request) :
    (Session.start settings now registry audit).Accounts past ∧
      ∀ c useCache condition,
        ((Session.start settings now registry audit).serveAll past).Answers c useCache condition := by
  have h := start_accounts settings now registry audit past
  exact ⟨h, answers h.works fun entry hm => (h.kept entry.1 entry.2 hm).success⟩

end Session

end FlowGate
