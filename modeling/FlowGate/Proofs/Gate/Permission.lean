import FlowGate.Builder.Action
import FlowGate.Proofs.Gate.Provenance

-- Gates on the role and the permissions of a user. They keep their results, so a decision goes by what
-- was found under the same variables and index of the step, whoever the user was.

namespace FlowGate

open Value

variable {e : Engine} {c : Context}

namespace Condition

theorem gives_simple (header : Header) (path : String) (o : Operator) (value : Value) {b : Bool}
    (hb : e.comparer.applyKnown o (c.resolveField path) (c.resolveValue value) = .ok b) :
    (∃ r, (simple header (text path) (.known o) value).Gives e c r ∧ r.success = true) ∧
      (simple header (text path) (.known o) value).passes e c = b := by
  have ⟨record, he⟩ : ∃ record, ((simple header (text path) (.known o) value).evaluate e c).value =
      some (.ok ⟨true, b, record, [], []⟩) :=
    ⟨_, by simp only [evaluate, label, slotLabel, compare, Comparer.apply, hb]; rfl⟩
  exact ⟨⟨_, he, rfl⟩, by rw [passes, he]; simp [ConditionResult.passed]⟩

def isSimple : Condition → Bool
  | simple .. => true
  | _         => false

-- The same condition under another id.
def withId (id : Value) : Condition → Condition
  | simple header field operator value         => simple { header with id } field operator value
  | complex header operator children stray     => complex { header with id } operator children stray
  | filter header group                        => filter { header with id } group
  | custom header function params              => custom { header with id } function params
  | foreign _ kind label                       => foreign id kind label

end Condition

namespace Action

variable {a : Action} {limits : Limits} {known : Option (List String)}

-- The same action with these ids for its conditions.
def withIds (ids : List String) (a : Action) : Action :=
  { a with conditions := List.zipWith (fun id condition => condition.withId (text id)) ids a.conditions }

-- Nothing but the limits can block an action that only compares fields.
theorem unblocked_iff_limits (hv : a.Valid) (ho : ∃ own, a.checkOwn = .ok own ∧ Finding.blocking own = [])
    (hf : a.filters = []) (hne : a.conditions ≠ [])
    (hs : ∀ condition ∈ a.conditions, condition.isSimple = true) :
    a.Unblocked limits known ↔
      1 ≤ limits.maxConditionDepth ∧ a.conditions.length ≤ limits.maxConditions := by
  have hown : ∀ condition ∈ a.conditions,
      (condition.ownFindings limits known = [] ↔ 1 ≤ limits.maxConditionDepth) ∧
        condition.ownNodes limits known = 1 := by
    intro condition hm
    have hs := hs condition hm
    cases hv.conditions condition hm
    case simple hid hfield => exact Condition.own_simple hid hfield
    all_goals cases hs
  have hfindings : a.conditions.flatMap (Condition.ownFindings limits known) = [] ↔
      1 ≤ limits.maxConditionDepth := by
    rw [List.flatMap_eq_nil_iff]
    constructor
    case mp =>
      intro h
      have ⟨condition, hm⟩ := List.exists_mem_of_ne_nil _ hne
      exact (hown condition hm).left.mp (h condition hm)
    case mpr => exact fun h condition hm => (hown condition hm).left.mpr h
  have ⟨own, ho, hb⟩ := ho
  have hg : FilterGroup.checkAll limits [] = .ok [] := by rw [FilterGroup.checkAll]
  rw [unblocked_iff hv, hf, hg, ho, hfindings,
    Condition.nodesOf_eq_length fun condition hm => (hown condition hm).right]
  constructor
  case mp =>
    rintro ⟨_, _, _, _, _, _, hd, hn⟩
    exact ⟨hd, hn⟩
  case mpr =>
    rintro ⟨hd, hn⟩
    exact ⟨own, [], rfl, rfl, hb, rfl, hd, hn⟩

end Action

namespace Builder

open Condition

variable {role : Value} {perms : List Value} {i j : String} {a : Action}

-- The user has the role. A role that is a placeholder is looked up like any other value.
def HasRole (role : Value) (c : Context) : Prop :=
  (c.resolveField "user.role").strictEquals (c.resolveValue role) = true

instance : Decidable (HasRole role c) := inferInstanceAs (Decidable (_ = true))

-- The user has all of the permissions, if any are required.
def HasPermissions (perms : List Value) (c : Context) : Prop :=
  perms = [] ∨ ∃ held, c.resolveField "user.permissions" = list held ∧
    ∀ p ∈ perms, ∃ h ∈ held, h.strictEquals p = true

def roleCheck (id : String) (role : Value) : Condition :=
  .simple ⟨text id, { name := some "Role Check" }⟩ (text "user.role") (.known .equals) role

def permissionsCheck (id : String) (perms : List Value) : Condition :=
  .simple ⟨text id, { name := some "Permission Check" }⟩ (text "user.permissions")
    (.known .includesAll) (list perms)

theorem roleCheck_gives (e : Engine) (c : Context) (i : String) (role : Value) :
    (∃ r, (roleCheck i role).Gives e c r ∧ r.success = true) ∧
    ((roleCheck i role).passes e c = true ↔ HasRole role c) := by
  have ⟨hg, hp⟩ := gives_simple (e := e) (c := c) ⟨text i, { name := some "Role Check" }⟩
    "user.role" .equals role rfl
  exact ⟨hg, by rw [roleCheck, hp]; rfl⟩

theorem permissionsCheck_gives (e : Engine) (c : Context) (j : String) (hne : perms ≠ []) :
    (∃ r, (permissionsCheck j perms).Gives e c r ∧ r.success = true) ∧
    ((permissionsCheck j perms).passes e c = true ↔ HasPermissions perms c) := by
  have ⟨hg, hp⟩ := gives_simple (e := e) (c := c) ⟨text j, { name := some "Permission Check" }⟩
    "user.permissions" .includesAll (list perms) rfl
  refine ⟨hg, ?_⟩
  rw [permissionsCheck, hp, HasPermissions, or_iff_right hne]
  cases c.resolveField "user.permissions" <;>
    simp [Comparison.includesAll, Context.resolveValue]

-- What is built, once its conditions have these ids.
structure Guards (role : Value) (perms : List Value) (i j : String) (a : Action) : Prop where
  valid      : a.Valid
  own        : ∃ own, a.checkOwn = .ok own ∧ Finding.blocking own = []
  filters    : a.filters = []
  mode       : a.options.mode = .all
  keeps      : a.options.cacheResults = true
  conditions : a.conditions =
    roleCheck i role :: if perms = [] then [] else [permissionsCheck j perms]

theorem permissionCheck_guards (role : Value) (perms : List Value) :
    ∃ a, permissionCheck role (list perms) = .ok a ∧
      ∀ i j, i ≠ "" → j ≠ "" → Guards role perms i j (a.withIds [i, j]) := by
  have valid {id field : String} {value : Value} {o : Operator} {remarks : Remarks} (hi : id ≠ "")
      (hf : field ≠ "") : (simple ⟨text id, remarks⟩ (text field) (.known o) value).Valid :=
    .simple (Schema.isName_text hi) (Schema.isName_text hf)
  cases perms
  all_goals
    refine ⟨_, rfl, fun i j hi hj => ⟨⟨⟨_, rfl⟩, ⟨_, rfl⟩, ?_, rfl, List.forall_mem_nil _, rfl,
      ⟨_, rfl⟩⟩, ⟨[], rfl, rfl⟩, rfl, rfl, rfl, rfl⟩⟩
  case nil => exact List.forall_mem_singleton.mpr (valid hi (by decide))
  case cons =>
    exact List.forall_mem_cons.mpr ⟨valid hi (by decide),
      List.forall_mem_singleton.mpr (valid hj (by decide))⟩

theorem Guards.mem_conditions {condition : Condition} (h : Guards role perms i j a)
    (hm : condition ∈ a.conditions) :
    condition = roleCheck i role ∨ perms ≠ [] ∧ condition = permissionsCheck j perms := by
  rw [h.conditions] at hm
  cases perms <;> simpa using hm

-- Ids of the same length keep keys apart, whatever comes after them.
theorem Guards.apart (h : Guards role perms i j a) (hne : i ≠ j) (hl : i.length = j.length) :
    Apart a.conditions := by
  have differ (stamp stamp' : String) :
      (roleCheck i role).keyOf stamp ≠ (permissionsCheck j perms).keyOf stamp' := by
    intro hs
    have hs : i ++ "_" ++ stamp = j ++ "_" ++ stamp' := hs
    have hs := congrArg String.toList hs
    simp only [String.toList_append, List.append_assoc] at hs
    have hl : i.toList.length = j.toList.length := by simpa only [String.length_toList] using hl
    exact hne <| String.toList_inj.mp <| List.append_inj_left hs hl
  intro x hx y hy stamp stamp' hk
  rcases h.mem_conditions hx with rfl | ⟨_, rfl⟩ <;> rcases h.mem_conditions hy with rfl | ⟨_, rfl⟩
  · rfl
  · exact absurd hk (differ _ _)
  · exact absurd hk.symm (differ _ _)
  · rfl

variable {g : Gate} {limits : Limits} {seen : List Context}

-- Whether limits leave room for the checks of the role and of the permissions.
def HasRoom (limits : Limits) (perms : List Value) : Prop :=
  1 ≤ limits.maxConditionDepth ∧ (if perms = [] then 1 else 2) ≤ limits.maxConditions

instance : Decidable (HasRoom limits perms) := inferInstanceAs (Decidable (_ ∧ _))

theorem Guards.unblocked_iff (h : Guards role perms i j a) (limits : Limits)
    (known : Option (List String)) :
    a.Unblocked limits known ↔ HasRoom limits perms := by
  have hs : ∀ condition ∈ a.conditions, condition.isSimple = true := by
    intro condition hm
    rcases h.mem_conditions hm with rfl | ⟨_, rfl⟩ <;> rfl
  rw [Action.unblocked_iff_limits h.valid h.own h.filters (by simp [h.conditions]) hs, HasRoom,
    h.conditions]
  cases perms <;> simp

theorem Guards.gives (h : Guards role perms i j a) (e : Engine) (c : Context) :
    ∀ condition ∈ a.conditions, ∃ r, condition.Gives e c r := by
  intro condition hm
  have ⟨r, hr, _⟩ : ∃ r, condition.Gives e c r ∧ r.success = true := by
    rcases h.mem_conditions hm with rfl | ⟨hne, rfl⟩
    · exact (roleCheck_gives e c i role).left
    · exact (permissionsCheck_gives e c j hne).left
  exact ⟨r, hr⟩

-- What a guard makes of its results, each of which is that of a context which is taken for this one.
theorem Guards.passed_iff (h : Guards role perms i j a) {rs : List ConditionResult}
    (hrs : List.Forall₂ (From e seen c) a.conditions rs) :
    ∃ c₁ c₂, c.Alike seen c₁ ∧ c.Alike seen c₂ ∧
      (a.options.mode.combine (rs.map ConditionResult.passed) = true ↔
        HasRole role c₁ ∧ HasPermissions perms c₂) := by
  rw [h.conditions] at hrs
  rw [h.mode]
  cases hrs
  case cons r rest hr hrest =>
    have ⟨c₁, hc₁, hr⟩ := hr.passed_eq
    have hrole := (roleCheck_gives e c₁ i role).right
    rw [← hr] at hrole
    split at hrest
    case isTrue hp =>
      cases hrest
      refine ⟨c₁, c, hc₁, .inl rfl, ?_⟩
      simp [Mode.combine, hrole, HasPermissions, hp]
    case isFalse hp =>
      cases hrest
      case cons r' rest' hr' hnil =>
        cases hnil
        have ⟨c₂, hc₂, hr'⟩ := hr'.passed_eq
        have hperms := (permissionsCheck_gives e c₂ j hp).right
        rw [← hr'] at hperms
        exact ⟨c₁, c₂, hc₁, hc₂, by simp [Mode.combine, hrole, hperms]⟩

theorem Guards.decides (h : Guards role perms i j a) (ha : Apart a.conditions)
    (hg : Gate.Remembers e limits a.conditions seen g) :
    ∃ calls d, (g.decide c a).2 = ⟨calls, some (.ok d)⟩ ∧
      ∃ c₁ c₂, c.Alike seen c₁ ∧ c.Alike seen c₂ ∧
        (d.way = .onTrue ↔
          HasRoom limits perms ∧ HasRole role c₁ ∧ HasPermissions perms c₂) := by
  have hu := h.unblocked_iff limits (some e.registry.functionNames)
  by_cases hr : HasRoom limits perms
  case neg =>
    have hb := mt hu.mp hr
    rw [← hg.limits, ← hg.engine] at hb
    have ⟨calls, d, hd, hw⟩ := Gate.decide_blocked (c := c) h.valid hb
    exact ⟨calls, d, hd, c, c, .inl rfl, .inl rfl, by simp [hw, hr]⟩
  case pos =>
    have ⟨calls, rs, d, hd, hrs, hs⟩ := Gate.decide_from (c := c) hg ha h.valid (hu.mpr hr)
      (by simp [h.mode, Mode.stopsAt]) (h.gives e c)
    have ⟨c₁, c₂, hc₁, hc₂, hp⟩ := h.passed_iff hrs
    have hf : d.filtersPassed = true := by rw [hs.filtersPassed, h.filters]; rfl
    refine ⟨calls, d, hd, c₁, c₂, hc₁, hc₂, ?_⟩
    rw [hs.way, (Gate.select_eq a d.conditionsPassed d.filtersPassed).left, hf,
      hs.conditionsPassed, hp]
    simp [hr]

-- Where nothing but a role is asked for, the first user decides for the next with the same stamp.
theorem Guards.repeats (c c' : Context) {stamp : String} (h : Guards role [] i j a)
    (hw : g.refusal = none) (hr : HasRoom g.limits []) (hf : g.Forgets a)
    (hc : c.stamp? = some stamp) (hc' : c'.stamp? = some stamp) :
    ∃ calls d, ((g.decide c a).1.decide c' a).2 = ⟨calls, some (.ok d)⟩ ∧
      (d.way = .onTrue ↔ HasRole role c) := by
  have ⟨⟨r, hgives, ht⟩, hrole⟩ := roleCheck_gives g.engine c i role
  have ⟨calls, d, hd, hs⟩ := Gate.decide_again hw h.valid ((h.unblocked_iff ..).mpr hr)
    (by simpa using h.conditions) h.keeps hf hc hc' hgives ht
  have hfilters : d.filtersPassed = true := by rw [hs.filtersPassed, h.filters]; rfl
  refine ⟨calls, d, hd, ?_⟩
  rw [hs.way, (Gate.select_eq a d.conditionsPassed d.filtersPassed).left, hfilters,
    hs.conditionsPassed, h.mode, ← hrole, ← hgives.passed_eq]
  simp [Mode.combine]

-- A user in a step without variables.
def user (role : String) (permissions : List String) (stepIndex : Int) : Context :=
  { Context.ofVars [] with
    trigger := [(.text "user", record [
      ("role", text role), ("permissions", list (permissions.map text))])],
    stepIndex }

theorem stamp_user {role : String} {permissions : List String} {stepIndex : Int} :
    (user role permissions stepIndex).stamp? = some ("\x7b\x7d_" ++ toString stepIndex) := by
  simp [user, Context.ofVars, Context.stamp?, Json.printSorted, Json.write, Json.writeMembers,
    Json.object, Json.sortable, Except.bind]
  rfl

-- A guest who comes after an admin is taken for one, a role that is the place of the user's own lets
-- everyone through, and a host without room lets nobody through.
theorem permissionCheck_leaks :
    (∃ a, permissionCheck (text "admin") (list []) = .ok a ∧
      ((user "guest" [] 0).resolveField "user.role").strictEquals (text "admin") = false ∧
      (∃ calls d, (Gate.plain.execute (user "guest" [] 0) (.action a)).2 = ⟨calls, some (.ok d)⟩ ∧
        d.way ≠ .onTrue) ∧
      ∃ calls d, ((Gate.plain.after a [user "admin" [] 0]).execute (user "guest" [] 0)
          (.action a)).2 = ⟨calls, some (.ok d)⟩ ∧ d.way = .onTrue) ∧
    (∃ a, permissionCheck (text "\x7b\x7buser.role\x7d\x7d") (list []) = .ok a ∧
      ((user "guest" [] 0).resolveField "user.role").strictEquals
        (text "\x7b\x7buser.role\x7d\x7d") = false ∧
      ∃ calls d, (Gate.plain.execute (user "guest" [] 0) (.action a)).2 = ⟨calls, some (.ok d)⟩ ∧
        d.way = .onTrue) ∧
    (∃ a, permissionCheck (text "admin") (list []) = .ok a ∧
      ((user "admin" [] 0).resolveField "user.role").strictEquals (text "admin") = true ∧
      ∃ calls d, ({ Gate.plain with limits := { maxConditions := 0 } }.execute (user "admin" [] 0)
          (.action a)).2 = ⟨calls, some (.ok d)⟩ ∧ d.way ≠ .onTrue) := by
  refine ⟨?_, ⟨_, rfl, by decide, _, _, rfl, by decide⟩, ⟨_, rfl, by decide, _, _, rfl, by decide⟩⟩
  have ⟨a, ha, hg⟩ := permissionCheck_guards (text "admin") []
  cases ha
  refine ⟨_, rfl, by decide, ⟨_, _, rfl, by decide⟩, ?_⟩
  have hg := hg (Schema.newId "cond") "other" (by decide) (by decide)
  have ⟨calls, d, hd, hway⟩ := hg.repeats (g := Gate.plain) (user "admin" [] 0)
    (user "guest" [] 0) rfl (by decide) (fun _ _ _ _ => List.not_mem_nil) stamp_user stamp_user
  exact ⟨calls, d, hd, hway.mpr (by decide)⟩

-- A gate that has kept nothing of a guard decides on it, in any context and after any others, by the
-- role and the permissions found in contexts with the same variables and index, this one or earlier
-- ones. Unless such a context differs from this one in them, the decision is by those of this one.
theorem permissionCheck_decides (role : Value) (perms : List Value) :
    ∃ a, permissionCheck role (list perms) = .ok a ∧
      ∀ (i j : String) (g : Gate) (cs : List Context) (c : Context),
        i ≠ j → i.length = j.length → g.refusal = none → g.Forgets (a.withIds [i, j]) →
        ∃ calls d,
          ((g.after (a.withIds [i, j]) cs).execute c (.action (a.withIds [i, j]))).2 =
            ⟨calls, some (.ok d)⟩ ∧
          (∃ c₁ c₂, c.Alike cs c₁ ∧ c.Alike cs c₂ ∧
            (d.way = .onTrue ↔
              HasRoom g.limits perms ∧ HasRole role c₁ ∧ HasPermissions perms c₂)) ∧
          ((∀ c', c.Alike cs c' → (HasRole role c' ↔ HasRole role c) ∧
              (HasPermissions perms c' ↔ HasPermissions perms c)) →
            (d.way = .onTrue ↔
              HasRoom g.limits perms ∧ HasRole role c ∧ HasPermissions perms c)) := by
  have ⟨a, ha, hg⟩ := permissionCheck_guards role perms
  refine ⟨a, ha, fun i j g cs c hne hl hw hf => ?_⟩
  have hi : i ≠ "" := by
    rintro rfl
    exact hne (String.length_eq_zero_iff.mp hl.symm).symm
  have hj : j ≠ "" := by
    rintro rfl
    exact hne (String.length_eq_zero_iff.mp hl)
  have hg := hg i j hi hj
  have hapart := hg.apart hne hl
  have hr := Gate.after_remembers (Gate.remembers_of_forgets hf hw) hapart cs
  have ⟨calls, d, hd, c₁, c₂, hc₁, hc₂, hway⟩ := hg.decides (c := c) hapart hr
  refine ⟨calls, d, hd, ⟨c₁, c₂, hc₁, hc₂, hway⟩, fun hsame => ?_⟩
  rw [hway, (hsame c₁ hc₁).left, (hsame c₂ hc₂).right]

-- Users in different steps are told apart.
theorem permissionCheck_admits :
    ∃ a, permissionCheck (text "admin") (list [text "read"]) = .ok a ∧
      "cond_1" ≠ "cond_2" ∧ "cond_1".length = "cond_2".length ∧ Gate.plain.refusal = none ∧
      Gate.plain.Forgets (a.withIds ["cond_1", "cond_2"]) ∧
      ∃ calls d,
        ((Gate.plain.after (a.withIds ["cond_1", "cond_2"]) [user "guest" [] 0]).execute
          (user "admin" ["write", "read"] 1)
          (.action (a.withIds ["cond_1", "cond_2"]))).2 = ⟨calls, some (.ok d)⟩ ∧
        d.way = .onTrue := by
  have ⟨a, ha, h⟩ := permissionCheck_decides (text "admin") [text "read"]
  have hf : Gate.plain.Forgets (a.withIds ["cond_1", "cond_2"]) :=
    fun _ _ _ _ => List.not_mem_nil
  have ⟨calls, d, hd, _, hown⟩ := h "cond_1" "cond_2" Gate.plain [user "guest" [] 0]
    (user "admin" ["write", "read"] 1) (by decide) (by decide) rfl hf
  refine ⟨a, ha, by decide, by decide, rfl, hf, calls, d, hd,
    (hown ?_).mpr ⟨by decide, by decide, ?_⟩⟩
  case refine_1 =>
    intro c' hc
    cases hc
    case inl hc => exact hc ▸ ⟨.rfl, .rfl⟩
    case inr hc =>
      have ⟨hm, hs, _⟩ := hc
      rw [List.mem_singleton.mp hm, stamp_user, stamp_user] at hs
      exact absurd hs (by decide)
  case refine_2 =>
    exact .inr ⟨[text "write", text "read"], rfl,
      List.forall_mem_singleton.mpr ⟨text "read", by simp, by decide⟩⟩

end Builder

end FlowGate
