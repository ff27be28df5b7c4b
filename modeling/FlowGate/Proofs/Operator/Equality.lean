import FlowGate.Operator.Comparison
import FlowGate.Proofs.Engine
import FlowGate.Proofs.Value.Alike

-- The operators that ask whether values are equal: which values they compare, and what they make of it.

namespace FlowGate

open Value

theorem Path.builtOf_step? {p : Scalar → Prop} {v w : Value} {segment : String} (h : v.BuiltOf p)
    (hs : step? v segment = some w) : w.BuiltOf p := by
  unfold step? at hs
  split at hs
  case h_1 =>
    cases h
    case map h => exact h _ (Entries.mem_of_get? hs)
  case h_2 =>
    obtain ⟨i, _, hi⟩ := Option.bind_eq_some_iff.mp hs
    cases h
    case list h => exact h w (List.mem_of_getElem? hi)
  case h_3 => cases hs

theorem Path.builtOf_walk {p : Scalar → Prop} {v : Value} {segments : List String} (h : v.BuiltOf p)
    (hm : p .missing) : (walk v segments).BuiltOf p := by
  induction segments generalizing v
  case nil => exact h
  case cons segment rest hi =>
    rw [walk]
    split
    case h_1 hs => exact hi (builtOf_step? h hs)
    case h_2    => exact .scalar hm

namespace Operator

def equating : List Operator :=
  [.equals, .notEquals, .isIn, .isNotIn, .includesAny, .includesAll, .jsonPathEquals]

-- Asked about a field and an expected value, an operator compares these two values.
def Compares (o : Operator) (field expected v w : Value) : Prop :=
  match o with
  | .equals | .notEquals         => v = field ∧ w = expected
  | .isIn | .isNotIn             => v = field ∧ ∃ ys, expected = .list ys ∧ w ∈ ys
  | .includesAny | .includesAll  => ∃ xs ys, field = .list xs ∧ expected = .list ys ∧ v ∈ xs ∧ w ∈ ys
  | .jsonPathEquals => ∃ (es : Entries) (path : Value), expected = .map es ∧ es.get? "path" = some path ∧
    v = Path.walk field (Path.split path.plain) ∧ v.isMissing = false ∧ w = es.getD "expected" null
  | _ => False

-- What an operator asks for, if this is what being equal means.
def Asks (R : Value → Value → Prop) (o : Operator) (field expected : Value) : Prop :=
  match o with
  | .notEquals | .isNotIn => ¬∃ v w, o.Compares field expected v w ∧ R v w
  | .includesAll => ∃ xs ys, field = .list xs ∧ expected = .list ys ∧ ∀ w ∈ ys, ∃ v ∈ xs, R v w
  | _ => ∃ v w, o.Compares field expected v w ∧ R v w

variable {a e v w : Value} {o : Operator} {R S : Value → Value → Prop}

theorem asks_congr (h : ∀ v w, o.Compares a e v w → (R v w ↔ S v w)) : o.Asks R a e ↔ o.Asks S a e := by
  have hex : (∃ v w, o.Compares a e v w ∧ R v w) ↔ ∃ v w, o.Compares a e v w ∧ S v w :=
    exists₂_congr fun v w => and_congr_right (h v w)
  unfold Asks
  split
  case h_3 =>
    have hmem {xs ys} (ha : a = .list xs) (he : e = .list ys) :
        (∀ w ∈ ys, ∃ v ∈ xs, R v w) ↔ ∀ w ∈ ys, ∃ v ∈ xs, S v w :=
      forall₂_congr fun w hw => exists_congr fun v => and_congr_right fun hv =>
        h v w ⟨xs, ys, ha, he, hv, hw⟩
    exact exists₂_congr fun xs ys => and_congr_right fun ha => and_congr_right fun he => hmem ha he
  all_goals simp only [hex]

theorem Compares.builtOf {p : Scalar → Prop} (h : o.Compares a e v w) (ha : a.BuiltOf p) (he : e.BuiltOf p)
    (hm : p .missing) (hn : p .null) : v.BuiltOf p ∧ w.BuiltOf p := by
  unfold Compares at h
  split at h
  case h_1 | h_2 =>
    obtain ⟨rfl, rfl⟩ := h
    exact ⟨ha, he⟩
  case h_3 | h_4 =>
    obtain ⟨rfl, ys, rfl, hw⟩ := h
    cases he
    case list he => exact ⟨ha, he w hw⟩
  case h_5 | h_6 =>
    obtain ⟨xs, ys, rfl, rfl, hv, hw⟩ := h
    cases ha
    cases he
    case list.list ha he => exact ⟨ha v hv, he w hw⟩
  case h_7 =>
    obtain ⟨es, path, rfl, _, rfl, _, rfl⟩ := h
    refine ⟨Path.builtOf_walk ha hm, ?_⟩
    unfold Entries.getD
    cases hx : es.get? "expected"
    case none   => exact .scalar hn
    case some x =>
      cases he
      case map he => exact he _ (Entries.mem_of_get? hx)
  case h_8 => cases h

end Operator

namespace Comparison

open Operator

variable {a e : Value} {b : Bool}

theorem isIn_iff : isIn a e = true ↔ ∃ v w, Operator.isIn.Compares a e v w ∧ v.strictEquals w = true := by
  cases e <;> simp [isIn, Compares]

theorem includesAny_iff : includesAny a e = true ↔
    ∃ v w, Operator.includesAny.Compares a e v w ∧ v.strictEquals w = true := by
  cases a <;> cases e <;> simp only [includesAny, Compares]
  case list.list xs ys =>
    simp only [List.any_eq_true, Value.list.injEq, exists_eq_left', exists_and_left]
    grind
  all_goals simp

theorem includesAll_iff : includesAll a e = true ↔
    ∃ xs ys, a = .list xs ∧ e = .list ys ∧ ∀ w ∈ ys, ∃ v ∈ xs, v.strictEquals w = true := by
  cases a <;> cases e <;> simp [includesAll]

theorem jsonPathEquals_ok (h : jsonPathEquals a e = .ok b) : ∃ (es : Entries) (path : Value), e = .map es ∧
    es.get? "path" = some path ∧ b = (!(Path.walk a (Path.split path.plain)).isMissing &&
      (Path.walk a (Path.split path.plain)).strictEquals (es.getD "expected" null)) := by
  unfold jsonPathEquals at h
  split at h
  case h_1 es =>
    split at h
    case h_1 path hp => exact ⟨es, path, rfl, hp, (Except.ok.inj h).symm⟩
    case h_2         => cases h
  case h_2 => cases h

end Comparison

namespace Comparer

open Comparison Operator

variable {t : Comparer} {a e : Value} {o : Operator} {b : Bool}

theorem applyKnown_equating (ho : o ∈ equating) (h : t.applyKnown o a e = .ok b) :
    b = true ↔ o.Asks (fun v w => v.strictEquals w = true) a e := by
  cases o <;> simp [equating] at ho
  case jsonPathEquals =>
    obtain ⟨es, path, rfl, hp, rfl⟩ := jsonPathEquals_ok h
    simp [Asks, Compares, hp]
  case isIn        => cases h; exact isIn_iff
  case isNotIn     => cases h; rw [Bool.not_eq_true', ← Bool.not_eq_true, isIn_iff]; rfl
  case includesAny => cases h; exact includesAny_iff
  case includesAll => cases h; exact includesAll_iff
  case equals | notEquals =>
    cases h
    simp [Asks, Compares]

-- Only the operator with a path can be asked in a way that has no answer.
theorem applyKnown_equating_answers (ho : o ∈ equating)
    (hp : o = .jsonPathEquals → ∃ (es : Entries) (path : Value), e = .map es ∧ es.get? "path" = some path) :
    ∃ b, t.applyKnown o a e = .ok b := by
  cases o <;> simp [equating] at ho
  case jsonPathEquals =>
    obtain ⟨es, path, rfl, hget⟩ := hp rfl
    exact ⟨_, by rw [applyKnown, Comparison.jsonPathEquals, hget]⟩
  all_goals exact ⟨_, rfl⟩

end Comparer

namespace Value

variable {v w : Value}

theorem isTruth_eq_of_alike (h : Alike Scalar.amount? v w) : v.isTruth = w.isTruth := by
  have hnumber {s : Scalar} {p : Amount} (hs : s.amount? = some p) : s.isTruth = false := by
    cases s <;> first | rfl | cases hs
  cases h
  case number ht hs => rw [isTruth, isTruth, hnumber hs, hnumber ht]
  all_goals rfl

theorem not_mixed_of_isTruth_eq {s : Scalar} (hs : v = .scalar s ∨ w = .scalar s) (h : v.isTruth = w.isTruth) :
    ¬Mixed v w := by
  have hnot (t : Scalar) (ht : t.amount? ≠ none) : t.isTruth = false := by
    cases t <;> first | rfl | exact absurd rfl ht
  intro hm
  cases hm
  case left ht  => exact Bool.noConfusion (h.trans (hnot _ ht))
  case right ht => exact Bool.noConfusion ((hnot _ ht).symm.trans h)
  case item     => simp at hs
  case entry    => simp at hs

-- How strict the equality of two values is. A truth value that stands against a number counts as one, but only
-- inside lists and mappings.
structure Strict (v w : Value) : Prop where
  exact     : v.strictEquals w = true ↔ Alike Scalar.tally? v w ∧ v.isTruth = w.isTruth
  complete  : Alike Scalar.amount? v w → v.strictEquals w = true
  unmixed   : ¬Mixed v w → (v.strictEquals w = true ↔ Alike Scalar.amount? v w)
  mixed     : Mixed v w → ¬Alike Scalar.amount? v w
  outermost : ∀ s, v = .scalar s ∨ w = .scalar s → (v.strictEquals w = true ↔ Alike Scalar.amount? v w)

theorem strict_of_definite (hv : v.Definite) (hw : w.Definite) : Strict v w := by
  have hexact := strictEquals_iff hv hw
  have halike := hereditary_alike_iff.holds v w
  have hcomplete (h : Alike Scalar.amount? v w) : v.strictEquals w = true :=
    hexact.mpr ⟨(halike.mp h).left, isTruth_eq_of_alike h⟩
  have hunmixed (hn : ¬Mixed v w) : v.strictEquals w = true ↔ Alike Scalar.amount? v w :=
    ⟨fun h => halike.mpr ⟨(hexact.mp h).left, hn⟩, hcomplete⟩
  exact {
    exact           := hexact
    complete        := hcomplete
    unmixed         := hunmixed
    mixed hm h      := (halike.mp h).right hm
    outermost s hs  := ⟨fun h => (hunmixed (not_mixed_of_isTruth_eq hs (hexact.mp h).right)).mp h, hcomplete⟩
  }

end Value

namespace Comparer

open Operator

-- What an operator that asks for equality makes of a field and an expected value.
structure Equates (t : Comparer) (o : Operator) (a e : Value) : Prop where
  answers : (o = .jsonPathEquals → ∃ (es : Entries) (path : Value), e = .map es ∧ es.get? "path" = some path) →
    ∃ b, t.applyKnown o a e = .ok b
  exact   : ∀ b, t.applyKnown o a e = .ok b →
    (b = true ↔ o.Asks (fun v w => Alike Scalar.tally? v w ∧ v.isTruth = w.isTruth) a e)
  unmixed : (∀ v w, o.Compares a e v w → ¬Mixed v w) → ∀ b, t.applyKnown o a e = .ok b →
    (b = true ↔ o.Asks (Alike Scalar.amount?) a e)

theorem equates (t : Comparer) {o : Operator} {a e : Value} (ho : o ∈ equating) (ha : a.Definite)
    (he : e.Definite) : t.Equates o a e := by
  have hstrict {v w} (h : o.Compares a e v w) : Strict v w :=
    have ⟨hv, hw⟩ := h.builtOf ha he trivial trivial
    strict_of_definite hv hw
  exact {
    answers        := applyKnown_equating_answers ho
    exact b h      := (applyKnown_equating ho h).trans (asks_congr fun v w hc => (hstrict hc).exact)
    unmixed hn b h := (applyKnown_equating ho h).trans (asks_congr fun v w hc => (hstrict hc).unmixed (hn v w hc))
  }

theorem equality_strict (t : Comparer) {a e : Value} (ha : a.Definite)
    (he : e.Definite) : Strict a e ∧ ∀ o ∈ equating, t.Equates o a e :=
  ⟨strict_of_definite ha he, fun _ ho => t.equates ho ha he⟩

def ticked : Value := .list [bool true, null]

def counted : Value := .list [int 1, null]

theorem ticked_definite : ticked.Definite := by
  refine .list fun v hv => ?_
  obtain rfl | rfl := by simpa using hv
  all_goals exact .scalar trivial

theorem counted_definite : counted.Definite := by
  refine .list fun v hv => ?_
  obtain rfl | rfl := by simpa using hv
  all_goals exact .scalar trivial

theorem ticked_mixed : Mixed ticked counted :=
  .item (.head _) (.left nofun)

theorem ticked_strict : ticked.Definite ∧ counted.Definite ∧
    ticked.strictEquals counted = true ∧ ¬Alike Scalar.amount? ticked counted ∧
    (Engine.ofFunctions []).comparer.Equates .equals ticked counted := by
  have ⟨hstrict, hequates⟩ :=
    equality_strict (Engine.ofFunctions []).comparer ticked_definite counted_definite
  exact ⟨ticked_definite, counted_definite, by decide, hstrict.mixed ticked_mixed, hequates _ (.head _)⟩

end Comparer

end FlowGate
