import FlowGate.Path
import FlowGate.Proofs.Entries
import FlowGate.Proofs.Text.Digit

-- Where paths lead. A segment names a value under a key of a mapping, or the item of a list whose position is
-- written in decimal digits; a path breaks off at the first segment that names nothing.

namespace FlowGate

open Value

namespace Entries

variable {es : Entries} {name : String} {v : Value}

-- No text is the key of two values.
def Single (es : Entries) : Prop :=
  ∀ name v w, (.text name, v) ∈ es → (.text name, w) ∈ es → v = w

theorem Single.get?_eq_some_iff (h : es.Single) : es.get? name = some v ↔ (.text name, v) ∈ es where
  mp     := mem_of_get?
  mpr hm := by
    cases hg : es.get? name
    case none   => exact absurd (List.mem_map_of_mem hm) (get?_eq_none_iff.mp hg)
    case some w => rw [h name w v (mem_of_get? hg) hm]

theorem single_of_nodup (h : es.keys.Nodup) : es.Single :=
  fun _ _ _ hv hw => Option.some.inj ((get?_of_mem h hv).symm.trans (get?_of_mem h hw))

end Entries

-- Values of these scalars, with one value for each text key of a mapping.
inductive Value.Keyed (p : Scalar → Prop) : Value → Prop
  | scalar {s : Scalar} (h : p s) : Keyed p (.scalar s)
  | list {xs : List Value} (h : ∀ x ∈ xs, Keyed p x) : Keyed p (.list xs)
  | map {es : Entries} (single : es.Single) (h : ∀ e ∈ es, Keyed p e.2) : Keyed p (.map es)

namespace Path

variable {p : Scalar → Prop} {v w x : Value} {segment : String} {segments rest : List String} {i : Nat}

-- A segment that is a position on lists. Texts of more digits are not read as numbers.
structure Position (segment : String) (i : Nat) : Prop where
  writes : Text.Writes segment.toList i
  filled : segment ≠ ""
  short  : segment.length ≤ Numeral.digitLimit

inductive Step : Value → String → Value → Prop
  | key {es : Entries} {segment : String} {v : Value} (h : (.text segment, v) ∈ es) : Step (.map es) segment v
  | item {xs : List Value} {segment : String} {i : Nat} {v : Value} (hp : Position segment i)
    (h : xs[i]? = some v) : Step (.list xs) segment v

inductive Leads : Value → List String → Value → Prop
  | here {v : Value} : Leads v [] v
  | on {v w x : Value} {segment : String} {rest : List String} (hs : Step v segment w) (h : Leads w rest x) :
    Leads v (segment :: rest) x

-- Some segment of the path names nothing where it stands.
inductive Breaks : Value → List String → Prop
  | here {v : Value} {segment : String} {rest : List String} (h : ∀ w, ¬Step v segment w) :
    Breaks v (segment :: rest)
  | on {v w : Value} {segment : String} {rest : List String} (hs : Step v segment w) (h : Breaks w rest) :
    Breaks v (segment :: rest)

theorem position?_eq_some_iff : position? segment = some i ↔ Position segment i := by
  have hguard : (segment.toList.isEmpty || !segment.toList.all Text.isDigit ||
      decide (Numeral.digitLimit < segment.toList.length)) = true ↔
      ¬(segment ≠ "" ∧ segment.toList.all Text.isDigit = true ∧ segment.length ≤ Numeral.digitLimit) := by
    simp only [Bool.or_eq_true, List.isEmpty_iff, String.toList_eq_nil_iff, Bool.not_eq_true', decide_eq_true_eq,
      String.length_toList, not_and_or, not_not, Bool.not_eq_true, Nat.not_le, or_assoc]
  unfold position?
  dsimp only
  split
  case isTrue h =>
    refine iff_of_false nofun fun hp => hguard.mp h ⟨hp.filled, ?_, hp.short⟩
    exact (Text.writes_iff.mp hp.writes).left
  case isFalse h =>
    obtain ⟨hne, hall, hlen⟩ := not_not.mp (mt hguard.mpr h)
    rw [Option.some.injEq]
    exact ⟨fun hi => ⟨Text.writes_iff.mpr ⟨hall, hi.symm⟩, hne, hlen⟩,
      fun hp => (Text.writes_iff.mp hp.writes).right.symm⟩

theorem step?_eq_some_iff (h : v.Keyed p) : step? v segment = some w ↔ Step v segment w := by
  cases h
  case scalar => exact ⟨nofun, nofun⟩
  case map single _ =>
    rw [step?, single.get?_eq_some_iff]
    exact ⟨.key, fun | .key hm => hm⟩
  case list =>
    simp only [step?, Option.bind_eq_some_iff, position?_eq_some_iff]
    exact ⟨fun ⟨_, hp, hi⟩ => .item hp hi, fun | .item hp hi => ⟨_, hp, hi⟩⟩

theorem Step.keyed (hs : Step v segment w) (h : v.Keyed p) : w.Keyed p := by
  cases hs
  case key hm =>
    cases h
    case map h => exact h _ hm
  case item hi =>
    cases h
    case list h => exact h w (List.mem_of_getElem? hi)

theorem Leads.keyed (hl : Leads v segments w) (h : v.Keyed p) : w.Keyed p := by
  induction hl
  case here        => exact h
  case on hs _ hi  => exact hi (hs.keyed h)

theorem Leads.walk_eq (hl : Leads v segments w) (h : v.Keyed p) : walk v segments = w := by
  induction hl
  case here       => rfl
  case on hs _ hi =>
    rw [walk, (step?_eq_some_iff h).mpr hs]
    exact hi (hs.keyed h)

theorem Breaks.walk_eq (hb : Breaks v segments) (h : v.Keyed p) : walk v segments = missing := by
  induction hb
  case here hn =>
    have hstep := Option.eq_none_iff_forall_ne_some.mpr fun w hw => hn w ((step?_eq_some_iff h).mp hw)
    rw [walk, hstep]
  case on hs _ hi =>
    rw [walk, (step?_eq_some_iff h).mpr hs]
    exact hi (hs.keyed h)

theorem leads_or_breaks (v : Value) (segments : List String) : (∃ w, Leads v segments w) ∨ Breaks v segments := by
  induction segments generalizing v
  case nil => exact .inl ⟨v, .here⟩
  case cons segment rest hi =>
    by_cases hs : ∃ w, Step v segment w
    case neg => exact .inr (.here (not_exists.mp hs))
    case pos =>
      obtain ⟨w, hs⟩ := hs
      exact (hi w).imp (fun ⟨x, hl⟩ => ⟨x, .on hs hl⟩) (.on hs)

theorem walk_eq_iff (h : v.Keyed p) (hw : w ≠ missing) : walk v segments = w ↔ Leads v segments w where
  mp hv := by
    cases leads_or_breaks v segments
    case inl hl =>
      obtain ⟨x, hl⟩ := hl
      rwa [← hv, hl.walk_eq h]
    case inr hb => exact absurd (hv.symm.trans (hb.walk_eq h)) hw
  mpr hl := hl.walk_eq h

theorem Position.value_eq {j : Nat} (hi : Position segment i) (hj : Position segment j) : i = j :=
  Option.some.inj ((position?_eq_some_iff.mpr hi).symm.trans (position?_eq_some_iff.mpr hj))

theorem position_toString (h : (toString i).length ≤ Numeral.digitLimit) : Position (toString i) i where
  writes := by
    have hi := Text.writes_toDigits i
    rwa [← Nat.toList_repr] at hi
  filled := by
    rw [Ne, ← String.toList_eq_nil_iff, Nat.toString_eq_repr, Nat.toList_repr]
    exact Nat.toDigits_ne_nil
  short  := h

-- How segments address the items of lists.
structure Addressed : Prop where
  item  : ∀ (xs : List Value) (i : Nat) v, (toString i).length ≤ Numeral.digitLimit →
    (Step (.list xs) (toString i) v ↔ xs[i]? = some v)
  stray : ∀ (xs : List Value) segment v, segment = "" ∨ (∃ c ∈ segment.toList, Text.digitValue? c = none) →
    ¬Step (.list xs) segment v

theorem addressed : Addressed where
  item xs i v h := by
    have hp := position_toString h
    refine ⟨fun hs => ?_, .item hp⟩
    cases hs
    case item hq hi => rwa [hp.value_eq hq]
  stray xs segment v h hs := by
    cases hs
    case item hp _ =>
      refine h.elim hp.filled fun ⟨c, hc, hn⟩ => ?_
      have hd := List.all_eq_true.mp (Text.writes_iff.mp hp.writes).left c hc
      rw [Text.isDigit_eq, hn] at hd
      cases hd

end Path

end FlowGate
