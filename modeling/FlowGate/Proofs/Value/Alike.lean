import FlowGate.Proofs.Json.Plain
import FlowGate.Proofs.Number.Amount
import FlowGate.Value.Coercion
import Mathlib.Data.Option.Basic

-- Values that are equal in structure, with their numbers compared by what they amount to. The equality of
-- nested values counts truth values as numbers; the strict one does not, but only looks at the outermost value.

namespace FlowGate

namespace Scalar

-- The scalars of documents, of which numbers are numbers, and what is missing.
def Definite : Scalar → Prop
  | double x => x ≠ .nan
  | date _   => False
  | moment _ => False
  | clock _  => False
  | _        => True

def isTruth : Scalar → Bool
  | bool _ => true
  | _      => false

variable {s t : Scalar}

theorem same_iff (hs : s.Definite) :
    s.same t = true ↔ s = t ∧ s.tally? = none ∨ ∃ p, s.tally? = some p ∧ t.tally? = some p := by
  have hnumber : (numericOrder? s.countsAs t.countsAs == some .eq) = true ↔
      ∃ p, s.tally? = some p ∧ t.tally? = some p := by
    rw [beq_iff_eq, numericOrder?_eq_iff]
    rfl
  unfold same
  split
  case h_1 | h_2 | h_3 => simp [tally?, countsAs, amount?]
  case h_4 | h_5 | h_6 => cases hs
  case h_7 =>
    rw [hnumber, iff_or_self]
    rintro ⟨rfl, hn⟩
    cases s <;> simp_all [tally?, countsAs, amount?, Definite, Double.amount?_eq_none_iff]

end Scalar

namespace Entries

-- Mappings with the same keys and related values under each of them.
structure Paired (R : Value → Value → Prop) (es fs : Entries) : Prop where
  keys   : ∀ name, .text name ∈ es.keys ↔ .text name ∈ fs.keys
  values : ∀ name v w, es.get? name = some v → fs.get? name = some w → R v w

namespace Paired

variable {es fs gs : Entries} {R S T : Value → Value → Prop} {name : String} {v w : Value}

theorem of_mem (h : Paired R es fs) (hrs : ∀ e ∈ es, ∀ f ∈ fs, R e.2 f.2 → S e.2 f.2) : Paired S es fs where
  keys := h.keys
  values name v w hv hw := hrs _ (mem_of_get? hv) _ (mem_of_get? hw) (h.values name v w hv hw)

theorem refl (h : ∀ e ∈ es, R e.2 e.2) : Paired R es es where
  keys _ := .rfl
  values name v w hv hw := by
    obtain rfl := Option.some.inj (hv.symm.trans hw)
    exact h _ (mem_of_get? hv)

theorem symm (h : Paired R es fs) : Paired (fun w v => R v w) fs es where
  keys name := (h.keys name).symm
  values name w v hw hv := h.values name v w hv hw

theorem exists_get? (h : Paired R es fs) (hv : es.get? name = some v) : ∃ w, fs.get? name = some w := by
  by_contra hn
  simp only [not_exists, ← Option.eq_none_iff_forall_ne_some, get?_eq_none_iff, ← h.keys] at hn
  exact hn (List.mem_map_of_mem (mem_of_get? hv))

theorem trans (h : Paired R es fs) (h' : Paired S fs gs)
    (ht : ∀ e ∈ es, ∀ w x, R e.2 w → S w x → T e.2 x) : Paired T es gs where
  keys name := (h.keys name).trans (h'.keys name)
  values name v x hv hx := by
    obtain ⟨w, hw⟩ := h.exists_get? hv
    exact ht _ (mem_of_get? hv) w x (h.values name v w hv hw) (h'.values name w x hw hx)

theorem keys_perm (h : Paired R es fs) (ht : ∀ k ∈ es.keys, ∃ name, k = .text name) (hd : es.keys.Nodup)
    (ht' : ∀ k ∈ fs.keys, ∃ name, k = .text name) (hd' : fs.keys.Nodup) : es.keys.Perm fs.keys := by
  refine (List.perm_ext_iff_of_nodup hd hd').mpr fun k => ⟨fun hk => ?_, fun hk => ?_⟩
  · obtain ⟨name, rfl⟩ := ht k hk
    exact (h.keys name).mp hk
  · obtain ⟨name, rfl⟩ := ht' k hk
    exact (h.keys name).mpr hk

end Paired

variable {es fs : Entries} {R : Value → Value → Prop}

theorem keys_subset_of_find? (ht : ∀ k ∈ es.keys, ∃ name, k = .text name)
    (h : ∀ e ∈ es, ∃ w, fs.find? e.1 = some w ∧ R e.2 w) : es.keys ⊆ fs.keys := by
  intro k hk
  obtain ⟨e, he, rfl⟩ := List.mem_map.mp hk
  obtain ⟨name, hn⟩ := ht e.1 hk
  obtain ⟨w, hw, _⟩ := h e he
  rw [hn] at hw ⊢
  exact List.mem_map_of_mem (mem_of_get? hw)

-- Mappings of one length are paired as soon as one has a partner for each entry of the other, since no key
-- comes twice.
theorem paired_iff (ht : ∀ k ∈ es.keys, ∃ name, k = .text name) (hd : es.keys.Nodup)
    (ht' : ∀ k ∈ fs.keys, ∃ name, k = .text name) (hd' : fs.keys.Nodup) :
    Paired R es fs ↔ es.length = fs.length ∧ ∀ e ∈ es, ∃ w, fs.find? e.1 = some w ∧ R e.2 w := by
  constructor
  case mp =>
    intro h
    refine ⟨by simpa [keys] using (h.keys_perm ht hd ht' hd').length_eq, ?_⟩
    rintro ⟨k, v⟩ he
    obtain ⟨name, rfl⟩ := ht k (List.mem_map_of_mem he)
    have hv := get?_of_mem hd he
    obtain ⟨w, hw⟩ := h.exists_get? hv
    exact ⟨w, hw, h.values name v w hv hw⟩
  case mpr =>
    rintro ⟨hl, h⟩
    have hsub := keys_subset_of_find? ht h
    have hperm : es.keys.Perm fs.keys :=
      (List.subperm_of_subset hd hsub).perm_of_length_le (by simp [keys, hl])
    refine ⟨fun name => hperm.mem_iff, fun name v w hv hw => ?_⟩
    obtain ⟨w', hw', hr⟩ := h _ (mem_of_get? hv)
    obtain rfl := Option.some.inj (hw'.symm.trans hw)
    exact hr

end Entries

namespace Value

abbrev Definite (v : Value) : Prop := v.BuiltOf Scalar.Definite

-- Equal in structure. A number equals any other that amounts to the same, and every other scalar only itself.
inductive Alike (amount? : Scalar → Option Amount) : Value → Value → Prop
  | itself {s : Scalar} (h : amount? s = none) : Alike amount? (.scalar s) (.scalar s)
  | number {s t : Scalar} {p : Amount} (hs : amount? s = some p) (ht : amount? t = some p) :
    Alike amount? (.scalar s) (.scalar t)
  | list {xs ys : List Value} (h : List.Forall₂ (Alike amount?) xs ys) : Alike amount? (.list xs) (.list ys)
  | map {es fs : Entries} (keys : ∀ name, .text name ∈ es.keys ↔ .text name ∈ fs.keys)
    (values : ∀ name v w, es.get? name = some v → fs.get? name = some w → Alike amount? v w) :
    Alike amount? (.map es) (.map fs)

variable {v w : Value} {xs ys : List Value} {es fs : Entries} {amount? : Scalar → Option Amount}

theorem alike_list : Alike amount? (.list xs) (.list ys) ↔ List.Forall₂ (Alike amount?) xs ys where
  mp h  := by
    cases h
    case list h => exact h
  mpr h := .list h

theorem alike_map : Alike amount? (.map es) (.map fs) ↔ Entries.Paired (Alike amount?) es fs where
  mp h  := by
    cases h
    case map keys values => exact ⟨keys, values⟩
  mpr h := .map h.keys h.values

section Equivalence

theorem hereditary_alike_refl : Hereditary fun v => Alike amount? v v where
  scalar s := by
    cases h : amount? s
    case none   => exact .itself h
    case some p => exact .number h h
  list _ hi := .list (List.forall₂_same.mpr hi)
  map _ hi  := alike_map.mpr (.refl hi)

theorem hereditary_alike_symm : Hereditary fun v => ∀ w, Alike amount? v w → Alike amount? w v where
  scalar s w h := by
    cases h
    case itself h     => exact .itself h
    case number ht hs => exact .number ht hs
  list xs hi w h := by
    cases h
    case list h => exact .list (forall₂_of_mem h.flip fun y _ x hx => hi x hx y)
  map es hi w h := by
    cases h
    case map keys values =>
      have h : Entries.Paired _ es _ := ⟨keys, values⟩
      exact alike_map.mpr (h.symm.of_mem fun f _ e he => hi e he f.2)

theorem hereditary_alike_trans :
    Hereditary fun v => ∀ w x, Alike amount? v w → Alike amount? w x → Alike amount? v x where
  scalar s w x h h' := by
    cases h
    case itself => exact h'
    case number ht hs =>
      cases h'
      case itself hn => simp [hn] at ht
      case number hx ht' =>
        rw [ht] at ht'
        exact .number hs (ht' ▸ hx)
  list xs hi w x h h' := by
    cases h
    case list h =>
      cases h'
      case list h' => exact .list (forall₂_trans h h' hi)
  map es hi w x h h' := by
    cases h
    case map keys values =>
      cases h'
      case map keys' values' =>
        have h : Entries.Paired _ es _ := ⟨keys, values⟩
        exact alike_map.mpr (h.trans ⟨keys', values'⟩ hi)

end Equivalence

theorem sameItems_iff : sameItems xs ys = true ↔ List.Forall₂ (fun x y => x.same y = true) xs ys := by
  induction xs generalizing ys <;> cases ys <;> simp [sameItems, *]

theorem sameEntries_iff :
    sameEntries es fs = true ↔ ∀ e ∈ es, ∃ w, fs.find? e.1 = some w ∧ e.2.same w = true := by
  induction es
  case nil => simp [sameEntries]
  case cons e rest hi =>
    rw [sameEntries, Bool.and_eq_true, hi, List.forall_mem_cons]
    cases fs.find? e.1 <;> simp

theorem hereditary_same : Hereditary fun v =>
    ∀ w, v.Definite → w.Definite → (v.same w = true ↔ Alike Scalar.tally? v w) where
  scalar s w hv hw := by
    cases hv
    case scalar hs =>
      cases w
      case scalar t =>
        rw [same, Scalar.same_iff hs]
        constructor
        · rintro (⟨rfl, hn⟩ | ⟨p, hp, hq⟩)
          · exact .itself hn
          · exact .number hp hq
        · intro h
          cases h
          case itself h     => exact .inl ⟨rfl, h⟩
          case number hp hq => exact .inr ⟨_, hp, hq⟩
      all_goals exact iff_of_false (by simp [same]) nofun
  list xs hi w hv hw := by
    cases hv
    case list hv =>
      cases hw
      case list ys hw =>
        rw [same, sameItems_iff, alike_list]
        have hi (x) (hx : x ∈ xs) (y) (hy : y ∈ ys) := hi x hx y (hv x hx) (hw y hy)
        exact ⟨fun h => forall₂_of_mem h fun x hx y hy => (hi x hx y hy).mp,
          fun h => forall₂_of_mem h fun x hx y hy => (hi x hx y hy).mpr⟩
      all_goals exact iff_of_false (by simp [same]) nofun
  map es hi w hv hw := by
    cases hv
    case map ht hd hv =>
      cases hw
      case map fs ht' hd' hw =>
        rw [same, Bool.and_eq_true, beq_iff_eq, sameEntries_iff, alike_map,
          ← Entries.paired_iff (R := fun v w => v.same w = true) ht hd ht' hd']
        have hi (e) (he : e ∈ es) (f) (hf : f ∈ fs) := hi e he f.2 (hv e he) (hw f hf)
        exact ⟨fun h => h.of_mem fun e he f hf => (hi e he f hf).mp,
          fun h => h.of_mem fun e he f hf => (hi e he f hf).mpr⟩
      all_goals exact iff_of_false (by simp [same]) nofun

def isTruth : Value → Bool
  | scalar s => s.isTruth
  | _        => false

-- Only the outermost values are asked whether they are truth values.
theorem strictEquals_eq : v.strictEquals w = (v.same w && v.isTruth == w.isTruth) := by
  cases v <;> cases w
  case scalar.scalar s t =>
    cases s <;> cases t <;>
      simp [strictEquals, same, isTruth, Scalar.isTruth, Scalar.same, Scalar.numericOrder?, Scalar.countsAs]
    case bool.bool a b => cases a <;> cases b <;> simp
  case scalar.list s xs => cases s <;> rfl
  case scalar.map s es  => cases s <;> rfl
  case list.scalar xs s => cases s <;> rfl
  case map.scalar es s  => cases s <;> rfl
  all_goals simp [strictEquals, isTruth]

theorem strictEquals_iff (hv : v.Definite) (hw : w.Definite) :
    v.strictEquals w = true ↔ Alike Scalar.tally? v w ∧ v.isTruth = w.isTruth := by
  rw [strictEquals_eq, Bool.and_eq_true, beq_iff_eq, hereditary_same.holds v w hv hw]

-- A truth value stands against a number, at the same place in two values.
inductive Mixed : Value → Value → Prop
  | left {b : Bool} {t : Scalar} (h : t.amount? ≠ none) : Mixed (bool b) (.scalar t)
  | right {s : Scalar} {b : Bool} (h : s.amount? ≠ none) : Mixed (.scalar s) (bool b)
  | item {xs ys : List Value} {v w : Value} (hm : (v, w) ∈ xs.zip ys) (h : Mixed v w) : Mixed (.list xs) (.list ys)
  | entry {es fs : Entries} {v w : Value} (name : String) (hv : es.get? name = some v)
    (hw : fs.get? name = some w) (h : Mixed v w) : Mixed (.map es) (.map fs)

theorem mixed_scalar {s t : Scalar} : Mixed (.scalar s) (.scalar t) ↔
    s.isTruth = true ∧ t.amount? ≠ none ∨ s.amount? ≠ none ∧ t.isTruth = true where
  mp h := by
    cases h
    case left h  => exact .inl ⟨rfl, h⟩
    case right h => exact .inr ⟨h, rfl⟩
  mpr h := by
    rcases h with ⟨hs, ht⟩ | ⟨hs, ht⟩
    · cases s <;> first | exact .left ht | cases hs
    · cases t <;> first | exact .right hs | cases ht

theorem alike_scalar {s t : Scalar} : Alike amount? (.scalar s) (.scalar t) ↔
    s = t ∧ amount? s = none ∨ ∃ p, amount? s = some p ∧ amount? t = some p where
  mp h := by
    cases h
    case itself h     => exact .inl ⟨rfl, h⟩
    case number hs ht => exact .inr ⟨_, hs, ht⟩
  mpr h := by
    rcases h with ⟨rfl, hn⟩ | ⟨p, hs, ht⟩
    · exact .itself hn
    · exact .number hs ht

-- Where no truth value stands against a number, it makes no difference that truth values count.
theorem hereditary_alike_iff : Hereditary fun v =>
    ∀ w, Alike Scalar.amount? v w ↔ Alike Scalar.tally? v w ∧ ¬Mixed v w where
  scalar s w := by
    cases w
    case scalar t =>
      rw [alike_scalar, alike_scalar, mixed_scalar]
      cases s <;> cases t <;> simp [Scalar.tally?, Scalar.countsAs, Scalar.isTruth, Scalar.amount?]
      case bool.bool a b            => cases a <;> cases b <;> simp
      case bool.double | double.bool => intro h; simp [h]
    all_goals exact iff_of_false (fun h => by cases h) fun h => by cases h.left
  list xs hi w := by
    cases w
    case list ys =>
      rw [alike_list, alike_list, List.forall₂_iff_zip, List.forall₂_iff_zip]
      constructor
      · rintro ⟨hl, h⟩
        have h {x y} (hm : (x, y) ∈ xs.zip ys) := (hi x (List.of_mem_zip hm).left y).mp (h hm)
        refine ⟨⟨hl, fun hm => (h hm).left⟩, fun hmix => ?_⟩
        cases hmix
        case item hmix hm => exact (h hm).right hmix
      · rintro ⟨⟨hl, h⟩, hn⟩
        exact ⟨hl, fun hm => (hi _ (List.of_mem_zip hm).left _).mpr ⟨h hm, fun hmix => hn (.item hm hmix)⟩⟩
    all_goals exact iff_of_false (fun h => by cases h) fun h => by cases h.left
  map es hi w := by
    cases w
    case map fs =>
      rw [alike_map, alike_map]
      constructor
      · intro h
        refine ⟨h.of_mem fun e he f _ hef => ((hi e he f.2).mp hef).left, fun hmix => ?_⟩
        cases hmix
        case entry name hmix hv hw =>
          exact ((hi _ (Entries.mem_of_get? hv) _).mp (h.values name _ _ hv hw)).right hmix
      · rintro ⟨h, hn⟩
        refine ⟨h.keys, fun name v w hv hw => (hi _ (Entries.mem_of_get? hv) w).mpr ?_⟩
        exact ⟨h.values name v w hv hw, fun hmix => hn (.entry name hv hw hmix)⟩
    all_goals exact iff_of_false (fun h => by cases h) fun h => by cases h.left

end Value

end FlowGate
