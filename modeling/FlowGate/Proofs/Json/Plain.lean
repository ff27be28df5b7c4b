import FlowGate.Proofs.Entries
import FlowGate.Proofs.Json.Scalar
import FlowGate.Proofs.Json.Written
import Mathlib.Data.List.Nodup
import Mathlib.Data.List.Perm.Basic
import Mathlib.Data.String.Basic

-- Values that documents have a form of their own for, and their documents with sorted keys.

namespace FlowGate

namespace Value

inductive IsPlain : Value → Prop
  | token {s : Scalar} (h : s.isToken = true) : IsPlain (.scalar s)
  | text (s : String) : IsPlain (.scalar (.text s))
  | list {xs : List Value} (h : ∀ x ∈ xs, IsPlain x) : IsPlain (.list xs)
  -- the keys are texts, and no two of them are the same
  | map {es : Entries} (texts : ∀ k ∈ es.keys, ∃ name, k = .text name) (distinct : es.keys.Nodup)
    (values : ∀ e ∈ es, IsPlain e.2) : IsPlain (.map es)

-- A value of which all the scalars are among these, but for its keys.
inductive BuiltOf (p : Scalar → Prop) : Value → Prop
  | scalar {s : Scalar} (h : p s) : BuiltOf p (.scalar s)
  | list {xs : List Value} (h : ∀ x ∈ xs, BuiltOf p x) : BuiltOf p (.list xs)
  | map {es : Entries} (texts : ∀ k ∈ es.keys, ∃ name, k = .text name) (distinct : es.keys.Nodup)
    (values : ∀ e ∈ es, BuiltOf p e.2) : BuiltOf p (.map es)

theorem IsPlain.builtOf {v : Value} (h : IsPlain v) : v.BuiltOf fun _ => True := by
  induction h
  case token           => exact .scalar trivial
  case text            => exact .scalar trivial
  case list hi         => exact .list hi
  case map hk hd _ hi  => exact .map hk hd hi

end Value

namespace Json

open Value

variable {α β : Type} {ps qs : List (Scalar × α)} {v : Value} {xs : List Value} {es : Entries}

def TextKeys (ps : List (Scalar × α)) : Prop :=
  ∀ k ∈ ps.map (·.1), ∃ name, k = .text name

theorem TextKeys.perm (h : TextKeys ps) (hp : qs.Perm ps) : TextKeys qs :=
  fun k hk => h k ((hp.map _).subset hk)

-- Pairs in the ascending order of their keys.
def byKey (ps : List (Scalar × α)) : List (Scalar × α) :=
  ps.mergeSort fun a b => keyOrder? a.1 b.1 != some .gt

theorem byKey_perm (ps : List (Scalar × α)) : (byKey ps).Perm ps :=
  List.mergeSort_perm ..

theorem byKey_map (f : α → β) (ps : List (Scalar × α)) :
    (byKey ps).map (fun p => (p.1, f p.2)) = byKey (ps.map fun p => (p.1, f p.2)) :=
  List.map_mergeSort fun _ _ _ _ => rfl

theorem TextKeys.exists_map (h : TextKeys ps) :
    ∃ named : List (String × α), ps = named.map fun p => (.text p.1, p.2) := by
  induction ps
  case nil => exact ⟨[], rfl⟩
  case cons p rest hi =>
    have ⟨hp, hr⟩ := List.forall_mem_cons.mp h
    have ⟨name, hn⟩ := hp
    have ⟨named, hr⟩ := hi hr
    exact ⟨(name, p.2) :: named, by rw [hr, List.map_cons, ← hn]⟩

-- Only among texts is the order of keys total.
theorem byKey_pairwise (h : TextKeys ps) :
    (byKey ps).Pairwise fun p q => ∃ s t, p.1 = .text s ∧ q.1 = .text t ∧ s ≤ t := by
  obtain ⟨named, rfl⟩ := h.exists_map
  have hm := List.map_mergeSort (l := named) (r := fun a b => decide (a.1 ≤ b.1))
    (s := fun a b => keyOrder? a.1 b.1 != some .gt) (f := fun p => (Scalar.text p.1, p.2))
    fun _ _ _ _ => Bool.eq_iff_iff.mpr (by simp [keyOrder?, compare_le_iff_le])
  rw [byKey, ← hm, List.pairwise_map]
  refine (List.pairwise_mergeSort ?_ ?_ _).imp fun h => ⟨_, _, rfl, rfl, of_decide_eq_true h⟩
  · intro a b c hab hbc
    exact decide_eq_true ((of_decide_eq_true hab).trans (of_decide_eq_true hbc))
  · intro a b
    simpa using le_total a.1 b.1

-- Pairs with different keys have one order.
theorem byKey_eq_of_perm (h : TextKeys ps) (hd : (ps.map (·.1)).Nodup) (hp : qs.Perm ps) :
    byKey qs = byKey ps := by
  refine List.Perm.eq_of_pairwise ?_ (byKey_pairwise (h.perm hp)) (byKey_pairwise h)
    ((byKey_perm qs).trans (hp.trans (byKey_perm ps).symm))
  rintro p q hm hn ⟨s, t, hs, ht, hst⟩ ⟨t', s', ht', hs', hts⟩
  have hm := hp.subset ((byKey_perm qs).subset hm)
  have hn := (byKey_perm ps).subset hn
  refine List.inj_on_of_nodup_map hd hm hn ?_
  obtain rfl := Scalar.text.inj (hs.symm.trans hs')
  obtain rfl := Scalar.text.inj (ht.symm.trans ht')
  rw [hs, ht, le_antisymm hst hts]

theorem sortable_of_textKeys (h : TextKeys ps) : sortable (ps.map (·.1)) = true := by
  have hall : (ps.map (·.1)).all sortable.isText = true := by
    rw [List.all_eq_true]
    intro k hk
    obtain ⟨name, rfl⟩ := h k hk
    rfl
  unfold sortable
  split
  case h_1 => rfl
  case h_2 => rfl
  case h_3 => rw [hall, Bool.true_or]

-- Values have documents, whatever scalars they are built of.
theorem hereditary_writes {p : Scalar → Prop} (style : Style) :
    Hereditary fun v => v.BuiltOf p → ∃ t, write style v = .ok t where
  scalar s _ := ⟨_, rfl⟩
  list xs hi h := by
    cases h
    case list h =>
      have ⟨ts, hts⟩ := exists_forall₂ fun x hx => hi x hx (h x hx)
      exact ⟨_, write_list.mpr ⟨ts, hts, String.toList_ofList⟩⟩
  map es hi h := by
    cases h
    case map hk hd hv =>
      have hw : ∀ e ∈ es, ∃ m, Writes style e m := by
        intro e he
        have ⟨name, hn⟩ := hk e.1 (List.mem_map_of_mem he)
        have ⟨t, ht⟩ := hi e he (hv e he)
        exact ⟨(e.1, name, t), rfl, by rw [hn, keyText], ht⟩
      have ⟨ms, hms⟩ := exists_forall₂ hw
      have hkeys : es.map (·.1) = ms.map (·.1) := map_eq_of_forall₂ (hms.imp fun _ _ h => h.key.symm)
      have hs : sortable (es.map (·.1)) = true := sortable_of_textKeys hk
      exact ⟨_, write_map.mpr ⟨ms, hms, fun _ => hkeys ▸ hs, String.toList_ofList⟩⟩

-- The document of a value with its keys in order. It is empty where there is none.
def sortedChars (v : Value) : List Char :=
  match printSorted v with
  | .ok t    => t.toList
  | .error _ => []

theorem sortedChars_eq {t : String} (h : printSorted v = .ok t) : sortedChars v = t.toList := by
  rw [sortedChars, h]

theorem printSorted_eq (h : IsPlain v) : printSorted v = .ok (String.ofList (sortedChars v)) := by
  obtain ⟨t, ht⟩ : ∃ t, printSorted v = .ok t := (hereditary_writes _).holds v h.builtOf
  rw [sortedChars_eq ht, String.ofList_toList, ht]

-- The members of a mapping with their documents.
def written (es : Entries) : List (Scalar × List Char) :=
  es.map fun e => (e.1, sortedChars e.2)

theorem keys_written (es : Entries) : (written es).map (·.1) = es.keys := by
  simp [written, Entries.keys]

theorem written_eq {es fs : Entries} (hk : es.keys = fs.keys)
    (hv : (es.map (·.2)).map sortedChars = (fs.map (·.2)).map sortedChars) : written es = written fs := by
  have hz (es : Entries) : written es = es.keys.zip ((es.map (·.2)).map sortedChars) := by
    rw [List.map_map]
    exact List.zip_map'.symm
  rw [hz, hz, hk, hv]

def memberChars (p : Scalar × List Char) : List Char :=
  (Text.quoted p.1.plain).toList ++ ':' :: ' ' :: p.2

theorem sortedChars_list (h : IsPlain (.list xs)) :
    sortedChars (.list xs) = '[' :: joined (xs.map sortedChars) ++ [']'] := by
  have ⟨ts, hts, ht⟩ := write_list.mp (printSorted_eq h)
  have hm : xs.map sortedChars = ts.map String.toList :=
    map_eq_of_forall₂ (hts.imp fun _ _ => sortedChars_eq)
  rw [hm, ← ht, String.toList_ofList]

theorem sortedChars_map (h : IsPlain (.map es)) :
    sortedChars (.map es) =
      '\x7b' :: joined ((byKey (written es)).map memberChars) ++ ['\x7d'] := by
  have ⟨ms, hms, _, ht⟩ := write_map.mp (printSorted_eq h)
  have hes : written es = ms.map fun m => (m.1, m.2.2.toList) :=
    map_eq_of_forall₂ (hms.imp fun _ _ h => Prod.ext h.key.symm (sortedChars_eq h.value))
  have hm : (byKey ms).map Member.chars = (byKey ms).map fun m => memberChars (m.1, m.2.2.toList) := by
    refine List.map_congr_left fun m hm => ?_
    have ⟨e, he, hw⟩ := exists_of_mem hms ((byKey_perm ms).subset hm)
    cases h
    case map hk _ _ =>
      have ⟨name, hn⟩ := hk e.1 (List.mem_map_of_mem he)
      have hname := hw.name
      rw [hn, keyText, Except.ok.injEq] at hname
      rw [Member.chars, memberChars, hw.key, hn, Scalar.plain, hname]
  have hb := byKey_map (fun texts : String × String => texts.2.toList) ms
  rw [← String.toList_ofList (l := sortedChars (.map es)), ht, hes, ← hb, List.map_map, arranged, if_pos rfl]
  exact congrArg (fun pieces => '\x7b' :: joined pieces ++ ['\x7d']) hm

end Json

end FlowGate
