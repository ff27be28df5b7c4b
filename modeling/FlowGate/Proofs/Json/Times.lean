import FlowGate.Json.Document
import FlowGate.Proofs.Json.Plain

-- Times of day in values. They are the one kind of value that a document takes over as it is, so what keeps
-- the document of a value from being plain is a time of day in the value.

namespace FlowGate

variable {q : ClockTime → Prop}

namespace Value

-- The times of day in a value, wherever in it they are, are among these. Keys of mappings do not count.
inductive TimesIn (q : ClockTime → Prop) : Value → Prop
  | scalar {s : Scalar} (h : ∀ t, s = .clock t → q t) : TimesIn q (.scalar s)
  | list {xs : List Value} (h : ∀ x ∈ xs, TimesIn q x) : TimesIn q (.list xs)
  | map {es : Entries} (h : ∀ e ∈ es, TimesIn q e.2) : TimesIn q (.map es)

-- A value that is plain but for times of day, which are among these.
inductive PlainBut (q : ClockTime → Prop) : Value → Prop
  | token {s : Scalar} (h : s.isToken = true) : PlainBut q (.scalar s)
  | text (s : String) : PlainBut q (.scalar (.text s))
  | clock {t : ClockTime} (h : q t) : PlainBut q (.scalar (.clock t))
  | list {xs : List Value} (h : ∀ x ∈ xs, PlainBut q x) : PlainBut q (.list xs)
  | map {es : Entries} (texts : ∀ k ∈ es.keys, ∃ name, k = .text name) (distinct : es.keys.Nodup)
    (values : ∀ e ∈ es, PlainBut q e.2) : PlainBut q (.map es)

variable {v : Value} {vs : List Value} {es : Entries} {fields : List (String × Value)}

@[simp] theorem timesIn_scalar {s : Scalar} : (Value.scalar s).TimesIn q ↔ ∀ t, s = .clock t → q t where
  mp h  := by
    cases h
    case scalar h => exact h
  mpr h := .scalar h

@[simp] theorem timesIn_list : (Value.list vs).TimesIn q ↔ ∀ x ∈ vs, x.TimesIn q where
  mp h  := by
    cases h
    case list h => exact h
  mpr h := .list h

@[simp] theorem timesIn_map : (Value.map es).TimesIn q ↔ ∀ e ∈ es, e.2.TimesIn q where
  mp h  := by
    cases h
    case map h => exact h
  mpr h := .map h

theorem timesIn_missing : missing.TimesIn q := by
  simp

theorem timesIn_text (s : String) : (text s).TimesIn q := by
  simp

-- Without any times of day, nothing else is left but what is plain.
theorem PlainBut.isPlain (h : v.PlainBut q) (hq : ∀ t, ¬q t) : v.IsPlain := by
  induction h
  case token h             => exact .token h
  case text s              => exact .text s
  case clock t h           => exact absurd h (hq t)
  case list hi             => exact .list hi
  case map texts hd _ hi   => exact .map texts hd hi

theorem PlainBut.timesIn (h : v.PlainBut q) : v.TimesIn q := by
  induction h
  case token h =>
    refine .scalar fun t ht => ?_
    subst ht
    cases h
  case text    => exact timesIn_text _
  case clock h => simpa using h
  case list hi => exact .list hi
  case map hi  => exact .map hi

theorem plainBut_bool (b : Bool) : (bool b).PlainBut q :=
  .token rfl

theorem plainBut_int (n : Int) : (int n).PlainBut q :=
  .token rfl

theorem plainBut_null : null.PlainBut q :=
  .token rfl

theorem plainBut_optionalText : ∀ s : Option String, (optionalText s).PlainBut q
  | none   => plainBut_null
  | some s => .text s

theorem plainBut_texts (ss : List String) : (texts ss).PlainBut q :=
  .list (List.forall_mem_map.mpr fun s _ => .text s)

theorem plainBut_record (hd : (fields.map (·.1)).Nodup) (h : ∀ f ∈ fields, f.2.PlainBut q) :
    (record fields).PlainBut q := by
  refine .map ?_ ?_ (List.forall_mem_map.mpr h)
  · simp only [Entries.keys, List.map_map, List.forall_mem_map]
    exact fun f _ => ⟨f.1, rfl⟩
  · have hk : Entries.keys (fields.map fun f => (.text f.1, f.2)) = (fields.map (·.1)).map .text := by
      simp [Entries.keys]
    exact hk ▸ hd.map fun _ _ => Scalar.text.inj

-- A member that is there only sometimes does not stand in the way.
theorem plainBut_record_append {name : String} {p : Prop} [Decidable p]
    (hd : (fields.map (·.1) ++ [name]).Nodup) (h : ∀ f ∈ fields, f.2.PlainBut q) (hv : v.PlainBut q) :
    (record (fields ++ if p then [] else [(name, v)])).PlainBut q := by
  split
  case isTrue  => exact plainBut_record (by simpa using hd.of_append_left) (by simpa using h)
  case isFalse =>
    refine plainBut_record (by simpa using hd) (List.forall_mem_append.mpr ⟨h, ?_⟩)
    exact List.forall_mem_singleton.mpr hv

end Value

namespace Entries

open Value

variable {es base other : Entries} {key : Scalar} {v : Value}

theorem mem_of_find? (h : find? es key = some v) : ∃ e ∈ es, e.2 = v := by
  obtain ⟨e, he, hv⟩ := Option.map_eq_some_iff.mp h
  exact ⟨e, List.mem_of_find?_eq_some he, hv⟩

-- What holds of the values of two mappings, holds of those that are put together from them.
theorem forall_insert {P : Value → Prop} (h : ∀ e ∈ es, P e.2) (hv : P v) :
    ∀ e ∈ insert es key v, P e.2 := by
  induction es
  case nil => exact List.forall_mem_singleton.mpr hv
  case cons e rest hi =>
    have ⟨he, hr⟩ := List.forall_mem_cons.mp h
    rw [insert]
    split
    case isTrue  => exact List.forall_mem_cons.mpr ⟨hv, hr⟩
    case isFalse => exact List.forall_mem_cons.mpr ⟨he, hi hr⟩

theorem forall_merge {P : Value → Prop} (h : ∀ e ∈ base, P e.2) (h' : ∀ e ∈ other, P e.2) :
    ∀ e ∈ merge base other, P e.2 := by
  induction other generalizing base
  case nil => exact h
  case cons e rest hi =>
    have ⟨he, hr⟩ := List.forall_mem_cons.mp h'
    exact hi (forall_insert h he) hr

-- A text that is put in among texts comes once.
theorem nodup_insert {name : String} (ht : ∀ k ∈ es.keys, ∃ s, k = .text s) (hd : es.keys.Nodup) :
    (keys (insert es (.text name) v)).Nodup := by
  induction es
  case nil => exact List.nodup_singleton _
  case cons e rest hi =>
    have ⟨⟨s, hs⟩, ht⟩ := List.forall_mem_cons.mp ht
    have ⟨hn, hd⟩ := List.nodup_cons.mp hd
    rw [insert]
    split
    case isTrue => exact List.nodup_cons.mpr ⟨hn, hd⟩
    case isFalse hk =>
      refine List.nodup_cons.mpr ⟨fun hm => ?_, hi ht hd⟩
      rcases mem_keys_of_insert hm with hm | hm
      case inl => exact hn hm
      case inr =>
        have hm : e.1 = .text name := hm
        exact hk (by rw [hm]; exact beq_self_eq_true name)

theorem keys_ofList (pairs : Entries) (h : ∀ p ∈ pairs, ∃ name, p.1 = .text name) :
    (∀ k ∈ keys (ofList pairs), ∃ name, k = .text name) ∧ (keys (ofList pairs)).Nodup := by
  suffices hm : ∀ base : Entries, (∀ k ∈ base.keys, ∃ name, k = .text name) → base.keys.Nodup →
      (∀ k ∈ keys (merge base pairs), ∃ name, k = .text name) ∧ (keys (merge base pairs)).Nodup from
    hm [] (List.forall_mem_nil _) List.nodup_nil
  induction pairs
  case nil => exact fun base ht hd => ⟨ht, hd⟩
  case cons p rest hi =>
    intro base ht hd
    have ⟨⟨name, hp⟩, hr⟩ := List.forall_mem_cons.mp h
    refine hi hr (insert base p.1 p.2) (fun k hk => ?_) (hp ▸ nodup_insert ht hd)
    rcases mem_keys_of_insert hk with hk | hk
    case inl => exact ht k hk
    case inr => exact ⟨name, hk.trans hp⟩

end Entries

namespace Json

open Value

theorem documents_eq (vs : List Value) : documents vs = vs.map document := by
  induction vs <;> simp [documents, *]

theorem members_eq (es : Entries) : members es = es.map fun e => (.text e.1.plain, document e.2) := by
  induction es <;> simp [members, *]

theorem hereditary_plainBut : Hereditary fun v => v.TimesIn q → (document v).PlainBut q where
  scalar s h := by
    cases h
    case scalar h =>
      cases s
      case clock t                       => exact .clock (h t rfl)
      case text s                        => exact .text s
      case date | moment                 => exact .text _
      case missing | null | bool | int | double => exact .token rfl
  list xs hi h := by
    rw [document, documents_eq]
    exact .list (List.forall_mem_map.mpr fun x hx => hi x hx (timesIn_list.mp h x hx))
  map es hi h := by
    rw [document, members_eq]
    have ⟨ht, hd⟩ := Entries.keys_ofList (es.map fun e => (.text e.1.plain, document e.2))
      (List.forall_mem_map.mpr fun e _ => ⟨e.1.plain, rfl⟩)
    refine .map ht hd (Entries.forall_merge (List.forall_mem_nil _) ?_)
    exact List.forall_mem_map.mpr fun e he => hi e he (timesIn_map.mp h e he)

theorem document_plainBut {v : Value} (h : v.TimesIn q) : (document v).PlainBut q :=
  hereditary_plainBut.holds v h

end Json

end FlowGate
