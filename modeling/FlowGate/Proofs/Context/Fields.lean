import FlowGate.Context
import FlowGate.Proofs.Path
import FlowGate.Proofs.Text.Split

-- What field paths find in a context. The record of the execution stands before the variables, and these before
-- what triggered the workflow; from there on a path leads through mappings and lists.

namespace FlowGate

open Value

namespace Entries

variable {es base other : Entries} {e : Scalar × Value} {k key : Scalar} {v : Value} {name : String}

theorem text_same_iff : (Scalar.text name).same k = true ↔ k = .text name := by
  cases k
  case text other => simp [Scalar.same, @eq_comm _ other]
  all_goals simp [Scalar.same, Scalar.numericOrder?, Scalar.countsAs]

theorem get?_cons : get? (e :: es) name = if e.1 = .text name then some e.2 else get? es name := by
  by_cases h : e.1 = .text name
  case pos =>
    obtain ⟨k, v⟩ := e
    rw [if_pos h, show k = .text name from h, get?_cons_self]
  case neg => simp [get?, find?, mt same_text_iff.mp h, h]

theorem get?_insert : get? (insert es key v) name = if key = .text name then some v else get? es name := by
  induction es
  case nil => exact get?_cons
  case cons e rest hi =>
    have hsame : e.1 = .text name → (e.1.same key = true ↔ key = .text name) := by
      rintro he
      rw [he, text_same_iff]
    rw [insert]
    split
    case isTrue hs =>
      have hk : e.1 = .text name ↔ key = .text name :=
        ⟨fun he => (hsame he).mp hs, fun hk => same_text_iff.mp (hk ▸ hs)⟩
      simp only [get?_cons, hk]
      split <;> rfl
    case isFalse hs =>
      simp only [get?_cons, hi]
      by_cases he : e.1 = .text name
      case pos => rw [if_pos he, if_neg fun hk => hs ((hsame he).mpr hk), if_pos he]
      case neg => simp only [if_neg he]

-- The later of two values that are put in under one key wins.
theorem get?_merge (h : other.Single) : get? (merge base other) name = (get? other name).or (get? base name) := by
  induction other generalizing base
  case nil => rfl
  case cons e rest hi =>
    have hr : Single rest := fun name v w hv hw => h name v w (.tail _ hv) (.tail _ hw)
    change get? (merge (insert base e.1 e.2) rest) name = _
    rw [hi hr, get?_insert, get?_cons]
    by_cases hk : e.1 = .text name
    case neg => simp only [if_neg hk]
    case pos =>
      simp only [if_pos hk, Option.some_or]
      cases hg : get? rest name
      case none   => rfl
      case some w => rw [h name w e.2 (.tail _ (mem_of_get? hg)) (hk ▸ .head _), Option.some_or]

end Entries

theorem Path.dotted_intercalate {segments : List String} (hne : segments ≠ []) (hd : ∀ s ∈ segments, '.' ∉ s.toList) :
    dotted (".".intercalate segments) = segments := by
  obtain ⟨first, rest, rfl⟩ := List.exists_cons_of_ne_nil hne
  obtain ⟨hfirst, hrest⟩ := List.forall_mem_cons.mp hd
  have hchars : (".".intercalate (first :: rest)).toList =
      first.toList ++ (rest.map String.toList).flatMap ('.' :: ·) := by
    rw [String.toList_intercalate, List.map_cons]
    exact Text.intercalate_cons '.' _ _
  rw [dotted, hchars, Text.splitChars_joined hfirst (List.forall_mem_map.mpr hrest)]
  simp [Function.comp_def]

namespace Context

variable {c : Context} {first : String} {rest segments : List String} {v w : Value}

-- Nothing is missing in the data of the context, and every key in it stands for one value.
structure Complete (c : Context) : Prop where
  trigger     : (map c.trigger).Keyed (· ≠ .missing)
  vars        : (map c.vars).Keyed (· ≠ .missing)
  executionId : c.executionId.Keyed (· ≠ .missing)
  workflowId  : c.workflowId.Keyed (· ≠ .missing)
  userId      : c.userId.Keyed (· ≠ .missing)
  startedAt   : c.startedAt.Keyed (· ≠ .missing)

-- What the first segment of a path names.
inductive Names (c : Context) : String → Value → Prop
  | record : Names c "_meta" c.record
  | bound {name : String} {v : Value} (hr : name ≠ "_meta") (hv : (.text name, v) ∈ c.vars) : Names c name v
  | given {name : String} {v : Value} (hr : name ≠ "_meta") (hv : .text name ∉ Entries.keys c.vars)
    (ht : (.text name, v) ∈ c.trigger) : Names c name v

inductive Finds (c : Context) : List String → Value → Prop
  | leads {first : String} {rest : List String} {v w : Value} (hn : c.Names first v) (hl : Path.Leads v rest w) :
    Finds c (first :: rest) w

inductive Loses (c : Context) : List String → Prop
  | first {first : String} {rest : List String} (h : ∀ v, ¬c.Names first v) : Loses c (first :: rest)
  | further {first : String} {rest : List String} {v : Value} (hn : c.Names first v) (hb : Path.Breaks v rest) :
    Loses c (first :: rest)

theorem Complete.record (h : c.Complete) : c.record.Keyed (· ≠ .missing) := by
  refine .map (Entries.single_of_nodup (by simp [Entries.keys])) ?_
  simp only [List.forall_mem_map, List.forall_mem_cons]
  exact ⟨h.executionId, h.workflowId, h.userId, h.startedAt, List.forall_mem_nil _⟩

theorem Complete.single (h : c.Complete) : Entries.Single c.trigger ∧ Entries.Single c.vars := by
  cases h.trigger
  case map ht _ =>
    cases h.vars
    case map hv _ => exact ⟨ht, hv⟩

theorem get?_scope (ht : Entries.Single c.trigger) (hv : Entries.Single c.vars) : Entries.get? c.scope first =
    if first = "_meta" then some c.record
    else (Entries.get? c.vars first).or (Entries.get? c.trigger first) := by
  have hnil : Entries.get? [] first = none := rfl
  rw [scope, Entries.get?_insert, Entries.get?_merge hv, Entries.get?_merge ht, hnil, Option.or_none]
  simp only [Scalar.text.injEq, @eq_comm _ first]

theorem names_iff (h : c.Complete) : c.Names first v ↔ Entries.get? c.scope first = some v := by
  obtain ⟨ht, hv⟩ := h.single
  rw [get?_scope ht hv]
  split
  case isTrue hr =>
    subst hr
    constructor
    · intro hn
      cases hn
      case record       => rfl
      case bound hr _   => exact absurd rfl hr
      case given hr _ _ => exact absurd rfl hr
    · intro hv
      cases hv
      exact .record
  case isFalse hr =>
    rw [Option.or_eq_some_iff, hv.get?_eq_some_iff, ht.get?_eq_some_iff, Entries.get?_eq_none_iff]
    constructor
    · intro hn
      cases hn
      case record      => exact absurd rfl hr
      case bound hv    => exact .inl hv
      case given hv ht => exact .inr ⟨hv, ht⟩
    · rintro (hv | ⟨hv, ht⟩)
      · exact .bound hr hv
      · exact .given hr hv ht

theorem Names.keyed (hn : c.Names first v) (h : c.Complete) : v.Keyed (· ≠ .missing) := by
  cases hn
  case record => exact h.record
  case bound hm =>
    cases h.vars
    case map hv => exact hv _ hm
  case given hm =>
    cases h.trigger
    case map ht => exact ht _ hm

theorem resolveField_cons (hd : ∀ s ∈ first :: rest, '.' ∉ s.toList) :
    c.resolveField (".".intercalate (first :: rest)) =
      match Entries.get? c.scope first with
      | some v => Path.walk v rest
      | none => missing := by
  rw [resolveField, Path.dotted_intercalate (List.cons_ne_nil _ _) hd]
  rfl

theorem finds_or_loses (c : Context) (hne : segments ≠ []) : (∃ v, c.Finds segments v) ∨ c.Loses segments := by
  obtain ⟨first, rest, rfl⟩ := List.exists_cons_of_ne_nil hne
  by_cases hn : ∃ v, c.Names first v
  case neg => exact .inr (.first (not_exists.mp hn))
  case pos =>
    obtain ⟨v, hn⟩ := hn
    exact (Path.leads_or_breaks v rest).imp (fun ⟨w, hl⟩ => ⟨w, .leads hn hl⟩) (.further hn)

theorem Finds.resolveField_eq (hf : c.Finds segments v) (h : c.Complete) (hd : ∀ s ∈ segments, '.' ∉ s.toList) :
    c.resolveField (".".intercalate segments) = v := by
  cases hf
  case leads hn hl =>
    rw [resolveField_cons hd, (names_iff h).mp hn]
    exact hl.walk_eq (hn.keyed h)

theorem Finds.ne_missing (hf : c.Finds segments v) (h : c.Complete) : v ≠ missing := by
  rintro rfl
  cases hf
  case leads hn hl =>
    cases hl.keyed (hn.keyed h)
    case scalar hs => exact hs rfl

theorem Loses.resolveField_eq (hl : c.Loses segments) (h : c.Complete) (hd : ∀ s ∈ segments, '.' ∉ s.toList) :
    c.resolveField (".".intercalate segments) = missing := by
  cases hl
  case first hn =>
    have hg := Option.eq_none_iff_forall_ne_some.mpr fun v hv => hn v ((names_iff h).mpr hv)
    rw [resolveField_cons hd, hg]
  case further hn hb =>
    rw [resolveField_cons hd, (names_iff h).mp hn]
    exact hb.walk_eq (hn.keyed h)

-- What the path of these segments is resolved to.
structure Resolves (c : Context) (segments : List String) : Prop where
  found : ∀ v, c.Finds segments v ↔ c.resolveField (".".intercalate segments) = v ∧ v ≠ missing
  lost  : c.Loses segments ↔ c.resolveField (".".intercalate segments) = missing

theorem fields_resolved (h : c.Complete) (hne : segments ≠ []) (hd : ∀ s ∈ segments, '.' ∉ s.toList) :
    c.Resolves segments ∧ Path.Addressed where
  left := {
    found v := {
      mp hf := ⟨hf.resolveField_eq h hd, hf.ne_missing h⟩
      mpr   := by
        rintro ⟨rfl, hv⟩
        cases c.finds_or_loses hne
        case inl hf =>
          obtain ⟨w, hf⟩ := hf
          rwa [hf.resolveField_eq h hd]
        case inr hl => exact absurd (hl.resolveField_eq h hd) hv
    }
    lost := {
      mp hl := hl.resolveField_eq h hd
      mpr hm := (c.finds_or_loses hne).resolve_left fun ⟨w, hf⟩ =>
        hf.ne_missing h ((hf.resolveField_eq h hd).symm.trans hm)
    }
  }
  right := Path.addressed

-- The trigger and the variables define the same names, and the trigger one of the record's.
def shadowed : Context where
  trigger     := [(.text "_meta", bool true), (.text "count", int 1), (.text "tags", list [text "admin", null])]
  vars        := [(.text "count", null)]
  executionId := text "run"
  workflowId  := text ""
  userId      := null
  stepIndex   := 0
  startedAt   := null

theorem shadowed_complete : shadowed.Complete where
  trigger := by
    refine .map (Entries.single_of_nodup (by decide)) ?_
    simp only [shadowed, List.forall_mem_cons]
    refine ⟨.scalar nofun, .scalar nofun, .list ?_, List.forall_mem_nil _⟩
    simp only [List.forall_mem_cons]
    exact ⟨.scalar nofun, .scalar nofun, List.forall_mem_nil _⟩
  vars :=
    .map (Entries.single_of_nodup (by decide)) (List.forall_mem_singleton.mpr (.scalar nofun))
  executionId := .scalar nofun
  workflowId  := .scalar nofun
  userId      := .scalar nofun
  startedAt   := .scalar nofun

theorem shadowed_resolved : shadowed.Complete ∧
    shadowed.Finds ["count"] null ∧ shadowed.Finds ["_meta", "executionId"] (text "run") ∧
    shadowed.Finds ["tags", "0"] (text "admin") ∧ shadowed.Loses ["tags", "-1"] := by
  have found (segments : List String) (v : Value) (hne : segments ≠ []) (hd : ∀ s ∈ segments, '.' ∉ s.toList)
      (hv : shadowed.resolveField (".".intercalate segments) = v) (hm : v ≠ missing) : shadowed.Finds segments v :=
    ((fields_resolved shadowed_complete hne hd).left.found v).mpr ⟨hv, hm⟩
  refine ⟨shadowed_complete, ?_, ?_, ?_, ?_⟩
  · exact found _ _ (by decide) (by decide) rfl nofun
  · exact found _ _ (by decide) (by decide) rfl nofun
  · exact found _ _ (by decide) (by decide) rfl nofun
  · exact (fields_resolved shadowed_complete (by decide) (by decide)).left.lost.mpr rfl

end Context

end FlowGate
