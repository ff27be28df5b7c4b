import FlowGate.Proofs.Action.Documents
import FlowGate.Proofs.Gate.Accounting
import FlowGate.Proofs.Gate.Recording

-- The documents of decisions and of the records that they leave. A gate keeps results from one call for the
-- next, so what is shown later may come from the contexts and configurations of all calls before.

namespace FlowGate

open Value

variable {q : ClockTime → Prop}

namespace Decision

variable {d : Decision}

structure Legible (q : ClockTime → Prop) (d : Decision) : Prop where
  vars             : (map d.vars).TimesIn q
  conditionResults : ∀ r ∈ d.conditionResults, r.document.PlainBut q
  filterResults    : ∀ r ∈ d.filterResults, r.document.PlainBut q

theorem Legible.conditionDocuments (h : d.Legible q) : d.conditionDocuments.PlainBut q := by
  rw [Decision.conditionDocuments, ConditionResult.documents_eq]
  exact .list (List.forall_mem_map.mpr h.conditionResults)

theorem Legible.filterDocuments (h : d.Legible q) : d.filterDocuments.PlainBut q :=
  .list (List.forall_mem_map.mpr h.filterResults)

theorem summary_plainBut (s : Summary) : s.document.PlainBut q := by
  refine plainBut_record (by simp) ?_
  simp only [List.forall_mem_cons]
  exact ⟨.text _, plainBut_int _, plainBut_int _, plainBut_int _, plainBut_int _, plainBut_int _,
    plainBut_int _, List.forall_mem_nil _⟩

theorem Legible.document (h : d.Legible q) : d.document.PlainBut q := by
  refine plainBut_record (by simp) ?_
  simp only [List.forall_mem_cons]
  exact ⟨plainBut_bool _, plainBut_bool _, plainBut_bool _, .text _, plainBut_texts _, plainBut_bool _,
    Json.document_plainBut h.vars, h.conditionDocuments, h.filterDocuments, plainBut_texts _,
    summary_plainBut _, List.forall_mem_nil _⟩

end Decision

-- The records that a store has kept.
def AuditStore.kept : AuditStore → List AuditRecord
  | memory records => records
  | _              => []

theorem AuditStore.kept_of_save {s s' : AuditStore} {r x : AuditRecord} (h : s.save r = .ok s')
    (hx : x ∈ s'.kept) : x ∈ s.kept ∨ x = r := by
  cases s <;> cases h
  case memory     => simpa [kept] using hx
  case discarding => cases hx

namespace Gate

variable {g : Gate} {c : Context} {a : Action} {d : Decision} {condition : Condition}
  {conditions : List Condition} {rs : List ConditionResult} {fs : List FilterResult}

theorem auditRecord_plainBut (hc : c.TimesIn q) (ha : a.Legible q) (hd : d.Legible q) :
    (auditRecord c a d).document.PlainBut q := by
  have hv : (Value.record [("conditionResults", d.conditionDocuments), ("filterResults", d.filterDocuments),
      ("metadata", d.summary.document)]).PlainBut q := by
    refine plainBut_record (by simp) ?_
    simp only [List.forall_mem_cons]
    exact ⟨hd.conditionDocuments, hd.filterDocuments, Decision.summary_plainBut _, List.forall_mem_nil _⟩
  have hx : ((auditRecord c a d).details.map fun v => ("details", v)).toList =
      if a.options.detail ≠ .detailed then [] else [("details", Value.record [
        ("conditionResults", d.conditionDocuments), ("filterResults", d.filterDocuments),
        ("metadata", d.summary.document)])] := by
    by_cases h : a.options.detail = .detailed <;> simp [auditRecord, h]
  rw [AuditRecord.document, hx]
  refine plainBut_record_append (by simp) ?_ hv
  simp only [List.forall_mem_cons]
  exact ⟨ha.id, ha.name, hc.executionId, hc.workflowId, hc.userId, .text _, plainBut_bool _, plainBut_bool _,
    .text _, plainBut_texts _, List.forall_mem_nil _⟩

-- What is to be seen of the past in a gate: the results in its cache and the records in its store.
structure Legible (q : ClockTime → Prop) (g : Gate) : Prop where
  cache : ∀ entry ∈ g.cache.entries, entry.2.document.PlainBut q
  audit : ∀ r ∈ g.audit.kept, r.document.PlainBut q

theorem evaluate_legible (useCache : Bool) (hg : g.Legible q)
    (hn : ∀ p ∈ condition.nodes 1, p.2.Legible q) (hc : c.TimesIn q) :
    (g.evaluate c useCache condition).1.Legible q ∧
      ∀ r, (g.evaluate c useCache condition).2.value = some (.ok r) → r.document.PlainBut q := by
  unfold evaluate
  split
  case h_1 => exact ⟨hg, nofun⟩
  case h_2 =>
    refine ⟨⟨fun entry hm => ?_, hg.audit⟩, fun r hr => ?_⟩
    case refine_1 =>
      rcases Condition.entry_of_lookUp hm with hm | ⟨_, _, hv, _⟩
      case inl => exact hg.cache entry hm
      case inr => exact Condition.evaluate_document hn hc hv
    case refine_2 =>
      rcases Condition.result_of_lookUp hr with ⟨key, hm⟩ | hv
      case inl => exact hg.cache (key, r) hm
      case inr => exact Condition.evaluate_document hn hc hv

theorem evaluateAll_legible (options : Options) (hg : g.Legible q)
    (hn : ∀ p ∈ conditions.flatMap (Condition.nodes 1), p.2.Legible q) (hc : c.TimesIn q) :
    (evaluateAll options c g conditions).1.Legible q ∧
      ∀ rs, (evaluateAll options c g conditions).2.value = some (.ok rs) →
        ∀ r ∈ rs, r.document.PlainBut q := by
  induction conditions generalizing g
  case nil =>
    refine ⟨hg, fun rs hrs => ?_⟩
    cases hrs
    exact List.forall_mem_nil _
  case cons condition rest hi =>
    rw [List.flatMap_cons, List.forall_mem_append] at hn
    obtain ⟨hg, hr⟩ := evaluate_legible options.cacheResults hg hn.left hc
    rw [evaluateAll]
    split
    case h_1 he => exact ⟨by simpa only [he] using hg, fun rs hrs => by cases hrs⟩
    case h_2 he => exact ⟨by simpa only [he] using hg, fun rs hrs => by cases hrs⟩
    case h_3 g' calls r he =>
      rw [he] at hg hr
      have hr := hr r rfl
      split
      case isTrue =>
        refine ⟨hg, fun rs hrs => ?_⟩
        cases hrs
        exact List.forall_mem_singleton.mpr hr
      case isFalse =>
        obtain ⟨hg, hrs⟩ := hi hg hn.right
        refine ⟨hg, fun rs hall => ?_⟩
        obtain ⟨outcome, hv, ho⟩ := Option.map_eq_some_iff.mp hall
        obtain ⟨more, hm, rfl⟩ := ok_of_map ho
        exact List.forall_mem_cons.mpr ⟨hr, hrs more (hm ▸ hv)⟩

theorem variablesAfter_timesIn {branch : Branch} (now : Moment) (conditionsPassed filtersPassed : Bool)
    (way : Way) (hc : c.TimesIn q) (hb : (map branch.setVariables).TimesIn q) :
    (map (variablesAfter now c branch conditionsPassed filtersPassed way)).TimesIn q := by
  have hv := Entries.forall_merge (List.forall_mem_nil _) (timesIn_map.mp hc.vars)
  refine .map (Entries.forall_insert (Entries.forall_merge hv (timesIn_map.mp hb)) (PlainBut.timesIn ?_))
  refine plainBut_record (by simp) ?_
  simp only [List.forall_mem_cons]
  exact ⟨plainBut_bool _, plainBut_bool _, .text _, hc.executionId, .text _, List.forall_mem_nil _⟩

theorem refuse_legible {branch : Branch} (summary : Summary) (errors : List String) (hc : c.TimesIn q)
    (hb : (map branch.setVariables).TimesIn q) : (g.refuse c branch summary errors).Legible q where
  vars             := variablesAfter_timesIn _ _ _ _ hc hb
  conditionResults := List.forall_mem_nil _
  filterResults    := List.forall_mem_nil _

theorem refuseAction_legible {errors : List String} (hc : c.TimesIn q) (ha : a.Legible q)
    (h : g.refuseAction c a errors = .ok d) : d.Legible q := by
  obtain ⟨summary, rfl⟩ := refuseAction_eq h
  exact refuse_legible summary errors hc (ha.branches .onError)

theorem conclude_legible (hc : c.TimesIn q) (ha : a.Legible q) (hrs : ∀ r ∈ rs, r.document.PlainBut q)
    (hfs : ∀ r ∈ fs, r.document.PlainBut q) (h : g.conclude c a rs fs = .ok d) : d.Legible q := by
  obtain ⟨_, _, h⟩ := ok_of_bind h
  obtain ⟨branch, hb, h⟩ := ok_of_bind h
  cases h
  refine ⟨variablesAfter_timesIn _ _ _ _ hc ?_, hrs, hfs⟩
  rw [Action.branch_eq hb]
  exact ha.branches _

-- A gate after a call, and what the call came to.
structure Yields (q : ClockTime → Prop) (found : Gate × Run (Except Fault Decision)) : Prop where
  gate     : found.1.Legible q
  decision : ∀ d, found.2.value = some (.ok d) → d.Legible q

theorem run_yields (hg : g.Legible q) (he : g.engine.registry.TimesIn q) (hc : c.TimesIn q)
    (ha : a.Legible q) : Yields q (g.run c a) := by
  have ⟨hg', hrs⟩ := evaluateAll_legible a.options hg ha.nodes hc
  refine ⟨run_fst g c a ▸ hg', fun d hd => ?_⟩
  rw [run_value] at hd
  unfold judge at hd
  split at hd
  case h_1 => cases hd
  case h_2 => cases hd
  case h_3 rs hv =>
    refine conclude_legible hc ha (hrs rs hv) ?_ (Option.some.inj hd)
    rw [runGroups_value, evaluateAll_engine]
    refine List.forall_mem_map.mpr fun group hm => ?_
    exact (FilterGroup.run_legible (ha.filters group hm) he hc {}).document

theorem rescue_legible {outcome : Except Fault Decision} (hc : c.TimesIn q) (ha : a.Legible q)
    (ho : ∀ d, outcome = .ok d → d.Legible q) (h : g.rescue c a outcome = .ok d) : d.Legible q := by
  cases outcome
  case ok    => exact ho d h
  case error => exact refuseAction_legible hc ha h

theorem unrecorded_yields (hg : g.Legible q) (he : g.engine.registry.TimesIn q) (hc : c.TimesIn q)
    (ha : a.Legible q) : Yields q (g.unrecorded c a) := by
  unfold unrecorded
  split
  case h_1 => exact ⟨hg, fun d hd => refuseAction_legible hc ha (Option.some.inj hd)⟩
  case h_2 =>
    split
    case isTrue =>
      refine ⟨hg, fun d hd => rescue_legible hc ha (fun d hd => ?_) (Option.some.inj hd)⟩
      exact refuseAction_legible hc ha hd
    case isFalse =>
      obtain ⟨hg', hr⟩ := run_yields hg he hc ha
      refine ⟨hg', fun d hd => ?_⟩
      obtain ⟨outcome, hv, ho⟩ := Option.map_eq_some_iff.mp hd
      exact rescue_legible hc ha (fun d hd => hr d (hd ▸ hv)) ho

theorem keep_legible (hg : g.Legible q) (hc : c.TimesIn q) (ha : a.Legible q) (hd : d.Legible q) :
    (g.keep c a d).1.Legible q ∧ (g.keep c a d).2.Legible q := by
  constructor
  case left =>
    unfold keep
    split
    case isTrue => exact hg
    case isFalse =>
      split
      case h_2 => exact hg
      case h_1 audit hs =>
        unfold save at hs
        split at hs
        case h_1 => cases hs
        case h_2 =>
          refine ⟨hg.cache, fun r hr => ?_⟩
          rcases AuditStore.kept_of_save hs hr with hr | rfl
          case inl => exact hg.audit r hr
          case inr => exact auditRecord_plainBut hc ha hd
  case right =>
    obtain ⟨errors, hk⟩ := keep_eq (g := g) (c := c) (a := a) (d := d)
    exact hk ▸ ⟨hd.vars, hd.conditionResults, hd.filterResults⟩

theorem decide_yields (hg : g.Legible q) (he : g.engine.registry.TimesIn q) (hc : c.TimesIn q)
    (ha : a.Legible q) : Yields q (g.decide c a) := by
  have h := unrecorded_yields hg he hc ha
  rw [decide_eq_recorded]
  generalize g.unrecorded c a = found at h ⊢
  rcases found with ⟨g', calls, _ | _ | d⟩
  case none       => exact h
  case some.error => exact h
  case some.ok    =>
    have ⟨hk, hd⟩ := keep_legible h.gate hc ha (h.decision d rfl)
    refine ⟨hk, fun d' hd' => ?_⟩
    cases hd'
    exact hd

theorem execute_yields {offer : Offer} (hg : g.Legible q) (he : g.engine.registry.TimesIn q)
    (hc : c.TimesIn q) (ho : offer.Legible q) : Yields q (g.execute c offer) := by
  cases ha : offer.action?
  case some a =>
    rw [(execute_eq ha).left]
    exact decide_yields hg he hc (ho.action ha)
  case none =>
    obtain ⟨v, issues, rfl, hr⟩ := Offer.read_failed ha
    rw [execute_failed hr]
    refine ⟨hg, fun d hd => ?_⟩
    cases hd
    exact refuse_legible _ _ hc (Action.timesIn_rescueBranch ho)

end Gate

end FlowGate
