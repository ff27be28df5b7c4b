import FlowGate.Proofs.Deadline.Recording
import FlowGate.Proofs.Gate.Documents

-- The documents of everything that calls and steps come to, one after the other. Only times of day in them are
-- not plain, and these have come in with the contexts, the configurations or the transformations.

namespace FlowGate

open Value

variable {q : ClockTime → Prop}

-- The times of day that a call can come upon are among these.
structure Turn.Legible (q : ClockTime → Prop) (t : Turn) : Prop where
  registry : t.engine.registry.TimesIn q
  context  : t.context.TimesIn q
  offer    : t.offer.Legible q

theorem StepResult.document_plainBut {r : StepResult} (h : ∀ d, r.decision = some d → d.Legible q) :
    r.document.PlainBut q := by
  have hd : ((r.decision.map Decision.document).getD null).PlainBut q := by
    cases hd : r.decision
    case none   => exact plainBut_null
    case some d => exact (h d hd).document
  refine plainBut_record (by simp) ?_
  simp only [List.forall_mem_cons]
  exact ⟨plainBut_bool _, hd, plainBut_optionalText _, List.forall_mem_nil _⟩

namespace Gate

variable {g : Gate} {c : Context} {a : Action} {offer : Offer} {ts : List Turn} {r : StepResult}

theorem cutOff_legible (hc : c.TimesIn q) (ha : a.Legible q) (h : g.cutOff c a = .ok r) :
    ∀ d, r.decision = some d → d.Legible q := by
  obtain ⟨d, hd, h⟩ := ok_of_bind h
  cases h
  rintro _ ⟨⟩
  exact refuseAction_legible hc ha hd

theorem step_legible (hg : g.Legible q) (he : g.engine.registry.TimesIn q) (hc : c.TimesIn q)
    (ho : offer.Legible q) : (g.step c offer).1.Legible q ∧
      ∀ r, (g.step c offer).2.result = .ok r → ∀ d, r.decision = some d → d.Legible q := by
  cases ha : offer.action?
  case none =>
    by_cases hn : offer = .raw null
    case pos =>
      subst hn
      refine ⟨hg, fun r hr => ?_⟩
      cases hr
      exact nofun
    case neg =>
      obtain ⟨d, hx, _, hs⟩ := step_unread (g := g) (c := c) hn ha
      have hd := (execute_yields hg he hc ho).decision d (by rw [hx]; rfl)
      rw [hs]
      refine ⟨hg, fun r hr => ?_⟩
      cases hr
      rintro _ ⟨⟩
      exact hd
  case some a =>
    by_cases hl : offer.Overlong g.limits
    case pos =>
      rw [step_overlong hl]
      refine ⟨hg, fun r hr => ?_⟩
      cases hr
    case neg =>
      obtain ⟨hg', hd⟩ := decide_yields hg he hc (ho.action ha)
      rw [step_within ha hl]
      refine ⟨hg', fun r hr => ?_⟩
      generalize g.decide c a = found at hd hr
      rcases found with ⟨g', calls, _ | _ | d⟩
      case none       => exact cutOff_legible hc (ho.action ha) hr
      case some.error => cases hr
      case some.ok    =>
        cases hr
        rintro _ ⟨⟩
        exact hd d rfl

theorem legible_of_empty (hc : g.cache.entries = []) (ha : g.audit.kept = []) : g.Legible q where
  cache := hc ▸ List.forall_mem_nil _
  audit := ha ▸ List.forall_mem_nil _

-- What one call preserves and makes sure of, calls do that are made one after the other.
theorem Legible.inTurn {β : Type} {f : Gate → Turn → Gate × β} {P : β → Prop} (hg : g.Legible q)
    (hf : ∀ t ∈ ts, ∀ g : Gate, g.engine = t.engine → g.Legible q → (f g t).1.Legible q ∧ P (f g t).2) :
    (g.inTurn f ts).1.Legible q ∧ ∀ b ∈ (g.inTurn f ts).2, P b := by
  induction ts generalizing g
  case nil => exact ⟨hg, List.forall_mem_nil _⟩
  case cons t ts hi =>
    have ⟨ht, hts⟩ := List.forall_mem_cons.mp hf
    have ⟨hg', hb⟩ := ht { g with engine := t.engine } rfl ⟨hg.cache, hg.audit⟩
    have ⟨hg'', hbs⟩ := hi hg' hts
    exact ⟨hg'', List.forall_mem_cons.mpr ⟨hb, hbs⟩⟩

theorem executeAll_legible (hg : g.Legible q) (ht : ∀ t ∈ ts, t.Legible q) :
    (g.executeAll ts).1.Legible q ∧
      ∀ run ∈ (g.executeAll ts).2, ∀ d, run.value = some (.ok d) → d.Legible q := by
  refine hg.inTurn fun t hm g he hg => ?_
  have h := execute_yields hg (he ▸ (ht t hm).registry) (ht t hm).context (ht t hm).offer
  exact ⟨h.gate, h.decision⟩

theorem stepAll_legible (hg : g.Legible q) (ht : ∀ t ∈ ts, t.Legible q) :
    (g.stepAll ts).1.Legible q ∧
      ∀ run ∈ (g.stepAll ts).2, ∀ r, run.result = .ok r → ∀ d, r.decision = some d → d.Legible q :=
  hg.inTurn fun t hm _ he hg => step_legible hg (he ▸ (ht t hm).registry) (ht t hm).context (ht t hm).offer

-- Whatever calls are made and whatever steps are taken, the documents of decisions and of records are plain
-- but for times of day that have come in somewhere.
theorem documents_plainBut (q : ClockTime → Prop) (g : Gate) (ts : List Turn) (hg : g.Legible q)
    (ht : ∀ t ∈ ts, t.Legible q) :
    ((∀ run ∈ (g.executeAll ts).2, ∀ d, run.value = some (.ok d) → d.document.PlainBut q) ∧
      ∀ r ∈ (g.executeAll ts).1.audit.kept, r.document.PlainBut q) ∧
    (∀ run ∈ (g.stepAll ts).2, ∀ r, run.result = .ok r → r.document.PlainBut q) ∧
      ∀ r ∈ (g.stepAll ts).1.audit.kept, r.document.PlainBut q := by
  obtain ⟨hx, hd⟩ := executeAll_legible hg ht
  obtain ⟨hs, hr⟩ := stepAll_legible hg ht
  refine ⟨⟨fun run hm d hv => (hd run hm d hv).document, hx.audit⟩, fun run hm r hv => ?_, hs.audit⟩
  exact StepResult.document_plainBut (hr run hm r hv)

def opening : ClockTime := ⟨⟨37800000000, by decide⟩, none⟩

def newYear : Date := ⟨2024, 1, 1, validDate_newYear⟩

def openingRaw : Value := record [
  ("conditions", list [record [("kind", text "simple"), ("field", text "at"), ("operator", text "exists")]]),
  ("onTrue", record [("actionIds", list [text "open"])]),
  ("options", record [("logLevel", text "detailed")])]

-- A call with these variables.
def opened (vars : Entries) : Turn where
  engine  := { Engine.ofFunctions [] with registry := Builtin.registry }
  context := .ofVars vars
  offer   := .raw openingRaw

theorem opened_legible {vars : Entries} (h : (map vars).TimesIn q) : ∀ t ∈ [opened vars], t.Legible q := by
  have hn : null.PlainBut q := plainBut_null
  refine List.forall_mem_singleton.mpr ⟨Builtin.registry_timesIn, ?_, ?_⟩
  case refine_1 => exact ⟨.map (List.forall_mem_nil _), h, .text "", .text "", hn, hn.timesIn⟩
  case refine_2 => simp [opened, Offer.Legible, openingRaw, Value.record]

-- With a date among the variables everything is plain. With a time of day this is what stands in the way, in
-- the place of the variable.
theorem opened_plainBut :
    (∃ d, ((plain.recording []).executeAll [opened [(.text "since", date newYear)]]).2 =
        [⟨[], some (.ok d)⟩] ∧
      d.document.IsPlain ∧ Path.walk d.document ["variables", "since"] = text "2024-01-01") ∧
    ∃ d, ((plain.recording []).executeAll [opened [(.text "at", clock opening)]]).2 = [⟨[], some (.ok d)⟩] ∧
      d.document.PlainBut (· = opening) ∧ Path.walk d.document ["variables", "at"] = clock opening := by
  have hg {q} : (plain.recording []).Legible q := legible_of_empty rfl rfl
  constructor
  case left =>
    have ht : ∀ t ∈ [opened [(.text "since", date newYear)]], t.Legible fun _ => False :=
      opened_legible (by simp)
    have ⟨⟨hd, _⟩, _⟩ := documents_plainBut (fun _ => False) (plain.recording []) _ hg ht
    exact ⟨_, rfl, (hd _ (List.mem_singleton.mpr rfl) _ rfl).isPlain fun _ => id, rfl⟩
  case right =>
    have ht : ∀ t ∈ [opened [(.text "at", clock opening)]], t.Legible (· = opening) :=
      opened_legible (by simp)
    have ⟨⟨hd, _⟩, _⟩ := documents_plainBut (· = opening) (plain.recording []) _ hg ht
    exact ⟨_, rfl, hd _ (List.mem_singleton.mpr rfl) _ rfl, rfl⟩

end Gate

end FlowGate
