import FlowGate.Operator.Comparison
import FlowGate.Proofs.Engine
import FlowGate.Proofs.Path
import FlowGate.Proofs.Path.Written

-- The operators that follow a path into a value. What they find is what its segments lead to.

namespace FlowGate.Comparer

open Value FlowGate.Path

variable {t : Comparer} {p : Scalar → Prop} {v : Value} {path : String} {segments : List String}

-- What the operators answer about a value and a path of these segments.
structure Follows (t : Comparer) (v : Value) (path : String) (segments : List String) : Prop where
  found  : ∃ b, t.applyKnown .jsonPathExists v (text path) = .ok b ∧
    (b = true ↔ ∃ w, Leads v segments w ∧ w ≠ missing)
  equals : ∀ es : Entries, es.get? "path" = some (text path) → ∃ b, t.applyKnown .jsonPathEquals v (map es) = .ok b ∧
    (b = true ↔ ∃ w, Leads v segments w ∧ w ≠ missing ∧ w.strictEquals (es.getD "expected" null) = true)

theorem isMissing_eq_false_iff : v.isMissing = false ↔ v ≠ missing := by
  unfold isMissing
  split <;> simp_all

theorem reaches_iff (q : Value → Prop) (h : v.Keyed p) :
    walk v segments ≠ missing ∧ q (walk v segments) ↔ ∃ w, Leads v segments w ∧ w ≠ missing ∧ q w where
  mp h' := ⟨_, (walk_eq_iff h h'.left).mp rfl, h'⟩
  mpr   := by
    rintro ⟨w, hl, hw⟩
    rwa [hl.walk_eq h]

theorem jsonPathExists_eq : t.applyKnown .jsonPathExists v (text path) = .ok !(walk v (split path)).isMissing := rfl

theorem jsonPathEquals_eq {es : Entries} (hp : es.get? "path" = some (text path)) :
    t.applyKnown .jsonPathEquals v (map es) = .ok (!(walk v (split path)).isMissing &&
      (walk v (split path)).strictEquals (es.getD "expected" null)) := by
  rw [applyKnown, Comparison.jsonPathEquals, hp]
  rfl

theorem follows (t : Comparer) (h : v.Keyed p) (hs : split path = segments) : t.Follows v path segments where
  found := by
    refine ⟨_, jsonPathExists_eq, ?_⟩
    rw [hs, Bool.not_eq_true', isMissing_eq_false_iff]
    simpa using reaches_iff (fun _ => True) h
  equals es hp := by
    refine ⟨_, jsonPathEquals_eq hp, ?_⟩
    rw [hs, Bool.and_eq_true, Bool.not_eq_true', isMissing_eq_false_iff]
    exact reaches_iff (fun w => w.strictEquals (es.getD "expected" null) = true) h

-- Written paths lead where their segments lead, if the first is a name. A bracket at the very start is taken to
-- stand behind an empty name, which no list has.
structure Traverses (t : Comparer) (segments : List Segment) : Prop where
  named   : ∀ s rest, segments = .name s :: rest → split (written segments) = segments.map Segment.text ∧
    ∀ v, v.Keyed (fun _ => True) → t.Follows v (written segments) (segments.map Segment.text)
  indexed : ∀ n rest, segments = .index n :: rest → split (written segments) = "" :: segments.map Segment.text ∧
    ∀ v, v.Keyed (fun _ => True) → t.Follows v (written segments) ("" :: segments.map Segment.text)
  listed  : ∀ n rest, segments = .index n :: rest → ∀ xs,
    t.applyKnown .jsonPathExists (list xs) (text (written segments)) = .ok false ∧
    ∀ es : Entries, es.get? "path" = some (text (written segments)) →
      t.applyKnown .jsonPathEquals (list xs) (map es) = .ok false

theorem paths_traversed (t : Comparer) {segments : List Segment} (h : ∀ s ∈ segments, s.Writable) :
    t.Traverses segments where
  named s rest he :=
    have hs := (decodes h).named s rest he
    ⟨hs, fun _ hv => t.follows hv hs⟩
  indexed n rest he :=
    have hs := (decodes h).indexed n rest he
    ⟨hs, fun _ hv => t.follows hv hs⟩
  listed n rest he xs := by
    have hwalk : walk (list xs) (split (written segments)) = missing := by
      rw [(decodes h).indexed n rest he]
      rfl
    constructor
    · rw [jsonPathExists_eq, hwalk]
      rfl
    · intro es hp
      rw [jsonPathEquals_eq hp, hwalk]
      rfl

-- An item of a list that is itself an item.
def cell : List Segment := [.name "rows", .index 0, .index 1]

def table : Value := map [(.text "rows", list [list [int 1, null]])]

theorem table_keyed : table.Keyed fun _ => True := by
  refine .map (Entries.single_of_nodup (by decide)) (List.forall_mem_singleton.mpr (.list ?_))
  refine List.forall_mem_singleton.mpr (.list ?_)
  simp only [List.forall_mem_cons]
  exact ⟨.scalar trivial, .scalar trivial, List.forall_mem_nil _⟩

theorem cell_leads : Leads table ["rows", "0", "1"] null :=
  have first : Position "0" 0 := position?_eq_some_iff.mp (by decide)
  have second : Position "1" 1 := position?_eq_some_iff.mp (by decide)
  .on (.key (.head _)) (.on (.item first rfl) (.on (.item second rfl) .here))

theorem cell_traversed : (∀ s ∈ cell, s.Writable) ∧ table.Keyed (fun _ => True) ∧ written cell = "rows[0][1]" ∧
    split "rows[0][1]" = ["rows", "0", "1"] ∧
    (Engine.ofFunctions []).comparer.applyKnown .jsonPathExists table (text "rows[0][1]") = .ok true := by
  have hw : ∀ s ∈ cell, s.Writable := by
    simp only [cell, List.forall_mem_cons]
    exact ⟨⟨by decide, by decide⟩, trivial, trivial, List.forall_mem_nil _⟩
  have hp : written cell = "rows[0][1]" := by decide
  obtain ⟨hs, hf⟩ := (paths_traversed (Engine.ofFunctions []).comparer hw).named "rows" _ rfl
  obtain ⟨b, hb, hiff⟩ := (hf table table_keyed).found
  rw [hp] at hs hb
  rw [hiff.mpr ⟨null, cell_leads, nofun⟩] at hb
  exact ⟨hw, table_keyed, hp, hs, hb⟩

end FlowGate.Comparer
