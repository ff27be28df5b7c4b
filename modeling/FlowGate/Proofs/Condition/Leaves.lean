import FlowGate.Proofs.Condition.Evaluation

-- Where the outcome of a condition comes from: if it faults, one leaf does, and it is the last that
-- evaluation gets to.

namespace FlowGate

open Value

namespace Condition

variable {e : Engine} {c : Context} {condition : Condition} {children leaves : List Condition}

-- These leaves make for this outcome as far as faults go.
def Explains (e : Engine) (c : Context) (leaves : List Condition) : Outcome → Prop
  | .faults errors =>
    ∃ front leaf, leaves = front ++ [leaf] ∧ leaf.meaning e c = .faults errors ∧
      ∀ l ∈ front, (l.meaning e c).isFault = false
  | _ => ∀ l ∈ leaves, (l.meaning e c).isFault = false

theorem explains_of_no_fault {o : Outcome} (ho : o.isFault = false) :
    Explains e c leaves o ↔ ∀ l ∈ leaves, (l.meaning e c).isFault = false := by
  cases o
  case faults => cases ho
  all_goals rfl

theorem explains_leaf : Explains e c [condition] (condition.meaning e c) := by
  cases h : condition.meaning e c
  case faults es => exact ⟨[], condition, rfl, h, List.forall_mem_nil _⟩
  all_goals exact List.forall_mem_singleton.mpr (by rw [h]; rfl)

-- Under children without a fault there is no leaf with one.
theorem flatMap_reached_clean
    (h : ∀ child ∈ children, Explains e c (child.reached e c) (child.meaning e c))
    (hf : ∀ child ∈ children, (child.meaning e c).isFault = false) :
    ∀ l ∈ children.flatMap (reached e c), (l.meaning e c).isFault = false := by
  intro l hl
  have ⟨child, hm, hl⟩ := List.mem_flatMap.mp hl
  exact explains_of_no_fault (hf child hm) |>.mp (h child hm) l hl

theorem explains_complex {header : Header} {k : Connective} (hne : children ≠ [])
    (h : ∀ child ∈ children, Explains e c (child.reached e c) (child.meaning e c)) :
    Explains e c ((complex header (.known k) children none).reached e c)
      ((complex header (.known k) children none).meaning e c) := by
  have h : ∀ child ∈ evaluated e c k children,
      Explains e c (child.reached e c) (child.meaning e c) :=
    fun child hm => h child (through_isPrefix.subset hm)
  rw [reached_complex, meaning_complex]
  cases hs : ((evaluated e c k children).map (meaning e c)).findSome? Outcome.fault?
  case none =>
    have hn := Outcome.findSome?_eq_none_iff.mp hs
    have hne : (evaluated e c k children).map (meaning e c) ≠ [] := by
      simpa [evaluated] using through_ne_nil hne
    have hc := Connective.isFault_combine (k := k) hne hn
    rw [combine_evaluated] at hc
    exact explains_of_no_fault hc |>.mpr <|
      flatMap_reached_clean h fun child hm => hn _ (List.mem_map_of_mem hm)
  case some es =>
    rw [map_evaluated] at hs
    obtain ⟨front, ht, hf, hc⟩ := Connective.through_of_fault hs
    rw [← map_evaluated, List.map_eq_append_iff] at ht
    obtain ⟨before, rest, he, hbefore, hrest⟩ := ht
    obtain ⟨child, hrest, hm⟩ := List.map_eq_singleton_iff.mp hrest
    rw [he, hrest] at h ⊢
    obtain ⟨h, hx⟩ := List.forall_mem_append.mp h
    obtain ⟨front', leaf, hl, hleaf, hfront'⟩ := hm ▸ List.forall_mem_singleton.mp hx
    have hclean := flatMap_reached_clean h fun child hm => hf _ (hbefore ▸ List.mem_map_of_mem hm)
    rw [hc]
    exact ⟨before.flatMap (reached e c) ++ front', leaf, by simp [hl], hleaf,
      List.forall_mem_append.mpr ⟨hclean, hfront'⟩⟩

theorem explains (hv : condition.Valid) :
    Explains e c (condition.reached e c) (condition.meaning e c) := by
  induction hv
  case complex _ _ hne _ hi => exact explains_complex hne hi
  all_goals exact explains_leaf

theorem isLeaf_of_reached (hv : condition.Valid) :
    ∀ l ∈ condition.reached e c, l.isLeaf = true := by
  induction hv
  case complex _ _ _ _ hi =>
    intro l hl
    rw [reached_complex] at hl
    have ⟨child, hm, hl⟩ := List.mem_flatMap.mp hl
    exact hi child (through_isPrefix.subset hm) l hl
  all_goals simp [reached, isLeaf]

-- Without a cache, evaluating a valid condition gives what it means. The functions that are called
-- on the way are those of the leaves that are reached, and a fault is the fault of the last of them.
theorem lookUp_meaning (hv : condition.Valid) (ha : e.registry.Answers)
    (cache : Cache ConditionResult) :
    ∃ calls r, condition.lookUp e c false cache = (cache, ⟨calls, some (.ok r)⟩) ∧
      r.Shows (condition.meaning e c) ∧
      Reports e c condition r ∧
      calls.filter Call.isFunction = (condition.reached e c).filterMap (asked? e) ∧
      (∀ leaf ∈ condition.reached e c, leaf.isLeaf = true) ∧
      (r.success = true → ∀ leaf ∈ condition.reached e c, (leaf.meaning e c).isFault = false) ∧
      (r.success = false → ∃ front leaf, condition.reached e c = front ++ [leaf] ∧
        leaf.meaning e c = .faults r.errors ∧ ∀ l ∈ front, (l.meaning e c).isFault = false) := by
  have ⟨calls, r, he, hr, hc⟩ := evaluates (c := c) hv ha
  have hx := explains (e := e) (c := c) hv
  have hs := hr.shows
  refine ⟨calls, r, by rw [← he]; rfl, hs, hr, hc, isLeaf_of_reached hv, ?_, ?_⟩
  all_goals
    intro h
    rw [hs.success] at h
  case refine_1 => exact explains_of_no_fault (by simpa using h) |>.mp hx
  case refine_2 =>
    cases hm : condition.meaning e c
    case faults es =>
      rw [hs.errors, hm]
      rw [hm] at hx
      exact hx
    all_goals simp [hm, Outcome.isFault] at h

-- Any of: a conjunction that fails before its second child, and an exclusive choice in which the
-- child of a negation faults.
def branching : Condition :=
  .complex ⟨text "root", {}⟩ (.known .or) [
    .complex ⟨text "first", {}⟩ (.known .and) [ask "a" "no", ask "b" "boom"] none,
    .complex ⟨text "second", {}⟩ (.known .xor) [
      ask "c" "yes",
      .complex ⟨text "d", {}⟩ (.known .not) [ask "e" "boom"] none,
      ask "f" "no"] none,
    ask "g" "yes"] none
where
  ask (id function : String) : Condition := .custom ⟨text id, {}⟩ (text function) .null

def answering : Engine := .ofFunctions [
  ("yes", fun _ _ _ => .value (.bool true)),
  ("no", fun _ _ _ => .value (.bool false)),
  ("boom", fun _ _ _ => .fault (.host "boom"))]

theorem branching_valid : branching.Valid := by
  have ask_valid {id function : String} (hi : id ≠ "") (hf : function ≠ "") :
      (branching.ask id function).Valid := .custom (Schema.isName_text hi) (Schema.isName_text hf)
  refine .complex (Schema.isName_text (by decide)) nofun (by simp) ?_
  refine List.forall_mem_cons.mpr ⟨?_, List.forall_mem_cons.mpr ⟨?_, ?_⟩⟩
  · refine .complex (Schema.isName_text (by decide)) nofun (by simp) ?_
    simpa using ⟨ask_valid (by decide) (by decide), ask_valid (by decide) (by decide)⟩
  · refine .complex (Schema.isName_text (by decide)) nofun (by simp) ?_
    have hnot : (complex ⟨text "d", {}⟩ (.known .not) [branching.ask "e" "boom"] none).Valid :=
      .complex (Schema.isName_text (by decide)) (fun _ => rfl) (by simp)
        (List.forall_mem_singleton.mpr (ask_valid (by decide) (by decide)))
    simpa using ⟨ask_valid (by decide) (by decide), hnot, ask_valid (by decide) (by decide)⟩
  · exact List.forall_mem_singleton.mpr (ask_valid (by decide) (by decide))

theorem branching_meaning :
    branching.Valid ∧ answering.registry.Answers ∧
      ∃ calls r, branching.lookUp answering (.ofVars []) false (.empty 1) =
          (.empty 1, ⟨calls, some (.ok r)⟩) ∧
        r.success = false ∧ r.errors = ["boom"] ∧
        calls.filter Call.isFunction = [.function "no", .function "yes", .function "boom"] := by
  have ha : answering.registry.Answers := Engine.ofFunctions_answers (by simp)
  have hm : branching.meaning answering (.ofVars []) = .faults ["boom"] := by decide
  have hr : (branching.reached answering (.ofVars [])).filterMap (asked? answering) =
      [.function "no", .function "yes", .function "boom"] := by decide
  have ⟨calls, r, he, hs, _, hc, _⟩ :=
    lookUp_meaning (c := .ofVars []) branching_valid ha (.empty 1)
  refine ⟨branching_valid, ha, calls, r, he, ?_, ?_, hc.trans hr⟩
  · rw [hs.success, hm]
    rfl
  · rw [hs.errors, hm]
    rfl

end Condition

end FlowGate
