import FlowGate.Proofs.Condition.Leaves
import FlowGate.Proofs.Condition.Replaying

-- Boolean laws on condition trees. Both sides of a law get to the same leaves in the same order and come to
-- the same, whatever holds, fails, faults or never ends on the way. So trees that differ by such laws
-- somewhere within them cannot be told apart by evaluating them.

namespace FlowGate.Condition

open Value

def negation (header : Header) (condition : Condition) : Condition :=
  complex header (.known .not) [condition] none

def conjunction (header : Header) (conditions : List Condition) : Condition :=
  complex header (.known .and) conditions none

def disjunction (header : Header) (conditions : List Condition) : Condition :=
  complex header (.known .or) conditions none

def Negates (condition negated : Condition) : Prop :=
  ∃ header, negated = negation header condition

-- The laws of De Morgan, double negation, and nested conjunctions and disjunctions.
inductive Law : (left right : Condition) → Prop
  | notAll {outer inner header conditions negated}
    (each : List.Forall₂ Negates conditions negated) :
    Law (negation outer (conjunction inner conditions)) (disjunction header negated)
  | notAny {outer inner header conditions negated}
    (each : List.Forall₂ Negates conditions negated) :
    Law (negation outer (disjunction inner conditions)) (conjunction header negated)
  | notNot {outer inner condition} :
    Law (negation outer (negation inner condition)) condition
  | allOfAll {outer inner header front nested back} :
    Law (conjunction outer (front ++ conjunction inner nested :: back))
      (conjunction header (front ++ nested ++ back))
  | anyOfAny {outer inner header front nested back} :
    Law (disjunction outer (front ++ disjunction inner nested :: back))
      (disjunction header (front ++ nested ++ back))

-- The least congruence in which the laws hold.
inductive Rewrites : (left right : Condition) → Prop
  | law {left right} (h : Law left right) : Rewrites left right
  | refl {condition} : Rewrites condition condition
  | symm {left right} (h : Rewrites left right) : Rewrites right left
  | trans {left middle right} (h : Rewrites left middle) (h' : Rewrites middle right) : Rewrites left right
  | within {header k front left right back} (h : Rewrites left right) :
    Rewrites (complex header (.known k) (front ++ left :: back) none)
      (complex header (.known k) (front ++ right :: back) none)

-- The leaves that an evaluation gets to, and what comes of it.
structure Visit where
  leaves  : List Condition
  outcome : Outcome

namespace Visit

def negate (v : Visit) : Visit := ⟨v.leaves, v.outcome.negate⟩

-- One after the other for as long as they come out like this.
def walk (o : Outcome) : List Visit → Visit
  | []        => ⟨[], o⟩
  | v :: rest => if v.outcome = o then ⟨v.leaves ++ (walk o rest).leaves, (walk o rest).outcome⟩ else v

variable {o : Outcome} {v : Visit} {front nested back visits : List Visit}

theorem negate_negate : v.negate.negate = v := by
  cases v
  case mk outcome => cases outcome <;> rfl

theorem outcome_negate_eq_iff : v.negate.outcome = o.negate ↔ v.outcome = o := by
  cases v
  case mk outcome => cases outcome <;> cases o <;> simp [negate, Outcome.negate]

theorem walk_negate : walk o.negate (visits.map negate) = (walk o visits).negate := by
  induction visits
  case nil => rfl
  case cons v rest hi =>
    simp only [List.map_cons, walk, outcome_negate_eq_iff, hi]
    split <;> rfl

theorem walk_append : walk o (front ++ back) =
    if (walk o front).outcome = o
    then ⟨(walk o front).leaves ++ (walk o back).leaves, (walk o back).outcome⟩
    else walk o front := by
  induction front
  case nil => simp [walk]
  case cons v rest hi =>
    by_cases hv : v.outcome = o
    case neg => simp [walk, hv]
    case pos =>
      simp only [List.cons_append, walk, hv, if_true, hi]
      split <;> simp

theorem walk_nested : walk o (front ++ walk o nested :: back) = walk o (front ++ nested ++ back) := by
  have hn : walk o (walk o nested :: back) = walk o (nested ++ back) := by rw [walk, walk_append]
  rw [List.append_assoc, walk_append, hn, ← walk_append]

theorem walk_eq : walk o visits =
    ⟨(through (fun v => v.outcome != o) visits).flatMap leaves, Outcome.firstOther o (visits.map outcome)⟩ := by
  induction visits
  case nil => rfl
  case cons v rest hi =>
    by_cases hv : v.outcome = o <;> simp [walk, through, Outcome.firstOther, hv, hi]

end Visit

variable {e : Engine} {c : Context} {header : Header} {condition left right : Condition}
  {children conditions negated : List Condition} {k : Connective}

def visit (e : Engine) (c : Context) (condition : Condition) : Visit :=
  ⟨condition.reached e c, condition.meaning e c⟩

-- The visit of a complex condition is made of those of its children.
theorem visit_complex : visit e c (complex header (.known k) children none) =
    ⟨(through (fun v => k.settles v.outcome) (children.map (visit e c))).flatMap Visit.leaves,
      k.combine ((children.map (visit e c)).map Visit.outcome)⟩ := by
  rw [visit, reached_complex, meaning_complex, through_map, List.flatMap_map, List.map_map]
  rfl

theorem visit_conjunction : visit e c (conjunction header conditions) =
    .walk .holds (conditions.map (visit e c)) := by
  rw [conjunction, visit_complex, Visit.walk_eq]
  rfl

theorem visit_disjunction : visit e c (disjunction header conditions) =
    .walk .fails (conditions.map (visit e c)) := by
  rw [disjunction, visit_complex, Visit.walk_eq]
  rfl

theorem visit_negation : visit e c (negation header condition) = (visit e c condition).negate := by
  rw [negation, visit_complex]
  simp [through, Connective.settles, Connective.combine, Visit.negate]

theorem map_visit_of_negates (h : List.Forall₂ Negates conditions negated) :
    negated.map (visit e c) = (conditions.map (visit e c)).map Visit.negate := by
  induction h
  case nil => rfl
  case cons h _ hi =>
    obtain ⟨header, rfl⟩ := h
    simp [visit_negation, hi]

theorem Law.visit_eq (h : Law left right) : visit e c left = visit e c right := by
  cases h
  case notAll h =>
    rw [visit_negation, visit_conjunction, visit_disjunction, map_visit_of_negates h, ← Visit.walk_negate]
    rfl
  case notAny h =>
    rw [visit_negation, visit_disjunction, visit_conjunction, map_visit_of_negates h, ← Visit.walk_negate]
    rfl
  case notNot   => rw [visit_negation, visit_negation, Visit.negate_negate]
  case allOfAll => simp only [visit_conjunction, List.map_append, List.map_cons, Visit.walk_nested]
  case anyOfAny => simp only [visit_disjunction, List.map_append, List.map_cons, Visit.walk_nested]

theorem Rewrites.visit_eq (h : Rewrites left right) : visit e c left = visit e c right := by
  induction h
  case law h            => exact h.visit_eq
  case refl             => rfl
  case symm hi          => exact hi.symm
  case trans hi hi'     => exact hi.trans hi'
  case within hi        => simp only [visit_complex, List.map_append, List.map_cons, hi]

-- Valid trees that differ by laws come to the same result with the same calls, or wait for the same function
-- for ever. Every leaf that one of them gets to is a leaf that the other gets to, at the same point.
theorem rewriting_agrees (h : Rewrites left right) (hl : left.Valid) (hr : right.Valid) (e : Engine)
    (c : Context) :
    Agree e c (left.evaluate e c) (right.evaluate e c) ∧
      left.reached e c = right.reached e c ∧
      (e.registry.Answers → ∃ r, (left.evaluate e c).value = some (.ok r)) := by
  have hv : visit e c left = visit e c right := h.visit_eq
  have hreached : left.reached e c = right.reached e c := congrArg Visit.leaves hv
  have hmeaning : left.meaning e c = right.meaning e c := congrArg Visit.outcome hv
  refine ⟨agree_of_meaning_eq hl hr hmeaning hreached, hreached, fun ha => ?_⟩
  have ⟨_, r, he, _, _⟩ := evaluates (c := c) hl ha
  exact ⟨r, by rw [he]⟩

-- Not all of: one that holds, one that faults and is negated twice, and one that fails.
def refusing : Condition :=
  negation ⟨text "refusing", {}⟩ (conjunction ⟨text "all", {}⟩ [
    branching.ask "a" "yes",
    negation ⟨text "b", {}⟩ (negation ⟨text "c", {}⟩ (branching.ask "d" "boom")),
    branching.ask "e" "no"])

def opposing : Condition :=
  disjunction ⟨text "opposing", {}⟩ [
    negation ⟨text "f", {}⟩ (branching.ask "a" "yes"),
    negation ⟨text "g", {}⟩ (branching.ask "d" "boom"),
    negation ⟨text "h", {}⟩ (branching.ask "e" "no")]

theorem refusing_rewrites : Rewrites refusing opposing := by
  have hinner : Rewrites refusing (negation ⟨text "refusing", {}⟩ (conjunction ⟨text "all", {}⟩
      [branching.ask "a" "yes", branching.ask "d" "boom", branching.ask "e" "no"])) :=
    @Rewrites.within _ _ [] _ _ [] (@Rewrites.within _ _ [_] _ _ [_] (.law .notNot))
  exact hinner.trans (.law (.notAll (.cons ⟨_, rfl⟩ (.cons ⟨_, rfl⟩ (.cons ⟨_, rfl⟩ .nil)))))

theorem ask_valid {id function : String} (hi : id ≠ "") (hf : function ≠ "") :
    (branching.ask id function).Valid :=
  .custom (Schema.isName_text hi) (Schema.isName_text hf)

theorem negation_valid {id : String} (hi : id ≠ "") (h : condition.Valid) :
    (negation ⟨text id, {}⟩ condition).Valid :=
  .complex (Schema.isName_text hi) (fun _ => rfl) (List.cons_ne_nil _ _) (List.forall_mem_singleton.mpr h)

theorem refusing_valid : refusing.Valid := by
  refine negation_valid (by decide) (.complex (Schema.isName_text (by decide)) nofun (by simp) ?_)
  have hd : (branching.ask "d" "boom").Valid := ask_valid (by decide) (by decide)
  simpa using ⟨ask_valid (by decide) (by decide),
    negation_valid (by decide) (negation_valid (by decide) hd), ask_valid (by decide) (by decide)⟩

theorem opposing_valid : opposing.Valid := by
  refine .complex (Schema.isName_text (by decide)) nofun (by simp) ?_
  simpa using ⟨negation_valid (by decide) (ask_valid (by decide) (by decide)),
    negation_valid (by decide) (ask_valid (by decide) (by decide)),
    negation_valid (by decide) (ask_valid (by decide) (by decide))⟩

theorem refusing_agrees :
    Rewrites refusing opposing ∧ refusing.Valid ∧ opposing.Valid ∧
      Agree answering (.ofVars []) (refusing.evaluate answering (.ofVars []))
        (opposing.evaluate answering (.ofVars [])) ∧
      refusing.meaning answering (.ofVars []) = .faults ["boom"] ∧
      (refusing.reached answering (.ofVars [])).length = 2 := by
  have ⟨hagree, _, _⟩ :=
    rewriting_agrees refusing_rewrites refusing_valid opposing_valid answering (.ofVars [])
  exact ⟨refusing_rewrites, refusing_valid, opposing_valid, hagree, by decide, by decide⟩

end FlowGate.Condition
