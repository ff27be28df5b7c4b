import FlowGate.Pattern.Matcher
import Mathlib.Computability.Language

-- Patterns that are built of characters, sequences, alternatives and unbounded repetitions stand for
-- languages. Trying their ways in order finds a match exactly if some word of the language comes next and
-- what follows matches behind it.

namespace FlowGate.Pattern

open scoped Computability

namespace Cursor

-- The cursor behind a text, before what is left then.
def past (c : Cursor) (taken rest : List Char) : Cursor :=
  { c with before := taken.reverse ++ c.before, after := rest, index := c.index + taken.length }

variable {c : Cursor} {first second rest : List Char}

theorem after_past : (c.past first rest).after = rest := rfl

theorem past_nil : c.past [] c.after = c := rfl

theorem past_past {middle : List Char} :
    (c.past first middle).past second rest = c.past (first ++ second) rest := by
  simp [past, Nat.add_assoc]

theorem step?_of_after {x : Char} (h : c.after = x :: rest) : c.step? = some (x, c.past [x] rest) := by
  simp [step?, h, past]

end Cursor

-- The words of one letter.
def letters (p : Char → Bool) : Language Char :=
  {word | ∃ x, p x = true ∧ word = [x]}

theorem mem_kstar_letters {p : Char → Bool} {word : List Char} :
    word ∈ (letters p)∗ ↔ ∀ x ∈ word, p x = true := by
  rw [Language.mem_kstar]
  constructor
  · rintro ⟨words, rfl, h⟩ x hx
    obtain ⟨w, hw, hx⟩ := List.mem_flatten.mp hx
    obtain ⟨y, hy, rfl⟩ := h w hw
    exact List.mem_singleton.mp hx ▸ hy
  · intro h
    refine ⟨word.map fun x => [x], by simp [← List.flatMap_def], fun w hw => ?_⟩
    obtain ⟨x, hx, rfl⟩ := List.mem_map.mp hw
    exact ⟨x, h x hx, rfl⟩

theorem mem_some_letters {p : Char → Bool} {word : List Char} :
    word ∈ letters p ^ 1 * (letters p)∗ ↔ word ≠ [] ∧ ∀ x ∈ word, p x = true := by
  rw [pow_one, Language.mem_mul]
  constructor
  · rintro ⟨_, ⟨x, hx, rfl⟩, rest, hrest, rfl⟩
    simpa [hx] using mem_kstar_letters.mp hrest
  · rintro ⟨hne, h⟩
    obtain ⟨x, rest, rfl⟩ := List.exists_cons_of_ne_nil hne
    obtain ⟨hx, hrest⟩ := List.forall_mem_cons.mp h
    exact ⟨[x], ⟨x, hx, rfl⟩, rest, mem_kstar_letters.mpr hrest, rfl⟩

theorem isSome_orElse {α : Type} {x y : Option α} :
    (x <|> y).isSome = true ↔ x.isSome = true ∨ y.isSome = true := by
  simp only [Option.orElse_eq_orElse, Option.orElse_eq_or, Option.isSome_or, Bool.or_eq_true]

namespace Matcher

-- The cursors that a matcher hands on are those behind words of a language.
def Takes (m : Matcher) (words : Language Char) : Prop :=
  ∀ (c : Cursor) (k : Rest), (m c k).isSome = true ↔
    ∃ taken rest, c.after = taken ++ rest ∧ taken ∈ words ∧ (k (c.past taken rest)).isSome = true

variable {m n : Matcher} {words more : Language Char}

theorem takes_nothing : Takes (fun c k => k c) 1 := by
  intro c k
  constructor
  · exact fun h => ⟨[], c.after, rfl, rfl, h⟩
  · rintro ⟨taken, rest, hc, ht, h⟩
    obtain rfl := Language.mem_one taken |>.mp ht
    obtain rfl := hc
    exact h

theorem takes_one {p : Char → Bool} : (one p).Takes (letters p) := by
  intro c k
  constructor
  · intro h
    cases hc : c.after
    case nil => simp [one, Cursor.step?, hc] at h
    case cons x rest =>
      rw [one, Cursor.step?_of_after hc] at h
      split at h
      case h_2 hn => cases hn
      case h_1 hs =>
        cases hs
        split at h
        case isFalse => cases h
        case isTrue hp => exact ⟨[x], rest, rfl, ⟨x, hp, rfl⟩, h⟩
  · rintro ⟨_, rest, hc, ⟨x, hp, rfl⟩, h⟩
    rw [one, Cursor.step?_of_after hc]
    simpa [hp] using h

theorem Takes.seq (hm : m.Takes words) (hn : n.Takes more) :
    Takes (fun c k => m c fun c => n c k) (words * more) := by
  intro c k
  rw [hm]
  constructor
  · rintro ⟨first, middle, hc, hfirst, h⟩
    obtain ⟨second, rest, hmiddle, hsecond, h⟩ := (hn _ _).mp h
    obtain rfl : middle = second ++ rest := hmiddle
    exact ⟨first ++ second, rest, by simp [hc], Language.append_mem_mul hfirst hsecond,
      by rwa [Cursor.past_past] at h⟩
  · rintro ⟨taken, rest, hc, ht, h⟩
    obtain ⟨first, hfirst, second, hsecond, rfl⟩ := Language.mem_mul.mp ht
    refine ⟨first, second ++ rest, by simp [hc], hfirst, (hn _ _).mpr ?_⟩
    exact ⟨second, rest, rfl, hsecond, by rwa [Cursor.past_past]⟩

theorem Takes.alt (hm : m.Takes words) (hn : n.Takes more) :
    Takes (fun c k => m c k <|> n c k) (words + more) := by
  intro c k
  simp only [isSome_orElse, hm c k, hn c k, Language.mem_add]
  constructor
  · rintro (⟨taken, rest, hc, ht, h⟩ | ⟨taken, rest, hc, ht, h⟩)
    · exact ⟨taken, rest, hc, .inl ht, h⟩
    · exact ⟨taken, rest, hc, .inr ht, h⟩
  · rintro ⟨taken, rest, hc, ht | ht, h⟩
    · exact .inl ⟨taken, rest, hc, ht, h⟩
    · exact .inr ⟨taken, rest, hc, ht, h⟩

theorem Takes.times (h : m.Takes words) (count : Nat) : Takes (times m count) (words ^ count) := by
  induction count
  case zero => exact takes_nothing
  case succ count hi =>
    rw [pow_succ']
    exact h.seq hi

theorem greedy_idle {turns : Nat} {most : Option Nat} {c : Cursor} {k : Rest} :
    greedy m turns most (some c.index) c k = k c := by
  cases turns <;> simp [greedy]

theorem greedy_turn (h : m.Takes words) {turns : Nat} {last : Option Nat} {c : Cursor} {k : Rest}
    (hl : last ≠ some c.index) :
    (greedy m (turns + 1) none last c k).isSome = true ↔
      (∃ first rest, c.after = first ++ rest ∧ first ∈ words ∧
        (greedy m turns none (some c.index) (c.past first rest) k).isSome = true) ∨
      (k c).isSome = true := by
  rw [← h c fun d => greedy m turns none (some c.index) d k, ← isSome_orElse, greedy,
    if_neg (by simpa using hl)]
  rfl

-- A turn that takes nothing is the last one. Every word of the repetition is made of words that take
-- something, so none is left out.
theorem greedy_turns (h : m.Takes words) {turns : Nat} {last : Option Nat} {c : Cursor} {k : Rest}
    (ht : c.after.length < turns) (hl : last ≠ some c.index) :
    (greedy m turns none last c k).isSome = true ↔
      ∃ taken rest, c.after = taken ++ rest ∧ taken ∈ words∗ ∧ (k (c.past taken rest)).isSome = true := by
  induction turns generalizing last c
  case zero => cases ht
  case succ turns hi =>
    have hi {first rest : List Char} (hc : c.after = first ++ rest) (hf : first ≠ []) :
        (greedy m turns none (some c.index) (c.past first rest) k).isSome = true ↔
          ∃ second back, rest = second ++ back ∧ second ∈ words∗ ∧
            (k (c.past (first ++ second) back)).isSome = true := by
      have hlen := List.length_pos_of_ne_nil hf
      rw [hc, List.length_append] at ht
      have hrest : (c.past first rest).after.length < turns := by rw [Cursor.after_past]; omega
      have hindex : some c.index ≠ some (c.past first rest).index := by simp [Cursor.past, hf]
      simpa only [Cursor.past_past, Cursor.after_past] using hi hrest hindex
    rw [greedy_turn h hl]
    constructor
    · rintro (⟨first, rest, hc, hfirst, hk⟩ | hk)
      · by_cases hf : first = []
        case pos =>
          obtain rfl := hf
          obtain rfl := hc
          rw [Cursor.past_nil, greedy_idle] at hk
          exact ⟨[], c.after, rfl, Language.nil_mem_kstar _, hk⟩
        case neg =>
          obtain ⟨second, back, rfl, hsecond, hk⟩ := (hi hc hf).mp hk
          obtain ⟨parts, rfl, hparts⟩ := Language.mem_kstar.mp hsecond
          have hw : (first :: parts).flatten ∈ words∗ :=
            Language.join_mem_kstar (List.forall_mem_cons.mpr ⟨hfirst, hparts⟩)
          exact ⟨first ++ parts.flatten, back, by simp [hc], hw, hk⟩
      · exact ⟨[], c.after, rfl, Language.nil_mem_kstar _, hk⟩
    · rintro ⟨taken, rest, hc, hw, hk⟩
      obtain ⟨parts, rfl, hparts⟩ := Language.mem_kstar_iff_exists_nonempty.mp hw
      cases parts
      case nil =>
        obtain rfl := hc
        exact .inr hk
      case cons first others =>
        obtain ⟨⟨hfirst, hf⟩, hothers⟩ := List.forall_mem_cons.mp hparts
        have hc : c.after = first ++ (others.flatten ++ rest) := by simpa using hc
        refine .inl ⟨first, _, hc, hfirst, (hi hc hf).mpr ⟨others.flatten, rest, rfl, ?_, hk⟩⟩
        exact Language.join_mem_kstar fun w hw => (hothers w hw).1

theorem Takes.rep (h : m.Takes words) (least : Nat) :
    (rep m .greedy least none).Takes (words ^ least * words∗) :=
  (h.times least).seq fun _ _ => greedy_turns h (Nat.lt_add_of_pos_right Nat.zero_lt_two) nofun

end Matcher

-- What a pattern without groups, places and looks stands for.
inductive Node.Denotes : Node → Language Char → Prop
  | empty : Denotes .empty 1
  | set {s} : Denotes (.set s) (letters s.holds)
  | any {breaks} : Denotes (.any breaks) (letters fun x => breaks || x != '\n')
  | seq {a b words more} (ha : Denotes a words) (hb : Denotes b more) : Denotes (.seq a b) (words * more)
  | alt {a b words more} (ha : Denotes a words) (hb : Denotes b more) : Denotes (.alt a b) (words + more)
  | rep {body words least} (h : Denotes body words) :
    Denotes (.rep .greedy least none body) (words ^ least * words∗)

namespace Node

variable {node : Node} {words : Language Char} {text : List Char}

theorem Denotes.takes (h : node.Denotes words) : node.matcher.Takes words := by
  induction h
  case empty         => exact Matcher.takes_nothing
  case set           => exact Matcher.takes_one
  case any           => exact Matcher.takes_one
  case seq ha hb     => exact ha.seq hb
  case alt ha hb     => exact ha.alt hb
  case rep hbody     => exact hbody.rep _

-- A pattern that matches at the start of the text only.
def atStart (node : Node) : Node := seq (.anchor .textStart) node

theorem matcher_atStart {c : Cursor} {k : Rest} :
    node.atStart.matcher c k = if c.before.isEmpty then node.matcher c k else none := rfl

theorem search?_atStart {left : Nat} {c : Cursor} (h : c.before ≠ []) :
    node.atStart.search? left false c = none := by
  induction left generalizing c
  case zero => rfl
  case succ left hi =>
    rw [search?, matcher_atStart, if_neg (by simpa using h)]
    cases hc : c.after
    case nil         => simp [Cursor.step?, hc]
    case cons x rest => simpa [Cursor.step?_of_after hc] using hi (by simp [Cursor.past])

theorem found_atStart : node.atStart.found text = (node.matcher (.start text) some).isSome := by
  have hm : node.atStart.matcher { Cursor.start text with groups := [] }
      (fun d => if false && d.index == (Cursor.start text).index then none else some d) =
      node.matcher (.start text) some := rfl
  rw [found, search?, hm]
  cases node.matcher (.start text) some
  case some => rfl
  case none =>
    cases text
    case nil => rfl
    case cons x rest =>
      have hlater : node.atStart.search? (x :: rest).length false
          ((Cursor.start (x :: rest)).past [x] rest) = none :=
        search?_atStart (List.cons_ne_nil x [])
      simpa [Cursor.step?_of_after (rfl : (Cursor.start (x :: rest)).after = x :: rest)] using hlater

theorem Denotes.found_iff (h : node.Denotes words) :
    node.atStart.found text = true ↔ ∃ taken rest, text = taken ++ rest ∧ taken ∈ words := by
  rw [found_atStart, h.takes]
  simp [Cursor.start]

end Node

end FlowGate.Pattern
