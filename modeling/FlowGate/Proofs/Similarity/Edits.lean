import FlowGate.Operator.Similarity
import Mathlib.Order.Bounds.Defs

-- Edits of texts. The distance between two texts is computed row by row. It is compared with all the ways in which
-- single edits turn one text into the other.

namespace FlowGate.Similarity

-- One character is put in, taken out or replaced.
inductive Edit : List Char → List Char → Prop
  | insert (front back : List Char) (c : Char)    : Edit (front ++ back) (front ++ c :: back)
  | delete (front back : List Char) (c : Char)    : Edit (front ++ c :: back) (front ++ back)
  | replace (front back : List Char) (c d : Char) : Edit (front ++ c :: back) (front ++ d :: back)

-- So many edits turn one text into another.
inductive Edits : Nat → List Char → List Char → Prop
  | none {a : List Char} : Edits 0 a a
  | more {n : Nat} {a b c : List Char} (h : Edit a b) (rest : Edits n b c) : Edits (n + 1) a c

variable {a b u : List Char} {c d x : Char} {n : Nat}

namespace Edit

theorem cons (h : Edit a b) : Edit (x :: a) (x :: b) := by
  cases h
  case insert front back c    => exact insert (x :: front) back c
  case delete front back c    => exact delete (x :: front) back c
  case replace front back c d => exact replace (x :: front) back c d

theorem symm (h : Edit a b) : Edit b a := by
  cases h
  case insert front back c    => exact delete front back c
  case delete front back c    => exact insert front back c
  case replace front back c d => exact replace front back d c

theorem reverse (h : Edit a b) : Edit a.reverse b.reverse := by
  cases h
  case insert front back c    => simpa using insert back.reverse front.reverse c
  case delete front back c    => simpa using delete back.reverse front.reverse c
  case replace front back c d => simpa using replace back.reverse front.reverse c d

end Edit

namespace Edits

theorem cons (h : Edits n a b) : Edits n (x :: a) (x :: b) := by
  induction h
  case none        => exact none
  case more h _ hi => exact more h.cons hi

theorem concat (h : Edits n a b) (last : Edit b u) : Edits (n + 1) a u := by
  induction h
  case none        => exact more last none
  case more h _ hi => exact more h (hi last)

theorem symm (h : Edits n a b) : Edits n b a := by
  induction h
  case none        => exact none
  case more h _ hi => exact hi.concat h.symm

theorem reverse (h : Edits n a b) : Edits n a.reverse b.reverse := by
  induction h
  case none        => exact none
  case more h _ hi => exact more h.reverse hi

theorem of_min {l m n : Nat} (hl : Edits (l + 1) a b) (hm : Edits (m + 1) a b) (hn : Edits (n + 1) a b) :
    Edits (min l (min m n) + 1) a b := by
  have least : min l (min m n) = l ∨ min l (min m n) = m ∨ min l (min m n) = n := by omega
  obtain h | h | h := least <;> rw [h]
  · exact hl
  · exact hm
  · exact hn

theorem reverse_iff : Edits n a.reverse b.reverse ↔ Edits n a b :=
  ⟨fun h => by simpa using h.reverse, reverse⟩

end Edits

-- The number of edits that it takes when the texts are compared from their first characters on. Equal
-- characters are passed over, even where it might look better to edit one of them.
def gap : List Char → List Char → Nat
  | [], b            => b.length
  | a, []            => a.length
  | c :: a, d :: b   =>
    if c = d then gap a b else min (gap a b) (min (gap (c :: a) b) (gap a (d :: b))) + 1
termination_by a b => a.length + b.length

@[simp]
theorem gap_nil_left : gap [] b = b.length := by
  rw [gap]

@[simp]
theorem gap_nil_right : gap a [] = a.length := by
  cases a <;> simp [gap]

theorem gap_cons_self : gap (c :: a) (c :: b) = gap a b := by
  rw [gap, if_pos rfl]

theorem gap_cons_ne (h : c ≠ d) :
    gap (c :: a) (d :: b) = min (gap a b) (min (gap (c :: a) b) (gap a (d :: b))) + 1 := by
  rw [gap, if_neg h]

theorem gap_self : gap a a = 0 := by
  induction a
  case nil       => rw [gap_nil_left, List.length_nil]
  case cons _ hi => rw [gap_cons_self, hi]

theorem gap_comm : gap a b = gap b a := by
  fun_induction gap a b
  case case1 => simp
  case case2 => simp
  case case3 a c b hi => rw [gap_cons_self, hi]
  case case4 c a d b h hab hb ha =>
    rw [gap_cons_ne (Ne.symm h), hab, hb, ha, Nat.min_comm (gap (d :: b) a)]

-- One character more in front makes a difference of at most one edit.
theorem gap_cons_near {a b : List Char} (c : Char) :
    gap (c :: a) b ≤ gap a b + 1 ∧ gap a b ≤ gap (c :: a) b + 1 :=
  match b with
  | []     => by simp only [gap_nil_right, List.length_cons]; omega
  | d :: b => by
    have left := gap_cons_near (a := a) (b := b) c
    have right := gap_cons_near (a := b) (b := a) d
    rw [gap_comm, gap_comm (b := a)] at right
    by_cases h : c = d
    case pos => subst h; rw [gap_cons_self]; omega
    case neg => rw [gap_cons_ne h]; omega
termination_by a.length + b.length

theorem gap_cons_cons_le : gap (c :: a) (d :: b) ≤ gap a b + 1 := by
  by_cases h : c = d
  case pos => subst h; rw [gap_cons_self]; omega
  case neg => rw [gap_cons_ne h]; omega

-- What is an edit nearer to every text stays so with the same characters in front.
theorem gap_append_le {front : List Char} (h : ∀ u, gap a u ≤ gap b u + 1) :
    gap (front ++ a) u ≤ gap (front ++ b) u + 1 := by
  induction front generalizing u
  case nil => exact h u
  case cons x front hi =>
    induction u
    case nil =>
      have hl := @hi []
      simp only [gap_nil_right, List.cons_append, List.length_cons] at hl ⊢
      omega
    case cons y u hu =>
      have here := @hi u
      have above := @hi (y :: u)
      simp only [List.cons_append] at hu ⊢
      by_cases hx : x = y
      case pos => subst hx; rw [gap_cons_self, gap_cons_self]; exact here
      case neg => rw [gap_cons_ne hx, gap_cons_ne hx]; omega

theorem gap_replace_le : gap (c :: a) u ≤ gap (d :: a) u + 1 := by
  induction u
  case nil => simp
  case cons x u hi =>
    have hc : gap (c :: a) (x :: u) ≤ gap a u + 1 := gap_cons_cons_le
    have ⟨ha, _⟩ := gap_cons_near (a := a) (b := x :: u) c
    by_cases h : d = x
    case pos => subst h; rw [gap_cons_self]; exact hc
    case neg =>
      have ⟨hx, _⟩ := gap_cons_near (a := u) (b := c :: a) x
      rw [gap_comm, gap_comm (b := c :: a)] at hx
      rw [gap_cons_ne h]
      omega

-- Each edit brings a text nearer to another by one at most.
theorem gap_le_of_edit (h : Edit a b) : gap a u ≤ gap b u + 1 := by
  cases h
  case insert front back c    => exact gap_append_le fun _ => (gap_cons_near c).right
  case delete front back c    => exact gap_append_le fun _ => (gap_cons_near c).left
  case replace front back c d => exact gap_append_le fun _ => gap_replace_le

theorem gap_le_of_edits (h : Edits n a b) : gap a b ≤ n := by
  induction h
  case none        => exact Nat.le_of_eq gap_self
  case more h _ hi => exact Nat.le_trans (gap_le_of_edit h) (Nat.succ_le_succ hi)

theorem edits_nil (b : List Char) : Edits b.length [] b := by
  induction b
  case nil           => exact .none
  case cons c b hi   => exact hi.concat (.insert [] b c)

theorem edits_gap (a b : List Char) : Edits (gap a b) a b := by
  fun_induction gap a b
  case case1 b   => exact edits_nil b
  case case2 a _ => exact (edits_nil a).symm
  case case3 hi  => exact hi.cons
  case case4 c a d b h replaced inserted deleted =>
    exact .of_min (.more (.replace [] a c d) replaced.cons) (inserted.concat (.insert [] b d))
      (.more (.delete [] a c) deleted)

theorem gap_isLeast (a b : List Char) : IsLeast {n | Edits n a b} (gap a b) :=
  ⟨edits_gap a b, fun _ h => gap_le_of_edits h⟩

-- A row of the table: the gaps between a beginning of one text and all beginnings of the other from `p` on.
-- The beginnings are written backwards, so that a row goes on where the text does.
def gaps (front p : List Char) : List Char → List Nat
  | []      => [gap front p]
  | d :: ds => gap front p :: gaps front (d :: p) ds

theorem gaps_eq_cons {p ds : List Char} : ∃ tail, gaps a p ds = gap a p :: tail := by
  cases ds <;> exact ⟨_, rfl⟩

theorem nextRow_gaps {p ds : List Char} :
    nextRow c (gap (c :: a) p) ds (gaps a p ds) = gaps (c :: a) p ds := by
  induction ds generalizing p
  case nil => rfl
  case cons d ds hi =>
    have ⟨tail, ht⟩ : ∃ tail, gaps a (d :: p) ds = gap a (d :: p) :: tail := gaps_eq_cons
    have here : (if c = d then gap a p else min (gap a p) (min (gap (c :: a) p) (gap a (d :: p))) + 1) =
        gap (c :: a) (d :: p) := by
      rw [gap]
    rw [gaps, ht, nextRow, here, ← ht, hi, gaps]

theorem row_gaps {rest : List Char} :
    row b a.length (gaps a [] b) rest = gaps (rest.reverse ++ a) [] b := by
  induction rest generalizing a
  case nil => rfl
  case cons c rest hi =>
    have hrow : nextRow c (gap (c :: a) []) b (gaps a [] b) = gaps (c :: a) [] b := nextRow_gaps
    rw [gap_nil_right, List.length_cons] at hrow
    rw [row, hrow, ← List.length_cons, hi]
    simp

theorem gaps_nil {p : List Char} : gaps [] p b = List.range' p.length (b.length + 1) := by
  induction b generalizing p
  case nil           => simp [gaps]
  case cons d ds hi  => rw [gaps, hi]; simp [List.range'_succ]

theorem getLast?_gaps {p : List Char} : (gaps a p b).getLast? = some (gap a (b.reverse ++ p)) := by
  induction b generalizing p
  case nil => rfl
  case cons d ds hi =>
    have ⟨tail, ht⟩ : ∃ tail, gaps a (d :: p) ds = gap a (d :: p) :: tail := gaps_eq_cons
    rw [gaps, ht, List.getLast?_cons_cons, ← ht, hi]
    simp

theorem distance_eq_gap (a b : List Char) : distance a b = gap a.reverse b.reverse := by
  have table (long short : List Char) :
      ((row short 0 (List.range (short.length + 1)) long).getLast?).getD 0 =
        gap long.reverse short.reverse := by
    have hr : row short ([] : List Char).length (gaps [] [] short) long = gaps (long.reverse ++ []) [] short :=
      row_gaps
    rw [gaps_nil, List.length_nil, ← List.range_eq_range'] at hr
    rw [hr, getLast?_gaps]
    simp
  rw [distance]
  by_cases h : a.length < b.length
  case pos => simp only [h, if_true]; exact (table b a).trans gap_comm
  case neg => simp only [h, if_false]; exact table a b

theorem distance_isLeast (a b : List Char) : IsLeast {n | Edits n a b} (distance a b) := by
  rw [distance_eq_gap]
  have h := gap_isLeast a.reverse b.reverse
  simpa only [Edits.reverse_iff] using h

theorem distance_comm (a b : List Char) : distance a b = distance b a := by
  rw [distance_eq_gap, distance_eq_gap, gap_comm]

end FlowGate.Similarity
