import FlowGate.Operator.Comparison
import FlowGate.Proofs.Similarity.Edits
import Mathlib.Data.Nat.Cast.Order.Field
import Mathlib.Algebra.Order.Field.Rat
import Mathlib.Tactic.Linarith

-- How alike two texts are: the share of the longer one that is left alone, as an exact number. The score that texts
-- are matched by is the double nearest to it.

namespace FlowGate.Similarity

variable {a b : List Char}

theorem gap_le_length : gap a b ≤ max a.length b.length := by
  fun_induction gap a b
  case case1 => simp
  case case2 => simp
  case case3 hi => simp only [List.length_cons]; omega
  case case4 hi _ _ => simp only [List.length_cons] at hi ⊢; omega

theorem distance_le_length : distance a b ≤ max a.length b.length := by
  rw [distance_eq_gap]
  simpa using gap_le_length (a := a.reverse) (b := b.reverse)

theorem distance_eq_zero_iff : distance a b = 0 ↔ a = b := by
  constructor
  case mp =>
    intro h
    have ⟨he, _⟩ := distance_isLeast a b
    rw [h] at he
    cases he
    rfl
  case mpr =>
    rintro rfl
    rw [distance_eq_gap, gap_self]

def longest (a b : List Char) : Nat :=
  max a.length b.length

def share (a b : List Char) : ℚ :=
  if longest a b = 0 then 1 else ((longest a b : ℚ) - distance a b) / longest a b

theorem longest_comm : longest a b = longest b a :=
  Nat.max_comm ..

theorem share_comm : share a b = share b a := by
  rw [share, share, longest_comm, distance_comm]

theorem share_nonneg : 0 ≤ share a b := by
  unfold share
  split
  case isTrue  => exact zero_le_one
  case isFalse =>
    have hd : (distance a b : ℚ) ≤ longest a b := by exact_mod_cast distance_le_length
    exact div_nonneg (sub_nonneg.mpr hd) (Nat.cast_nonneg _)

theorem share_le_one : share a b ≤ 1 := by
  unfold share
  split
  case isTrue  => exact le_rfl
  case isFalse =>
    have hd : (0 : ℚ) ≤ distance a b := Nat.cast_nonneg _
    exact div_le_one_of_le₀ (by linarith) (Nat.cast_nonneg _)

theorem share_eq_one_iff : share a b = 1 ↔ a = b := by
  unfold share
  split
  case isTrue h =>
    have ha : a = [] := List.eq_nil_of_length_eq_zero (by simp only [longest] at h; omega)
    have hb : b = [] := List.eq_nil_of_length_eq_zero (by simp only [longest] at h; omega)
    simp [ha, hb]
  case isFalse h =>
    have hl : (longest a b : ℚ) ≠ 0 := by exact_mod_cast h
    rw [div_eq_one_iff_eq hl, sub_eq_self, Nat.cast_eq_zero, distance_eq_zero_iff]

theorem score_comm : score a b = score b a := by
  rw [score, score, Nat.max_comm, distance_comm]

-- The score is the share, rounded.
theorem exists_score :
    ∃ num den : Nat, 0 < den ∧ share a b = num / den ∧ score a b = .ofRatio false num den := by
  have hd : distance a b ≤ longest a b := distance_le_length
  rw [share, score, ← longest]
  split
  case isTrue =>
    refine ⟨1, 1, Nat.one_pos, by simp, ?_⟩
    rw [Double.ofInt, Int.natAbs_one, decide_eq_false (by decide)]
  case isFalse h =>
    exact ⟨longest a b - distance a b, longest a b, Nat.pos_of_ne_zero h, by rw [Nat.cast_sub hd], rfl⟩

theorem fuzzyMatch_text (t : Comparer) (r s : String) :
    t.fuzzyMatch (.text r) (.text s) = .ok (t.threshold.le (score r.toList s.toList)) :=
  rfl

-- A text to match, with a least score of its own.
def wanted (s : String) (threshold : Value) : Value :=
  .record [("value", .text s), ("threshold", threshold)]

def leastScore (t : Comparer) : (threshold : Value) → Except Fault Double
  | .null     => .ok t.threshold
  | threshold => threshold.toNumber

theorem fuzzyMatch_wanted (t : Comparer) (r s : String) (threshold : Value) :
    t.fuzzyMatch (.text r) (wanted s threshold) =
      (leastScore t threshold).map fun least => least.le (score r.toList s.toList) := by
  have hs : t.similarityArguments (wanted s threshold) = (leastScore t threshold).map fun least => (s, least) := by
    have pair (x : Except Fault Double) :
        (x >>= fun least => Except.ok (s, least)) = x.map fun least => (s, least) := by
      cases x <;> rfl
    cases threshold
    case scalar k   => cases k <;> exact pair _
    case list | map => exact pair _
  rw [Comparer.fuzzyMatch, hs]
  cases leastScore t threshold <;> rfl

-- How alike two texts are.
structure Likeness (r s : String) : Prop where
  edits    : IsLeast {n | Edits n r.toList s.toList} (distance r.toList s.toList)
  nonneg   : 0 ≤ share r.toList s.toList
  le_one   : share r.toList s.toList ≤ 1
  comm     : share r.toList s.toList = share s.toList r.toList
  eq_one   : share r.toList s.toList = 1 ↔ r = s
  rounded  : ∃ num den : Nat, 0 < den ∧ share r.toList s.toList = num / den ∧
    score r.toList s.toList = .ofRatio false num den
  matched  : ∀ t : Comparer, ∃ b, t.applyKnown .fuzzyMatch (.text r) (.text s) = .ok b ∧
    t.applyKnown .fuzzyMatch (.text s) (.text r) = .ok b
  demanded : ∀ (t : Comparer) (threshold : Value), t.applyKnown .fuzzyMatch (.text r) (wanted s threshold) =
    t.applyKnown .fuzzyMatch (.text s) (wanted r threshold)

theorem likeness (r s : String) : Likeness r s where
  edits    := distance_isLeast ..
  nonneg   := share_nonneg
  le_one   := share_le_one
  comm     := share_comm
  eq_one   := by rw [share_eq_one_iff, String.toList_inj]
  rounded  := exists_score
  matched t := by
    refine ⟨_, fuzzyMatch_text t r s, ?_⟩
    rw [score_comm]
    exact fuzzyMatch_text t s r
  demanded t threshold := by
    change t.fuzzyMatch _ _ = t.fuzzyMatch _ _
    rw [fuzzyMatch_wanted, fuzzyMatch_wanted, score_comm]

end FlowGate.Similarity
