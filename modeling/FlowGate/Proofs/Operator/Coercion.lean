import FlowGate.Operator.Comparison
import FlowGate.Proofs.Number.Numeral
import FlowGate.Proofs.Number.Whole
import FlowGate.Proofs.Value.Number

-- Which values the operators that compare numbers read as numbers, and what they make of the others. A pair of
-- bounds is read from the left, and the second bound only if the value is not below the first one.

namespace FlowGate

namespace Value

-- The values that stand for numbers.
inductive IsNumeric : Value → Prop
  | bool (b : Bool) : IsNumeric (bool b)
  | int (n : Int) : IsNumeric (int n)
  | double (x : Double) : IsNumeric (double x)
  | text {s : String} (h : Numeral.IsNumeral s) : IsNumeric (text s)

-- Values without whole numbers that are too large for doubles.
def Bounded (v : Value) : Prop :=
  v.BuiltOf fun s => ∀ n, s = .int n → Double.Reaches n

variable {v : Value}

theorem Bounded.reaches {n : Int} (h : (int n).Bounded) : Double.Reaches n := by
  cases h
  case scalar h => exact h n rfl

theorem bounded_int {n : Int} (h : Double.Reaches n) : (int n).Bounded :=
  .scalar fun _ hn => Scalar.int.inj hn ▸ h

theorem bounded_text (s : String) : (text s).Bounded :=
  .scalar nofun

theorem Bounded.item {xs : List Value} (h : (list xs).Bounded) : ∀ x ∈ xs, x.Bounded := by
  cases h
  case list h => exact h

theorem Bounded.isNumeric_iff (h : v.Bounded) : v.IsNumeric ↔ ∃ x, v.Denotes x := by
  constructor
  · intro hn
    cases hn
    case bool b   => exact ⟨_, .bool b⟩
    case int n    => exact ⟨_, .int (Double.ofInt?_eq_some h.reaches)⟩
    case double x => exact ⟨_, .double x⟩
    case text hs  =>
      obtain ⟨x, hx⟩ := Option.isSome_iff_exists.mp (Numeral.readDouble?_isSome_iff.mpr hs)
      exact ⟨x, .text hx⟩
  · rintro ⟨x, hx⟩
    cases hx
    case bool b   => exact .bool b
    case int n _  => exact .int n
    case double   => exact .double x
    case text hs  => exact .text (Numeral.readDouble?_isSome_iff.mp (Option.isSome_of_eq_some hs))

theorem Bounded.toNumber (h : v.Bounded) (hn : ¬v.IsNumeric) :
    ∃ shown, v.display = .ok shown ∧ v.toNumber = .error (.notNumeric shown) := by
  obtain ⟨shown, hd⟩ := hereditary_displays.holds v h
  refine ⟨shown, hd, toNumber_eq_error hd ?_ fun x hx => hn (h.isNumeric_iff.mpr ⟨x, hx⟩)⟩
  rintro n rfl
  exact absurd (.int n) hn

theorem pair?_eq_none (h : ∀ low high, v ≠ .list [low, high]) : v.pair? = none := by
  unfold pair?
  split
  case h_1 => exact absurd rfl (h _ _)
  case h_2 => rfl

end Value

namespace Comparison

open Value

variable {a e low high : Value} {x y : Double} {holds : Double → Double → Bool} {r : Except Fault Bool}

theorem numeric_of_denotes (ha : a.Denotes x) (he : e.Denotes y) : numeric holds a e = .ok (holds x y) := by
  rw [numeric, toNumber_eq_ok_iff.mpr ha, toNumber_eq_ok_iff.mpr he]
  rfl

-- There is an answer exactly if all of these values stand for numbers. Otherwise the fault shows one that does not.
structure Reads (vs : List Value) (r : Except Fault Bool) : Prop where
  answers : (∃ b, r = .ok b) ↔ ∀ v ∈ vs, v.IsNumeric
  faults  : ∀ f, r = .error f →
    ∃ v ∈ vs, ¬v.IsNumeric ∧ ∃ shown, v.display = .ok shown ∧ f = .notNumeric shown

theorem Reads.of_answer {vs : List Value} {b : Bool} (hr : r = .ok b) (h : ∀ v ∈ vs, v.IsNumeric) : Reads vs r where
  answers    := iff_of_true ⟨b, hr⟩ h
  faults f h := by cases hr.symm.trans h

theorem Reads.of_fault {vs : List Value} {v : Value} {shown : String} (hv : v ∈ vs) (hn : ¬v.IsNumeric)
    (hd : v.display = .ok shown) (hr : r = .error (.notNumeric shown)) : Reads vs r where
  answers     := iff_of_false (fun ⟨b, h⟩ => by cases hr.symm.trans h) fun h => hn (h v hv)
  faults f hf := ⟨v, hv, hn, shown, hd, Except.error.inj (hf.symm.trans hr)⟩

theorem Reads.map {vs : List Value} {f : Bool → Bool} (h : Reads vs r) : Reads vs (r.map f) := by
  have ⟨hanswers, hfaults⟩ := h
  cases r
  case error f => exact ⟨hanswers, hfaults⟩
  case ok b    => exact .of_answer rfl (hanswers.mp ⟨b, rfl⟩)

theorem numeric_reads (ha : a.Bounded) (he : e.Bounded) : Reads [a, e] (numeric holds a e) := by
  by_cases hna : a.IsNumeric
  case neg =>
    obtain ⟨shown, hd, hf⟩ := ha.toNumber hna
    exact .of_fault (.head _) hna hd (by rw [numeric, hf]; rfl)
  case pos =>
    obtain ⟨x, hx⟩ := ha.isNumeric_iff.mp hna
    by_cases hne : e.IsNumeric
    case neg =>
      obtain ⟨shown, hd, hf⟩ := he.toNumber hne
      exact .of_fault (.tail _ (.head _)) hne hd (by rw [numeric, toNumber_eq_ok_iff.mpr hx, hf]; rfl)
    case pos =>
      obtain ⟨y, hy⟩ := he.isNumeric_iff.mp hne
      exact .of_answer (numeric_of_denotes hx hy) (by simp [hna, hne])

theorem between_pair : between a (.list [low, high]) =
    numeric (fun a e => e.le a) a low >>= fun above => if above then numeric Double.le a high else .ok false := by
  simp only [between, pair?, numeric]
  cases a.toNumber
  case error => rfl
  case ok x  =>
    cases low.toNumber
    case error => rfl
    case ok y  => simp only [bind, Except.bind, pure, Except.pure]

-- Where the value is not below the first bound, both bounds are read.
theorem between_reads (ha : a.Bounded) (hl : low.Bounded) (hh : high.Bounded)
    (h : numeric (fun a e => e.le a) a low ≠ .ok false) : Reads [a, low, high] (between a (.list [low, high])) := by
  have hlow : Reads [a, low] (numeric (fun a e => e.le a) a low) := numeric_reads ha hl
  have hhigh : Reads [a, high] (numeric Double.le a high) := numeric_reads ha hh
  rw [between_pair]
  cases hr : numeric (fun a e => e.le a) a low
  case error f =>
    obtain ⟨v, hv, hn, shown, hd, rfl⟩ := hlow.faults f hr
    exact .of_fault (List.mem_append_left [high] hv) hn hd rfl
  case ok above =>
    have hnum := hlow.answers.mp ⟨above, hr⟩
    obtain rfl : above = true := by simpa [hr] using h
    refine ⟨hhigh.answers.trans ?_, fun f hf => ?_⟩
    · simp only [List.forall_mem_cons] at hnum ⊢
      tauto
    · obtain ⟨v, hv, hn⟩ := hhigh.faults f hf
      exact ⟨v, List.cons_subset_cons a (List.subset_cons_self low _) hv, hn⟩

theorem between_below (h : numeric (fun a e => e.le a) a low = .ok false) :
    between a (.list [low, high]) = .ok false := by
  rw [between_pair, h]
  rfl

theorem between_unpaired (h : ∀ low high, e ≠ .list [low, high]) : between a e = .ok false := by
  rw [between, pair?_eq_none h]

theorem notBetween_eq : notBetween a e = (between a e).map (!·) := by
  unfold notBetween
  split
  case h_1 hp => rw [between, hp]; rfl
  case h_2    => rfl

end Comparison

namespace Comparer

open Comparison Value

variable {a e : Value}

def orderings : List Operator := [.greaterThan, .greaterThanOrEqual, .lessThan, .lessThanOrEqual]

-- What the operators read as numbers. A pair whose first bound is above the value answers whatever the second is.
structure Coerces (t : Comparer) (a e : Value) : Prop where
  ordering : ∀ o ∈ orderings, Reads [a, e] (t.applyKnown o a e)
  unpaired : (∀ low high, e ≠ .list [low, high]) →
    t.applyKnown .between a e = .ok false ∧ t.applyKnown .notBetween a e = .ok true
  paired   : ∀ low high, e = .list [low, high] → t.applyKnown .greaterThanOrEqual a low ≠ .ok false →
    ∀ o ∈ [Operator.between, .notBetween], Reads [a, low, high] (t.applyKnown o a e)
  below    : ∀ low high, e = .list [low, high] → t.applyKnown .greaterThanOrEqual a low = .ok false →
    t.applyKnown .between a e = .ok false ∧ t.applyKnown .notBetween a e = .ok true
  negated  : t.applyKnown .notBetween a e = (t.applyKnown .between a e).map (!·)

theorem coercion_exact (t : Comparer) (ha : a.Bounded) (he : e.Bounded) : t.Coerces a e := by
  have hunpaired (h : t.applyKnown .between a e = .ok false) :
      t.applyKnown .between a e = .ok false ∧ t.applyKnown .notBetween a e = .ok true :=
    ⟨h, notBetween_eq.trans (congrArg (Except.map (!·)) h)⟩
  exact {
    ordering o ho := by
      simp only [orderings, List.mem_cons, List.not_mem_nil, or_false] at ho
      rcases ho with rfl | rfl | rfl | rfl <;> exact numeric_reads ha he
    unpaired h    := hunpaired (between_unpaired h)
    paired        := by
      rintro low high rfl h
      have hread := between_reads ha (he.item _ (.head _)) (he.item _ (.tail _ (.head _))) h
      have hnot : Reads [a, low, high] (notBetween a (.list [low, high])) := by
        rw [notBetween_eq]
        exact hread.map
      exact List.forall_mem_cons.mpr ⟨hread, List.forall_mem_singleton.mpr hnot⟩
    below         := by
      rintro low high rfl h
      exact hunpaired (between_below h)
    negated       := notBetween_eq
  }

theorem abc_not_numeric : ¬(text "abc").IsNumeric := by
  intro h
  cases h
  case text h =>
    have h := Numeral.readDouble?_isSome_iff.mpr h
    revert h
    decide +kernel

-- The second bound is no number, and nothing comes of it.
theorem unread_coerces : (int 1).Bounded ∧ (Value.list [int 5, text "abc"]).Bounded ∧ ¬(text "abc").IsNumeric ∧
    (Engine.ofFunctions []).comparer.Coerces (int 1) (.list [int 5, text "abc"]) ∧
      (Engine.ofFunctions []).comparer.applyKnown .between (int 1) (.list [int 5, text "abc"]) = .ok false := by
  have hone : Double.Reaches 1 := Double.reaches_of_lt (by decide)
  have hfive : Double.Reaches 5 := Double.reaches_of_lt (by decide)
  have ha := bounded_int hone
  have he : (Value.list [int 5, text "abc"]).Bounded :=
    .list (List.forall_mem_cons.mpr ⟨bounded_int hfive, List.forall_mem_singleton.mpr (bounded_text _)⟩)
  have hle : (Double.ofInt 5).le (.ofInt 1) = false := by decide +kernel
  have hbelow : (Engine.ofFunctions []).comparer.applyKnown .greaterThanOrEqual (int 1) (int 5) = .ok false := by
    rw [applyKnown, numeric_of_denotes (.int (Double.ofInt?_eq_some hone)) (.int (Double.ofInt?_eq_some hfive)), hle]
  have h := coercion_exact (Engine.ofFunctions []).comparer ha he
  exact ⟨ha, he, abc_not_numeric, h, (h.below _ _ rfl hbelow).left⟩

end Comparer

end FlowGate
