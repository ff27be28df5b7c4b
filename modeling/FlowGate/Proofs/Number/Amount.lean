import FlowGate.Proofs.Number.Interval
import FlowGate.Value.Basic
import Mathlib.Algebra.Order.Field.Rat
import Mathlib.Order.WithBot

-- What numbers amount to. Whole numbers and doubles are compared by their exact amounts, so nothing is
-- rounded where the two kinds meet.

namespace FlowGate

-- The infinities lie outside all fractions.
abbrev Amount := WithBot (WithTop ℚ)

namespace Amount

def fraction (q : ℚ) : Amount :=
  ((q : WithTop ℚ) : WithBot (WithTop ℚ))

def infinity (negative : Bool) : Amount :=
  if negative then ⊥ else ⊤

-- So many of the smallest positive double.
def ofUnits (units : Int) : Amount :=
  fraction (units / Grid.one)

variable {p q : ℚ} {m n : Int} {a b : Bool}

@[simp] theorem fraction_inj : fraction p = fraction q ↔ p = q := by
  simp [fraction]

@[simp] theorem infinity_inj : infinity a = infinity b ↔ a = b := by
  cases a <;> cases b <;> simp [infinity]

@[simp] theorem fraction_ne_infinity : fraction q ≠ infinity a := by
  cases a <;> simp [fraction, infinity, ← WithBot.coe_top]

@[simp] theorem infinity_ne_fraction : infinity a ≠ fraction q :=
  fraction_ne_infinity.symm

theorem one_ne_zero : (Grid.one : ℚ) ≠ 0 := by
  exact_mod_cast Grid.one_pos.ne'

@[simp] theorem ofUnits_inj : ofUnits m = ofUnits n ↔ m = n := by
  rw [ofUnits, ofUnits, fraction_inj, div_left_inj' one_ne_zero, Int.cast_inj]

@[simp] theorem ofUnits_ne_infinity : ofUnits n ≠ infinity a :=
  fraction_ne_infinity

@[simp] theorem infinity_ne_ofUnits : infinity a ≠ ofUnits n :=
  infinity_ne_fraction

theorem ofUnits_eq_fraction_iff : ofUnits m = fraction n ↔ n * Grid.one = m := by
  rw [ofUnits, fraction_inj, div_eq_iff one_ne_zero, eq_comm]
  exact_mod_cast Iff.rfl

end Amount

open Amount

namespace Double

-- What is not a number amounts to nothing.
def amount? : Double → Option Amount
  | nan => none
  | infinite negative => some (infinity negative)
  | finite negative units _ => some (.ofUnits (order?.signed negative units))

variable {x y : Double} {n : Int}

theorem amount?_eq_none_iff : x.amount? = none ↔ x = nan := by
  cases x <;> simp [amount?]

theorem order?_eq_iff : x.order? y = some .eq ↔ ∃ p, x.amount? = some p ∧ y.amount? = some p := by
  cases x <;> cases y <;> simp only [order?, amount?]
  case infinite.infinite a b   => cases a <;> cases b <;> simp
  case infinite.finite a _ _ _ => cases a <;> simp
  case finite.infinite _ _ _ a => cases a <;> simp
  case finite.finite           => simpa using eq_comm
  all_goals simp

theorem orderInt?_eq_iff : orderInt? n x = some .eq ↔ x.amount? = some (fraction n) := by
  cases x <;> simp only [orderInt?, amount?]
  case nan          => simp
  case infinite a   => cases a <;> simp
  case finite a u _ => rw [Option.some_inj, Option.some_inj, ofUnits_eq_fraction_iff, compare_eq_iff_eq]; rfl

end Double

namespace Scalar

-- What a number amounts to. Nothing else amounts to anything, truth values included.
def amount? : Scalar → Option Amount
  | int n    => some (fraction n)
  | double x => x.amount?
  | _        => none

-- The same where truth values count as 0 and 1.
def tally? (s : Scalar) : Option Amount := s.countsAs.amount?

variable {s t : Scalar}

theorem numericOrder?_eq_iff :
    numericOrder? s t = some .eq ↔ ∃ p, s.amount? = some p ∧ t.amount? = some p := by
  cases s <;> cases t <;> simp only [numericOrder?, amount?]
  case int.int m n       => simpa using eq_comm
  case int.double m y    => simp [Double.orderInt?_eq_iff]
  case double.int x n    => simp [Double.orderInt?_eq_iff]
  case double.double x y => exact Double.order?_eq_iff
  all_goals simp

end Scalar

end FlowGate
