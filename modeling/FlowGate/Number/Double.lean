-- Double precision numbers, held exactly. A finite double is a whole number of the smallest positive one, so
-- that comparison, rounding and the reading of decimals are arithmetic on whole numbers.

namespace FlowGate

namespace Grid

def one : Nat := Nat.pow 2 1074

def limit : Nat := Nat.pow 2 2098

-- The distance between neighbouring doubles at a magnitude: 53 significant bits are kept.
def step (units : Nat) : Nat := Nat.pow 2 (units.log2 - 52)

def Representable (units : Nat) : Prop := units < limit ∧ units % step units = 0

instance (units : Nat) : Decidable (Representable units) :=
  inferInstanceAs (Decidable (_ ∧ _))

-- The whole number nearest to a quotient; a half goes to the even neighbour.
def divRound (num den : Nat) : Nat :=
  let q := num / den
  let twice := 2 * (num % den)
  if twice < den then q
  else if den < twice then q + 1
  else q + q % 2

def nearest (num den : Nat) : Nat :=
  let s := step (num / den)
  divRound num (den * s) * s

end Grid

inductive Double
  | nan
  | infinite (negative : Bool)
  | finite (negative : Bool) (units : Nat) (fits : Grid.Representable units)
deriving DecidableEq

namespace Double

-- A magnitude with its sign; one that is too large becomes infinite.
def ofUnits (negative : Bool) (units : Nat) : Double :=
  if h : Grid.Representable units then .finite negative units h else .infinite negative

def ofRatio (negative : Bool) (num den : Nat) : Double :=
  ofUnits negative (Grid.nearest (num * Grid.one) den)

def ofInt (n : Int) : Double := ofRatio (n < 0) n.natAbs 1

def zero : Double := ofUnits false 0

instance : Inhabited Double := ⟨zero⟩

def isNaN : Double → Bool
  | nan => true
  | _ => false

def isFinite : Double → Bool
  | finite .. => true
  | _ => false

def isZero : Double → Bool
  | finite _ units _ => units == 0
  | _ => false

-- The double nearest to a whole number, if that number is not too large.
def ofInt? (n : Int) : Option Double :=
  let x := ofInt n
  if x.isFinite then some x else none

def ofBool (b : Bool) : Double := ofInt (if b then 1 else 0)

def units? : Double → Option Int
  | finite negative units _ => some (if negative then -(units : Int) else units)
  | _ => none

-- The order of two doubles. What is not a number has no place in it, and the zeros are equal.
def order? : Double → Double → Option Ordering
  | nan, _ => none
  | _, nan => none
  | infinite s, infinite t => some (compare t s)
  | infinite s, finite .. => some (if s then .lt else .gt)
  | finite .., infinite t => some (if t then .gt else .lt)
  | finite s a _, finite t b _ => some (compare (signed s a) (signed t b))
where
  signed (negative : Bool) (units : Nat) : Int := if negative then -(units : Int) else units

def orderInt? (n : Int) : Double → Option Ordering
  | nan => none
  | infinite s => some (if s then .gt else .lt)
  | finite s a _ => some (compare (n * Grid.one) (if s then -(a : Int) else a))

-- Numeric equality: the zeros are equal, and what is not a number equals nothing.
def eq (x y : Double) : Bool := x.order? y == some .eq

def lt (x y : Double) : Bool := x.order? y == some .lt

def le (x y : Double) : Bool := x.lt y || x.eq y

-- The whole number that a double denotes, if it denotes one.
def toInt? : Double → Option Int
  | finite s units _ =>
    if units % Grid.one = 0 then
      some (if s then -((units / Grid.one : Nat) : Int) else (units / Grid.one : Nat))
    else
      none
  | _ => none

def truncate? : Double → Option Int
  | finite s units _ => some (if s then -((units / Grid.one : Nat) : Int) else (units / Grid.one : Nat))
  | _ => none

def divNat (x : Double) (n : Nat) : Double :=
  match x with
  | finite s units _ => ofUnits s (Grid.nearest units n)
  | x => x

end Double

end FlowGate
