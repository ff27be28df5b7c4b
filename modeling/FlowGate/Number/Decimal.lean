import FlowGate.Number.Double

-- The decimal text of a double: the fewest digits that read back as the same double, and of those the nearest
-- to it. Numbers from 10^-4 up to 10^16 are written without an exponent.

namespace FlowGate

namespace Decimal

-- The numbers that round to a double lie between two bounds, both counted in quarters of a unit. The bounds
-- themselves belong to it when the double has an even last bit.
structure Interval where
  lower  : Nat
  upper  : Nat
  closed : Bool

namespace Interval

-- Below a power of two the neighbours stand half as far apart.
def around (units : Nat) : Interval :=
  let s := Grid.step units
  let below := if units == Nat.pow 2 units.log2 && s > 1 then s else 2 * s
  { lower  := 4 * units - below,
    upper  := 4 * units + 2 * s,
    closed := units / s % 2 == 0 }

def holds (i : Interval) (num den : Nat) : Bool :=
  if i.closed then i.lower * den ≤ num && num ≤ i.upper * den
  else i.lower * den < num && num < i.upper * den

end Interval

structure Digits where
  digits   : Nat
  exponent : Int

def digitCount (n : Nat) : Nat := (Nat.toDigits 10 n).length

-- The power of ten of the first digit of `num / den`, which is not zero.
def leadingPower (num den : Nat) : Int :=
  if den ≤ num then (digitCount (num / den) : Int) - 1
  else
    let k := digitCount (den / num)
    if den ≤ num * Nat.pow 10 (k - 1) then -((k - 1 : Nat) : Int) else -(k : Int)

def scale (num den : Nat) (power : Int) : Nat × Nat :=
  if 0 ≤ power then (num * Nat.pow 10 power.toNat, den) else (num, den * Nat.pow 10 (-power).toNat)

-- The nearest point to a double with `count` digits that still reads back as this double.
def withDigits? (units : Nat) (exponent : Int) (count : Nat) : Option Digits :=
  let place := exponent - ((count : Int) - 1)
  let (num, den) := scale units Grid.one (-place)
  let below := num / den
  let candidates := [below, below + 1].filter fun d =>
    let (n, m) := scale (d * (4 * Grid.one)) 1 place
    (Interval.around units).holds n m
  match candidates with
  | [] => none
  | [d] => some (normal d count)
  | _ => some (normal (Grid.divRound num den) count)
where
  -- Rounding up may have reached the next power of ten.
  normal (d count : Nat) : Digits := { digits := d, exponent := exponent + (digitCount d - count : Int) }

-- The shortest digits of a magnitude that is not zero. Seventeen digits always suffice.
def shortest (units : Nat) : Digits :=
  let exponent := leadingPower units Grid.one
  ((List.range' 1 17).findSome? (withDigits? units exponent)).getD ⟨0, 0⟩

-- Zeros at the end of the digits carry nothing.
def significant (d : Digits) : List Char :=
  match ((Nat.toDigits 10 d.digits).reverse.dropWhile (· == '0')).reverse with
  | [] => ['0']
  | cs => cs

-- Numbers with a leading power from `-4` to `15` are written without an exponent.
def isPositional (exponent : Int) : Bool := -4 ≤ exponent && exponent < 16

def positional (digits : List Char) (exponent : Int) : List Char :=
  if exponent < 0 then
    ['0', '.'] ++ List.replicate (-exponent - 1).toNat '0' ++ digits
  else
    let whole := exponent.toNat + 1
    let fraction := digits.drop whole
    digits.take whole ++ List.replicate (whole - digits.length) '0' ++
      '.' :: (if fraction.isEmpty then ['0'] else fraction)

-- The exponent has a sign and at least two digits.
def scientific (digits : List Char) (exponent : Int) : List Char :=
  let power := Nat.toDigits 10 exponent.natAbs
  let fraction := digits.drop 1
  digits.take 1 ++ (if fraction.isEmpty then [] else '.' :: fraction) ++
    ['e', if exponent < 0 then '-' else '+'] ++
    List.replicate (2 - power.length) '0' ++ power

def magnitudeText (units : Nat) : List Char :=
  if units = 0 then ['0', '.', '0']
  else
    let d := shortest units
    if isPositional d.exponent then positional (significant d) d.exponent
    else scientific (significant d) d.exponent

end Decimal

namespace Double

def text : Double → String
  | nan => "nan"
  | infinite negative => if negative then "-inf" else "inf"
  | finite negative units _ =>
    String.ofList ((if negative then ['-'] else []) ++ Decimal.magnitudeText units)

end Double

end FlowGate
