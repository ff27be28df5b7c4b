import FlowGate.Number.Double

-- Sums and products of doubles: the exact result, rounded once.

namespace FlowGate.Double

-- The double nearest to a whole number of units. Zero comes out positive.
def ofSignedUnits (n : Int) : Double := ofUnits (n < 0) (Grid.nearest n.natAbs 1)

def add : Double → Double → Double
  | nan, _ => nan
  | _, nan => nan
  | infinite s, infinite t => if s == t then infinite s else nan
  | infinite s, finite .. => infinite s
  | finite .., infinite t => infinite t
  | finite s a _, finite t b _ =>
    if a = 0 ∧ b = 0 then ofUnits (s && t) 0
    else ofSignedUnits ((if s then -(a : Int) else a) + (if t then -(b : Int) else b))

-- The product of a double and a number that is not negative.
def scale (x : Double) (n : Nat) : Double :=
  match x with
  | nan => nan
  | infinite s => if n = 0 then nan else infinite s
  | finite s a _ => ofUnits s (Grid.nearest (a * n) 1)

end FlowGate.Double
