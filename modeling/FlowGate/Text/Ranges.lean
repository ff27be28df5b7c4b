-- Sets of characters, given as ascending inclusive ranges of code points.

namespace FlowGate.Text

-- Ascending ranges of code points, both ends included.
abbrev Ranges := List (Nat × Nat)

namespace Ranges

-- The ranges ascend, so the search ends at the first one that starts above the code point.
def containsCode : Ranges → Nat → Bool
  | [], _ => false
  | (lo, hi) :: rest, n => if n < lo then false else n ≤ hi || containsCode rest n

def contains (rs : Ranges) (c : Char) : Bool := rs.containsCode c.toNat

end Ranges

end FlowGate.Text
