import FlowGate.Text.Digit

-- Numbers of payment cards: 13 to 19 digits whose weighted sum is a multiple of ten. Every second digit counts
-- double, from the right, and of a double with two digits their sum counts.

namespace FlowGate.Text.Card

-- The values of the digits of a text, whatever stands between them.
def digits (cs : List Char) : List Nat := cs.filterMap digitValue?

-- What a digit counts in a place where it counts double.
def doubled (n : Nat) : Nat := if 9 < 2 * n then 2 * n - 9 else 2 * n

-- The weighted sum of digits given from the right.
def checksum : (double : Bool) → List Nat → Nat
  | _, [] => 0
  | double, n :: rest => (if double then doubled n else n) + checksum (!double) rest

def hasLength (ds : List Nat) : Bool := 13 ≤ ds.length && ds.length ≤ 19

def hasChecksum (ds : List Nat) : Bool := checksum false ds.reverse % 10 == 0

def isCard (cs : List Char) : Bool := hasLength (digits cs) && hasChecksum (digits cs)

end FlowGate.Text.Card
