import FlowGate.Fault

-- The host writes a whole number down only up to so many digits. The limit is on what it writes, so what counts
-- are the numbers that a text has to hold.

namespace FlowGate

-- The fault of writing numbers down, if there is a limit and one of them is beyond it.
def Fault.ofWriting (limit : Option Nat) (numbers : List Int) : Option Fault :=
  limit.bind fun digits =>
    if numbers.all fun n => n.natAbs < Nat.pow 10 digits then none else some (.integerUnwritten digits)

namespace Scalar

def integers : Scalar → List Int
  | int n => [n]
  | _ => []

end Scalar

namespace Value

mutual

-- The whole numbers in a value, keys included. The text of the value holds them all.
def integers : Value → List Int
  | scalar s => s.integers
  | list items => itemIntegers items
  | map entries => entryIntegers entries

def itemIntegers : List Value → List Int
  | [] => []
  | v :: rest => integers v ++ itemIntegers rest

def entryIntegers : List (Scalar × Value) → List Int
  | [] => []
  | (k, v) :: rest => k.integers ++ integers v ++ entryIntegers rest

end

mutual

-- The whole numbers among the keys in a value. Its document has a text for each of them, and keeps the others.
def keyIntegers : Value → List Int
  | scalar _ => []
  | list items => itemKeyIntegers items
  | map entries => entryKeyIntegers entries

def itemKeyIntegers : List Value → List Int
  | [] => []
  | v :: rest => keyIntegers v ++ itemKeyIntegers rest

def entryKeyIntegers : List (Scalar × Value) → List Int
  | [] => []
  | (k, v) :: rest => k.integers ++ keyIntegers v ++ entryKeyIntegers rest

end

end Value

end FlowGate
