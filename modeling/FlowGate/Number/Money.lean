import FlowGate.Number.Double

-- Amounts with a fixed number of decimals and commas between the thousands.

namespace FlowGate.Money

-- Puts a comma before every third digit from the right. The digits are given from the right.
def groupedFrom : List Char → List Char
  | a :: b :: c :: d :: rest => a :: b :: c :: ',' :: groupedFrom (d :: rest)
  | cs => cs

def grouped (digits : List Char) : List Char := (groupedFrom digits.reverse).reverse

-- A magnitude rounded to some decimals; a half goes to the even neighbour.
def magnitude (units decimals : Nat) : List Char :=
  let n := Grid.divRound (units * Nat.pow 10 decimals) Grid.one
  let whole := n / Nat.pow 10 decimals
  let fraction := Nat.toDigits 10 (n % Nat.pow 10 decimals)
  grouped (Nat.toDigits 10 whole) ++
    (if decimals = 0 then []
     else '.' :: List.replicate (decimals - fraction.length) '0' ++ fraction)

def text (x : Double) (decimals : Nat) : String :=
  match x with
  | .nan => "nan"
  | .infinite _ => "inf"
  | .finite _ units _ => String.ofList (magnitude units decimals)

end FlowGate.Money
