import FlowGate.Number.Double

-- How alike two texts are: the least number of characters to insert, delete or replace, and the share of the
-- longer text that this leaves.

namespace FlowGate.Similarity

-- The next row of the table of distances. The previous row holds the distances from a beginning of the first
-- text to all beginnings of the second; the new row those from that beginning with `c` added.
def nextRow (c : Char) (left : Nat) : List Char → List Nat → List Nat
  | d :: ds, diagonal :: above :: row =>
    let here := if c = d then diagonal else min diagonal (min left above) + 1
    left :: nextRow c here ds (above :: row)
  | _, _ => [left]

def row (b : List Char) : (i : Nat) → List Nat → List Char → List Nat
  | _, previous, [] => previous
  | i, previous, c :: rest => row b (i + 1) (nextRow c (i + 1) b previous) rest

-- The least number of single character edits that turn one text into the other.
def distance (a b : List Char) : Nat :=
  let (long, short) := if a.length < b.length then (b, a) else (a, b)
  ((row short 0 (List.range (short.length + 1)) long).getLast?).getD 0

-- The share of the longer text that needs no edit, 1 for two empty texts.
def score (a b : List Char) : Double :=
  let longest := max a.length b.length
  if longest = 0 then .ofInt 1 else .ofRatio false (longest - distance a b) longest

end FlowGate.Similarity
