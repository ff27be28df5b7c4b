import FlowGate.Text.Composed.Table

-- Canonical composition. A text is first taken apart into base characters and combining marks, the marks of
-- each base are put in the order of their classes, and then bases and marks are joined again wherever a
-- composed character exists and no mark in between blocks the pair.

namespace FlowGate.Text

-- The order class of a combining mark, 0 for a character that starts anew.
def combiningClass (n : Nat) : Nat :=
  if n < 0x300 then 0
  else ((combiningClasses.find? fun row => row.1 ≤ n && n ≤ row.2.1).map (·.2.2)).getD 0

namespace Syllable

-- Syllables of the Korean script are numbered by their leading consonant, vowel and trailing consonant, so they
-- need no table.

def first : Nat := 0xAC00
def lead : Nat := 0x1100
def vowel : Nat := 0x1161
def trail : Nat := 0x11A7

def isSyllable (n : Nat) : Bool := first ≤ n && n < first + 19 * 21 * 28

def decompose (n : Nat) : List Nat :=
  let i := n - first
  let letters := [lead + i / (21 * 28), vowel + i % (21 * 28) / 28]
  if i % 28 = 0 then letters else letters ++ [trail + i % 28]

def compose? (a b : Nat) : Option Nat :=
  if lead ≤ a && a < lead + 19 && vowel ≤ b && b < vowel + 21 then
    some (first + ((a - lead) * 21 + (b - vowel)) * 28)
  else if isSyllable a && (a - first) % 28 == 0 && trail < b && b < trail + 28 then
    some (a + (b - trail))
  else
    none

end Syllable

def canonicalPair? (n : Nat) : Option (Nat × Nat) :=
  (compositions.lookup n).or (looseCompositions.lookup n)

-- Only the first half of a pair is ever composed itself, so the depth counts the steps down the
-- first halves. No character has more than three.
def decomposeCode : (depth : Nat) → Nat → List Nat
  | 0, n => [n]
  | depth + 1, n =>
    if n < 0xC0 then [n]
    else if Syllable.isSyllable n then Syllable.decompose n
    else match canonicalPair? n with
      | some (a, b) => decomposeCode depth a ++ decomposeCode depth b
      | none => match canonicalSingles.lookup n with
        | some m => decomposeCode depth m
        | none => [n]

def decompose (codes : List Nat) : List Nat := codes.flatMap (decomposeCode 4)

def orderMarks (marks : List Nat) : List Nat → List Nat
  | [] => sorted marks
  | n :: rest =>
    if combiningClass n = 0 then sorted marks ++ n :: orderMarks [] rest
    else orderMarks (marks ++ [n]) rest
where
  sorted (marks : List Nat) : List Nat :=
    marks.mergeSort fun a b => combiningClass a ≤ combiningClass b

def composePair? (a b : Nat) : Option Nat :=
  (Syllable.compose? a b).or ((compositions.find? fun row => row.2.1 == a && row.2.2 == b).map (·.1))

-- A base that still takes marks, the class of the last mark that it did not take, and the marks that stay
-- beside it.
structure OpenBase where
  base  : Nat
  last  : Nat
  marks : List Nat

namespace OpenBase

def start (n : Nat) : OpenBase := ⟨n, 0, []⟩

def codes (o : OpenBase) : List Nat := o.base :: o.marks

end OpenBase

def joinMarks (current : Option OpenBase) : List Nat → List Nat
  | [] => (current.map OpenBase.codes).getD []
  | n :: rest =>
    let k := combiningClass n
    match current with
    | none => if k = 0 then joinMarks (some (.start n)) rest else n :: joinMarks none rest
    | some o =>
      if o.last ≠ 0 ∧ k = 0 then
        o.codes ++ joinMarks (some (.start n)) rest
      else if o.last ≠ 0 ∧ k ≤ o.last then
        joinMarks (some { o with marks := o.marks ++ [n] }) rest
      else match composePair? o.base n with
        | some c => joinMarks (some { o with base := c }) rest
        | none =>
          if k = 0 then o.codes ++ joinMarks (some (.start n)) rest
          else joinMarks (some { o with last := k, marks := o.marks ++ [n] }) rest

def composeCodes (codes : List Nat) : List Nat := joinMarks none (orderMarks [] (decompose codes))

def composed (s : String) : String :=
  String.ofList ((composeCodes (s.toList.map Char.toNat)).map Char.ofNat)

end FlowGate.Text
