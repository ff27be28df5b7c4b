import FlowGate.Text.Case.Table

-- Small and capital letters. Most letters change one for one. A capital I with a dot becomes two characters,
-- some small letters expand to several capitals, and a capital sigma takes its final shape at the end of a
-- word.

namespace FlowGate.Text

def shiftCase (runs : List CaseRun) (n : Nat) : Nat := (runs.findSome? (·.maps? n)).getD n

-- The small letter of a single letter; every other character stays as it is.
def lowerOne (c : Char) : Char :=
  if c.toNat < 0x80 then c.toLower else Char.ofNat (shiftCase lowerRuns c.toNat)

def upperOne (c : Char) : List Char :=
  if c.toNat < 0x80 then
    [c.toUpper]
  else
    match upperExpansions.lookup c.toNat with
    | some letters => letters.map Char.ofNat
    | none => [Char.ofNat (shiftCase upperRuns c.toNat)]

def isCaseIgnorable (c : Char) : Bool := caseIgnorables.contains c

def isCased (c : Char) : Bool := casedLetters.contains c

-- The text before the sigma is given from its end.
def endsWord (before after : List Char) : Bool :=
  reachesLetter before && !reachesLetter after
where
  reachesLetter (cs : List Char) : Bool := (cs.dropWhile isCaseIgnorable).head?.any isCased

def lowerAfter (before : List Char) : List Char → List Char
  | [] => []
  | c :: rest =>
    lowered c (endsWord before rest) ++ lowerAfter (c :: before) rest
where
  lowered (c : Char) (final : Bool) : List Char :=
    if c = 'Σ' then [if final then 'ς' else 'σ']
    else if c = 'İ' then ['i', '\u0307']
    else [lowerOne c]

def lower (s : String) : String := String.ofList (lowerAfter [] s.toList)

def upper (s : String) : String := String.ofList (s.toList.flatMap upperOne)

end FlowGate.Text
