import FlowGate.Text.Ranges

-- White space: the characters that `strip` takes off both ends of a text.

namespace FlowGate.Text

def blanks : Ranges := [
  (0x9, 0xD), (0x1C, 0x20), (0x85, 0x85), (0xA0, 0xA0), (0x1680, 0x1680),
  (0x2000, 0x200A), (0x2028, 0x2029), (0x202F, 0x202F), (0x205F, 0x205F), (0x3000, 0x3000)
]

def isBlank (c : Char) : Bool := blanks.contains c

def stripChars (cs : List Char) : List Char :=
  ((cs.dropWhile isBlank).reverse.dropWhile isBlank).reverse

-- Takes the white space off both ends of a text.
def strip (s : String) : String := String.ofList (stripChars s.toList)

end FlowGate.Text
