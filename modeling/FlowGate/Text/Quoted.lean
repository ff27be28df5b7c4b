import FlowGate.Text.Printable

-- Quoted texts: in double quotes with all but printable ASCII escaped, as in documents, and in single quotes
-- with printable characters kept, as in messages.

namespace FlowGate.Text

def hex (width n : Nat) : List Char :=
  let digits := Nat.toDigits 16 n
  List.replicate (width - digits.length) '0' ++ digits

def unitEscape (n : Nat) : List Char := '\\' :: 'u' :: hex 4 n

-- Code points beyond 16 bits are written as a pair of units.
def codeEscape (n : Nat) : List Char :=
  if n < 0x10000 then unitEscape n
  else
    let m := n - 0x10000
    unitEscape (0xD800 + m / 0x400) ++ unitEscape (0xDC00 + m % 0x400)

def escapeInDocument (c : Char) : List Char :=
  if c = '"' then ['\\', '"']
  else if c = '\\' then ['\\', '\\']
  else if c = '\n' then ['\\', 'n']
  else if c = '\r' then ['\\', 'r']
  else if c = '\t' then ['\\', 't']
  else if c = '\x08' then ['\\', 'b']
  else if c = '\x0c' then ['\\', 'f']
  else if 0x20 ≤ c.toNat ∧ c.toNat < 0x7F then [c]
  else codeEscape c.toNat

-- A text in double quotes, in ASCII only.
def quoted (s : String) : String :=
  String.ofList ('"' :: s.toList.flatMap escapeInDocument ++ ['"'])

def escapeInMessage (quote c : Char) : List Char :=
  if c = quote ∨ c = '\\' then ['\\', c]
  else if c = '\n' then ['\\', 'n']
  else if c = '\r' then ['\\', 'r']
  else if c = '\t' then ['\\', 't']
  else if isPrintable c then [c]
  else if c.toNat < 0x100 then '\\' :: 'x' :: hex 2 c.toNat
  else if c.toNat < 0x10000 then unitEscape c.toNat
  else '\\' :: 'U' :: hex 8 c.toNat

-- A text in single quotes, or in double quotes if it holds a single but no double one.
def spelledText (s : String) : String :=
  let cs := s.toList
  let quote := if cs.contains '\'' && !cs.contains '"' then '"' else '\''
  String.ofList (quote :: cs.flatMap (escapeInMessage quote) ++ [quote])

end FlowGate.Text
