import FlowGate.Number.Numeral
import FlowGate.Value.Basic

-- Reading documents. A number without fraction and exponent is a whole number of any size, every other number
-- is a double. A key that is repeated keeps its first place and takes the last value.

namespace FlowGate.Json

open Value

def isGap (c : Char) : Bool := c == ' ' || c == '\n' || c == '\r' || c == '\t'

def skipGap (cs : List Char) : List Char := cs.dropWhile isGap

def hexDigit? (c : Char) : Option Nat :=
  if c.isDigit then some (c.toNat - 48)
  else if 'a' ≤ c ∧ c ≤ 'f' then some (c.toNat - 87)
  else if 'A' ≤ c ∧ c ≤ 'F' then some (c.toNat - 55)
  else none

def unit? : List Char → Option (Nat × List Char)
  | a :: b :: c :: d :: rest => do
    let a ← hexDigit? a
    let b ← hexDigit? b
    let c ← hexDigit? c
    let d ← hexDigit? d
    some (((a * 16 + b) * 16 + c) * 16 + d, rest)
  | _ => none

-- Two units of a pair make up one code point.
def codePoint? (cs : List Char) : Option (Char × List Char) := do
  let (high, rest) ← unit? cs
  if 0xD800 ≤ high ∧ high < 0xDC00 then
    match rest with
    | '\\' :: 'u' :: rest =>
      let (low, rest) ← unit? rest
      if 0xDC00 ≤ low ∧ low < 0xE000 then
        some (Char.ofNat (0x10000 + (high - 0xD800) * 0x400 + (low - 0xDC00)), rest)
      else none
    | _ => none
  else
    some (Char.ofNat high, rest)

def simpleEscape? : Char → Option Char
  | '"' => some '"'
  | '\\' => some '\\'
  | '/' => some '/'
  | 'b' => some '\x08'
  | 'f' => some '\x0c'
  | 'n' => some '\n'
  | 'r' => some '\r'
  | 't' => some '\t'
  | _ => none

-- Reads the rest of a quoted text. The fuel bounds the number of characters.
def quotedRest? : (fuel : Nat) → (read : List Char) → List Char → Option (String × List Char)
  | 0, _, _ => none
  | _ + 1, _, [] => none
  | _ + 1, read, '"' :: rest => some (String.ofList read.reverse, rest)
  | fuel + 1, read, '\\' :: 'u' :: rest =>
    (codePoint? rest).bind fun (c, rest) => quotedRest? fuel (c :: read) rest
  | fuel + 1, read, '\\' :: c :: rest =>
    (simpleEscape? c).bind fun c => quotedRest? fuel (c :: read) rest
  | fuel + 1, read, c :: rest => quotedRest? fuel (c :: read) rest

def isNumeric (c : Char) : Bool := c.isDigit || c == '-' || c == '+' || c == '.' || c == 'e' || c == 'E'

def number? (cs : List Char) : Option Value :=
  if cs.all fun c => c.isDigit || c == '-' then
    match Numeral.sign cs with
    | (_, []) => none
    | (negative, digits) =>
      some (int (Numeral.signed negative (Numeral.value (digits.filterMap Numeral.digit?))))
  else
    (Numeral.readDouble? (String.ofList cs)).map double

mutual

-- Reads one value and gives the rest. The fuel bounds the number of values and members.
def value? : (fuel : Nat) → List Char → Option (Value × List Char)
  | 0, _ => none
  | fuel + 1, cs =>
    match skipGap cs with
    | '"' :: rest => (quotedRest? (rest.length + 1) [] rest).map fun (s, rest) => (text s, rest)
    | '[' :: rest =>
      match skipGap rest with
      | ']' :: rest => some (list [], rest)
      | _ => (items? fuel rest).map fun (vs, rest) => (list vs, rest)
    | '\x7b' :: rest =>
      match skipGap rest with
      | '\x7d' :: rest => some (map [], rest)
      | _ => (members? fuel rest).map fun (es, rest) => (map (Entries.ofList es), rest)
    | 't' :: 'r' :: 'u' :: 'e' :: rest => some (bool true, rest)
    | 'f' :: 'a' :: 'l' :: 's' :: 'e' :: rest => some (bool false, rest)
    | 'n' :: 'u' :: 'l' :: 'l' :: rest => some (null, rest)
    | cs =>
      let (digits, rest) := cs.span isNumeric
      (number? digits).map fun v => (v, rest)

def items? : (fuel : Nat) → List Char → Option (List Value × List Char)
  | 0, _ => none
  | fuel + 1, cs => do
    let (v, rest) ← value? fuel cs
    match skipGap rest with
    | ',' :: rest =>
      let (vs, rest) ← items? fuel rest
      some (v :: vs, rest)
    | ']' :: rest => some ([v], rest)
    | _ => none

def members? : (fuel : Nat) → List Char → Option (List (Scalar × Value) × List Char)
  | 0, _ => none
  | fuel + 1, cs =>
    match skipGap cs with
    | '"' :: rest => do
      let (name, rest) ← quotedRest? (rest.length + 1) [] rest
      match skipGap rest with
      | ':' :: rest =>
        let (v, rest) ← value? fuel rest
        match skipGap rest with
        | ',' :: rest =>
          let (es, rest) ← members? fuel rest
          some ((.text name, v) :: es, rest)
        | '\x7d' :: rest => some ([(.text name, v)], rest)
        | _ => none
      | _ => none
    | _ => none

end

def read? (s : String) : Option Value := do
  let cs := s.toList
  let (v, rest) ← value? (cs.length + 1) cs
  if (skipGap rest).isEmpty then some v else none

end FlowGate.Json
