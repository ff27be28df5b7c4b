import FlowGate.Text.Blank
import FlowGate.Text.Digit
import FlowGate.Text.Search

-- Addresses of the form `local@domain.tld`.

namespace FlowGate.Text

-- Whether a part holds neither white space nor an at sign.
def isAddressPart (cs : List Char) : Bool := cs.all fun c => !isBlank c && c != '@'

-- Whether a domain has a dot with something on both sides.
def hasInnerDot (cs : List Char) : Bool := (cs.drop 1).dropLast.contains '.'

-- A line break at the very end does not count.
def withoutFinalBreak (cs : List Char) : List Char :=
  if cs.getLast? = some '\n' then cs.dropLast else cs

def isAddress (s : String) : Bool :=
  match splitChars '@' (withoutFinalBreak s.toList) with
  | [name, domain] =>
    !name.isEmpty && isAddressPart name && isAddressPart domain && hasInnerDot domain
  | _ => false

-- Whether a text is a phone number: an optional plus sign and at least ten digits, spaces, hyphens and
-- parentheses.
def isPhone (s : String) : Bool :=
  let body := match s.toList with
    | '+' :: rest => rest
    | cs => cs
  10 ≤ body.length && body.all fun c => isPhoneChar c
where
  isPhoneChar (c : Char) : Bool := isBlank c || isDigit c || c == '-' || c == '(' || c == ')'

end FlowGate.Text
