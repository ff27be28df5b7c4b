import FlowGate.Number.Money
import FlowGate.Registry
import FlowGate.Text.Case

-- The transformations that filters can name.

namespace FlowGate.Builtin

open Value

def normalizeEmail : TransformFunction := fun v _ => do
  return text (Text.lower (Text.strip (← v.asText)))

def normalizePhone : TransformFunction := fun v _ => do
  return text (String.ofList ((← v.asText).toList.filter Text.isDigit))

-- Takes everything out of a text that a pattern matches, by default all but letters, digits and white space.
def removeSpecialChars : TransformFunction := fun v params => do
  let given := Entries.getD params "pattern" null
  let pattern := if given.truthy then given else text "[^a-zA-Z0-9\\s]"
  let source ← v.asText
  match pattern with
  | text p =>
    match Pattern.read p with
    | .ok node =>
      let cs := source.toList
      return text (String.ofList (node.removeAll (2 * cs.length + 2) false (.start cs)))
    | .error e => throw (.pattern e)
  | scalar _ => throw .patternKind
  | v => throw (.unhashable v.kindName)

def currencySymbols : List (String × String) :=
  [("USD", "$"), ("EUR", "€"), ("GBP", "£"), ("JPY", "¥"), ("INR", "₹")]

def decimalsOf (n : Int) : Except Fault Nat :=
  if n < 0 then .error .noPrecision
  else if 9223372036854775807 < n then .error .tooManyDecimals
  else if 2147483647 < n then .error .precisionTooBig
  else .ok n.toNat

def formatCurrency : TransformFunction := fun v params => do
  let currency := Text.upper (Entries.getD params "currency" (text "USD")).plain
  let decimals ← (Entries.getD params "decimals" (int (if currency == "JPY" then 0 else 2))).toWhole
  let amount ← v.toNumber
  let symbol := (currencySymbols.lookup currency).getD (currency ++ " ")
  let sign := if amount.lt .zero then "-" else ""
  return text (sign ++ symbol ++ Money.text amount (← decimalsOf decimals))

def extractDomain : TransformFunction := fun v _ => do
  let cs := (← v.asText).toList
  let domain := (cs.reverse.takeWhile (· != '@')).reverse
  return text (if cs.contains '@' then Text.lower (String.ofList domain) else "")

def transforms : List (String × TransformFunction) := [
  ("normalizeEmail", normalizeEmail),
  ("normalizePhone", normalizePhone),
  ("removeSpecialChars", removeSpecialChars),
  ("formatCurrency", formatCurrency),
  ("extractDomain", extractDomain)
]

end FlowGate.Builtin
