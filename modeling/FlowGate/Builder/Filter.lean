import FlowGate.Builder.Condition

-- Building filters and filter groups, and some for common checks.

namespace FlowGate.Builder

open Value Build
open Schema (newId nonEmptyText whole truth optional natural)

def filtering (name field : Value) (operator : Operator) (value enabled priority : Value) (rules : Option Rules)
    (transformation : Option Transformation) : Build Filter :=
  ofParsed (
    (fun name field enabled priority =>
        Filter.build (newId "filter") name field operator value enabled priority rules transformation)
      <$> argument "name" Schema.text name
      <*> argument "field" nonEmptyText field
      <*> argument "enabled" truth enabled
      <*> argument "priority" whole priority)

def filter (name field operator value enabled priority : Value) (rules : Option Rules)
    (transformation : Option Transformation) : Build Filter := do
  let operator ← Build.operator operator
  filtering name field operator value enabled priority rules transformation

-- An enabled filter without a priority of its own.
def plainFilter (name : String) (field : Value) (operator : Operator) (value : Value)
    (rules : Option Rules := none) (transformation : Option Transformation := none) : Build Filter :=
  filtering (text name) field operator value (bool true) (int 0) rules transformation

-- Whatever counts as false stands for no sub-groups.
def subGroupsOf : Members FilterGroup → Members FilterGroup
  | .listed groups => .listed groups
  | .other v => if v.truthy then .other v else .listed []

def filterGroup (name operator : Value) (filters : Members Filter) (description enabled priority : Value)
    (subGroups : Members FilterGroup) : Build FilterGroup := do
  let combination ← Build.combination operator
  ofParsed (
    (fun name description filters subGroups enabled priority =>
        FilterGroup.build (newId "group") name description combination filters subGroups enabled priority)
      <$> argument "name" Schema.text name
      <*> argument "description" (optional Schema.text) description
      <*> members "filters" filters
      <*> members "sub_groups" (subGroupsOf subGroups)
      <*> argument "enabled" truth enabled
      <*> argument "priority" whole priority)

def allOf (name : String) (filters : List Filter) : FilterGroup :=
  FilterGroup.build (newId "group") name none .and filters [] true 0

-- A domain in small letters, without the signs before it.
def domainText (v : Value) : Except Fault Value :=
  match v with
  | text s => .ok (text (Text.lower (String.ofList (s.toList.dropWhile (· == '@')))))
  | v => .error (.noAttribute v.kindName "lstrip")

def domainTexts : List Value → Except Fault (List Value)
  | [] => .ok []
  | v :: rest => do
    let domain ← domainText v
    let domains ← domainTexts rest
    return domain :: domains

-- A filter for mail addresses, and with domains a group that admits only these.
def emailFilter (field domains : Value) : Build (Filter ⊕ FilterGroup) := do
  let email ← plainFilter "Email Validation" field .matchesRegex (text mailPattern)
    (some { required := true, dataType := some .string, customValidator := some "isValidEmail" })
    (some { kind := .normalize })
  if !domains.truthy then return .inl email
  let parts ← ofFault domains.parts
  let allowed ← ofFault (domainTexts parts)
  let domain ← plainFilter "Domain Whitelist" field .isIn (list allowed) none
    (some { kind := .custom, customFunction := some "extractDomain" })
  return .inr (allOf "Email with Domain Check" [email, domain])

def dateRangeFilter (field first last : Value) : Build Filter := do
  let firstText ← ofFault first.calendarText
  let lastText ← ofFault last.calendarText
  plainFilter "Date Range Filter" field .dateBetween (texts [firstText, lastText])
    (some { required := true, dataType := some .date })

def numericRangeFilter (field least greatest : Value) : Build Filter :=
  plainFilter "Numeric Range Filter" field .between (list [least, greatest])
    (some { required := true, dataType := some .number })

def textLengthFilter (field least greatest : Value) : Build Filter := do
  let rules ← ofParsed (
    (fun minLength maxLength => ({ required := true, dataType := some .string, minLength, maxLength } : Rules))
      <$> argument "min_length" (optional natural) least
      <*> argument "max_length" (optional natural) greatest)
  plainFilter "Text Length Filter" field .isPresent (bool true) (some rules)

-- A group for lists whose length lies within bounds. Without an upper bound only the lower one counts.
def arraySizeFilter (field least greatest : Value) : Build FilterGroup := do
  let below ← ofFault least.pred
  let minFilter ← plainFilter "Array Min Size" field .arrayLengthGreaterThan below
  match greatest with
  | null => return allOf "Array Size Filter" [minFilter]
  | greatest =>
    let above ← ofFault greatest.succ
    let maxFilter ← plainFilter "Array Max Size" field .arrayLengthLessThan above
    return allOf "Array Size Filter" [minFilter, maxFilter]

end FlowGate.Builder
