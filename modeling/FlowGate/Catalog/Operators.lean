import FlowGate.Value.Basic

-- What authors of workflows are told about the operators, by category.

namespace FlowGate.Catalog

open Value

structure Entry where
  name        : String
  label       : String
  description : String
  usage       : String

namespace Entry

def document (e : Entry) : Value := record [
  ("value", text e.name),
  ("label", text e.label),
  ("description", text e.description),
  ("example", text e.usage)]

end Entry

def basicEntries : List Entry := [
  ⟨"equals", "Equals", "Check if values are exactly equal", "field equals \"value\""⟩,
  ⟨"not_equals", "Not Equals", "Check if values are not equal", "field not_equals \"value\""⟩,
  ⟨"contains", "Contains", "Check if string contains substring", "field contains \"substring\""⟩,
  ⟨"not_contains", "Not Contains",
    "Check if string does not contain substring", "field not_contains \"substring\""⟩,
  ⟨"starts_with", "Starts With", "Check if string starts with prefix", "field starts_with \"prefix\""⟩,
  ⟨"ends_with", "Ends With", "Check if string ends with suffix", "field ends_with \"suffix\""⟩,
  ⟨"matches_regex", "Matches Regex",
    "Check if string matches regular expression", "field matches_regex \"^[A-Z]+\""⟩
]

def numericEntries : List Entry := [
  ⟨"greater_than", "Greater Than", "Check if number is greater than value", "field > 10"⟩,
  ⟨"greater_than_or_equal", "Greater Than or Equal",
    "Check if number is greater than or equal to value", "field >= 10"⟩,
  ⟨"less_than", "Less Than", "Check if number is less than value", "field < 10"⟩,
  ⟨"less_than_or_equal", "Less Than or Equal",
    "Check if number is less than or equal to value", "field <= 10"⟩,
  ⟨"between", "Between", "Check if number is between two values (inclusive)", "field between [1, 10]"⟩,
  ⟨"not_between", "Not Between", "Check if number is not between two values", "field not_between [1, 10]"⟩
]

def arrayEntries : List Entry := [
  ⟨"in", "In Array", "Check if value exists in array", "field in [\"a\", \"b\", \"c\"]"⟩,
  ⟨"not_in", "Not In Array", "Check if value does not exist in array", "field not_in [\"a\", \"b\", \"c\"]"⟩,
  ⟨"includes_any", "Includes Any",
    "Check if array includes any of the values", "field includes_any [\"a\", \"b\"]"⟩,
  ⟨"includes_all", "Includes All",
    "Check if array includes all of the values", "field includes_all [\"a\", \"b\"]"⟩,
  ⟨"array_length_equals", "Array Length Equals", "Check if array length equals value", "field.length == 5"⟩,
  ⟨"array_length_greater_than", "Array Length Greater Than",
    "Check if array length is greater than value", "field.length > 5"⟩,
  ⟨"array_length_less_than", "Array Length Less Than",
    "Check if array length is less than value", "field.length < 5"⟩
]

def existenceEntries : List Entry := [
  ⟨"exists", "Exists", "Check if field exists and is not null", "field exists"⟩,
  ⟨"not_exists", "Not Exists", "Check if field does not exist or is null", "field not_exists"⟩,
  ⟨"is_null", "Is Null", "Check if field is null", "field is null"⟩,
  ⟨"is_not_null", "Is Not Null", "Check if field is not null", "field is not null"⟩,
  ⟨"is_empty", "Is Empty", "Check if field is empty (string, array, or object)", "field is empty"⟩,
  ⟨"is_not_empty", "Is Not Empty", "Check if field is not empty", "field is not empty"⟩
]

def typeEntries : List Entry := [
  ⟨"is_string", "Is String", "Check if field is a string", "field is string"⟩,
  ⟨"is_number", "Is Number", "Check if field is a number (not NaN, not boolean)", "field is number"⟩,
  ⟨"is_boolean", "Is Boolean", "Check if field is a boolean", "field is boolean"⟩,
  ⟨"is_array", "Is Array", "Check if field is an array", "field is array"⟩,
  ⟨"is_object", "Is Object", "Check if field is an object", "field is object"⟩
]

def dateEntries : List Entry := [
  ⟨"date_equals", "Date Equals", "Check if dates are equal", "field date_equals \"2024-01-01\""⟩,
  ⟨"date_after", "Date After", "Check if date is after specified date", "field date_after \"2024-01-01\""⟩,
  ⟨"date_before", "Date Before",
    "Check if date is before specified date", "field date_before \"2024-01-01\""⟩,
  ⟨"date_between", "Date Between",
    "Check if date is between two dates", "field date_between [\"2024-01-01\", \"2024-12-31\"]"⟩,
  ⟨"date_is_today", "Is Today", "Check if date is today", "field is today"⟩,
  ⟨"date_is_yesterday", "Is Yesterday", "Check if date is yesterday", "field is yesterday"⟩,
  ⟨"date_is_this_week", "Is This Week",
    "Check if date is in current week (from Sunday)", "field is this week"⟩,
  ⟨"date_is_this_month", "Is This Month", "Check if date is in current month", "field is this month"⟩,
  ⟨"date_is_this_year", "Is This Year", "Check if date is in current year", "field is this year"⟩,
  ⟨"time_between", "Time Between",
    "Check if time of day is within a window", "field time_between [\"09:00\", \"17:00\"]"⟩,
  ⟨"day_of_week", "Day of Week", "Check the weekday (Sunday = 0)", "field day_of_week [1, 2, 3, 4, 5]"⟩,
  ⟨"hour_of_day", "Hour of Day", "Check the hour (0-23)", "field hour_of_day [9, 10, 11]"⟩
]

def logicalEntries : List Entry := [
  ⟨"and", "AND", "All conditions must be true", "condition1 AND condition2"⟩,
  ⟨"or", "OR", "At least one condition must be true", "condition1 OR condition2"⟩,
  ⟨"not", "NOT", "Condition must be false", "NOT condition1"⟩,
  ⟨"xor", "XOR", "Exactly one condition must be true", "condition1 XOR condition2"⟩
]

def advancedEntries : List Entry := [
  ⟨"fuzzy_match", "Fuzzy Match", "Check similarity between strings", "field fuzzy_match \"similar text\""⟩,
  ⟨"similarity_score", "Similarity Score",
    "Check if similarity score meets threshold", "field similarity_score \x7b\"value\": \"text\", \"threshold\": 0.8\x7d"⟩,
  ⟨"json_path_exists", "JSON Path Exists", "Check if JSON path exists", "field json_path_exists \"a.b[0]\""⟩,
  ⟨"json_path_equals", "JSON Path Equals",
    "Check if JSON path value equals expected", "field json_path_equals \x7b\"path\": \"a.b\", \"expected\": 1\x7d"⟩
]

def operators : List (String × List Entry) := [
  ("basic", basicEntries),
  ("numeric", numericEntries),
  ("array", arrayEntries),
  ("existence", existenceEntries),
  ("type", typeEntries),
  ("date", dateEntries),
  ("logical", logicalEntries),
  ("advanced", advancedEntries)
]

def operatorsDocument : Value :=
  record (operators.map fun (category, entries) => (category, list (entries.map Entry.document)))

def totalOperators : Nat := (operators.flatMap fun category => category.2).length

end FlowGate.Catalog
