import FlowGate.Value.Basic

-- The operators that compare a field with an expected value, and the words that combine conditions and filters.

namespace FlowGate

inductive Operator
  | equals
  | notEquals
  | contains
  | notContains
  | startsWith
  | endsWith
  | matchesRegex
  | greaterThan
  | greaterThanOrEqual
  | lessThan
  | lessThanOrEqual
  | between
  | notBetween
  | isIn
  | isNotIn
  | includesAny
  | includesAll
  | arrayLengthEquals
  | arrayLengthGreaterThan
  | arrayLengthLessThan
  | isPresent
  | isAbsent
  | isNull
  | isNotNull
  | isEmpty
  | isNotEmpty
  | isString
  | isNumber
  | isBoolean
  | isArray
  | isObject
  | dateEquals
  | dateAfter
  | dateBefore
  | dateBetween
  | dateIsToday
  | dateIsYesterday
  | dateIsThisWeek
  | dateIsThisMonth
  | dateIsThisYear
  | timeBetween
  | dayOfWeek
  | hourOfDay
  | fuzzyMatch
  | similarityScore
  | jsonPathExists
  | jsonPathEquals
deriving DecidableEq, Repr

namespace Operator

def name : Operator → String
  | equals => "equals"
  | notEquals => "not_equals"
  | contains => "contains"
  | notContains => "not_contains"
  | startsWith => "starts_with"
  | endsWith => "ends_with"
  | matchesRegex => "matches_regex"
  | greaterThan => "greater_than"
  | greaterThanOrEqual => "greater_than_or_equal"
  | lessThan => "less_than"
  | lessThanOrEqual => "less_than_or_equal"
  | between => "between"
  | notBetween => "not_between"
  | isIn => "in"
  | isNotIn => "not_in"
  | includesAny => "includes_any"
  | includesAll => "includes_all"
  | arrayLengthEquals => "array_length_equals"
  | arrayLengthGreaterThan => "array_length_greater_than"
  | arrayLengthLessThan => "array_length_less_than"
  | isPresent => "exists"
  | isAbsent => "not_exists"
  | isNull => "is_null"
  | isNotNull => "is_not_null"
  | isEmpty => "is_empty"
  | isNotEmpty => "is_not_empty"
  | isString => "is_string"
  | isNumber => "is_number"
  | isBoolean => "is_boolean"
  | isArray => "is_array"
  | isObject => "is_object"
  | dateEquals => "date_equals"
  | dateAfter => "date_after"
  | dateBefore => "date_before"
  | dateBetween => "date_between"
  | dateIsToday => "date_is_today"
  | dateIsYesterday => "date_is_yesterday"
  | dateIsThisWeek => "date_is_this_week"
  | dateIsThisMonth => "date_is_this_month"
  | dateIsThisYear => "date_is_this_year"
  | timeBetween => "time_between"
  | dayOfWeek => "day_of_week"
  | hourOfDay => "hour_of_day"
  | fuzzyMatch => "fuzzy_match"
  | similarityScore => "similarity_score"
  | jsonPathExists => "json_path_exists"
  | jsonPathEquals => "json_path_equals"

def all : List Operator := [
  .equals, .notEquals, .contains, .notContains, .startsWith, .endsWith,
  .matchesRegex, .greaterThan, .greaterThanOrEqual, .lessThan, .lessThanOrEqual, .between,
  .notBetween, .isIn, .isNotIn, .includesAny, .includesAll, .arrayLengthEquals,
  .arrayLengthGreaterThan, .arrayLengthLessThan, .isPresent, .isAbsent, .isNull, .isNotNull,
  .isEmpty, .isNotEmpty, .isString, .isNumber, .isBoolean, .isArray,
  .isObject, .dateEquals, .dateAfter, .dateBefore, .dateBetween, .dateIsToday,
  .dateIsYesterday, .dateIsThisWeek, .dateIsThisMonth, .dateIsThisYear, .timeBetween, .dayOfWeek,
  .hourOfDay, .fuzzyMatch, .similarityScore, .jsonPathExists, .jsonPathEquals
]

def ofName? (name : String) : Option Operator := all.find? fun o => o.name == name

def forFilters : List Operator := [
  .equals, .notEquals, .contains, .notContains, .startsWith, .endsWith,
  .matchesRegex, .greaterThan, .greaterThanOrEqual, .lessThan, .lessThanOrEqual, .between,
  .notBetween, .isIn, .isNotIn, .isPresent, .isAbsent, .isEmpty,
  .isNotEmpty, .arrayLengthEquals, .arrayLengthGreaterThan, .arrayLengthLessThan, .dateEquals, .dateAfter,
  .dateBefore, .dateBetween
]

end Operator

inductive Connective
  | and
  | or
  | not
  | xor
deriving DecidableEq, Repr

namespace Connective

def name : Connective → String
  | and => "and"
  | or => "or"
  | not => "not"
  | xor => "xor"

def all : List Connective := [.and, .or, .not, .xor]

def ofName? (name : String) : Option Connective := all.find? fun c => c.name == name

end Connective

inductive Combination
  | and
  | or
deriving DecidableEq, Repr

namespace Combination

def name : Combination → String
  | and => "and"
  | or => "or"

def all : List Combination := [.and, .or]

def ofName? (name : String) : Option Combination := all.find? fun c => c.name == name

end Combination

-- A place for a word of a fixed vocabulary. What has not been validated may hold any other value.
inductive Slot (α : Type)
  | known (a : α)
  | stray (v : Value)

namespace Slot

variable {α : Type}

def known? : Slot α → Option α
  | known a => some a
  | stray _ => none

def is [DecidableEq α] (s : Slot α) (a : α) : Bool := s.known? == some a

def shown (name : α → String) : Slot α → Value
  | known a => .text (name a)
  | stray v => v

end Slot

end FlowGate
