import FlowGate.Calendar.Iso
import FlowGate.Pattern.Error
import FlowGate.Text.Url
import FlowGate.Value.Spelled

-- What can go wrong while a condition, a filter or a transformation is evaluated, and the message that results
-- show for it.

namespace FlowGate

inductive Fault
  -- operands of an operator
  | notNumeric (shown : String)
  | pathNotText
  | pathPairMissing
  | pattern (error : Pattern.Error)
  | patternKind
  | mixedClocks
  -- names that nothing is registered for
  | unknownOperator (name : String)
  | unsupportedOperator (name : String)
  | unknownFunction (name : String)
  | unknownTransformation (name : String)
  | unknownKind (name : String)
  -- numbers and dates that leave their range
  | integerTooLarge
  | dateOutOfRange
  | spanOutOfRange (days : Int)
  | wordOverflow
  | notANumber
  | infiniteInteger
  | notAnInteger (written : String)
  | notADouble (written : String)
  | integerTooLong (digits : Nat)
  | integerUnwritten (limit : Nat)
  | notAMoment (written : String) (fault : Iso.Fault)
  | noPrecision
  | tooManyDecimals
  | precisionTooBig
  | url (fault : Text.Url.Fault)
  -- values of the wrong kind
  | keyKind (kind : String)
  | keyOrder
  | unhashable (kind : String)
  | notIterable (kind : String)
  | notJoined (index : Nat) (kind : String)
  | notContainer (kind : String)
  | noLength (kind : String)
  | notSubscriptable (kind : String)
  | searchedFor (kind : String)
  | integerFrom (kind : String)
  | negated (kind : String)
  | noAttribute (kind name : String)
  | notAMember (spelled vocabulary : String)
  | notSubtracted (left right : String)
  | notAdded (left right : String)
  | notConcatenated (kind : String)
  | notHours (kind : String)
  | entryLength (index length : Nat)
  | entryKind (index : Nat)
  -- look-ups
  | textIndex (kind : String)
  | listIndex
  | noKey (spelled : String)
  | noChild
  | noCharacter
  -- raised by the host
  | host (message : String)
  | notImplemented
deriving DecidableEq, Repr

namespace Fault

def momentMessage (written : String) : Iso.Fault → String
  | .malformed => s!"Invalid isoformat string: {Text.spelledText written}"
  | .year n => s!"year {n} is out of range"
  | .month => "month must be in 1..12"
  | .day => "day is out of range for month"
  | .hour => "hour must be in 0..23"
  | .minute => "minute must be in 0..59"
  | .sec => "second must be in 0..59"
  | .offset micros =>
    "offset must be a timedelta strictly between -timedelta(hours=24) and timedelta(hours=24), not " ++
      s!"{Calendar.spelledSpan micros}."

def urlMessage : Text.Url.Fault → String
  | .brackets => "Invalid IPv6 URL"
  | .futureAddress => "IPvFuture address is invalid"
  | .shortAddress => "An IPv4 address cannot be in brackets"
  | .noAddress name => s!"{Text.spelledText name} does not appear to be an IPv4 or IPv6 address"
  | .hostCharacters name =>
    s!"netloc '{name}' contains invalid characters under NFKC normalization"

def message : Fault → String
  | notNumeric shown => s!"Cannot compare non-numeric value: {shown}"
  | pathNotText => "json_path_exists requires a path string"
  | pathPairMissing => "json_path_equals requires \x7bpath, expected\x7d"
  | pattern error => error.message
  | patternKind => "first argument must be string or compiled pattern"
  | mixedClocks => "can't compare offset-naive and offset-aware times"
  | unknownOperator name => s!"Unknown operator: {name}"
  | unsupportedOperator name => s!"Unsupported filter operator: {name}"
  | unknownFunction name => s!"Custom function not found: {name}"
  | unknownTransformation name => s!"Transformation function not found: {name}"
  | unknownKind name => s!"Unknown condition kind: {name}"
  | integerTooLarge => "int too large to convert to float"
  | dateOutOfRange => "date value out of range"
  | spanOutOfRange days => s!"days={days}; must have magnitude <= 999999999"
  | wordOverflow => "Python int too large to convert to C int"
  | notANumber => "cannot convert float NaN to integer"
  | infiniteInteger => "cannot convert float infinity to integer"
  | notAnInteger written => s!"invalid literal for int() with base 10: {Text.spelledText written}"
  | notADouble written => s!"could not convert string to float: {Text.spelledText written}"
  | integerTooLong digits =>
    s!"Exceeds the limit (4300 digits) for integer string conversion: value has {digits} digits; " ++
      "use sys.set_int_max_str_digits() to increase the limit"
  | integerUnwritten limit =>
    s!"Exceeds the limit ({limit} digits) for integer string conversion; " ++
      "use sys.set_int_max_str_digits() to increase the limit"
  | notAMoment written fault => momentMessage written fault
  | noPrecision => "Format specifier missing precision"
  | tooManyDecimals => "Too many decimal digits in format string"
  | precisionTooBig => "precision too big"
  | url fault => urlMessage fault
  | keyKind kind => s!"keys must be str, int, float, bool or None, not {kind}"
  | keyOrder => "keys cannot be put in order"
  | unhashable kind => s!"unhashable type: '{kind}'"
  | notIterable kind => s!"'{kind}' object is not iterable"
  | notJoined index kind => s!"sequence item {index}: expected str instance, {kind} found"
  | notContainer kind => s!"argument of type '{kind}' is not iterable"
  | noLength kind => s!"object of type '{kind}' has no len()"
  | notSubscriptable kind => s!"'{kind}' object is not subscriptable"
  | searchedFor kind => s!"'in <string>' requires string as left operand, not {kind}"
  | integerFrom kind =>
    s!"int() argument must be a string, a bytes-like object or a real number, not '{kind}'"
  | negated kind => s!"bad operand type for unary -: '{kind}'"
  | noAttribute kind name => s!"'{kind}' object has no attribute '{name}'"
  | notAMember spelled vocabulary => s!"{spelled} is not a valid {vocabulary}"
  | notSubtracted left right => s!"unsupported operand type(s) for -: '{left}' and '{right}'"
  | notAdded left right => s!"unsupported operand type(s) for +: '{left}' and '{right}'"
  | notConcatenated kind => s!"can only concatenate {kind} (not \"int\") to {kind}"
  | notHours kind => s!"unsupported type for timedelta hours component: {kind}"
  | entryLength index length =>
    s!"dictionary update sequence element #{index} has length {length}; 2 is required"
  | entryKind index => s!"cannot convert dictionary update sequence element #{index} to a sequence"
  | textIndex kind => s!"string indices must be integers, not '{kind}'"
  | listIndex => "list indices must be integers or slices, not str"
  | noKey spelled => spelled
  | noChild => "list index out of range"
  | noCharacter => "string index out of range"
  | host text => text
  | notImplemented => ""

end Fault

end FlowGate
