import FlowGate.Number.Numeral
import FlowGate.Schema.Issue
import FlowGate.Text.Blank
import FlowGate.Value.Spelled

-- Reading the parts of a configuration: texts, numbers, truth values, words of a vocabulary, lists, mappings
-- and the fields of records. Numbers and truth values may also be written as texts.

namespace FlowGate.Schema

open Value

abbrev Reader (α : Type) := Value → Parsed α

variable {α : Type}

def anything : Reader Value := .done

def text : Reader String
  | .scalar (.text s) => .done s
  | _ => .problem .notText

def nonEmptyText : Reader String := fun v =>
  (text v).bind fun s => if s == "" then .problem .emptyText else .done s

namespace Whole

-- The surrounding of a numeral that does not count.
def isMargin (c : Char) : Bool := Text.isBlank c && !(0x1c ≤ c.toNat && c.toNat ≤ 0x1f)

def isDigit (c : Char) : Bool := '0' ≤ c && c ≤ '9'

-- The digits of a numeral, where single underscores may stand between digits.
def digits : List Char → Option (List Char)
  | [] => some []
  | '_' :: c :: rest => if isDigit c then (digits rest).map (c :: ·) else none
  | c :: rest => if isDigit c then (digits rest).map (c :: ·) else none

def value (ds : List Char) : Nat := ds.foldl (fun n c => 10 * n + (c.toNat - '0'.toNat)) 0

-- A numeral without a sign: digits, and perhaps a point with nothing but zeros after it.
def unsigned (cs : List Char) : Except Problem Nat :=
  let (front, rest) := cs.span (· != '.')
  if !((rest.drop 1).all (· == '0')) then .error .notNumeral
  else match front with
    | '_' :: _ => .error .notNumeral
    | [] => .error .notNumeral
    | front =>
      match digits front with
      | none => .error .notNumeral
      | some ds => if 4300 < ds.length then .error .integerSize else .ok (value ds)

-- A numeral with or without a sign and blanks around it.
def ofText (s : String) : Except Problem Int :=
  let cs := (s.toList.dropWhile isMargin).reverse.dropWhile isMargin |>.reverse
  match cs with
  | '-' :: rest => (unsigned rest).map fun n => -(n : Int)
  | '+' :: rest => (unsigned rest).map fun n => (n : Int)
  | rest => (unsigned rest).map fun n => (n : Int)

-- The bound within which a double is taken as a whole number.
def bound : Int := 9223372036854775808

def ofDouble (x : Double) : Except Problem Int :=
  match x with
  | .nan => .error .notFinite
  | .infinite _ => .error .notFinite
  | x =>
    match x.toInt? with
    | none => .error .fraction
    | some n => if -bound < n && n < bound then .ok n else .error .integerSize

end Whole

def whole : Reader Int := fun v =>
  let result : Except Problem Int :=
    match v with
    | .scalar (.bool b) => .ok (if b then 1 else 0)
    | int n => .ok n
    | double x => Whole.ofDouble x
    | .scalar (.text s) => Whole.ofText s
    | _ => .error .notInteger
  match result with
  | .ok n => .done n
  | .error p => .problem p

def natural : Reader Nat := fun v =>
  (whole v).bind fun n => if n < 0 then .problem .negative else .done n.toNat

namespace Truth

def positive : List String := ["1", "t", "true", "y", "yes", "on"]

def negative : List String := ["0", "f", "false", "n", "no", "off"]

def ofText? (s : String) : Option Bool :=
  let word := String.ofList (s.toList.map Char.toLower)
  if positive.contains word then some true
  else if negative.contains word then some false
  else none

def ofInt? (n : Int) : Option Bool :=
  if n = 0 then some false else if n = 1 then some true else none

-- Whole numbers beyond this range are no truth values at all.
def isSmall (n : Int) : Bool := -Whole.bound ≤ n && n < Whole.bound

end Truth

def truth : Reader Bool := fun v =>
  let ofOption : Option Bool → Parsed Bool
    | some b => .done b
    | none => .problem .unreadTruth
  match v with
  | .scalar (.bool b) => .done b
  | .scalar (.text s) => ofOption (Truth.ofText? s)
  | int n => if Truth.isSmall n then ofOption (Truth.ofInt? n) else .problem .notTruth
  | double x =>
    match Whole.ofDouble x with
    | .ok n => ofOption (Truth.ofInt? n)
    | .error _ => .problem .notTruth
  | _ => .problem .notTruth

def word (words : List α) (name : α → String) : Reader α := fun v =>
  let found : Option α :=
    match v with
    | .scalar (.text s) => words.find? fun a => name a == s
    | _ => none
  match found with
  | some a => .done a
  | none => .problem (.notAWord (words.map name))

def optional (r : Reader α) : Reader (Option α)
  | null => .done none
  | v => (r v).map some

def items (r : Reader α) (index : Nat) : List Value → Parsed (List α)
  | [] => .done []
  | v :: rest => List.cons <$> (r v).under (.index index) <*> items r (index + 1) rest

def listOf (r : Reader α) : Reader (List α)
  | .list vs => items r 0 vs
  | _ => .problem .notList

def keyStep : Scalar → Step
  | .text s => .key s
  | .int n => if Truth.isSmall n then .index n else .key (toString n)
  | .bool b => .index (if b then 1 else 0)
  | s => .key s.literal

-- The issues of keys that are no texts.
def keyIssues : Entries → List Issue
  | [] => []
  | (.text _, _) :: rest => keyIssues rest
  | (k, _) :: rest => ⟨[keyStep k, .key "[key]"], .notText⟩ :: keyIssues rest

def mapping : Reader Entries
  | .map entries =>
    match keyIssues entries with
    | [] => .done entries
    | issues => .failed issues
  | _ => .problem .notMapping

-- The value of a field and the name under which it is given. The first name that is given counts.
def given? (entries : Entries) : List String → Option (String × Value)
  | [] => none
  | name :: rest =>
    match Entries.get? entries name with
    | some v => some (name, v)
    | none => given? entries rest

def required (entries : Entries) (names : List String) (r : Reader α) : Parsed α :=
  match given? entries names with
  | some (name, v) => (r v).under (.key name)
  | none => .under (.key (names.headD "")) (.problem .absent)

def defaulted (entries : Entries) (names : List String) (default : α) (r : Reader α) : Parsed α :=
  match given? entries names with
  | some (name, v) => (r v).under (.key name)
  | none => .done default

def fields (model : String) (f : Entries → Parsed α) : Reader α
  | .map entries => f entries
  | _ => .problem (.notRecord model)

-- The id of a part that is given none.
def newId (kind : String) : String := kind ++ "_00000000"

end FlowGate.Schema
