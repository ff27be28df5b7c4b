import FlowGate.Number.Double
import FlowGate.Calendar.Moment

-- The values that contexts hold and conditions compare: scalars, lists and mappings. A mapping keeps its
-- entries in the order in which their keys first appeared, and its keys may be scalars of any kind.

namespace FlowGate

inductive Scalar
  | missing
  | null
  | bool (b : Bool)
  | int (n : Int)
  | double (x : Double)
  | text (s : String)
  | date (d : Date)
  | moment (m : Moment)
  | clock (t : ClockTime)
deriving DecidableEq

inductive Value
  | scalar (s : Scalar)
  | list (items : List Value)
  | map (entries : List (Scalar × Value))

namespace Scalar

-- The order of two numbers, where a truth value counts as 0 or 1.
def numericOrder? : Scalar → Scalar → Option Ordering
  | int m, int n => some (compare m n)
  | int m, double y => Double.orderInt? m y
  | double x, int n => (Double.orderInt? n x).map Ordering.swap
  | double x, double y => x.order? y
  | _, _ => none

def countsAs : Scalar → Scalar
  | bool b => int (if b then 1 else 0)
  | s => s

-- Equality as mappings use it for their keys: numbers are equal when they count the same, also truth values,
-- and everything else is equal only within its kind.
def same : Scalar → Scalar → Bool
  | missing, missing => true
  | null, null => true
  | text s, text t => s == t
  | date d, date e => d == e
  | moment m, moment n => m.eq n
  | clock t, clock u => t.eq u
  | a, b => numericOrder? a.countsAs b.countsAs == some .eq

def kindName : Scalar → String
  | missing => "_Missing"
  | null => "NoneType"
  | bool _ => "bool"
  | int _ => "int"
  | double _ => "float"
  | text _ => "str"
  | date _ => "datetime.date"
  | moment _ => "datetime.datetime"
  | clock _ => "datetime.time"

end Scalar

namespace Value

instance : Inhabited Value := ⟨.scalar .missing⟩

@[match_pattern] abbrev missing : Value := .scalar .missing
@[match_pattern] abbrev null : Value := .scalar .null
@[match_pattern] abbrev bool (b : Bool) : Value := .scalar (.bool b)
@[match_pattern] abbrev int (n : Int) : Value := .scalar (.int n)
@[match_pattern] abbrev double (x : Double) : Value := .scalar (.double x)
@[match_pattern] abbrev text (s : String) : Value := .scalar (.text s)
@[match_pattern] abbrev date (d : Date) : Value := .scalar (.date d)
@[match_pattern] abbrev moment (m : Moment) : Value := .scalar (.moment m)
@[match_pattern] abbrev clock (t : ClockTime) : Value := .scalar (.clock t)

def kindName : Value → String
  | scalar s => s.kindName
  | list _ => "list"
  | map _ => "dict"

def isMissing : Value → Bool
  | missing => true
  | _ => false

def isNothing : Value → Bool
  | missing => true
  | null => true
  | _ => false

def isMap : Value → Bool
  | map _ => true
  | _ => false

-- Whether a value counts as true: everything but nothing, zeros and what is empty.
def truthy : Value → Bool
  | missing => false
  | null => false
  | bool b => b
  | int n => n != 0
  | double x => !x.isZero
  | text s => s != ""
  | list items => !items.isEmpty
  | map entries => !entries.isEmpty
  | _ => true

def record (fields : List (String × Value)) : Value := map (fields.map fun (k, v) => (.text k, v))

def texts (ss : List String) : Value := list (ss.map text)

def ofOption (v : Option Value) : Value := v.getD null

def optionalText (s : Option String) : Value := (s.map text).getD null

end Value

abbrev Entries := List (Scalar × Value)

namespace Entries

def find? (entries : Entries) (key : Scalar) : Option Value :=
  (List.find? (fun entry => entry.1.same key) entries).map (·.2)

def get? (entries : Entries) (key : String) : Option Value := find? entries (.text key)

-- The value under a text key, or the given one if there is none.
def getD (entries : Entries) (key : String) (default : Value) : Value := (get? entries key).getD default

def contains (entries : Entries) (key : String) : Bool := (get? entries key).isSome

-- Puts a value under a key. A key that is already there keeps its place and its form.
def insert : Entries → Scalar → Value → Entries
  | [], key, value => [(key, value)]
  | (k, v) :: rest, key, value =>
    if k.same key then (k, value) :: rest else (k, v) :: insert rest key value

def merge (base other : Entries) : Entries := other.foldl (fun es e => insert es e.1 e.2) base

def ofList (pairs : List (Scalar × Value)) : Entries := merge [] pairs

end Entries

namespace Value

mutual

-- Equality of nested values. Numbers are equal when they count the same, lists item by item, and mappings when
-- they have the same keys with equal values.
def same : Value → Value → Bool
  | scalar s, scalar t => s.same t
  | list xs, list ys => sameItems xs ys
  | map es, map fs => es.length == fs.length && sameEntries es fs
  | _, _ => false

def sameItems : List Value → List Value → Bool
  | [], [] => true
  | x :: xs, y :: ys => same x y && sameItems xs ys
  | _, _ => false

def sameEntries : List (Scalar × Value) → List (Scalar × Value) → Bool
  | [], _ => true
  | (k, v) :: es, fs =>
    (match Entries.find? fs k with
     | some w => same v w
     | none => false) && sameEntries es fs

end

end Value

end FlowGate
