import FlowGate.Number.Double
import FlowGate.Text.Blank
import FlowGate.Text.Digit

-- Reading numbers from text. Digits of every script count, a single low line may stand between two digits, and
-- white space around the number is ignored.

namespace FlowGate.Numeral

def digit? (c : Char) : Option Nat := Text.digitValue? c

def digitRun : List Char → List Nat × List Char
  | [] => ([], [])
  | c :: rest =>
    match digit? c with
    | none => ([], c :: rest)
    | some d => let (ds, after) := following rest; (d :: ds, after)
where
  following : List Char → List Nat × List Char
    | [] => ([], [])
    | '_' :: c :: rest =>
      match digit? c with
      | none => ([], '_' :: c :: rest)
      | some d => let (ds, after) := following rest; (d :: ds, after)
    | c :: rest =>
      match digit? c with
      | none => ([], c :: rest)
      | some d => let (ds, after) := following rest; (d :: ds, after)

def value (digits : List Nat) : Nat := digits.foldl (fun n d => 10 * n + d) 0

-- Takes a sign off the front; the flag tells whether it was a minus.
def sign : List Char → Bool × List Char
  | '-' :: rest => (true, rest)
  | '+' :: rest => (false, rest)
  | rest => (false, rest)

def signed (negative : Bool) (n : Nat) : Int := if negative then -(n : Int) else n

inductive IntegerFault
  | malformed
  | tooLong (digits : Nat)
deriving DecidableEq, Repr

def digitLimit : Nat := 4300

def readInt (s : String) : Except IntegerFault Int :=
  let (negative, body) := sign (Text.stripChars s.toList)
  match digitRun body with
  | ([], _) => .error .malformed
  | (digits, []) =>
    if digitLimit < digits.length then .error (.tooLong digits.length)
    else .ok (signed negative (value digits))
  | _ => .error .malformed

-- The double `digits · 10 ^ power`. Powers far outside the range are settled by their size.
def scaled (negative : Bool) (digits : List Nat) (power : Int) : Double :=
  let n := value digits
  let top : Int := (digits.dropWhile (· == 0)).length + power
  if n = 0 then .ofUnits negative 0
  else if 400 < top then .infinite negative
  else if top < -400 then .ofUnits negative 0
  else if 0 ≤ power then .ofRatio negative (n * Nat.pow 10 power.toNat) 1
  else .ofRatio negative n (Nat.pow 10 (-power).toNat)

-- The exponent part of a number, if the text ends right after it.
def exponent? : List Char → Option Int
  | [] => some 0
  | c :: rest =>
    if c == 'e' || c == 'E' then
      let (negative, body) := sign rest
      match digitRun body with
      | ([], _) => none
      | (digits, []) => some (signed negative (value digits))
      | _ => none
    else none

def named? (word : List Char) : Option (Bool → Double) :=
  match String.ofList (word.map Char.toLower) with
  | "inf" => some Double.infinite
  | "infinity" => some Double.infinite
  | "nan" => some fun _ => .nan
  | _ => none

-- Reads a number with an optional fraction and exponent, or the name of a number that has no digits.
def readDouble? (s : String) : Option Double :=
  let (negative, body) := sign (Text.stripChars s.toList)
  match named? body with
  | some x => some (x negative)
  | none =>
    let (whole, rest) := digitRun body
    let (fraction, rest) := match rest with
      | '.' :: rest => digitRun rest
      | rest => ([], rest)
    if whole.isEmpty && fraction.isEmpty then none
    else (exponent? rest).map fun power =>
      scaled negative (whole ++ fraction) (power - fraction.length)

end FlowGate.Numeral
