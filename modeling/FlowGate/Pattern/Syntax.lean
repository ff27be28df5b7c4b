import FlowGate.Pattern.Letter
import FlowGate.Text.Blank
import FlowGate.Text.Digit
import FlowGate.Text.Word

-- Patterns as trees, and the length of the texts that a pattern can match.

namespace FlowGate.Pattern

inductive Category
  | digit
  | blank
  | word
deriving DecidableEq, Repr

namespace Category

def holds (category : Category) (asciiOnly : Bool) (n : Nat) : Bool :=
  let c := Char.ofNat n
  if asciiOnly && 0x80 ≤ n then false
  else match category with
    | digit => Text.isDigit c
    | blank => if asciiOnly then (9 ≤ n && n ≤ 13) || n == 32 else Text.isBlank c
    | word => Text.isWord c

end Category

inductive Member
  | one (n : Nat)
  | range (first last : Nat)
  | category (category : Category) (negated : Bool)
deriving DecidableEq, Repr

-- A set of characters. Letters of either case belong to it unless the casing is exact.
structure CharSet where
  members   : List Member
  negated   : Bool
  casing    : Casing
  asciiOnly : Bool
deriving DecidableEq, Repr

namespace CharSet

-- Whether case makes a difference for some member. A set with members beyond 16 bits always counts as one where
-- it does.
def isCased (s : CharSet) : Bool :=
  s.members.any fun
    | .one n => s.casing.isCased n || (s.casing == .unicode && 0x10000 ≤ n)
    | .range first last =>
      match s.casing with
      | .exact => false
      | .ascii => (List.range 0x80).any fun n => first ≤ n && n ≤ last && Casing.ascii.isCased n
      | .unicode => 0x10000 ≤ last || casedForms.any fun run => run.1 ≤ last && first ≤ run.2
    | .category .. => false

def holdsPlainly (s : CharSet) (n : Nat) : Bool :=
  s.members.any fun
    | .one m => m == n
    | .range first last => first ≤ n && n ≤ last
    | .category category negated => category.holds s.asciiOnly n != negated

-- Whether a member is a letter that counts as the same as `n`. Categories look at the small letter.
def holdsFolded (s : CharSet) (n : Nat) : Bool :=
  let small := s.casing.fold n
  let alike := s.casing.alike small
  s.members.any fun
    | .one m => alike.contains m
    | .range first last => alike.any fun m => first ≤ m && m ≤ last
    | .category category negated => category.holds s.asciiOnly small != negated

def holds (s : CharSet) (c : Char) : Bool :=
  (if s.casing != .exact && s.isCased then s.holdsFolded c.toNat else s.holdsPlainly c.toNat) != s.negated

end CharSet

inductive Anchor
  | textStart
  | textEnd
  | lineStart
  | lineEnd
  | beforeFinalBreak
  | boundary (negated asciiOnly : Bool)
deriving DecidableEq, Repr

-- How a repetition chooses its count: as many as possible, as few as possible, or as many as possible for good.
inductive Greed
  | greedy
  | lazy
  | possessive
deriving DecidableEq, Repr

structure Width where
  least : Nat
  most  : Option Nat
deriving DecidableEq, Repr

inductive Node
  | empty
  | set (s : CharSet)
  | any (breaks : Bool)
  | anchor (a : Anchor)
  | seq (a b : Node)
  | alt (a b : Node)
  | rep (greed : Greed) (least : Nat) (most : Option Nat) (body : Node)
  | group (number : Nat) (body : Node)
  | reference (number : Nat) (casing : Casing) (width : Width)
  | look (ahead negated : Bool) (body : Node)
  | atomic (body : Node)
  | choice (number : Nat) (yes no : Node)
deriving DecidableEq, Repr

namespace Width

def zero : Width := ⟨0, some 0⟩

def one : Width := ⟨1, some 1⟩

def both (f : Nat → Nat → Nat) : Option Nat → Option Nat → Option Nat
  | some m, some n => some (f m n)
  | _, _ => none

def append (v w : Width) : Width := ⟨v.least + w.least, both (· + ·) v.most w.most⟩

def join (v w : Width) : Width := ⟨min v.least w.least, both max v.most w.most⟩

def times (w : Width) (least : Nat) (most : Option Nat) : Width :=
  ⟨w.least * least,
    if w.most = some 0 ∨ most = some 0 then some 0 else both (· * ·) w.most most⟩

end Width

namespace Node

def width : Node → Width
  | empty => .zero
  | set _ => .one
  | any _ => .one
  | anchor _ => .zero
  | seq a b => a.width.append b.width
  | alt a b => a.width.join b.width
  | rep _ least most body => body.width.times least most
  | group _ body => body.width
  | reference _ _ w => w
  | look .. => .zero
  | atomic body => body.width
  | choice _ yes no => yes.width.join no.width

def preorder : Node → List Node
  | seq a b => a.preorder ++ b.preorder
  | alt a b => a.preorder ++ b.preorder
  | rep greed least most body => rep greed least most body :: body.preorder
  | group _ body => body.preorder
  | look ahead negated body => look ahead negated body :: body.preorder
  | atomic body => body.preorder
  | choice _ yes no => yes.preorder ++ no.preorder
  | _ => []

def ofSequence : List Node → Node
  | [] => empty
  | [a] => a
  | a :: rest => seq a (ofSequence rest)

def ofAlternatives : List Node → Node
  | [] => empty
  | [a] => a
  | a :: rest => alt a (ofAlternatives rest)

end Node

end FlowGate.Pattern
