import FlowGate.Pattern.Syntax

-- Matching by trying the ways of a pattern in order. A matcher takes what has to follow and gives the first way
-- on which everything that follows succeeds too.

namespace FlowGate.Pattern

structure Cursor where
  before : List Char
  after  : List Char
  index  : Nat
  groups : List (Nat × List Char)

namespace Cursor

def start (text : List Char) : Cursor := ⟨[], text, 0, []⟩

def step? (c : Cursor) : Option (Char × Cursor) :=
  match c.after with
  | [] => none
  | x :: rest => some (x, { c with before := x :: c.before, after := rest, index := c.index + 1 })

def back? : (count : Nat) → Cursor → Option Cursor
  | 0, c => some c
  | n + 1, c =>
    match c.before with
    | [] => none
    | x :: rest => back? n { c with before := rest, after := x :: c.after, index := c.index - 1 }

def groupText? (c : Cursor) (number : Nat) : Option (List Char) := c.groups.lookup number

def close (opened closed : Cursor) (number : Nat) : Cursor :=
  { closed with groups := (number, opened.after.take (closed.index - opened.index)) :: closed.groups }

end Cursor

abbrev Rest := Cursor → Option Cursor

abbrev Matcher := Cursor → Rest → Option Cursor

namespace Anchor

def isWordAt (asciiOnly : Bool) (cs : List Char) : Bool :=
  cs.head?.any fun c => Category.word.holds asciiOnly c.toNat

def holds (c : Cursor) : Anchor → Bool
  | textStart => c.before.isEmpty
  | textEnd => c.after.isEmpty
  | lineStart => c.before.head?.all (· == '\n')
  | lineEnd => c.after.head?.all (· == '\n')
  | beforeFinalBreak => c.after.isEmpty || c.after == ['\n']
  | boundary negated asciiOnly =>
    if c.before.isEmpty && c.after.isEmpty then false
    else (isWordAt asciiOnly c.before != isWordAt asciiOnly c.after) != negated

end Anchor

namespace Matcher

def one (p : Char → Bool) : Matcher := fun c k =>
  match c.step? with
  | some (x, c) => if p x then k c else none
  | none => none

def again (casing : Casing) : List Char → Matcher
  | [], c, k => k c
  | x :: rest, c, k =>
    match c.step? with
    | some (y, c) => if casing.fold x.toNat == casing.fold y.toNat then again casing rest c k else none
    | none => none

def times (m : Matcher) : (n : Nat) → Matcher
  | 0, c, k => k c
  | n + 1, c, k => m c fun c => times m n c k

-- As many more times as possible. After a turn that matched nothing there is no further one, so the turns are
-- bounded by the length of the text.
def greedy (m : Matcher) : (turns : Nat) → (most : Option Nat) → (last : Option Nat) → Matcher
  | 0, _, _, c, k => k c
  | turns + 1, most, last, c, k =>
    if most == some 0 || last == some c.index then k c
    else (m c fun d => greedy m turns (most.map (· - 1)) (some c.index) d k) <|> k c

def lazy (m : Matcher) : (turns : Nat) → (most : Option Nat) → (last : Option Nat) → Matcher
  | 0, _, _, c, k => k c
  | turns + 1, most, last, c, k =>
    k c <|>
      if most == some 0 || last == some c.index then none
      else m c fun d => lazy m turns (most.map (· - 1)) (some c.index) d k

def settled (m : Matcher) : (turns : Nat) → (most : Option Nat) → Cursor → Cursor
  | 0, _, c => c
  | turns + 1, most, c =>
    if most == some 0 then c
    else match m c some with
      | some d => if d.index == c.index then d else settled m turns (most.map (· - 1)) d
      | none => c

def possessiveTimes (m : Matcher) : (n : Nat) → Cursor → Option Cursor
  | 0, c => some c
  | n + 1, c => (m c some).bind (possessiveTimes m n)

-- Repeats a matcher at least `least` and at most `most` times.
def rep (m : Matcher) (greed : Greed) (least : Nat) (most : Option Nat) : Matcher := fun c k =>
  let turns (c : Cursor) := c.after.length + 2
  let more := most.map (· - least)
  match greed with
  | .greedy => times m least c fun c => greedy m (turns c) more none c k
  | .lazy => times m least c fun c => lazy m (turns c) more none c k
  | .possessive => (possessiveTimes m least c).bind fun c => k (settled m (turns c) more c)

end Matcher

namespace Node

def matcher : Node → Matcher
  | empty => fun c k => k c
  | set s => .one s.holds
  | any breaks => .one fun x => breaks || x != '\n'
  | anchor a => fun c k => if a.holds c then k c else none
  | seq a b => fun c k => a.matcher c fun c => b.matcher c k
  | alt a b => fun c k => a.matcher c k <|> b.matcher c k
  | rep greed least most body => Matcher.rep body.matcher greed least most
  | group number body => fun c k => body.matcher c fun d => k (c.close d number)
  | reference number casing _ => fun c k =>
    match c.groupText? number with
    | some text => Matcher.again casing text c k
    | none => none
  | look ahead negated body => fun c k =>
    let here := if ahead then some c else c.back? body.width.least
    let found := here.bind fun d => body.matcher d some
    if negated then
      if found.isSome then none else k c
    else found.bind fun d => k { c with groups := d.groups }
  | atomic body => fun c k => (body.matcher c some).bind k
  | choice number yes no => fun c k =>
    if (c.groupText? number).isSome then yes.matcher c k else no.matcher c k

-- The first match at or after a place: where it begins and where it ends. With `moving` a match has to go
-- beyond the place itself.
def search? (node : Node) : (left : Nat) → (moving : Bool) → Cursor → Option (Cursor × Cursor)
  | 0, _, _ => none
  | left + 1, moving, c =>
    let rest : Rest := fun d => if moving && d.index == c.index then none else some d
    match node.matcher { c with groups := [] } rest with
    | some d => some (c, d)
    | none =>
      match c.step? with
      | some (_, next) => search? node left false next
      | none => none

def found (node : Node) (text : List Char) : Bool :=
  (node.search? (text.length + 1) false (.start text)).isSome

-- What stays of a text when all matches, from left to right, are taken out. After an empty match the next one
-- has to reach further.
def removeAll (node : Node) : (turns : Nat) → (moving : Bool) → Cursor → List Char
  | 0, _, c => c.after
  | turns + 1, moving, c =>
    match node.search? (c.after.length + 1) moving c with
    | some (first, last) =>
      c.after.take (first.index - c.index) ++ removeAll node turns (last.index == first.index) last
    | none => c.after

end Node

end FlowGate.Pattern
