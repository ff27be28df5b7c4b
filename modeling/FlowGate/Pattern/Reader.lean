import FlowGate.Number.Numeral
import FlowGate.Pattern.Error
import FlowGate.Pattern.Syntax

-- Reading patterns. The text of a pattern is a list of symbols, where a backslash and the character after it
-- make up one symbol. Reading keeps one symbol in view, so a backslash at the very end is refused as soon as it
-- comes into view.

namespace FlowGate.Pattern

inductive Symbol
  | plain (c : Char)
  | escape (c : Char)
  | dangling
deriving DecidableEq, Repr

namespace Symbol

def chars : Symbol → List Char
  | plain c => [c]
  | escape c => ['\\', c]
  | dangling => ['\\']

def written (s : Symbol) : String := String.ofList s.chars

def ofChars : List Char → List Symbol
  | [] => []
  | ['\\'] => [dangling]
  | '\\' :: c :: rest => escape c :: ofChars rest
  | c :: rest => plain c :: ofChars rest

def isDigit : Symbol → Bool
  | plain c => c.isDigit
  | _ => false

end Symbol

structure Flags where
  ignoreCase : Bool := false
  multiline  : Bool := false
  dotAll     : Bool := false
  verbose    : Bool := false
  ascii      : Bool := false
  unicode    : Bool := false
  template   : Bool := false
deriving DecidableEq, Repr

namespace Flags

def letter? : Char → Option Flags
  | 'i' => some { ignoreCase := true }
  | 'm' => some { multiline := true }
  | 's' => some { dotAll := true }
  | 'x' => some { verbose := true }
  | 'a' => some { ascii := true }
  | 'u' => some { unicode := true }
  | 't' => some { template := true }
  | _ => none

def isLetter (c : Char) : Bool := c == 'L' || (letter? c).isSome

def zip (f : Bool → Bool → Bool) (a b : Flags) : Flags :=
  { ignoreCase := f a.ignoreCase b.ignoreCase,
    multiline  := f a.multiline b.multiline,
    dotAll     := f a.dotAll b.dotAll,
    verbose    := f a.verbose b.verbose,
    ascii      := f a.ascii b.ascii,
    unicode    := f a.unicode b.unicode,
    template   := f a.template b.template }

def union (a b : Flags) : Flags := zip or a b

def without (a b : Flags) : Flags := zip (fun x y => x && !y) a b

def overlaps (a b : Flags) : Bool := zip and a b != {}

-- Whether a flag chooses the characters that count as letters.
def isType (a : Flags) : Bool := a.ascii || a.unicode

-- The flags inside a group that turns some on and some off. Of the flags that choose the characters only the
-- new one stays.
def within (outer on off : Flags) : Flags :=
  let outer := if on.isType then { outer with ascii := false, unicode := false } else outer
  (outer.union on).without off

def casing (a : Flags) : Casing :=
  if !a.ignoreCase then .exact else if a.ascii then .ascii else .unicode

end Flags

structure Progress where
  symbols    : List Symbol
  position   : Nat
  flags      : Flags
  -- The widths of the groups, none for a group that is still open.
  groups     : List (Option Width)
  names      : List (String × Nat)
  lookbehind : Option Nat
  -- Where each group that a choice asks about was first named.
  choices    : List (Nat × Nat)

abbrev Reading := StateT Progress (Except Error)

namespace Reading

def refuse {α : Type} (problem : Problem) (position : Nat) : Reading α :=
  throw (.malformed problem (some { position }))

def position : Reading Nat := return (← get).position

def refuseBack {α : Type} (problem : Problem) (offset : Nat) : Reading α := do
  refuse problem ((← position) - offset)

def next? : Reading (Option Symbol) := return (← get).symbols.head?

def nextIs (c : Char) : Reading Bool := return (← next?) == some (.plain c)

def checkView (symbols : List Symbol) (position : Nat) : Except Error Unit :=
  if symbols.head? == some .dangling then .error (.malformed .endsInEscape (some { position })) else .ok ()

def take : Reading (Option Symbol) := do
  let p ← get
  match p.symbols with
  | [] => return none
  | s :: rest =>
    let position := p.position + s.chars.length
    checkView rest position
    set { p with symbols := rest, position }
    return some s

def accept (c : Char) : Reading Bool := do
  if ← nextIs c then
    let _ ← take
    return true
  return false

-- Takes at most `count` plain characters of a kind.
def takeWhile (p : Char → Bool) : (count : Nat) → Reading (List Char)
  | 0 => return []
  | n + 1 => do
    match ← next? with
    | some (.plain c) =>
      if p c then
        let _ ← take
        return c :: (← takeWhile p n)
      return []
    | _ => return []

-- Takes everything up to a terminator, which is taken too.
def takeName (terminator : Char) (what : String) : (fuel : Nat) → (taken : List Char) → Reading String
  | 0, _ => refuseBack (.noName what) 0
  | fuel + 1, taken => do
    match ← take with
    | none =>
      if taken.isEmpty then refuseBack (.noName what) 0
      else refuseBack (.openName terminator) taken.length
    | some s =>
      if s == .plain terminator then
        if taken.isEmpty then refuseBack (.noName what) 1
        else return String.ofList taken
      else takeName terminator what fuel (taken ++ s.chars)

def takeNameHere (terminator : Char) (what : String) : Reading String := do
  takeName terminator what ((← get).symbols.length + 1) []

def isIdentifier (name : String) : Bool :=
  match name.toList with
  | [] => false
  | c :: rest => (Text.isWord c && !Text.isDigit c) && rest.all Text.isWord

def checkName (name : String) : Reading Unit := do
  if !isIdentifier name then refuseBack (.nameCharacter name) (name.length + 1)

def closedGroup? (number : Nat) : Reading (Option Width) :=
  return ((← get).groups[number]?).join

-- Inside a lookbehind only groups from before it can be referred to.
def checkLookbehind (number : Nat) : Reading Unit := do
  match (← get).lookbehind with
  | none => return ()
  | some first =>
    if (← closedGroup? number).isNone then refuseBack .openGroup 0
    if first ≤ number then refuseBack .sameLookbehind 0

def openGroup (name : Option String) : Reading Nat := do
  let p ← get
  let number := p.groups.length
  set { p with groups := p.groups ++ [none] }
  match name with
  | none => return number
  | some name =>
    match p.names.lookup name with
    | some earlier => refuseBack (.nameTaken name number earlier) (name.length + 1)
    | none =>
      modify fun p => { p with names := p.names ++ [(name, number)] }
      return number

def closeGroup (number : Nat) (width : Width) : Reading Unit :=
  modify fun p => { p with groups := p.groups.set number (some width) }

end Reading

open Reading

def isOctal (c : Char) : Bool := '0' ≤ c && c ≤ '7'

def isHex (c : Char) : Bool := c.isDigit || ('a' ≤ c && c ≤ 'f') || ('A' ≤ c && c ≤ 'F')

def hexValue (c : Char) : Nat :=
  if c.isDigit then c.toNat - 48 else c.toLower.toNat - 87

def numberIn (base : Nat) (cs : List Char) : Nat := cs.foldl (fun n c => n * base + hexValue c) 0

def isAsciiLetter (c : Char) : Bool := c.isAlpha

def controlEscape? : Char → Option Nat
  | 'a' => some 7
  | 'b' => some 8
  | 'f' => some 12
  | 'n' => some 10
  | 'r' => some 13
  | 't' => some 9
  | 'v' => some 11
  | '\\' => some 92
  | _ => none

def categoryEscape? : Char → Option Member
  | 'd' => some (.category .digit false)
  | 'D' => some (.category .digit true)
  | 's' => some (.category .blank false)
  | 'S' => some (.category .blank true)
  | 'w' => some (.category .word false)
  | 'W' => some (.category .word true)
  | _ => none

def anchorEscape? (flags : Flags) : Char → Option Anchor
  | 'A' => some .textStart
  | 'Z' => some .textEnd
  | 'b' => some (.boundary false flags.ascii)
  | 'B' => some (.boundary true flags.ascii)
  | _ => none

def readHex (letter : Char) (count : Nat) : Reading Nat := do
  let digits ← takeWhile isHex count
  let written := '\\' :: letter :: digits
  if digits.length ≠ count then
    refuseBack (.incompleteEscape (String.ofList written)) written.length
  let n := numberIn 16 digits
  if 0x10FFFF < n then refuseBack (.badEscape (String.ofList written)) written.length
  return n

-- A character by its name.
def readNamed : Reading Nat := do
  if !(← accept '\x7b') then refuseBack .noBrace 0
  let name ← takeNameHere '\x7d' "character name"
  match named? name with
  | some n => return n
  | none => refuseBack (.unknownCharacter name) (name.length + 4)

def readCode? (c : Char) : Reading (Option Nat) := do
  if c == 'x' then return some (← readHex c 2)
  else if c == 'u' then return some (← readHex c 4)
  else if c == 'U' then return some (← readHex c 8)
  else if c == 'N' then return some (← readNamed)
  else return none

def octalValue (digits : List Char) : Reading Nat := do
  let n := numberIn 8 digits
  if 0o377 < n then
    refuseBack (.octalRange (String.ofList ('\\' :: digits))) (digits.length + 1)
  return n

def badEscape {α : Type} (c : Char) : Reading α :=
  refuseBack (.badEscape (String.ofList ['\\', c])) 2

def readMemberEscape (c : Char) : Reading Member := do
  match controlEscape? c, categoryEscape? c with
  | some n, _ => return .one n
  | _, some m => return m
  | none, none =>
    match ← readCode? c with
    | some n => return .one n
    | none =>
      if isOctal c then
        return .one (← octalValue (c :: (← takeWhile isOctal 2)))
      else if c.isDigit || isAsciiLetter c then badEscape c
      else return .one c.toNat

def literal (flags : Flags) (n : Nat) : Node :=
  .set { members := [.one n], negated := false, casing := flags.casing, asciiOnly := flags.ascii }

def readReference (flags : Flags) (digits : List Char) : Reading Node := do
  let number := numberIn 10 digits
  if number < (← get).groups.length then
    match ← closedGroup? number with
    | none => refuseBack .openGroup (digits.length + 1)
    | some width =>
      checkLookbehind number
      return .reference number flags.casing width
  else refuseBack (.noGroup number) digits.length

def readNumberEscape (flags : Flags) (c : Char) : Reading Node := do
  match ← takeWhile Char.isDigit 1 with
  | [d] =>
    if isOctal c && isOctal d then
      match ← takeWhile isOctal 1 with
      | [e] => return literal flags (← octalValue [c, d, e])
      | _ => readReference flags [c, d]
    else readReference flags [c, d]
  | _ => readReference flags [c]

inductive Kind
  | anchor
  | repetition
  | other
deriving DecidableEq

def readEscape (flags : Flags) (c : Char) : Reading (Kind × Node) := do
  match anchorEscape? flags c, categoryEscape? c, controlEscape? c with
  | some a, _, _ => return (.anchor, .anchor a)
  | _, some m, _ =>
    return (.other, .set { members := [m], negated := false, casing := flags.casing, asciiOnly := flags.ascii })
  | _, _, some n => return (.other, literal flags n)
  | none, none, none =>
    match ← readCode? c with
    | some n => return (.other, literal flags n)
    | none =>
      if c == '0' then
        return (.other, literal flags (numberIn 8 (← takeWhile isOctal 2)))
      else if c.isDigit then return (.other, ← readNumberEscape flags c)
      else if isAsciiLetter c then badEscape c
      else return (.other, literal flags c.toNat)

def readMember (s : Symbol) : Reading Member :=
  match s with
  | .escape c => readMemberEscape c
  | .plain c => return .one c.toNat
  | .dangling => return .one 92

-- The members of a set up to its closing bracket, which is an ordinary member in first place.
def readMembers (start : Nat) : (fuel : Nat) → (read : List Member) → Reading (List Member)
  | 0, _ => refuse .openSet start
  | fuel + 1, read => do
    match ← take with
    | none => refuse .openSet start
    | some s =>
      if s == .plain ']' && !read.isEmpty then return read
      let first ← readMember s
      if ← accept '-' then
        match ← take with
        | none => refuse .openSet start
        | some t =>
          if t == .plain ']' then return read ++ [first, .one '-'.toNat]
          let last ← readMember t
          match first, last with
          | .one m, .one n =>
            if n < m then refuseBack (.badRange s.written t.written) (s.chars.length + 1 + t.chars.length)
            readMembers start fuel (read ++ [.range m n])
          | _, _ => refuseBack (.badRange s.written t.written) (s.chars.length + 1 + t.chars.length)
      else readMembers start fuel (read ++ [first])

def readSet (flags : Flags) (start : Nat) : Reading Node := do
  let negated ← accept '^'
  let members ← readMembers start ((← get).symbols.length + 1) []
  return .set { members, negated, casing := flags.casing, asciiOnly := flags.ascii }

def countLimit : Nat := 4294967295

def readCount (digits : List Char) : Reading (Option Nat) := do
  if digits.isEmpty then return none
  let n := numberIn 10 digits
  if countLimit ≤ n then throw .repetitionTooLarge
  return some n

-- The bounds of a repetition in braces, none if the braces hold something else.
def readBounds? : Reading (Option (Nat × Option Nat)) := do
  let here ← get
  if ← nextIs '\x7d' then return none
  let low ← takeWhile Char.isDigit here.symbols.length
  let comma ← accept ','
  let high ← if comma then takeWhile Char.isDigit here.symbols.length else pure low
  if !(← accept '\x7d') then
    set here
    return none
  let least ← readCount low
  let most ← readCount high
  if let (some m, some n) := (least.orElse fun _ => some 0, most) then
    if n < m then refuse .boundsOrder here.position
  return some (least.getD 0, most)

def readGreed : Reading Greed := do
  if ← accept '?' then return .lazy
  else if ← accept '+' then return .possessive
  else return .greedy

-- Replaces the last node by its repetition. The nodes are given from the last to the first.
def repeatLast (start least : Nat) (most : Option Nat) (read : List (Kind × Node)) :
    Reading (List (Kind × Node)) := do
  match read with
  | [] => refuse .nothingToRepeat start
  | (.anchor, _) :: _ => refuse .nothingToRepeat start
  | (.repetition, _) :: _ => refuse .repeatedTwice start
  | (.other, node) :: rest =>
    let greed ← readGreed
    return (.repetition, .rep greed least most node) :: rest

-- Flags that are turned on, up to the character that ends them.
def readFlagsOn : (fuel : Nat) → Char → Flags → Reading (Flags × Char)
  | 0, _, _ => refuseBack (.flagEnd "-, : or )") 0
  | fuel + 1, c, on => do
    match Flags.letter? c with
    | none => refuseBack .localeFlag 0
    | some flag =>
      let on := on.union flag
      if flag.isType && on.ascii && on.unicode then refuseBack .mixedFlags 0
      match ← take with
      | none => refuseBack (.flagEnd "-, : or )") 0
      | some s =>
        match s with
        | .plain d =>
          if d == ')' || d == '-' || d == ':' then return (on, d)
          else if Flags.isLetter d then readFlagsOn fuel d on
          else if Text.isAlphanumeric d && !Text.isDigit d then refuseBack .unknownFlag 1
          else refuseBack (.flagEnd "-, : or )") 1
        | s => refuseBack (.flagEnd "-, : or )") s.chars.length

-- Flags that are turned off, up to the colon.
def readFlagsOff : (fuel : Nat) → Char → Flags → Reading Flags
  | 0, _, _ => refuseBack (.flagEnd ":") 0
  | fuel + 1, c, off => do
    match Flags.letter? c with
    | none => refuseBack .typeFlagOff 0
    | some flag =>
      if flag.isType then refuseBack .typeFlagOff 0
      let off := off.union flag
      match ← take with
      | none => refuseBack (.flagEnd ":") 0
      | some s =>
        match s with
        | .plain d =>
          if d == ':' then return off
          else if Flags.isLetter d then readFlagsOff fuel d off
          else if Text.isAlphanumeric d && !Text.isDigit d then refuseBack .unknownFlag 1
          else refuseBack (.flagEnd ":") 1
        | s => refuseBack (.flagEnd ":") s.chars.length

-- The flags after a question mark: none when they are for the whole pattern, which takes them over, else those
-- that a group turns on and off.
def readFlags (c : Char) : Reading (Option (Flags × Flags)) := do
  let fuel := (← get).symbols.length + 1
  let (on, stop) ← if c == '-' then pure ({}, '-') else readFlagsOn fuel c {}
  if stop == ')' then
    modify fun p => { p with flags := p.flags.union on }
    return none
  if on.template then refuseBack .globalFlagOn 1
  if stop == ':' then return some (on, {})
  match ← take with
  | none => refuseBack (.flagWanted "flag") 0
  | some (.plain d) =>
    if Flags.isLetter d then
      let off ← readFlagsOff fuel d {}
      if off.template then refuseBack .globalFlagOff 1
      if on.overlaps off then refuseBack .flagOnAndOff 1
      return some (on, off)
    else if Text.isAlphanumeric d && !Text.isDigit d then refuseBack .unknownFlag 1
    else refuseBack (.flagWanted "flag") 1
  | some s => refuseBack (.flagWanted "flag") s.chars.length

-- Skips a comment up to its closing parenthesis.
def skipComment (start : Nat) : (fuel : Nat) → Reading Unit
  | 0 => refuse .openComment start
  | fuel + 1 => do
    match ← take with
    | none => refuse .openComment start
    | some s => if s == .plain ')' then return () else skipComment start fuel

def skipLine : (fuel : Nat) → Reading Unit
  | 0 => return ()
  | fuel + 1 => do
    match ← take with
    | none => return ()
    | some s => if s == .plain '\n' then return () else skipLine fuel

def isPatternGap (c : Char) : Bool :=
  c == ' ' || c == '\t' || c == '\n' || c == '\r' || c == '\x0b' || c == '\x0c'

def readNamedReference (flags : Flags) : Reading Node := do
  let name ← takeNameHere ')' "group name"
  checkName name
  match (← get).names.lookup name with
  | none => refuseBack (.unknownName name) (name.length + 1)
  | some number =>
    match ← closedGroup? number with
    | none => refuseBack .openGroup (name.length + 1)
    | some width =>
      checkLookbehind number
      return .reference number flags.casing width

def readChosenGroup : Reading Nat := do
  let name ← takeNameHere ')' "group name"
  let number ←
    if isIdentifier name then
      match (← get).names.lookup name with
      | none => refuseBack (.unknownName name) (name.length + 1)
      | some number => pure number
    else
      match Numeral.readInt name with
      | .ok (.ofNat number) =>
        if number = 0 then refuseBack .groupNumber (name.length + 1)
        if 1073741823 ≤ number then refuseBack (.noGroup number) (name.length + 1)
        let p ← get
        if (p.choices.lookup number).isNone then
          set { p with choices := p.choices ++ [(number, p.position - name.length - 1)] }
        pure number
      | _ => refuseBack (.nameCharacter name) (name.length + 1)
  checkLookbehind number
  return number

inductive Opening
  | group (name : Option String)
  | bare (atomic : Bool) (on off : Flags)
  | look (ahead negated : Bool)
  | choice
  | reference (node : Node)
  | comment
  | wholeFlags

-- Reads what follows an opening parenthesis, up to the first symbol inside the group.
def readOpening (flags : Flags) (start : Nat) : Reading Opening := do
  if !(← accept '?') then return .group none
  match ← take with
  | none => refuseBack .unexpectedEnd 0
  | some s =>
    let unknown : Reading Opening :=
      refuseBack (.unknownExtension ("?" ++ s.written)) (s.chars.length + 1)
    match s with
    | .plain 'P' =>
      if ← accept '<' then
        let name ← takeNameHere '>' "group name"
        checkName name
        return .group (some name)
      else if ← accept '=' then return .reference (← readNamedReference flags)
      else match ← take with
        | none => refuseBack .unexpectedEnd 0
        | some t => refuseBack (.unknownExtension ("?P" ++ t.written)) (t.chars.length + 2)
    | .plain ':' => return .bare false {} {}
    | .plain '>' => return .bare true {} {}
    | .plain '#' =>
      skipComment start ((← get).symbols.length + 1)
      return .comment
    | .plain '=' => return .look true false
    | .plain '!' => return .look true true
    | .plain '<' =>
      match ← take with
      | none => refuseBack .unexpectedEnd 0
      | some t =>
        if t == .plain '=' then return .look false false
        else if t == .plain '!' then return .look false true
        else refuseBack (.unknownExtension ("?<" ++ t.written)) (t.chars.length + 2)
    | .plain '(' => return .choice
    | .plain c =>
      if Flags.isLetter c || c == '-' then
        match ← readFlags c with
        | none => return .wholeFlags
        | some (on, off) => return .bare false on off
      else unknown
    | _ => unknown

def close (start : Nat) : Reading Unit := do
  if !(← accept ')') then refuse .openGroupText start

-- Flags for the whole pattern can only be given at its very start, so on the outermost level the flags
-- in force are those of the whole pattern, and everywhere else they are known when a group is opened.
mutual

-- Reads alternatives up to the end of the group or of the pattern.
def readAlternatives : (fuel : Nat) → (outer : Bool) → Flags → Reading Node
  | 0, _, _ => return .empty
  | fuel + 1, outer, flags => do
    let first ← readSequence fuel outer outer flags []
    return Node.ofAlternatives (first :: (← readMore fuel outer flags))

def readMore : (fuel : Nat) → (outer : Bool) → Flags → Reading (List Node)
  | 0, _, _ => return []
  | fuel + 1, outer, flags => do
    if ← accept '|' then
      let p ← get
      let flags := if outer then p.flags else flags
      let node ← readSequence fuel outer false flags []
      return node :: (← readMore fuel outer flags)
    return []

-- Reads a sequence. What has been read of it is given from the last node to the first.
def readSequence : (fuel : Nat) → (outer first : Bool) → Flags → List (Kind × Node) → Reading Node
  | 0, _, _, _, read => return finish read
  | fuel + 1, outer, first, flags, read => do
    let go (flags : Flags) (read : List (Kind × Node)) : Reading Node :=
      readSequence fuel outer first flags read
    match ← next? with
    | none => return finish read
    | some s =>
      if s == .plain '|' || s == .plain ')' then return finish read
      let start ← position
      let _ ← take
      match s with
      | .dangling => return finish read
      | .escape c =>
        let item ← readEscape flags c
        go flags (item :: read)
      | .plain c =>
        if flags.verbose && isPatternGap c then go flags read
        else if flags.verbose && c == '#' then
          skipLine ((← get).symbols.length + 1)
          go flags read
        else if c == '[' then
          let node ← readSet flags start
          go flags ((.other, node) :: read)
        else if c == '?' then go flags (← repeatLast start 0 (some 1) read)
        else if c == '*' then go flags (← repeatLast start 0 none read)
        else if c == '+' then go flags (← repeatLast start 1 none read)
        else if c == '\x7b' then
          match ← readBounds? with
          | none => go flags ((.other, literal flags c.toNat) :: read)
          | some (least, most) => go flags (← repeatLast start least most read)
        else if c == '.' then go flags ((.other, .any flags.dotAll) :: read)
        else if c == '^' then
          go flags ((.anchor, .anchor (if flags.multiline then .lineStart else .textStart)) :: read)
        else if c == '$' then
          go flags ((.anchor, .anchor (if flags.multiline then .lineEnd else .beforeFinalBreak)) :: read)
        else if c == '(' then
          match ← readOpening flags start with
          | .comment => go flags read
          | .wholeFlags =>
            if !first || !read.isEmpty then refuse .lateFlags start
            go (← get).flags read
          | .reference node => go flags ((.other, node) :: read)
          | .group name =>
            let number ← openGroup name
            let body ← readAlternatives fuel false flags
            close start
            closeGroup number body.width
            go flags ((.other, .group number body) :: read)
          | .bare atomic on off =>
            let body ← readAlternatives fuel false (flags.within on off)
            close start
            go flags ((.other, if atomic then .atomic body else body) :: read)
          | .look ahead negated =>
            let body ← readLook fuel ahead flags
            close start
            go flags ((.other, .look ahead negated body) :: read)
          | .choice =>
            let number ← readChosenGroup
            let yes ← readSequence fuel false false flags []
            let no ←
              if ← accept '|' then
                let no ← readSequence fuel false false flags []
                if ← nextIs '|' then refuseBack .thirdBranch 0
                pure no
              else pure .empty
            close start
            go flags ((.other, .choice number yes no) :: read)
        else go flags ((.other, literal flags c.toNat) :: read)
where
  finish (read : List (Kind × Node)) : Node := Node.ofSequence (read.reverse.map (·.2))

def readLook : (fuel : Nat) → (ahead : Bool) → Flags → Reading Node
  | 0, _, _ => return .empty
  | fuel + 1, ahead, flags => do
    let earlier := (← get).lookbehind
    if !ahead && earlier.isNone then
      modify fun p => { p with lookbehind := some p.groups.length }
    let body ← readAlternatives fuel false flags
    if !ahead && earlier.isNone then
      modify fun p => { p with lookbehind := none }
    return body

end

def lookbehindLimit : Nat := 4294967295

def Node.problem? (template : Bool) : Node → Option Problem
  | .rep greed .. =>
    if template then
      some (.templateRepeat (match greed with
        | .greedy => "MAX_REPEAT"
        | .lazy => "MIN_REPEAT"
        | .possessive => "POSSESSIVE_REPEAT"))
    else none
  | .look false _ body =>
    let w := body.width
    if lookbehindLimit < w.least then some .lookbehindDistance
    else if w.most = some w.least then none
    else some .lookbehindWidth
  | _ => none

def readWhole : Reading Node := do
  let p ← get
  checkView p.symbols p.position
  let node ← readAlternatives (4 * p.symbols.length + 4) true {}
  let p ← get
  if p.flags.ascii && p.flags.unicode then throw .incompatibleFlags
  if (← next?).isSome then refuseBack .closedTwice 0
  match p.choices.find? fun choice => p.groups.length ≤ choice.1 with
  | some (number, position) => refuse (.noGroup number) position
  | none => pure ()
  match node.preorder.findSome? (Node.problem? p.flags.template) with
  | some problem => throw (.malformed problem none)
  | none => return node

def read (s : String) : Except Error Node :=
  let progress : Progress :=
    { symbols := Symbol.ofChars s.toList, position := 0, flags := {},
      -- Group 0 is the whole match, which never closes while the pattern is read.
      groups := [none], names := [], lookbehind := none, choices := [] }
  match readWhole.run progress with
  | .ok (node, _) => .ok node
  | .error e => .error (e.ofPattern s.toList)

end FlowGate.Pattern
