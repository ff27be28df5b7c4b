import FlowGate.Text.Quoted

-- What can be wrong with a pattern, and where.

namespace FlowGate.Pattern

-- A reason for refusing a pattern. Parts of the pattern are quoted as they are written.
inductive Problem
  -- escapes
  | endsInEscape
  | badEscape (written : String)
  | incompleteEscape (written : String)
  | octalRange (written : String)
  | noBrace
  | unknownCharacter (name : String)
  -- references to groups
  | openGroup
  | sameLookbehind
  | noGroup (number : Nat)
  | groupNumber
  | noName (what : String)
  | openName (terminator : Char)
  | nameCharacter (name : String)
  | unknownName (name : String)
  | nameTaken (name : String) (group earlier : Nat)
  | thirdBranch
  -- sets and repetitions
  | openSet
  | badRange (first last : String)
  | nothingToRepeat
  | repeatedTwice
  | boundsOrder
  -- groups and flags
  | unexpectedEnd
  | unknownExtension (written : String)
  | openComment
  | openGroupText
  | closedTwice
  | lateFlags
  | localeFlag
  | mixedFlags
  | unknownFlag
  | flagEnd (wanted : String)
  | flagWanted (wanted : String)
  | globalFlagOn
  | globalFlagOff
  | typeFlagOff
  | flagOnAndOff
  -- found once the whole pattern is read
  | lookbehindWidth
  | lookbehindDistance
  | templateRepeat (name : String)
deriving DecidableEq, Repr

namespace Problem

def message : Problem → String
  | endsInEscape => "bad escape (end of pattern)"
  | badEscape written => s!"bad escape {written}"
  | incompleteEscape written => s!"incomplete escape {written}"
  | octalRange written => s!"octal escape value {written} outside of range 0-0o377"
  | noBrace => "missing \x7b"
  | unknownCharacter name => s!"undefined character name {Text.spelledText name}"
  | openGroup => "cannot refer to an open group"
  | sameLookbehind => "cannot refer to group defined in the same lookbehind subpattern"
  | noGroup number => s!"invalid group reference {number}"
  | groupNumber => "bad group number"
  | noName what => s!"missing {what}"
  | openName terminator => s!"missing {terminator}, unterminated name"
  | nameCharacter name => s!"bad character in group name {Text.spelledText name}"
  | unknownName name => s!"unknown group name {Text.spelledText name}"
  | nameTaken name group earlier =>
    s!"redefinition of group name {Text.spelledText name} as group {group}; was group {earlier}"
  | thirdBranch => "conditional backref with more than two branches"
  | openSet => "unterminated character set"
  | badRange first last => s!"bad character range {first}-{last}"
  | nothingToRepeat => "nothing to repeat"
  | repeatedTwice => "multiple repeat"
  | boundsOrder => "min repeat greater than max repeat"
  | unexpectedEnd => "unexpected end of pattern"
  | unknownExtension written => s!"unknown extension {written}"
  | openComment => "missing ), unterminated comment"
  | openGroupText => "missing ), unterminated subpattern"
  | closedTwice => "unbalanced parenthesis"
  | lateFlags => "global flags not at the start of the expression"
  | localeFlag => "bad inline flags: cannot use 'L' flag with a str pattern"
  | mixedFlags => "bad inline flags: flags 'a', 'u' and 'L' are incompatible"
  | unknownFlag => "unknown flag"
  | flagEnd wanted => s!"missing {wanted}"
  | flagWanted wanted => s!"missing {wanted}"
  | globalFlagOn => "bad inline flags: cannot turn on global flag"
  | globalFlagOff => "bad inline flags: cannot turn off global flag"
  | typeFlagOff => "bad inline flags: cannot turn off flags 'a', 'u' and 'L'"
  | flagOnAndOff => "bad inline flags: flag turned on and off"
  | lookbehindWidth => "look-behind requires fixed-width pattern"
  | lookbehindDistance => "looks too much behind"
  | templateRepeat name => s!"internal: unsupported template operator {name}"

end Problem

-- Where a pattern goes wrong. The position counts characters, and in a pattern of several lines it is told as a
-- line and a column as well.
structure Place where
  position : Nat
  line     : Option (Nat × Nat) := none
deriving DecidableEq, Repr

namespace Place

def ofPattern (pattern : List Char) (place : Place) : Place :=
  let before := pattern.take place.position
  if pattern.contains '\n' then
    { place with line := some (before.count '\n' + 1, (before.reverse.takeWhile (· != '\n')).length + 1) }
  else place

def message (place : Place) : String :=
  match place.line with
  | some (line, column) => s!"at position {place.position} (line {line}, column {column})"
  | none => s!"at position {place.position}"

end Place

-- Why a text is no pattern. Problems with the pattern as a whole have no place.
inductive Error
  | malformed (problem : Problem) (place : Option Place)
  | repetitionTooLarge
  | incompatibleFlags
deriving DecidableEq, Repr

namespace Error

def ofPattern (pattern : List Char) : Error → Error
  | malformed problem place => malformed problem (place.map (Place.ofPattern pattern))
  | e => e

def message : Error → String
  | malformed problem (some place) => s!"{problem.message} {place.message}"
  | malformed problem none => problem.message
  | repetitionTooLarge => "the repetition number is too large"
  | incompatibleFlags => "ASCII and UNICODE flags are incompatible"

end Error

end FlowGate.Pattern
