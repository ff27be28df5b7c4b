import FlowGate.Text.Search

-- Addresses of resources: a scheme, the name of a host and a path. Only the parts that tell whether an address
-- is complete are kept.

namespace FlowGate.Text.Url

structure Parts where
  scheme : List Char
  host   : List Char
  path   : List Char

inductive Fault
  | brackets
  | futureAddress
  | shortAddress
  | noAddress (host : String)
  | hostCharacters (host : String)
deriving DecidableEq, Repr

def isSchemeChar (c : Char) : Bool := c.isAlphanum || c == '+' || c == '-' || c == '.'

-- Controls and spaces at the start do not count, and neither do line breaks and tabs anywhere.
def cleaned (cs : List Char) : List Char :=
  (cs.dropWhile fun c => c.toNat ≤ 32).filter fun c => c != '\t' && c != '\r' && c != '\n'

def takeScheme (cs : List Char) : List Char × List Char :=
  let before := cs.takeWhile (· != ':')
  match cs.dropWhile (· != ':'), before with
  | ':' :: after, c :: _ =>
    if c.isAlpha && before.all isSchemeChar then (before.map Char.toLower, after) else ([], cs)
  | _, _ => ([], cs)

def endsHost (c : Char) : Bool := c == '/' || c == '?' || c == '#'

def takeHost : List Char → List Char × List Char
  | '/' :: '/' :: rest => rest.span (!endsHost ·)
  | cs => ([], cs)

-- A host without the name of a user before the last at sign.
def withoutUser (host : List Char) : List Char :=
  (host.reverse.takeWhile (· != '@')).reverse

-- The text between brackets. Nothing may stand before the opening bracket, and what follows the closing one has
-- to begin with a colon. A host without brackets ends at its first colon.
def bracketed (host : List Char) : Except Fault (List Char) :=
  match withoutUser host with
  | '[' :: rest =>
    match (rest.dropWhile (· != ']')).drop 1 with
    | [] => .ok (rest.takeWhile (· != ']'))
    | ':' :: _ => .ok (rest.takeWhile (· != ']'))
    | _ => .error .brackets
  | cs => if cs.contains '[' then .error .brackets else .ok (cs.takeWhile (· != ':'))

def isHex (c : Char) : Bool := c.isDigit || ('a' ≤ c && c ≤ 'f') || ('A' ≤ c && c ≤ 'F')

def isFutureAddress (cs : List Char) : Bool :=
  let digits := (cs.drop 1).takeWhile isHex
  match (cs.drop 1).dropWhile isHex with
  | '.' :: rest => !digits.isEmpty && !rest.isEmpty && rest.all (· != '\n')
  | _ => false

-- Whether a text is a number from 0 to 255 without needless zeros.
def isOctet (cs : List Char) : Bool :=
  !cs.isEmpty && cs.length ≤ 3 && cs.all Char.isDigit && (cs == ['0'] || cs.head? != some '0') &&
    cs.foldl (fun n c => 10 * n + (c.toNat - 48)) 0 ≤ 255

def isShortAddress (cs : List Char) : Bool :=
  let parts := splitChars '.' cs
  parts.length == 4 && parts.all isOctet

def isGroup (cs : List Char) : Bool := !cs.isEmpty && cs.length ≤ 4 && cs.all isHex

-- The parts of a long address between its colons. A short address at the end counts as two parts.
def addressParts? (cs : List Char) : Option (List (List Char)) :=
  let parts := splitChars ':' cs
  match parts.getLast? with
  | some last =>
    if last.contains '.' then
      if isShortAddress last then some (parts.dropLast ++ [['0'], ['0']]) else none
    else some parts
  | none => none

-- Whether a text is a long address: eight groups, of which one run may be left out.
def isLongAddress (cs : List Char) : Bool :=
  let body := cs.takeWhile (· != '%')
  let zone := cs.dropWhile (· != '%')
  let zoneHolds := zone.isEmpty || (zone != ['%'] && !(zone.drop 1).contains '%')
  let colons := (splitChars ':' body).length
  !cs.contains '/' && zoneHolds && 3 ≤ colons &&
    match addressParts? body with
    | none => false
    | some parts => parts.length ≤ 9 && holds parts
where
  holds (parts : List (List Char)) : Bool :=
    let inner := (parts.drop 1).dropLast
    let gaps := inner.filter List.isEmpty
    if gaps.length = 1 then
      -- A gap at the start or at the end shows as two empty parts.
      let first := parts.head?.all List.isEmpty
      let last := parts.getLast?.all List.isEmpty
      let groups := parts.filter (!·.isEmpty)
      let startHolds := !first || inner.head?.all List.isEmpty
      let endHolds := !last || inner.getLast?.all List.isEmpty
      startHolds && endHolds && groups.all isGroup && groups.length ≤ 7
    else
      gaps.isEmpty && parts.length == 8 && parts.all isGroup

def disguised : List Nat :=
  [0x2047, 0x2048, 0x2049, 0x2100, 0x2101, 0x2105, 0x2106, 0x2A74, 0xFE13, 0xFE16, 0xFE55, 0xFE56,
    0xFE5F, 0xFE6B, 0xFF03, 0xFF0F, 0xFF1A, 0xFF1F, 0xFF20]

def checkHost (host : List Char) : Except Fault Unit := do
  let opened := host.contains '['
  let closed := host.contains ']'
  if opened != closed then throw .brackets
  if opened then
    let inside ← bracketed host
    if inside.head? == some 'v' then
      if !isFutureAddress inside then throw .futureAddress
    else if isShortAddress inside then throw .shortAddress
    else if !isLongAddress inside then throw (.noAddress (String.ofList inside))

def withParameters : List String :=
  ["", "ftp", "hdl", "prospero", "http", "imap", "https", "shttp", "rtsp", "rtsps", "rtspu", "sip", "sips",
    "mms", "sftp", "tel"]

def withoutParameters (scheme path : List Char) : List Char :=
  if !withParameters.contains (String.ofList scheme) then path
  else
    let last := (path.reverse.takeWhile (· != '/')).reverse
    let before := path.take (path.length - last.length)
    before ++ last.takeWhile (· != ';')

def read (s : String) : Except Fault Parts := do
  let (scheme, rest) := takeScheme (cleaned s.toList)
  let (host, rest) := takeHost rest
  checkHost host
  let path := (rest.takeWhile (· != '#')).takeWhile (· != '?')
  if host.any fun c => disguised.contains c.toNat then
    throw (.hostCharacters (String.ofList host))
  return { scheme, host, path := withoutParameters scheme path }

def Parts.isComplete (p : Parts) : Bool := !p.scheme.isEmpty && (!p.host.isEmpty || !p.path.isEmpty)

end FlowGate.Text.Url
