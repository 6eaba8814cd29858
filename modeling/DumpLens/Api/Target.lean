import DumpLens.Document.Uri
import DumpLens.Domain.Name
import DumpLens.Text.Numeral

/-! Targets of requests: which path is asked for, and of whom. Targets may leave out what
is known of the server. -/

namespace DumpLens.Api

/-- Whom a target names: the server, and the user who asks. -/
structure Authority where
  user : Text
  host : Text
  port : Text
  deriving DecidableEq, Repr

namespace Authority

/-- Splits a host with a port behind it. An address in brackets has colons of its own. -/
def splitPort (text : Text) : Text × Text :=
  let behindBracket := (text.reverse.takeWhile (· != ']')).reverse
  let host := if text.head? = some '[' ∧ text.contains ']' then
      text.take (text.length - behindBracket.length)
    else text.takeWhile (· != ':')
  let port := text.drop host.length
  (host, if port.head? = some ':' then port.tail else port)

/-- Splits an authority. The last `@` stands behind the user. -/
def split (text : Text) : Authority :=
  let behindUser := Uri.withoutUser text
  let (host, port) := splitPort behindUser
  ⟨text.take (text.length - behindUser.length - 1), host, port⟩

example : split "me@you@[::1]:80".toList = ⟨"me@you".toList, "[::1]".toList, "80".toList⟩ := by
  decide +kernel

/-- Whether nobody is named. -/
def isAbsent (authority : Authority) : Bool :=
  authority.user.isEmpty && authority.host.isEmpty && authority.port.isEmpty

/-- Whether a text has four runs of digits with one character between neighbours, which
may be a digit itself. -/
def resemblesOctets (text : Text) : Bool :=
  let runs := (text.splitOnP (!isAsciiDigit ·)).map List.length
  let separators := runs.length - 1
  let most := runs.foldl (fun count run => count + (run - 1) / 2) separators
  separators ≤ 3 && 3 ≤ most && runs.all (0 < ·)

/-- Whether a host can be asked. What looks like a numeric address has to be one, and a name
beyond ASCII has to be the name of a host. -/
def hasHost (authority : Authority) : Bool :=
  if resemblesOctets authority.host then Address.isDotted authority.host
  else if authority.host.head? = some '[' ∧ authority.host.getLast? = some ']' then
    Address.isZoned authority.host.tail.dropLast
  else authority.host.all isAscii || Domain.isName authority.host

example : ["1.2.3.4", "1.2.3.04", "1234567", "[::1]", "[v1.x]", "é"].map
    (fun host => (split host.toList).hasHost) = [true, false, false, true, false, true] := by
  decide +kernel

/-- Whether a port is a number, or left out. -/
def hasPort (authority : Authority) : Bool :=
  authority.port.isEmpty || (Numeral.integer? authority.port).isSome

end Authority

/-- The parts of a target that tell what is asked for, and of whom. -/
structure Target where
  scheme : Text
  authority : Authority
  path : Text
  query : Text
  deriving DecidableEq, Repr

namespace Target

/-! ## Paths -/

/-- A path that starts with one slash. -/
def rooted (path : Text) : Text :=
  '/' :: path.dropWhile (· == '/')

/-- The parts of a path behind some others. A part of two dots takes back the part in
front of it, and a part of one dot says nothing. -/
def resolveParts (before : List Text) : List Text → List Text
  | [] => before
  | part :: rest =>
    if part = ['.'] then resolveParts before rest
    else if part = ['.', '.'] then
      resolveParts (if before = [[]] then before else before.dropLast) rest
    else resolveParts (before ++ [part]) rest

/-- A path without parts that are only dots. -/
def resolveDots (path : Text) : Text :=
  ['/'].intercalate (resolveParts [] (path.splitOn '/'))

/-! ## Reading targets -/

/-- The scheme of a target, and what follows its colon. The scheme may be empty. -/
def splitScheme (text : Text) : Text × Text :=
  let scheme := text.takeWhile Uri.isSchemePart
  match text.drop scheme.length with
  | ':' :: rest => if scheme.head?.all isAsciiLetter then (scheme, rest) else ([], text)
  | _ => ([], text)

/-- Splits a target. What follows a `#` does not count. -/
def split (text : Text) : Target :=
  let (scheme, rest) := splitScheme text
  let (authority, rest) := Uri.splitHost rest
  let rest := rest.takeWhile (· != '#')
  { scheme := scheme.map Char.toLower
    authority := .split authority
    path := rest.takeWhile (· != '?')
    query := (rest.dropWhile (· != '?')).tail }

/-- A target that has a scheme and a host stands for itself. Others are completed with
those of the server. -/
def isAbsolute (target : Target) : Bool :=
  !target.scheme.isEmpty && !target.authority.host.isEmpty

/-- How long a target may be. -/
def limit : Nat := 65536

def isControl (character : Char) : Bool :=
  character.toNat < 0x20 || character.toNat == 0x7f

/-- Without a scheme and an authority, a path starts neither with two slashes nor with a
colon. -/
def isMisleading (target : Target) : Bool :=
  target.scheme.isEmpty && target.authority.isAbsent &&
    ("//".toList.isPrefixOf target.path || target.path.head? == some ':')

/-- The path of a target. Dots are resolved behind a scheme or an authority. -/
def ownPath (target : Target) : Text :=
  if target.scheme.isEmpty && target.authority.isAbsent then target.path
  else resolveDots target.path

/-- How long a text is once each byte of the given characters, and of those that are not
printable or not in ASCII, is an escape. -/
def escapedLength (special text : Text) : Nat :=
  text.foldl
    (fun length character =>
      length +
        if 0x20 < character.toNat && character.toNat < 0x7f && !special.contains character then 1
        else 3 * character.utf8Size) 0

example : escapedLength ['<'] "a<é%".toList = 1 + 3 + 6 + 1 := by decide +kernel

/-- Whether the path or the query of a target is too long for one that is completed. -/
def isTooLong (target : Target) : Bool :=
  !target.isAbsolute &&
    (limit < escapedLength "\"#<>?`\x7b\x7d".toList (rooted target.ownPath) ||
      limit < escapedLength "\"#<>".toList target.query)

def read? (text : Text) : Option Target :=
  let target := split text
  if limit < text.length || text.any isControl then none
  else if target.isMisleading || !target.authority.hasHost || !target.authority.hasPort then none
  else if target.isTooLong then none
  else some target

example : (read? "http://me@[::1]:80/a?b".toList).map Target.path = some "/a".toList := by
  decide +kernel

example : read? "////a".toList = none := by decide +kernel

/-- The target of a redirection to a path of the same server. -/
def ofLocation (location : Text) : Target :=
  ⟨"http".toList, ⟨[], "server".toList, []⟩, location, []⟩

/-! ## What is asked for -/

/-- The path of a target once it is completed. The dots of one that gets a host are
resolved again. -/
def writtenPath (target : Target) : Text :=
  let path := if target.isAbsolute then target.ownPath else resolveDots (rooted target.ownPath)
  if path.isEmpty then ['/'] else path

/-- The path that is asked for. Both ends of the connection resolve escapes. -/
def askedPath (target : Target) : Text :=
  Percent.unescape (Percent.unescape target.writtenPath)

example : (split "/a/./b/../c%20d?x=1".toList).askedPath = "/a/c d".toList := by decide +kernel

example : (split "//h/..//a".toList).askedPath = "/a".toList := by decide +kernel

end Target

end DumpLens.Api
