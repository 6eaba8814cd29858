import DumpLens.Document.Address
import DumpLens.Path.Basic
import DumpLens.Text.CodeTable
import DumpLens.Text.Percent
import DumpLens.Text.Quoted

/-! URIs of files: which path a URI names, and the URI of a path. -/

namespace DumpLens

/-- What makes a URI unusable. -/
inductive UriError
  /-- A host has no slash behind it. -/
  | unendedHost
  /-- Brackets do not stand around a host as a whole. -/
  | misplacedBracket
  /-- A host in brackets is no numeric address. -/
  | notAnAddress (host : Text)
  /-- A host in brackets is an address of four octets, which has to stand without them. -/
  | bracketedOctets
  /-- A host in brackets is no address of a version to come, though it starts like one. -/
  | unknownVersion
  /-- A host has characters that decompose into separators. -/
  | ambiguousHost (host : Text)
  deriving DecidableEq, Repr

/-- An error in words. -/
def UriError.message : UriError → Text
  | .unendedHost => "substring not found".toList
  | .misplacedBracket => "Invalid IPv6 URL".toList
  | .notAnAddress host =>
    Quoted.quote host ++ " does not appear to be an IPv4 or IPv6 address".toList
  | .bracketedOctets => "An IPv4 address cannot be in brackets".toList
  | .unknownVersion => "IPvFuture address is invalid".toList
  | .ambiguousHost host =>
    "netloc '".toList ++ host ++ "' contains invalid characters under NFKC normalization".toList

namespace Uri

/-! ## Parts of URIs -/

/-- The parts of a URI that tell where a file is. -/
structure Parts where
  scheme : Text
  host : Text
  path : Text
  deriving DecidableEq, Repr

def isSchemePart (character : Char) : Bool :=
  isAsciiAlphanumeric character || "+-.".toList.contains character

/-- What counts of a text that is read as a URI: no control characters or spaces at
its start, no tabs and no line endings anywhere. -/
def clean (text : Text) : Text :=
  (text.dropWhile fun character => character.toNat ≤ 0x20).filter fun character =>
    character != '\t' && character != '\r' && character != '\n'

/-- The scheme in small letters and what follows its colon. A text that does not
start with a scheme has an empty one. -/
def splitScheme (text : Text) : Text × Text :=
  let scheme := text.takeWhile (· != ':')
  match text.dropWhile (· != ':') with
  | _ :: rest =>
    if scheme.head?.any isAsciiLetter && scheme.all isSchemePart then
      (scheme.map Char.toLower, rest)
    else ([], text)
  | [] => ([], text)

def endsHost (character : Char) : Bool :=
  character == '/' || character == '?' || character == '#'

/-- The host behind two slashes, and the rest. -/
def splitHost (text : Text) : Text × Text :=
  match text with
  | '/' :: '/' :: rest => (rest.takeWhile (!endsHost ·), rest.dropWhile (!endsHost ·))
  | _ => ([], text)

/-- Characters with a compatibility decomposition that holds one of `/?#@:`. -/
def ambiguousTable : CodeTable := [(0x2047, 0x2049), (0x2100, 0x2101), (0x2105, 0x2106),
  (0x2a74, 0x2a74), (0xfe13, 0xfe13), (0xfe16, 0xfe16), (0xfe55, 0xfe56), (0xfe5f, 0xfe5f),
  (0xfe6b, 0xfe6b), (0xff03, 0xff03), (0xff0f, 0xff0f), (0xff1a, 0xff1a), (0xff1f, 0xff20)]

/-- A host without the name of a user in front of it. -/
def withoutUser (host : Text) : Text :=
  (host.splitOn '@').getLastD []

/-- What stands between brackets in a host with brackets. All else that may stand there
is a port. Brackets in the name of a user are no brackets of the host. -/
def bracketed (host : Text) : Except UriError Text :=
  match withoutUser host with
  | '[' :: rest =>
    match (rest.dropWhile (· != ']')).tail.head? with
    | none | some ':' => .ok (rest.takeWhile (· != ']'))
    | _ => .error .misplacedBracket
  | bare =>
    if bare.contains '[' then .error .misplacedBracket else .ok (bare.takeWhile (· != ':'))

def checkBracketed (host : Text) : Except UriError Unit :=
  if host.head? = some 'v' then
    if Address.isVersioned host then .ok () else .error .unknownVersion
  else if Address.isDotted host then .error .bracketedOctets
  else if Address.isZoned host then .ok ()
  else .error (.notAnAddress host)

def checkHost (host : Text) : Except UriError Unit := do
  if host.contains '[' != host.contains ']' then throw .misplacedBracket
  if host.contains '[' then checkBracketed (← bracketed host)
  if host.any ambiguousTable.contains then throw (.ambiguousHost host)

example : (checkHost "me@[::1]:80".toList).toOption = some () := by decide +kernel

example : (checkHost "[::1]80".toList).toOption = none := by decide +kernel

/-- Splits a URI. What follows a `?` or `#` does not belong to the path. -/
def parts (text : Text) : Except UriError Parts := do
  let (scheme, rest) := splitScheme (clean text)
  let (host, rest) := splitHost rest
  checkHost host
  let path := (rest.takeWhile (· != '#')).takeWhile (· != '?')
  pure ⟨Percent.unescape scheme, Percent.unescape host, Percent.unescape path⟩

/-! ## Paths of URIs -/

/-- A path that starts with a drive, such as `/c:`. -/
def hasDrive (path : Text) : Bool :=
  match path with
  | '/' :: letter :: ':' :: _ => isAsciiLetter letter
  | _ => false

/-- The path of the file that a URI names, if its scheme is that of files. A host
becomes the start of the path. The slash before a drive is dropped. -/
def filePath? (uri : Text) : Except UriError (Option Text) := do
  let parts ← parts uri
  if parts.scheme ≠ "file".toList then
    pure none
  else if !parts.host.isEmpty && !parts.path.isEmpty then
    pure (some ("//".toList ++ parts.host ++ parts.path))
  else if hasDrive parts.path then
    match parts.path with
    | _ :: letter :: rest => pure (some (letter.toLower :: rest))
    | path => pure (some path)
  else
    pure (some parts.path)

/-! ## URIs of paths -/

/-- The host that a path of two leading slashes starts with, and the rest. -/
def splitShare (path : Text) : Except UriError (Text × Text) :=
  match path with
  | '/' :: '/' :: rest =>
    match rest.dropWhile (· != '/') with
    | [] => .error .unendedHost
    | tail => .ok (rest.takeWhile (· != '/'), tail)
  | _ => .ok ([], path)

/-- A path with a slash in front. -/
def rooted (path : Text) : Text :=
  if path.head? == some '/' then path else '/' :: path

/-- A path with escapes. A drive stays as it is, in small letters. -/
def escapePath (path : Text) : Text :=
  match path with
  | slash :: letter :: colon :: rest =>
    if hasDrive path then slash :: letter.toLower :: colon :: Percent.escape rest
    else Percent.escape path
  | _ => Percent.escape path

def ofFilePath (path : Text) : Except UriError Text := do
  let (host, rest) ← splitShare path
  pure ("file://".toList ++ Percent.escape host ++ escapePath (rooted rest))

end Uri

end DumpLens
