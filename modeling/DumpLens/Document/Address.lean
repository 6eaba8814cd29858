import DumpLens.Text.Ascii
import DumpLens.Text.Basic

/-! Numeric addresses of hosts: four octets with points between them, or up to eight
groups of digits in base sixteen with colons between them. -/

namespace DumpLens.Address

/-! ## Octets -/

/-- A number up to 255, without zeros in front. -/
def isOctet (text : Text) : Bool :=
  !text.isEmpty && text.all isAsciiDigit && text.length ≤ 3 &&
    (text.length == 1 || text.head? != some '0') && Nat.ofDigitChars 10 text 0 ≤ 255

/-- Four octets with points between them. -/
def isDotted (text : Text) : Bool :=
  let octets := text.splitOn '.'
  octets.length == 4 && octets.all isOctet

example : isDotted "127.0.0.1".toList = true := by decide +kernel

example : isDotted "127.0.0.01".toList = false := by decide +kernel

/-! ## Groups -/

/-- One to four digits in base sixteen. -/
def isGroup (text : Text) : Bool :=
  !text.isEmpty && text.length ≤ 4 && text.all isHexDigit

/-- How many groups stand in a text with colons between them. An empty text has none,
and there is no count of a text with other things in it. -/
def groupCount? (text : Text) : Option Nat :=
  let groups := text.splitOn ':'
  if text.isEmpty then some 0
  else if groups.all isGroup then some groups.length
  else none

/-- How many groups stand at the end of an address, where four octets may stand for the
last two. -/
def lastGroupCount? (text : Text) : Option Nat :=
  let groups := text.splitOn ':'
  if groups.getLast?.any isDotted && groups.dropLast.all isGroup then some (groups.length + 1)
  else groupCount? text

/-- What stands in front of and behind the first two colons in a row. -/
def cutAtGap : Text → Option (Text × Text)
  | ':' :: ':' :: rest => some ([], rest)
  | character :: rest => (cutAtGap rest).map fun (before, after) => (character :: before, after)
  | [] => none

/-- Eight groups, or fewer with two colons where some are left out. -/
def isGrouped (text : Text) : Bool :=
  match cutAtGap text with
  | some (before, after) =>
    match groupCount? before, lastGroupCount? after with
    | some before, some after => before + after < 8
    | _, _ => false
  | none => lastGroupCount? text == some 8

example : isGrouped "fe80::1.2.3.4".toList = true := by decide +kernel

example : isGrouped "1:2:3:4:5:6:7::8".toList = false := by decide +kernel

/-- Groups, and behind a percent sign the name of the zone in which the address holds. -/
def isZoned (text : Text) : Bool :=
  isGrouped (text.takeWhile (· != '%')) &&
    match text.dropWhile (· != '%') with
    | _ :: zone => !zone.isEmpty && !zone.contains '%'
    | [] => true

/-! ## Addresses of versions to come -/

/-- The letter `v`, a version in base sixteen, a point and at least one more character. -/
def isVersioned (text : Text) : Bool :=
  match text with
  | 'v' :: rest =>
    !(rest.takeWhile isHexDigit).isEmpty && match rest.dropWhile isHexDigit with
      | '.' :: _ :: _ => true
      | _ => false
  | _ => false

end DumpLens.Address
