import DumpLens.Json.Basic
import DumpLens.Text.Ascii
import DumpLens.Text.Numeral
import DumpLens.Text.Reading
import DumpLens.Text.Utf16

/-! Reading JSON. Beyond the standard, the names of infinities and of what is no number
are numbers, and strings can hold halves of pairs of code units that stand alone. -/

namespace DumpLens

/-- Why a text cannot be read. -/
inductive JsonError
  /-- The text does not follow the grammar. -/
  | malformed
  /-- An integer has too many digits. -/
  | overlong
  /-- Arrays and objects stand in each other too often. -/
  | tooDeep
  deriving DecidableEq, Repr

namespace JsonReader

def isBlank (character : Char) : Bool :=
  character == ' ' || character == '\t' || character == '\n' || character == '\r'

def isBlankPoint : CodePoint → Bool
  | .character value => isBlank value
  | .half _ => false

/-- The first character behind blanks. -/
def nextMark (input : CodePoints) : Option (Reading input Char) :=
  match found : input.dropWhile isBlankPoint with
  | .character mark :: rest => some ⟨mark, rest, by
      have bound := length_dropWhile_le isBlankPoint input
      rw [found] at bound
      exact bound⟩
  | _ => none

/-! ## Strings -/

/-- A piece of a string: a code point, or the code unit of an escape. -/
inductive StringPiece
  | point (value : CodePoint)
  | unit (code : Nat)

/-- The code points of pieces. Halves are a pair where escapes give both. -/
def StringPiece.points : List StringPiece → CodePoints
  | .unit high :: .unit low :: rest =>
    match Utf16.joined? high low with
    | some character => .character character :: points rest
    | none => .ofCode high :: points (.unit low :: rest)
  | .unit code :: rest => .ofCode code :: points rest
  | .point value :: rest => value :: points rest
  | [] => []

/-- Where the reading of a string stands. -/
inductive StringPlace
  | plain
  /-- Behind a backslash. -/
  | escape
  | code (digits value : Nat)

def simpleEscape? : Char → Option Char
  | '"' => some '"'
  | '\\' => some '\\'
  | '/' => some '/'
  | 'b' => some '\x08'
  | 'f' => some '\x0c'
  | 'n' => some '\n'
  | 'r' => some '\r'
  | 't' => some '\t'
  | _ => none

/-- Reads a string up to the closing quote, piece by piece. -/
def stringPieces : StringPlace → (input : CodePoints) → Option (Reading input (List StringPiece))
  | _, [] => none
  | .plain, .half index :: rest => (stringPieces .plain rest).map fun reading =>
      (reading.map (.point (.half index) :: ·)).widen (by simp)
  | _, .half _ :: _ => none
  | .plain, .character value :: rest =>
    if value = '"' then some ⟨[], rest, by simp⟩
    else if value = '\\' then (stringPieces .escape rest).map (·.widen (by simp))
    else if value.toNat < 0x20 then none
    else (stringPieces .plain rest).map fun reading =>
      (reading.map (.point (.character value) :: ·)).widen (by simp)
  | .escape, .character value :: rest =>
    if value = 'u' then (stringPieces (.code 4 0) rest).map (·.widen (by simp))
    else
      match simpleEscape? value with
      | none => none
      | some meant => (stringPieces .plain rest).map fun reading =>
        (reading.map (.point (.character meant) :: ·)).widen (by simp)
  | .code digits number, .character value :: rest =>
    match hexValue? value with
    | none => none
    | some digit =>
      if 1 < digits then
        (stringPieces (.code (digits - 1) (16 * number + digit)) rest).map (·.widen (by simp))
      else (stringPieces .plain rest).map fun reading =>
        (reading.map (.unit (16 * number + digit) :: ·)).widen (by simp)

/-- Reads a string from behind its opening quote on. -/
def stringContent (input : CodePoints) : Option (Reading input CodePoints) :=
  (stringPieces .plain input).map (·.map StringPiece.points)

example : (stringContent (.ofText "\\u0041\\/b\" c".toList)).map Reading.value =
    some (.ofText "A/b".toList) := by decide +kernel

/-! ## Numbers -/

/-- The digits at the front of a text. -/
def leadingDigits (input : Text) : Text :=
  input.takeWhile isAsciiDigit

/-- The digits of a whole number: a zero stands alone. -/
def wholeDigits (input : Text) : Text :=
  if input.head? = some '0' then ['0'] else leadingDigits input

/-- A point and digits, if they are there. -/
def fraction (input : Text) : Text :=
  match input with
  | '.' :: rest => if (leadingDigits rest).isEmpty then [] else '.' :: leadingDigits rest
  | _ => []

/-- The sign of an exponent, if it has one. -/
def exponentSign (input : Text) : Text :=
  input.take (if input.head? = some '+' ∨ input.head? = some '-' then 1 else 0)

/-- The mark of an exponent, its sign and its digits, if they are there. -/
def exponent (input : Text) : Text :=
  match input with
  | mark :: rest =>
    let sign := exponentSign rest
    let digits := leadingDigits (rest.drop sign.length)
    if (mark = 'e' ∨ mark = 'E') ∧ !digits.isEmpty then mark :: sign ++ digits else []
  | [] => []

def namedNumbers : List Text :=
  ["NaN".toList, "Infinity".toList, "-Infinity".toList]

def isNumberPart (character : Char) : Bool :=
  isAsciiDigit character || "+-.eE".toList.contains character

def numberText : CodePoints → Text
  | .character value :: rest => if isNumberPart value then value :: numberText rest else []
  | _ => []

/-- The number at the front of a text, as it is written. Only whole numbers can have too
many digits. -/
def numeral (text : Text) : Except JsonError Text :=
  let sign := text.take (if text.head? = some '-' then 1 else 0)
  let whole := wholeDigits (text.drop sign.length)
  let behind := text.drop (sign.length + whole.length)
  let digitsBehind := fraction behind
  let power := exponent (behind.drop digitsBehind.length)
  if whole.isEmpty then .error .malformed
  else if (digitsBehind ++ power).isEmpty && Numeral.limit < whole.length then .error .overlong
  else .ok (sign ++ whole ++ digitsBehind ++ power)

example : (numeral "-1.50e+3x".toList).toOption = some "-1.50e+3".toList := by decide +kernel

/-! ## Values -/

def namedValues : List (Text × Json) :=
  [("null".toList, .null), ("true".toList, .boolean true), ("false".toList, .boolean false)] ++
    namedNumbers.map fun name => (name, .number name)

/-- A value that has no values in it, at the front of code points, and how it is written. -/
def plainValue (input : CodePoints) : Except JsonError (Text × Json) :=
  match namedValues.find? fun (name, _) => (CodePoints.ofText name).isPrefixOf input with
  | some named => .ok named
  | none => (numeral (numberText input)).map fun written => (written, .number written)

def simpleValue (input : CodePoints) : Except JsonError (Reading input Json) :=
  match plainValue input with
  | .error error => .error error
  | .ok (written, value) =>
    match Reading.drop? input value written.length with
    | some reading => .ok reading
    | none => .error .malformed

mutual

/-- Reads a value and the blanks in front of it. At most the given number of arrays and
objects may stand in each other. -/
def readValue (depth : Nat) (input : CodePoints) : Except JsonError (Reading input Json) :=
  match nextMark input with
  | none => .error .malformed
  | some ⟨'"', rest, shorter⟩ =>
    match stringContent rest with
    | some content => .ok ((content.map Json.string).widen (Nat.le_of_lt shorter))
    | none => .error .malformed
  | some ⟨'[', rest, shorter⟩ =>
    match depth, nextMark rest with
    | 0, _ => .error .tooDeep
    | _ + 1, some ⟨']', following, lesser⟩ =>
      .ok ⟨.array [], following, Nat.lt_trans lesser shorter⟩
    | depth + 1, _ =>
      match readItems depth rest with
      | .error error => .error error
      | .ok items => .ok ((items.map Json.array).widen (Nat.le_of_lt shorter))
  | some ⟨'\x7b', rest, shorter⟩ =>
    match depth, nextMark rest with
    | 0, _ => .error .tooDeep
    | _ + 1, some ⟨'\x7d', following, lesser⟩ =>
      .ok ⟨.object [], following, Nat.lt_trans lesser shorter⟩
    | depth + 1, _ =>
      match readEntries depth rest with
      | .error error => .error error
      | .ok entries =>
        .ok ((entries.map (Json.object ∘ Json.lastEntries)).widen (Nat.le_of_lt shorter))
  | some ⟨mark, rest, shorter⟩ =>
    match simpleValue (.character mark :: rest) with
    | .error error => .error error
    | .ok value => .ok (value.widen shorter)
termination_by (input.length, 0)
decreasing_by
  · exact .left _ _ shorter
  · exact .left _ _ shorter

/-- Reads the items of an array and the bracket behind them. -/
def readItems (depth : Nat) (input : CodePoints) : Except JsonError (Reading input (List Json)) :=
  match readValue depth input with
  | .error error => .error error
  | .ok ⟨item, rest, shorter⟩ =>
    match nextMark rest with
    | some ⟨']', following, lesser⟩ => .ok ⟨[item], following, Nat.lt_trans lesser shorter⟩
    | some ⟨',', following, lesser⟩ =>
      match readItems depth following with
      | .error error => .error error
      | .ok items =>
        .ok ((items.map (item :: ·)).widen (Nat.le_of_lt (Nat.lt_trans lesser shorter)))
    | _ => .error .malformed
termination_by (input.length, 1)
decreasing_by
  · exact .right _ (by decide)
  · exact .left _ _ (Nat.lt_trans lesser shorter)

/-- Reads the entries of an object and the brace behind them. -/
def readEntries (depth : Nat) (input : CodePoints) : Except JsonError (Reading input JsonEntries) :=
  match nextMark input with
  | some ⟨'"', afterQuote, quoteShorter⟩ =>
    match stringContent afterQuote with
    | none => .error .malformed
    | some ⟨key, afterKey, keyShorter⟩ =>
      match nextMark afterKey with
      | some ⟨':', afterColon, colonShorter⟩ =>
        match readValue depth afterColon with
        | .error error => .error error
        | .ok ⟨value, rest, shorter⟩ =>
          match nextMark rest with
          | some ⟨'\x7d', following, lesser⟩ => .ok ⟨[(key, value)], following, by omega⟩
          | some ⟨',', following, lesser⟩ =>
            match readEntries depth following with
            | .error error => .error error
            | .ok entries => .ok ((entries.map ((key, value) :: ·)).widen (by omega))
          | _ => .error .malformed
      | _ => .error .malformed
  | _ => .error .malformed
termination_by (input.length, 1)
decreasing_by
  · exact .left _ _ (by omega)
  · exact .left _ _ (by omega)

end

end JsonReader

/-- How many arrays and objects may stand in each other. -/
def Json.depthLimit : Nat := 968

def Json.read (points : CodePoints) : Except JsonError Json :=
  match JsonReader.readValue depthLimit points with
  | .error error => .error error
  | .ok reading =>
    if reading.rest.all JsonReader.isBlankPoint then .ok reading.value else .error .malformed

end DumpLens
