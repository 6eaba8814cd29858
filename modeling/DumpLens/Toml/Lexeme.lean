import DumpLens.Text.Ascii
import DumpLens.Text.Numeral
import DumpLens.Text.Reading
import DumpLens.Toml.Value

/-! The smallest parts of configuration documents: blanks, comments, strings, numbers,
dates and times. -/

namespace DumpLens.Toml

/-- Why a text is no document. -/
inductive TomlError
  /-- The text does not follow the grammar, or says something twice. -/
  | malformed
  /-- A decimal integer has too many digits. -/
  | overlong (digits : Nat)
  /-- Collections stand in each other too often. -/
  | tooDeep
  deriving DecidableEq, Repr

/-! ## Blanks and comments -/

def isLineBlank (character : Char) : Bool :=
  character == ' ' || character == '\t'

/-- Control characters are allowed nowhere, except tabs. -/
def isControl (character : Char) : Bool :=
  (character.toNat < 0x20 && character != '\t') || character.toNat == 0x7f

def skipBlank (input : Text) : Text :=
  input.dropWhile isLineBlank

theorem skipBlank_length (input : Text) : (skipBlank input).length ≤ input.length :=
  length_dropWhile_le _ _

/-- Skips blanks, line ends and comments. The flag tells whether the place is in a
comment. -/
def skipSpace (comment : Bool) : Text → Option Text
  | [] => some []
  | character :: rest =>
    if comment then
      if character = '\n' then skipSpace false rest
      else if isControl character then none
      else skipSpace true rest
    else if isLineBlank character || character == '\n' then skipSpace false rest
    else if character = '#' then skipSpace true rest
    else some (character :: rest)

theorem skipSpace_length {comment : Bool} {input rest : Text}
    (skipped : skipSpace comment input = some rest) : rest.length ≤ input.length := by
  induction input generalizing comment with
  | nil => simp [skipSpace] at skipped; simp [← skipped]
  | cons character tail induction =>
      unfold skipSpace at skipped
      split at skipped
      · split at skipped
        · exact Nat.le_succ_of_le (induction skipped)
        · split at skipped
          · cases skipped
          · exact Nat.le_succ_of_le (induction skipped)
      · split at skipped
        · exact Nat.le_succ_of_le (induction skipped)
        · split at skipped
          · exact Nat.le_succ_of_le (induction skipped)
          · simp only [Option.some.injEq] at skipped
            simp [← skipped]

def skipComment (input : Text) : Option Text :=
  match input with
  | '#' :: rest =>
    if (rest.takeWhile (· != '\n')).any isControl then none else some (rest.dropWhile (· != '\n'))
  | _ => some input

theorem skipComment_length {input rest : Text} (skipped : skipComment input = some rest) :
    rest.length ≤ input.length := by
  unfold skipComment at skipped
  split at skipped
  · rename_i tail
    split at skipped
    · cases skipped
    · simp only [Option.some.injEq] at skipped
      have bound := length_dropWhile_le (· != '\n') tail
      rw [skipped] at bound
      exact Nat.le_succ_of_le bound
  · simp only [Option.some.injEq] at skipped
    simp [← skipped]

/-! ## Literal strings -/

/-- Reads up to a closing quote on the same line. -/
def literalString (input : Text) : Option (Text × Text) :=
  let content := input.takeWhile (· != '\'')
  match input.dropWhile (· != '\'') with
  | _ :: rest => if content.any isControl then none else some (content, rest)
  | [] => none

/-- Reads up to three closing quotes. -/
def longLiteral : Text → Option (Text × Text)
  | [] => none
  | character :: rest =>
    if character = '\'' ∧ ['\'', '\''].isPrefixOf rest then some ([], rest.drop 2)
    else if isControl character && character != '\n' then none
    else (longLiteral rest).map fun (content, following) => (character :: content, following)

/-! ## Basic strings -/

/-- Where the reading of a basic string stands. -/
inductive StringMode
  /-- Among characters. Blanks and line ends are dropped while trimming. -/
  | plain (trimming : Bool)
  /-- Behind a backslash. -/
  | escape
  | code (digits value : Nat)
  /-- Behind a backslash and a blank: the line has to end. -/
  | lineEnd

def simpleEscape? : Char → Option Char
  | 'b' => some '\x08'
  | 't' => some '\t'
  | 'n' => some '\n'
  | 'f' => some '\x0c'
  | 'r' => some '\r'
  | '"' => some '"'
  | '\\' => some '\\'
  | _ => none

def withFront (character : Char) (read : Option (Text × Text)) : Option (Text × Text) :=
  read.map fun (content, rest) => (character :: content, rest)

/-- Reads a basic string up to its end: one quote, or three in a long string. -/
def basicString (long : Bool) : StringMode → Text → Option (Text × Text)
  | _, [] => none
  | .plain trimming, character :: rest =>
    if trimming && (isLineBlank character || character == '\n') then
      basicString long (.plain true) rest
    else if character = '"' then
      if !long then some ([], rest)
      else if ['"', '"'].isPrefixOf rest then some ([], rest.drop 2)
      else withFront '"' (basicString long (.plain false) rest)
    else if character = '\\' then basicString long .escape rest
    else if isControl character && !(long && character == '\n') then none
    else withFront character (basicString long (.plain false) rest)
  | .escape, character :: rest =>
    if long && isLineBlank character then basicString long .lineEnd rest
    else if long && character == '\n' then basicString long (.plain true) rest
    else if character = 'u' then basicString long (.code 4 0) rest
    else if character = 'U' then basicString long (.code 8 0) rest
    else
      match simpleEscape? character with
      | some meant => withFront meant (basicString long (.plain false) rest)
      | none => none
  | .code digits value, character :: rest =>
    match hexValue? character with
    | none => none
    | some digit =>
      let value := 16 * value + digit
      if 1 < digits then basicString long (.code (digits - 1) value) rest
      else if value.isValidChar then
        withFront (Char.ofNat value) (basicString long (.plain false) rest)
      else none
  | .lineEnd, character :: rest =>
    if isLineBlank character then basicString long .lineEnd rest
    else if character = '\n' then basicString long (.plain true) rest
    else none

/-! ## Strings -/

/-- Up to two quotes behind a long string belong to it. -/
def trailingQuotes (mark : Char) (content rest : Text) : Text × Text :=
  match rest with
  | first :: second :: more =>
    if first = mark ∧ second = mark then (content ++ [mark, mark], more)
    else if first = mark then (content ++ [mark], second :: more)
    else (content, rest)
  | [only] => if only = mark then (content ++ [mark], []) else (content, rest)
  | [] => (content, [])

/-- A line end right behind the opening quotes of a long string is dropped. -/
def dropLineEnd (input : Text) : Text :=
  match input with
  | '\n' :: rest => rest
  | _ => input

/-- Reads a string on one line, as keys may be. -/
def shortString (input : Text) : Option (Text × Text) :=
  match input with
  | '"' :: rest => basicString false (.plain false) rest
  | '\'' :: rest => literalString rest
  | _ => none

/-- Reads a string. -/
def anyString (input : Text) : Option (Text × Text) :=
  match input with
  | '"' :: '"' :: '"' :: rest =>
    (basicString true (.plain false) (dropLineEnd rest)).map fun (content, rest) =>
      trailingQuotes '"' content rest
  | '\'' :: '\'' :: '\'' :: rest =>
    (longLiteral (dropLineEnd rest)).map fun (content, rest) => trailingQuotes '\'' content rest
  | _ => shortString input

/-! ## Numbers -/

/-- The digits behind a first one. An underscore may stand between two digits. -/
def moreDigits (member : Char → Bool) : Text → Text × Text
  | '_' :: digit :: rest =>
    if member digit then
      let (digits, rest) := moreDigits member rest
      (digit :: digits, rest)
    else ([], '_' :: digit :: rest)
  | digit :: rest =>
    if member digit then
      let (digits, rest) := moreDigits member rest
      (digit :: digits, rest)
    else ([], digit :: rest)
  | [] => ([], [])

/-- A run of digits, at least one. -/
def digitRun (member : Char → Bool) (input : Text) : Option (Text × Text) :=
  match input with
  | first :: rest =>
    if member first then
      let (digits, rest) := moreDigits member rest
      some (first :: digits, rest)
    else none
  | [] => none

def valueIn (base : Nat) (digits : Text) : Nat :=
  digits.foldl (fun number digit => base * number + (hexValue? digit).getD 0) 0

/-- An integer in base sixteen, eight or two. It has no sign. -/
def prefixedInteger (input : Text) : Option (Nat × Text) :=
  let read := fun (base : Nat) (member : Char → Bool) (rest : Text) =>
    (digitRun member rest).map fun (digits, rest) => (valueIn base digits, rest)
  match input with
  | '0' :: 'x' :: rest => read 16 (isHexDigit) rest
  | '0' :: 'o' :: rest => read 8 (fun character => '0' ≤ character && character ≤ '7') rest
  | '0' :: 'b' :: rest => read 2 (fun character => character == '0' || character == '1') rest
  | _ => none

/-- The sign in front of a number, and whether it is a minus. -/
def signOf (input : Text) : Bool × Text :=
  match input with
  | '-' :: rest => (true, rest)
  | '+' :: rest => (false, rest)
  | _ => (false, input)

/-- The digits in front of the point: a zero alone, or digits that do not start with
one. -/
def wholeDigits (input : Text) : Option (Text × Text) :=
  match input with
  | '0' :: rest => some (['0'], rest)
  | _ => digitRun isAsciiDigit input

/-- The digits behind a point, if there are any. -/
def fractionDigits (input : Text) : Option (Text × Text) :=
  match input with
  | '.' :: rest => digitRun isAsciiDigit rest
  | _ => none

/-- The power of ten, if there is one. -/
def powerOf (input : Text) : Option (Int × Text) :=
  match input with
  | mark :: rest =>
    if mark = 'e' ∨ mark = 'E' then
      let (negative, rest) := signOf rest
      (digitRun isAsciiDigit rest).map fun (digits, rest) =>
        let value : Int := valueIn 10 digits
        (if negative then -value else value, rest)
    else none
  | [] => none

/-- A decimal number: an integer, or a float if it has a fraction or a power. -/
def decimalNumber (input : Text) : Option (Except TomlError (Value × Text)) :=
  let (negative, unsigned) := signOf input
  match wholeDigits unsigned with
  | none => none
  | some (whole, afterWhole) =>
    let (fraction, afterFraction) := (fractionDigits afterWhole).getD ([], afterWhole)
    let (power, rest) := (powerOf afterFraction).getD (0, afterFraction)
    if rest.length = afterWhole.length then
      match Numeral.read whole with
      | .ok number => some (.ok (.integer (if negative then -number else number), rest))
      | .error refusal => some (.error (.overlong refusal.digits))
    else
      let digits := valueIn 10 (whole ++ fraction)
      some (.ok (.float (Double.ofDecimal negative digits (power - fraction.length)), rest))

def namedNumber (input : Text) : Option (Value × Text) :=
  let (negative, unsigned) := signOf input
  match unsigned with
  | 'i' :: 'n' :: 'f' :: rest => some (.float (.infinite negative), rest)
  | 'n' :: 'a' :: 'n' :: rest => some (.float .notANumber, rest)
  | _ => none

/-! ## Dates and times -/

/-- A number of two digits within bounds. -/
def twoDigits (low high : Nat) (input : Text) : Option (Nat × Text) :=
  match input with
  | first :: second :: rest =>
    let value := valueIn 10 [first, second]
    if isAsciiDigit first && isAsciiDigit second && low ≤ value && value ≤ high then
      some (value, rest)
    else none
  | _ => none

/-- A mark that has to stand there. -/
def expect (mark : Char) (input : Text) : Option Text :=
  match input with
  | first :: rest => if first = mark then some rest else none
  | [] => none

/-- The microseconds behind a point. Further digits are dropped. -/
def microseconds (input : Text) : Nat × Text :=
  match input with
  | '.' :: rest =>
    match rest.takeWhile isAsciiDigit with
    | [] => (0, input)
    | digits => (valueIn 10 ((digits ++ List.replicate 6 '0').take 6), rest.dropWhile isAsciiDigit)
  | _ => (0, input)

def timeOfDay (input : Text) : Option (Time × Text) := do
  let (hour, rest) ← twoDigits 0 23 input
  let (minute, rest) ← twoDigits 0 59 (← expect ':' rest)
  let (second, rest) ← twoDigits 0 59 (← expect ':' rest)
  let (microsecond, rest) := microseconds rest
  some (⟨hour, minute, second, microsecond⟩, rest)

/-- A date. Whether its month has such a day is another question. -/
def calendarDate (input : Text) : Option (Date × Text) := do
  let (century, rest) ← twoDigits 0 99 input
  let (year, rest) ← twoDigits 0 99 rest
  let (month, rest) ← twoDigits 1 12 (← expect '-' rest)
  let (day, rest) ← twoDigits 1 31 (← expect '-' rest)
  some (⟨100 * century + year, month, day⟩, rest)

/-- The zone behind a time, if there is one. -/
def zoneOf (input : Text) : Option Int × Text :=
  match input with
  | mark :: rest =>
    if mark = 'Z' ∨ mark = 'z' then (some 0, rest)
    else if mark = '+' ∨ mark = '-' then
      let read : Option (Nat × Text) := do
        let (hours, rest) ← twoDigits 0 23 rest
        let (minutes, rest) ← twoDigits 0 59 (← expect ':' rest)
        some (60 * hours + minutes, rest)
      match read with
      | some (minutes, rest) => (some (if mark = '-' then -(minutes : Int) else minutes), rest)
      | none => (none, input)
    else (none, input)
  | [] => (none, [])

/-- A date, or a date and a time with a blank or a letter between them. -/
def dateValue (input : Text) : Option (Except TomlError (Value × Text)) := do
  let (date, rest) ← calendarDate input
  let moment : Option (Time × Text) :=
    match rest with
    | mark :: rest => if mark = 'T' ∨ mark = 't' ∨ mark = ' ' then timeOfDay rest else none
    | [] => none
  if !date.isValid then some (.error .malformed)
  else
    match moment with
    | some (time, rest) =>
      let (zone, rest) := zoneOf rest
      some (.ok (.dateTime ⟨date, time, zone⟩, rest))
    | none => some (.ok (.date date, rest))

/-! ## Values without parts -/

def simpleValue (input : Text) : Except TomlError (Value × Text) :=
  match input with
  | '"' :: _ | '\'' :: _ =>
    match anyString input with
    | some (content, rest) => .ok (.string content, rest)
    | none => .error .malformed
  | 't' :: 'r' :: 'u' :: 'e' :: rest => .ok (.boolean true, rest)
  | 'f' :: 'a' :: 'l' :: 's' :: 'e' :: rest => .ok (.boolean false, rest)
  | _ =>
    match dateValue input with
    | some read => read
    | none =>
      match timeOfDay input with
      | some (time, rest) => .ok (.time time, rest)
      | none =>
        match prefixedInteger input with
        | some (number, rest) => .ok (.integer number, rest)
        | none =>
          match decimalNumber input with
          | some read => read
          | none =>
            match namedNumber input with
            | some read => .ok read
            | none => .error .malformed

end DumpLens.Toml
