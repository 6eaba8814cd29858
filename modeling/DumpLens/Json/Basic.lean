import DumpLens.Span.Basic
import DumpLens.Text.CodePoint

/-! JSON values and their texts. -/

namespace DumpLens

/-- A JSON value. Numbers are kept as they are written. Strings can hold halves of pairs
of code units that stand alone. No key of an object has two entries. -/
inductive Json
  | null
  | boolean (truth : Bool)
  | number (numeral : Text)
  | string (content : CodePoints)
  | array (items : List Json)
  | object (entries : List (CodePoints × Json))
  deriving Repr

/-- The entries of an object. -/
abbrev JsonEntries := List (CodePoints × Json)

namespace Json

/-- The value of a key. -/
def find? (entries : JsonEntries) (key : Text) : Option Json :=
  entries.lookup (CodePoints.ofText key)

/-- Entries in which every key has only its last value. -/
def lastEntries : JsonEntries → JsonEntries
  | [] => []
  | (key, value) :: rest =>
    if rest.any (·.1 == key) then lastEntries rest else (key, value) :: lastEntries rest

/-! ## Making values -/

/-- A text as a string. -/
def ofText (text : Text) : Json :=
  .string (CodePoints.ofText text)

def integer (number : Int) : Json :=
  .number (Text.ofInt number)

/-- A value that may be absent. -/
def optional (encode : α → Json) : Option α → Json
  | some value => encode value
  | none => .null

/-- An object with keys from the program. -/
def record (entries : List (String × Json)) : Json :=
  .object (entries.map fun (key, value) => (CodePoints.ofText key.toList, value))

/-- A span as an object. -/
def ofSpan (span : SourceSpan) : Json := record [
  ("start_line", integer span.startLine),
  ("start_col", integer span.startCol),
  ("end_line", integer span.endLine),
  ("end_col", integer span.endCol)]

/-! ## Texts of values -/

/-- A code unit as four digits in base sixteen. -/
def codeEscape (unit : Nat) : Text :=
  "\\u".toList ++ (Nat.toDigits 16 unit).leftpad 4 '0'

/-- A character between quotes. -/
def escapeChar (character : Char) : Text :=
  match character with
  | '"' => ['\\', '"']
  | '\\' => ['\\', '\\']
  | '\n' => ['\\', 'n']
  | '\r' => ['\\', 'r']
  | '\t' => ['\\', 't']
  | '\x0c' => ['\\', 'f']
  | '\x08' => ['\\', 'b']
  | other => if other.toNat < 0x20 then codeEscape other.toNat else [other]

/-- A code point between quotes. -/
def escapePoint : CodePoint → Text
  | .character value => escapeChar value
  | .half index => codeEscape (CodePoint.half index).code

def quote (points : CodePoints) : Text :=
  '"' :: points.flatMap escapePoint ++ ['"']

mutual

/-- A value as text, without blanks. -/
def text : Json → Text
  | null => "null".toList
  | boolean truth => if truth then "true".toList else "false".toList
  | number numeral => numeral
  | string content => quote content
  | array items => '[' :: [','].intercalate (itemTexts items) ++ [']']
  | object entries => '\x7b' :: [','].intercalate (entryTexts entries) ++ ['\x7d']

def itemTexts : List Json → List Text
  | [] => []
  | item :: rest => text item :: itemTexts rest

def entryTexts : JsonEntries → List Text
  | [] => []
  | (key, value) :: rest => (quote key ++ ':' :: text value) :: entryTexts rest

end

example : text (record [("a", .array [.null, integer (-1)]), ("b", ofText ['"', '\x01'])]) =
    "\x7b\"a\":[null,-1],\"b\":\"\\\"\\u0001\"\x7d".toList := by decide +kernel

end Json

end DumpLens
