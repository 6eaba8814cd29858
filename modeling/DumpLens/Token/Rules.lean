import DumpLens.Span.Note
import DumpLens.Text.Word
import DumpLens.Token.Basic
import DumpLens.Token.Scanner

/-! The token rules of dump text, tried in order at every place. -/

namespace DumpLens

/-- Where in a text a rule applies: in the dump proper or inside a string. -/
inductive LexState
  | root
  | string
  deriving DecidableEq, Repr

/-- A token rule: how its lexeme is recognised, given the character before it,
which kind of token it makes and in which state lexing goes on. -/
structure Rule where
  kind : TokenKind
  scan : Option Char → Scanner
  next : LexState

namespace Rule

/-! ## Character classes -/

def isUpper (character : Char) : Bool :=
  'A' ≤ character && character ≤ 'Z'

def isLower (character : Char) : Bool :=
  'a' ≤ character && character ≤ 'z'

/-- The first characters of lower case names. -/
def isNameStart (character : Char) : Bool :=
  isLower character || character == '_'

def isNamePart (character : Char) : Bool :=
  isAsciiAlphanumeric character || character == '_'

def isNumberPart (character : Char) : Bool :=
  isAsciiDigit character || character == '_'

/-! ## Making rules -/

/-- A rule that does not look at the character before. -/
def plain (kind : TokenKind) (scanner : Scanner) : Rule :=
  ⟨kind, fun _ => scanner, .root⟩

/-- A rule for whole words: no word character stands before or behind the
lexeme, and the lexeme is accepted. -/
def word (kind : TokenKind) (accept : Text → Bool) : Rule :=
  { kind
    scan := fun previous input =>
      if previous.any isWord then none
      else
        match input.takeWhile isWord with
        | [] => none
        | first :: rest =>
          if accept (first :: rest) then some (first :: rest).length else none
    next := .root }

def words (kind : TokenKind) (list : List String) : Rule :=
  word kind fun run => list.any fun candidate => candidate.toList == run

def inString (kind : TokenKind) (scanner : Scanner) : Rule :=
  ⟨kind, fun _ => scanner, .string⟩

/-! ## Lexemes -/

/-- A span annotation. -/
def spanNote : Scanner := fun input =>
  (SpanNote.at? input).map fun (note, _) => note.text.length

/-- A syntax context such as `(#0)`. -/
def syntaxContext : Scanner :=
  .sequence [.literal ['(', '#'], .run1 isDigit, .literal [')']]

def lineCommentText : Scanner :=
  .sequence [.literal ['/', '/'], .run (· != '\n')]

/-- A comment up to its first closing mark. -/
def blockCommentText : Scanner :=
  .sequence [.literal ['/', '*'], .through ['*', '/']]

/-- A character literal: one character or an escaped one between quotes. -/
def characterText : Scanner :=
  .sequence [.optional (.literal ['b']), .literal ['\''],
    .orElse (.sequence [.literal ['\\'], .one (· != '\n')])
      (.one fun character => character != '\\' && character != '\''),
    .literal ['\'']]

/-- A lifetime or region such as `'a`. -/
def lifetime : Scanner :=
  .sequence [.literal ['\''],
    .one (fun character => isNameStart character || isUpper character), .run isWord]

/-- A type that may follow an integer. -/
def integerSuffix : Scanner :=
  .sequence [.optional (.literal ['_']),
    .one (fun character => character == 'i' || character == 'u'),
    .literals ["8".toList, "16".toList, "32".toList, "64".toList, "128".toList, "size".toList]]

/-- A type that may follow a fractional number. -/
def floatSuffix : Scanner :=
  .sequence [.optional (.literal ['_']), .literal ['f'], .literals ["32".toList, "64".toList]]

def hexNumberText : Scanner :=
  .sequence [.literal ['0', 'x'],
    .run1 (fun character => isHexDigit character || character == '_'), .optional integerSuffix]

def digits : Scanner :=
  .sequence [.one isAsciiDigit, .run isNumberPart]

def floatNumberText : Scanner :=
  .sequence [digits, .literal ['.'], digits, .optional floatSuffix]

def integerNumberText : Scanner :=
  .sequence [digits, .optional integerSuffix]

/-- A local of a function body such as `_1`. -/
def isLocal (run : Text) : Bool :=
  match run with
  | '_' :: first :: rest => (first :: rest).all isDigit
  | _ => false

/-- A basic block such as `bb0`. -/
def isBasicBlock (run : Text) : Bool :=
  match run with
  | 'b' :: 'b' :: first :: rest => (first :: rest).all isDigit
  | _ => false

/-- An attribute, inner or outer, up to its first closing bracket. -/
def attributeText : Scanner :=
  .sequence [.literal ['#'], .optional (.literal ['!']), .literal ['['], .run (· != ']'),
    .literal [']']]

def lowerName : Scanner :=
  .sequence [.one isNameStart, .run isNamePart]

def upperName : Scanner :=
  .sequence [.one isUpper, .run isNamePart]

/-- The text behind a name opens an argument list. -/
def opensArguments (rest : Text) : Bool :=
  (rest.dropWhile isBlank).head? == some '('

/-- The text behind a name has a colon that is not half of a path separator. -/
def opensType (rest : Text) : Bool :=
  match rest.dropWhile isBlank with
  | ':' :: ':' :: _ => false
  | ':' :: _ => true
  | _ => false

/-- An escape inside a string. -/
def escapeText : Scanner :=
  .sequence [.literal ['\\'],
    .orElse (.one fun character => "nrt\\\"'0".toList.contains character)
      (.orElse
        (.sequence [.literal ['x'], .one isHexDigit, .one isHexDigit])
        (.sequence [.literal ['u', '\x7b'], .run1 isHexDigit, .literal ['\x7d']]))]

/-! ## The rules -/

/-- Words that start statements and terminators. -/
def statementWords : List String :=
  ["StorageLive", "StorageDead", "FakeRead", "Retag", "Deinit", "PlaceMention",
    "AscribeUserType", "goto", "switchInt", "return", "unreachable", "drop", "assert", "call",
    "resume", "abort", "unwind", "continue", "cleanup", "terminate", "scope", "debug", "otherwise"]

def operandWords : List String :=
  ["move", "copy", "const"]

def languageWords : List String :=
  ["as", "async", "await", "box", "break", "crate", "dyn", "else", "enum", "extern", "fn", "for",
    "if", "impl", "in", "let", "loop", "match", "mod", "mut", "pub", "ref", "static", "struct",
    "super", "trait", "type", "unsafe", "use", "where", "while", "yield"]

/-- Names of types that are built in. -/
def primitiveTypes : List String :=
  ["i8", "i16", "i32", "i64", "i128", "isize", "u8", "u16", "u32", "u64", "u128", "usize", "f32",
    "f64", "bool", "char", "str"]

/-- Operators of more than one character; of two that start alike the longer
comes first. -/
def longOperators : List Text :=
  ["::", "->", "=>", "==", "!=", "<=", ">=", "&&", "||", "..=", ".."].map String.toList

/-- The rules of the dump proper. -/
def root : List Rule := [
  plain .text (.run1 isBlank),
  plain .marker spanNote,
  plain .marker syntaxContext,
  plain .lineComment lineCommentText,
  plain .blockComment blockCommentText,
  { inString .string (.sequence [.optional (.literal ['b']), .literal ['"']]) with
    next := .string },
  plain .character characterText,
  plain .decorator lifetime,
  plain .hexNumber hexNumberText,
  plain .floatNumber floatNumberText,
  plain .integerNumber integerNumberText,
  word .localName isLocal,
  word .blockLabel isBasicBlock,
  words .statementKeyword statementWords,
  words .operandKeyword operandWords,
  words .keyword languageWords,
  words .constant ["true", "false"],
  words .selfName ["self", "Self"],
  words .primitiveType primitiveTypes,
  plain .decorator attributeText,
  plain .callMacro (.sequence [lowerName, .literal ['!']]),
  plain .typeName upperName,
  plain .functionName (.followedBy lowerName opensArguments),
  plain .fieldName (.followedBy lowerName opensType),
  plain .name lowerName,
  plain .operator (.literals longOperators),
  plain .operator (.one fun character => "+-*/%<>=!&|^.@?#$~".toList.contains character),
  plain .punctuation (.one fun character => "(),;[]\x7b\x7d:".toList.contains character)]

def string : List Rule := [
  inString .escape escapeText,
  inString .string (.run1 fun character => character != '"' && character != '\\'),
  plain .string (.literal ['"'])]

def ofState : LexState → List Rule
  | .root => root
  | .string => string

end Rule

end DumpLens
