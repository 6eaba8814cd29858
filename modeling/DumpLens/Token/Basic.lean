import DumpLens.Text.Basic

/-! Tokens of dump text: what kind of thing a piece of a dump is. -/

namespace DumpLens

/-- The kinds of tokens, as far as highlighting tells them apart. -/
inductive TokenKind
  | text
  | whitespace
  | error
  | marker
  | lineComment
  | blockComment
  | string
  | character
  | escape
  | hexNumber
  | floatNumber
  | integerNumber
  | name
  | decorator
  | localName
  | blockLabel
  | selfName
  | callMacro
  | typeName
  | functionName
  | fieldName
  | keyword
  | statementKeyword
  | operandKeyword
  | constant
  | primitiveType
  | operator
  | punctuation
  deriving DecidableEq, Repr

/-- A token: a piece of a text and its kind. -/
structure Token where
  kind : TokenKind
  text : Text
  deriving DecidableEq, Repr

namespace TokenKind

/-- The dotted name of a kind in the usual hierarchy of highlighters. -/
def dottedName : TokenKind → Text
  | text => "Text".toList
  | whitespace => "Text.Whitespace".toList
  | error => "Error".toList
  | marker => "Comment.Special".toList
  | lineComment => "Comment.Single".toList
  | blockComment => "Comment.Multiline".toList
  | string => "Literal.String".toList
  | character => "Literal.String.Char".toList
  | escape => "Literal.String.Escape".toList
  | hexNumber => "Literal.Number.Hex".toList
  | floatNumber => "Literal.Number.Float".toList
  | integerNumber => "Literal.Number.Integer".toList
  | name => "Name".toList
  | decorator => "Name.Decorator".toList
  | localName => "Name.Variable".toList
  | blockLabel => "Name.Label".toList
  | selfName => "Name.Builtin.Pseudo".toList
  | callMacro => "Name.Function.Magic".toList
  | typeName => "Name.Class".toList
  | functionName => "Name.Function".toList
  | fieldName => "Name.Attribute".toList
  | keyword => "Keyword".toList
  | statementKeyword => "Keyword.Pseudo".toList
  | operandKeyword => "Keyword.Reserved".toList
  | constant => "Keyword.Constant".toList
  | primitiveType => "Keyword.Type".toList
  | operator => "Operator".toList
  | punctuation => "Punctuation".toList

/-- The style class of a kind. Plain text has none. -/
def styleClass : TokenKind → Text
  | text => []
  | whitespace => "w".toList
  | error => "err".toList
  | marker => "cs".toList
  | lineComment => "c1".toList
  | blockComment => "cm".toList
  | string => "s".toList
  | character => "sc".toList
  | escape => "se".toList
  | hexNumber => "mh".toList
  | floatNumber => "mf".toList
  | integerNumber => "mi".toList
  | name => "n".toList
  | decorator => "nd".toList
  | localName => "nv".toList
  | blockLabel => "nl".toList
  | selfName => "bp".toList
  | callMacro => "fm".toList
  | typeName => "nc".toList
  | functionName => "nf".toList
  | fieldName => "na".toList
  | keyword => "k".toList
  | statementKeyword => "kp".toList
  | operandKeyword => "kr".toList
  | constant => "kc".toList
  | primitiveType => "kt".toList
  | operator => "o".toList
  | punctuation => "p".toList

end TokenKind

end DumpLens
