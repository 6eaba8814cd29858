import DumpLens.Token.Rules

/-! Lexing: cutting a text into tokens. -/

namespace DumpLens

/-! ## Preparation -/

/-- What is lexed of a text: without a byte order mark at its start, and with
newlines as its only line endings. -/
def prepareText : Text → Text
  | '\ufeff' :: rest => Text.normalizeEndings rest
  | text => Text.normalizeEndings text

/-! ## Dump text -/

/-- The kind and length of the next token and the state behind it, by the first
rule that recognises something. A character that no rule recognises is an error
of its own, except that a newline is white space and ends a string. -/
def nextToken (state : LexState) (previous : Option Char) (input : Text) :
    TokenKind × Nat × LexState :=
  let found := (Rule.ofState state).findSome? fun rule =>
    (rule.scan previous input).map fun length => (rule.kind, length, rule.next)
  match found with
  | some token => token
  | none =>
    if input.head? == some '\n' then (.whitespace, 1, .root) else (.error, 1, state)

/-- Lexes a text from a place inside it on. A token has at least one character. -/
def lexFrom (state : LexState) (previous : Option Char) (input : Text) : List Token :=
  match input with
  | [] => []
  | first :: rest =>
    let (kind, length, next) := nextToken state previous (first :: rest)
    let lexeme := first :: rest.take (length - 1)
    ⟨kind, lexeme⟩ :: lexFrom next lexeme.getLast? (rest.drop (length - 1))
termination_by input.length
decreasing_by
  simp only [List.length_cons, List.length_drop]
  omega

def dumpTokens (text : Text) : List Token :=
  lexFrom .root none (prepareText text)

/-! ## Languages -/

/-- How a text is cut into tokens: as a dump, or not at all. -/
inductive Language
  | dump
  | plain
  deriving DecidableEq, Repr

namespace Language

/-- Letters between `A` and `Z` as small letters. -/
def lowerCase (text : Text) : Text :=
  text.map Char.toLower

/-- The language of a name. Only `text`, in any case, is plain; every other name
stands for dumps. -/
def ofName (name : Text) : Language :=
  if lowerCase name = "text".toList then plain else dump

/-- The name under which a language is shown. -/
def title : Language → Text
  | dump => "Rust IR".toList
  | plain => "Text only".toList

def tokens (text : Text) : Language → List Token
  | dump => dumpTokens text
  | plain => [⟨.text, prepareText text⟩]

end Language

end DumpLens
