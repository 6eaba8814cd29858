import DumpLens.Text.Basic

/-! Escapes for texts inside markup. -/

namespace DumpLens.Markup

/-- A character as markup writes it between tags. -/
def escapeChar (character : Char) : Text :=
  if character == '&' then "&amp;".toList
  else if character == '<' then "&lt;".toList
  else if character == '>' then "&gt;".toList
  else [character]

/-- A text as markup writes it between tags. Quotes stay as they are. -/
def escape (text : Text) : Text :=
  text.flatMap escapeChar

/-- A character as markup writes it inside an attribute. -/
def quoteChar (character : Char) : Text :=
  if character == '"' then "&quot;".toList
  else if character == '\'' then "&#x27;".toList
  else escapeChar character

/-- A text that can stand between tags and inside attributes. -/
def quote (text : Text) : Text :=
  text.flatMap quoteChar

example : quote "a<'b' & \"c\">".toList = "a&lt;&#x27;b&#x27; &amp; &quot;c&quot;&gt;".toList := by
  decide +kernel

end DumpLens.Markup
