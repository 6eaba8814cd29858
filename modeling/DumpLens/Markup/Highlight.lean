import DumpLens.Markup.Escape
import DumpLens.Token.Lexer

/-! Highlighting: tokens written as markup with one span element for every run of
tokens of a style class on a line. No element reaches over the end of a line. -/

namespace DumpLens

namespace Markup

/-! ## Tags -/

/-- The tag that opens an element of a style class. Without a class there is no
element. -/
def openTag (styleClass : Text) : Text :=
  if styleClass.isEmpty then []
  else "<span class=\"".toList ++ styleClass ++ "\">".toList

/-- The tag that closes an element. -/
def closeTag : Text := "</span>".toList

/-- The end of the element that a tag has opened, if there is one. -/
def close (tag : Text) : Text :=
  if tag.isEmpty then [] else closeTag

/-! ## Writing tokens

While a line is written, `some tag` says that something stands on it already and
`tag` has opened the current element; `none` says that the line is empty. -/

def writeEnding (current : Option Text) (tag piece : Text) : Text :=
  match current with
  | none =>
    if piece.isEmpty then ['\n'] else tag ++ piece ++ close tag ++ ['\n']
  | some currentTag =>
    if currentTag != tag && !piece.isEmpty then
      close currentTag ++ tag ++ piece ++ close tag ++ ['\n']
    else
      piece ++ close currentTag ++ ['\n']

/-- Writes a piece behind which the line goes on. -/
def writePiece (current : Option Text) (tag piece : Text) : Text × Option Text :=
  if piece.isEmpty then ([], current)
  else
    match current with
    | none => (tag ++ piece, some tag)
    | some currentTag =>
      if currentTag != tag then (close currentTag ++ tag ++ piece, some tag)
      else (piece, some currentTag)

/-- Writes the pieces of a token, one for every line that it touches. -/
def writePieces (current : Option Text) (tag : Text) : List Text → Text × Option Text
  | [] => ([], current)
  | [last] => writePiece current tag last
  | piece :: next :: rest =>
    let (written, final) := writePieces none tag (next :: rest)
    (writeEnding current tag piece ++ written, final)

/-- Writes tokens, and ends the last line if something stands on it. -/
def writeTokens (current : Option Text) : List Token → Text
  | [] =>
    match current with
    | none => []
    | some tag => close tag ++ ['\n']
  | token :: rest =>
    let pieces := (token.text.lines).map escape
    let (written, next) := writePieces current (openTag token.kind.styleClass) pieces
    written ++ writeTokens next rest

end Markup

/-- A text with its tokens marked up. The markup ends in a newline only if the
text does. -/
def highlight (text : Text) (language : Language) : Text :=
  let markup := Markup.writeTokens none (language.tokens text)
  if text.getLast? != some '\n' && markup.getLast? == some '\n' then markup.dropLast else markup

end DumpLens
