import DumpLens.Markup.Highlight
import DumpLens.Markup.Segment

/-! Splitting of markup into lines that stand on their own. A line opens again
the elements that earlier lines left open, and closes what is open at its end. -/

namespace DumpLens.Markup

/-- A span tag that closes an element starts with `</`. -/
def isClosing (tag : Text) : Bool :=
  ['<', '/'].isPrefixOf tag

/-- The elements that are open behind a tag, innermost first, each given by the
tag that opened it. A closing tag without an open element changes nothing. -/
def afterTag (stack : List Text) (tag : Text) : List Text :=
  if isClosing tag then stack.tail else tag :: stack

/-- One line on its own, and the elements that are open behind it. -/
def splitLine (stack : List Text) (line : Text) : Text × List Text :=
  let final := (tags line).foldl afterTag stack
  (stack.reverse.flatten ++ line ++ (List.replicate final.length closeTag).flatten, final)

/-- Lines on their own, one after the other. -/
def splitLinesFrom (stack : List Text) : List Text → List Text
  | [] => []
  | line :: rest =>
    let (fragment, next) := splitLine stack line
    fragment :: splitLinesFrom next rest

/-- The lines of markup, each of them well formed on its own. -/
def splitLines (markup : Text) : List Text :=
  splitLinesFrom [] (Text.lines markup)

end DumpLens.Markup
