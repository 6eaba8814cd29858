import DumpLens.Block.LineSpans

/-! Open documents: dumps in an editor, with the spans of their lines. -/

namespace DumpLens

/-- A dump that is open in an editor. -/
structure Document where
  source : Text
  lines : List Text
  lineSpans : LineSpans
  sourceFile : Option Text
  deriving DecidableEq, Repr

namespace Document

/-- The document of a dump. Its text is taken as it is. -/
def analyze (source : Text) : Except SpanError Document := do
  let lines := Text.lines source
  let lineSpans ← computeLineSpans lines
  let sourceFile ← (firstSpanFile lines).mapError fun refusal => .overlong refusal.digits
  pure { source, lines, lineSpans, sourceFile }

/-- The span of a line. There is none outside the document. -/
def spanAt (document : Document) (line : Int) : Option SourceSpan :=
  if 0 ≤ line then (document.lineSpans[line.toNat]?).join else none

end Document

/-! ## All open documents -/

/-- The open documents by URI, each URI at most once. -/
abbrev Documents := List (Text × Document)

namespace Documents

def find? (documents : Documents) (uri : Text) : Option Document :=
  documents.lookup uri

/-- Closes the document of a URI, if it is open. -/
def close (documents : Documents) (uri : Text) : Documents :=
  documents.filter (·.1 ≠ uri)

/-- Puts a document under a URI. -/
def insert (documents : Documents) (uri : Text) (document : Document) : Documents :=
  (uri, document) :: documents.close uri

/-- Opens a document, or opens it again with another text. -/
def openText (documents : Documents) (uri text : Text) : Except SpanError Documents := do
  let document ← Document.analyze text
  pure (documents.insert uri document)

/-- Changes a document. Each change gives the whole text, and the last one counts;
without changes the text is empty. -/
def change (documents : Documents) (uri : Text) (texts : List Text) :
    Except SpanError Documents :=
  documents.openText uri (texts.getLastD [])

end Documents

end DumpLens
