import DumpLens.Document.Basic
import DumpLens.Document.Range
import DumpLens.Document.Uri

/-! Questions of an editor about a line of an open document: what it stands for,
where its source is and which other lines stand for the same source. -/

namespace DumpLens

/-- Why a question has no answer. -/
inductive QueryError
  /-- A line has a span but no text. -/
  | missingLine
  | position (cause : PositionError)
  | uri (cause : UriError)
  deriving DecidableEq, Repr

/-- What is shown about a line. -/
structure HoverText where
  text : Text
  range : EditorRange
  deriving DecidableEq

/-- A place in a file. -/
structure Location where
  uri : Text
  range : EditorRange
  deriving DecidableEq

namespace Document

def lineRange (document : Document) (line : Nat) : Except QueryError EditorRange :=
  match document.lines[line]? with
  | some text => (EditorRange.ofLine line text).mapError .position
  | none => .error .missingLine

/-! ## What a line stands for -/

/-- A span as it is shown, after the source file if there is one. -/
def describeSpan (sourceFile : Option Text) (span : SourceSpan) : Text :=
  let place := match sourceFile with
    | some file => if file.isEmpty then [] else '`' :: file ++ "` ".toList
    | none => []
  "**source span** ".toList ++ place ++
    Text.ofInt span.startLine ++ ':' :: Text.ofInt span.startCol ++
    " – ".toList ++ Text.ofInt span.endLine ++ ':' :: Text.ofInt span.endCol

/-- What is shown about a line that has a span. -/
def hover (document : Document) (line : Int) : Except QueryError (Option HoverText) :=
  match document.spanAt line with
  | none => .ok none
  | some span => do
    let range ← document.lineRange line.toNat
    pure (some ⟨describeSpan document.sourceFile span, range⟩)

/-! ## Where the source is -/

/-- The URI of the source file of a document. A relative name is taken from the
directory of the document; there is no such directory unless the document is a
file. -/
def sourceUri? (document : Document) (uri : Text) : Except UriError (Option Text) :=
  match document.sourceFile with
  | none => .ok none
  | some name => do
    let target := Path.ofText name
    if target.isAbsolute then
      some <$> Uri.ofFilePath target.text
    else
      match ← Uri.filePath? uri with
      | none => pure none
      | some place => some <$> Uri.ofFilePath ((Path.ofText place).parent.join target).text

/-- The place in the source that a line stands for. -/
def definition (document : Document) (uri : Text) (line : Int) :
    Except QueryError (Option Location) :=
  match document.spanAt line with
  | none => .ok none
  | some span => do
    match ← (document.sourceUri? uri).mapError .uri with
    | none => pure none
    | some target =>
      let range ← (EditorRange.ofSpan span).mapError .position
      pure (some ⟨target, range⟩)

/-! ## Lines that stand for the same -/

/-- The numbers of the lines with a given span, from the given line on. -/
def linesWith (span : SourceSpan) (line : Nat) : LineSpans → List Nat
  | [] => []
  | other :: rest =>
    if other = some span then line :: linesWith span (line + 1) rest
    else linesWith span (line + 1) rest

/-- The ranges of all lines that stand for the same as a line. -/
def highlights (document : Document) (line : Int) :
    Except QueryError (Option (List EditorRange)) :=
  match document.spanAt line with
  | none => .ok none
  | some span => do
    let ranges ← (linesWith span 0 document.lineSpans).mapM document.lineRange
    pure (some ranges)

end Document

namespace Documents

/-! ## Questions by URI -/

def hover (documents : Documents) (uri : Text) (line : Int) :
    Except QueryError (Option HoverText) :=
  match documents.find? uri with
  | some document => document.hover line
  | none => .ok none

def definition (documents : Documents) (uri : Text) (line : Int) :
    Except QueryError (Option Location) :=
  match documents.find? uri with
  | some document => document.definition uri line
  | none => .ok none

def highlights (documents : Documents) (uri : Text) (line : Int) :
    Except QueryError (Option (List EditorRange)) :=
  match documents.find? uri with
  | some document => document.highlights line
  | none => .ok none

end Documents

end DumpLens
