import DumpLens.Document.Query

/-! Calls of an editor: it opens, changes and closes documents, and asks about their
lines. A call that fails leaves all documents as they are. -/

namespace DumpLens

/-- What an editor tells or asks. -/
inductive DocumentCall
  | opened (uri text : Text)
  /-- Each of the texts is the whole text after a change. -/
  | changed (uri : Text) (texts : List Text)
  | closed (uri : Text)
  | hover (uri : Text) (line : Int)
  | definition (uri : Text) (line : Int)
  | highlights (uri : Text) (line : Int)
  deriving DecidableEq, Repr

def DocumentCall.uri : DocumentCall → Text
  | opened uri _ | changed uri _ | closed uri | hover uri _ | definition uri _ |
    highlights uri _ => uri

inductive DocumentAnswer
  | done
  | hover (shown : Option HoverText)
  | definition (place : Option Location)
  | highlights (ranges : Option (List EditorRange))
  deriving DecidableEq

/-- Why a call fails. -/
inductive CallError
  | analysis (cause : SpanError)
  | query (cause : QueryError)
  deriving DecidableEq, Repr

namespace Documents

/-- Takes the documents that come of a call, if any do. -/
def settle (documents : Documents) : Except SpanError Documents →
    Except CallError DocumentAnswer × Documents
  | .ok next => (.ok .done, next)
  | .error cause => (.error (.analysis cause), documents)

/-- Answers a call, and gives the documents that are open afterwards. -/
def call (documents : Documents) : DocumentCall → Except CallError DocumentAnswer × Documents
  | .opened uri text => documents.settle (documents.openText uri text)
  | .changed uri texts => documents.settle (documents.change uri texts)
  | .closed uri => (.ok .done, documents.close uri)
  | .hover uri line => (((documents.hover uri line).mapError .query).map .hover, documents)
  | .definition uri line =>
    (((documents.definition uri line).mapError .query).map .definition, documents)
  | .highlights uri line =>
    (((documents.highlights uri line).mapError .query).map .highlights, documents)

/-- The documents that are open after calls, the first one of which finds none open. -/
def afterCalls (calls : List DocumentCall) : Documents :=
  calls.foldl (fun documents call => (documents.call call).2) []

end Documents

end DumpLens
