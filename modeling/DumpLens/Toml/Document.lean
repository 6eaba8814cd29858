import DumpLens.Text.Utf8
import DumpLens.Toml.Reader

/-! Configuration documents: lines of table headers and entries, read into one table. -/

namespace DumpLens.Toml

/-! ## What has been read -/

/-- A document as far as it was read. -/
structure DocumentState where
  table : Table
  /-- The table that entries are added to. -/
  header : KeyPath
  /-- Values that were written in one piece and take no more entries. -/
  frozen : List KeyPath
  /-- Tables that no header may open again. -/
  closed : List KeyPath
  /-- Tables that are closed at the next header. -/
  closing : List KeyPath

namespace DocumentState

/-- Nothing has been read. -/
def empty : DocumentState := ⟨[], [], [], [], []⟩

/-- Closes what is to be closed at a header. -/
def settle (state : DocumentState) : DocumentState :=
  { state with closed := state.closing ++ state.closed, closing := [] }

/-- Opens the table of a header. Its path leads to the last table of an array. -/
def openTable (state : DocumentState) (path : KeyPath) : Option DocumentState :=
  if path ∈ state.closed ∨ isFrozen state.frozen path then none
  else
    (state.table.modifyAt true some path).map fun table =>
      { state with table, header := path, closed := path :: state.closed }

/-- Opens a new table at the end of the array of a header. What was said about the
tables in the array before does not hold in the new one. -/
def openArrayTable (state : DocumentState) (path : KeyPath) : Option DocumentState :=
  if isFrozen state.frozen path then none
  else
    match path.getLast? with
    | none => none
    | some key =>
      let kept := fun (paths : List KeyPath) => paths.filter fun entry => !path.isPrefixOf entry
      (state.table.modifyAt true (Table.appendTable key) path.dropLast).map fun table =>
        { state with
          table
          header := path
          frozen := kept state.frozen
          closed := path :: kept state.closed }

/-- The tables that a path leads through, without its start and its end. -/
def between (header path : KeyPath) : List KeyPath :=
  (List.range (path.length - 1)).map fun count => header ++ path.take (count + 1)

/-- Adds an entry to the table of the last header. Keys with dots lead through tables
that no header has opened. -/
def insert (state : DocumentState) (path : KeyPath) (value : Value) : Option DocumentState :=
  let through := between state.header path
  if through.any (· ∈ state.closed) then none
  else if isFrozen state.frozen (state.header ++ path.dropLast) then none
  else
    match path.getLast? with
    | none => none
    | some key =>
      let parent := state.header ++ path.dropLast
      (state.table.modifyAt true (Table.insertNew key value) parent).map fun table =>
        { state with
          table
          frozen := if value.isCollection then (state.header ++ path) :: state.frozen
            else state.frozen
          closing := through ++ state.closing }

end DocumentState

/-! ## Statements -/

/-- The state after a statement, and the rest of its line. -/
abbrev StatementResult (input : Text) :=
  Except TomlError (Reading input DocumentState)

/-- A change that may be refused. -/
def orMalformed (input rest : Text) (state : Option DocumentState) : StatementResult input :=
  match state with
  | some state => reading? input state rest
  | none => .error .malformed

def readEntry (state : DocumentState) (input : Text) : StatementResult input :=
  match keyPath input with
  | .error error => .error error
  | .ok path =>
    match path.rest with
    | '=' :: rest =>
      match readValue depthLimit (skipBlank rest) with
      | .error error => .error error
      | .ok value => orMalformed input value.rest (state.insert path.value value.value)
    | _ => .error .malformed

def readHeader (state : DocumentState) (input : Text) : StatementResult input :=
  let state := state.settle
  match input with
  | '[' :: '[' :: rest =>
    match keyPath (skipBlank rest) with
    | .error error => .error error
    | .ok path =>
      match path.rest with
      | ']' :: ']' :: rest => orMalformed _ rest (state.openArrayTable path.value)
      | _ => .error .malformed
  | '[' :: rest =>
    match keyPath (skipBlank rest) with
    | .error error => .error error
    | .ok path =>
      match path.rest with
      | ']' :: rest => orMalformed _ rest (state.openTable path.value)
      | _ => .error .malformed
  | _ => .error .malformed

/-- Reads what a line says, if it says something. -/
def readStatement (state : DocumentState) (input : Text) :
    Except TomlError (DocumentState × { rest : Text // rest.length ≤ input.length }) :=
  match input with
  | [] => .ok (state, ⟨[], by simp⟩)
  | first :: more =>
    if first = '\n' ∨ first = '#' then .ok (state, ⟨first :: more, by simp⟩)
    else
      let read :=
        if startsKey first then readEntry state (first :: more)
        else if first = '[' then readHeader state (first :: more)
        else .error .malformed
      match read with
      | .error error => .error error
      | .ok reading => .ok (reading.value, ⟨reading.rest, Nat.le_of_lt reading.shorter⟩)

def readLines (state : DocumentState) (input : Text) : Except TomlError Table :=
  match readStatement state (skipBlank input) with
  | .error error => .error error
  | .ok (state, rest) =>
    match _comment : skipComment (skipBlank rest.val) with
    | none => .error .malformed
    | some [] => .ok state.table
    | some ('\n' :: following) => readLines state following
    | some _ => .error .malformed
termination_by input.length
decreasing_by
  have comments : following.length + 1 ≤ _ := skipComment_length _comment
  have blanks := skipBlank_length rest.val
  have := rest.property
  have first := skipBlank_length input
  omega

/-- A line end of two characters counts as one newline. Other carriage returns stay. -/
def joinLineEnds : Text → Text
  | '\r' :: '\n' :: rest => '\n' :: joinLineEnds rest
  | character :: rest => character :: joinLineEnds rest
  | [] => []

/-- The table of a document. -/
def parse (text : Text) : Except TomlError Table :=
  readLines .empty (joinLineEnds text)

end DumpLens.Toml
