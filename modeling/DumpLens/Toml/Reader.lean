import DumpLens.Toml.Lexeme
import DumpLens.Toml.Table

/-! Readers of keys and values. -/

namespace DumpLens.Toml

abbrev KeyPath := List Text

/-- Keeps a reading that is shorter than its input, as all readings of the grammar
are. -/
def reading? (input : Text) (value : α) (rest : Text) : Except TomlError (Reading input α) :=
  if shorter : rest.length < input.length then .ok ⟨value, rest, shorter⟩ else .error .malformed

/-! ## Keys -/

/-- The characters of keys without quotes. -/
def isBareKey (character : Char) : Bool :=
  isAsciiAlphanumeric character || character == '-' || character == '_'

def startsKey (character : Char) : Bool :=
  isBareKey character || character == '"' || character == '\''

/-- Reads one key, bare or quoted. -/
def keyPart (input : Text) : Except TomlError (Reading input Text) :=
  match input.takeWhile isBareKey with
  | first :: more => reading? input (first :: more) (input.dropWhile isBareKey)
  | [] =>
    match shortString input with
    | some (content, rest) => reading? input content rest
    | none => .error .malformed

/-- The first character behind blanks on a line. -/
def nextMark (input : Text) : Option (Reading input Char) :=
  match found : skipBlank input with
  | [] => none
  | mark :: rest => some ⟨mark, rest, by
      have bound := skipBlank_length input
      rw [found] at bound
      exact bound⟩

/-- Reads keys with dots between them, and the blanks behind them. -/
def keyPath (input : Text) : Except TomlError (Reading input KeyPath) :=
  match keyPart input with
  | .error error => .error error
  | .ok ⟨key, afterKey, shorter⟩ =>
    match nextMark afterKey with
    | some ⟨'.', rest, lesser⟩ =>
      have least : (skipBlank rest).length < input.length :=
        Nat.lt_of_le_of_lt (skipBlank_length rest) (Nat.lt_trans lesser shorter)
      match keyPath (skipBlank rest) with
      | .error error => .error error
      | .ok path => .ok ((path.map (key :: ·)).widen (Nat.le_of_lt least))
    | _ => .ok ⟨[key], skipBlank afterKey, Nat.lt_of_le_of_lt (skipBlank_length afterKey) shorter⟩
termination_by input.length
decreasing_by exact least

/-! ## Values -/

/-- A table that is written on one line, as far as it was read. Its frozen entries
take no more entries. -/
structure InlineTable where
  table : Table
  frozen : List KeyPath

/-- A path is frozen if it leads to or through a frozen entry. -/
def isFrozen (frozen : List KeyPath) (path : KeyPath) : Bool :=
  frozen.any fun entry => entry.isPrefixOf path

/-- Tables and arrays are closed once they are written. -/
def Value.isCollection : Value → Bool
  | .array _ | .table _ => true
  | _ => false

/-- Adds an entry to a table that is written on one line. -/
def InlineTable.insert (inline : InlineTable) (path : KeyPath) (value : Value) :
    Option InlineTable :=
  if isFrozen inline.frozen path then none
  else
    match path.getLast? with
    | none => none
    | some key =>
      (inline.table.modifyAt false (Table.insertNew key value) path.dropLast).map fun table =>
        ⟨table, if value.isCollection then path :: inline.frozen else inline.frozen⟩

/-- The depth that a value may take up. -/
def depthLimit : Nat := 988

def arrayDepth : Nat := 2

/-- The depth that a table on one line takes up. -/
def tableDepth : Nat := 3

mutual

/-- Reads a value. Its collections take up some of the given depth. -/
def readValue (depth : Nat) (input : Text) : Except TomlError (Reading input Value) :=
  match input with
  | '[' :: rest =>
    if depth < arrayDepth then .error .tooDeep
    else
      match readItems (depth - arrayDepth) rest with
      | .error error => .error error
      | .ok items => .ok ((items.map Value.array).widen (by simp))
  | '\x7b' :: rest =>
    have bound := skipBlank_length rest
    if depth < tableDepth then .error .tooDeep
    else
      match after : skipBlank rest with
      | '\x7d' :: following =>
        .ok ⟨.table [], following, by rw [after] at bound; simp at bound ⊢; omega⟩
      | _ =>
        match readEntries (depth - tableDepth) ⟨[], []⟩ (skipBlank rest) with
        | .error error => .error error
        | .ok entries => .ok ((entries.map Value.table).widen (by simp; omega))
  | other =>
    match simpleValue other with
    | .error error => .error error
    | .ok (value, rest) => reading? other value rest
termination_by (input.length, 0)
decreasing_by
  · simp; omega
  · simp; omega

/-- Reads the items of an array up to its end, from behind the opening bracket or a
comma on. -/
def readItems (depth : Nat) (input : Text) : Except TomlError (Reading input (List Value)) :=
  match start : skipSpace false input with
  | none => .error .malformed
  | some (']' :: rest) => .ok ⟨[], rest, by have := skipSpace_length start; simp at this; omega⟩
  | some inner =>
    have bound := skipSpace_length start
    match readValue depth inner with
    | .error error => .error error
    | .ok item =>
      have shorter := item.shorter
      match after : skipSpace false item.rest with
      | some (']' :: rest) =>
        .ok ⟨[item.value], rest, by have := skipSpace_length after; simp at this; omega⟩
      | some (',' :: rest) =>
        have following := skipSpace_length after
        match readItems depth rest with
        | .error error => .error error
        | .ok items =>
          .ok ((items.map fun values => item.value :: values).widen (by simp at following; omega))
      | _ => .error .malformed
termination_by (input.length, 1)
decreasing_by
  · have := skipSpace_length start
    rcases Nat.lt_or_eq_of_le this with less | equal
    · exact .left _ _ less
    · rw [equal]; exact .right _ (by decide)
  · apply Prod.Lex.left
    simp at following
    omega

/-- Reads the entries of a table on one line up to its end, from the first key or
from the key behind a comma on. -/
def readEntries (depth : Nat) (inline : InlineTable) (input : Text) :
    Except TomlError (Reading input Table) :=
  match keyPath input with
  | .error error => .error error
  | .ok path =>
    have pathShorter := path.shorter
    match behind : path.rest with
    | '=' :: rest =>
      have blank := skipBlank_length rest
      match readValue depth (skipBlank rest) with
      | .error error => .error error
      | .ok value =>
        have valueShorter := value.shorter
        have blank' := skipBlank_length value.rest
        match inline.insert path.value value.value with
        | none => .error .malformed
        | some inline =>
          match after : skipBlank value.rest with
          | '\x7d' :: rest' =>
            .ok ⟨inline.table, rest', by
              rw [after] at blank'; simp [behind] at blank' pathShorter; omega⟩
          | ',' :: rest' =>
            have last := skipBlank_length rest'
            match readEntries depth inline (skipBlank rest') with
            | .error error => .error error
            | .ok table => .ok (table.widen (by
                rw [after] at blank'; simp [behind] at blank' pathShorter; omega))
          | _ => .error .malformed
    | _ => .error .malformed
termination_by (input.length, 1)
decreasing_by
  · apply Prod.Lex.left
    simp [behind] at pathShorter
    omega
  · apply Prod.Lex.left
    rw [after] at blank'
    simp [behind] at blank' pathShorter
    omega

end

end DumpLens.Toml
