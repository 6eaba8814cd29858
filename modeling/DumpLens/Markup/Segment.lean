import DumpLens.Text.Basic

/-! Markup cut into span tags and visible characters. -/

namespace DumpLens.Markup

/-- A piece of markup: a span tag as written, or a character that is shown. -/
inductive Segment
  | tag (text : Text)
  | visible (character : Char)
  deriving DecidableEq, Repr

/-- Reads a span tag at the front of a text: `<span` or `</span`, and all up to
the next `>`. The result is the tag and what follows it. -/
def tagAt? (input : Text) : Option (Text × Text) :=
  if "<span".toList.isPrefixOf input || "</span".toList.isPrefixOf input then
    match input.dropWhile (· != '>') with
    | mark :: rest => some (input.takeWhile (· != '>') ++ [mark], rest)
    | [] => none
  else none

theorem tagAt?_length {input tag rest : Text} (found : tagAt? input = some (tag, rest)) :
    rest.length < input.length := by
  unfold tagAt? at found
  split at found
  · split at found
    · rename_i mark following equal
      have shorter := (List.dropWhile_suffix (l := input) (· != '>')).length_le
      simp only [Option.some.injEq, Prod.mk.injEq] at found
      obtain ⟨_, rfl⟩ := found
      rw [equal, List.length_cons] at shorter
      exact shorter
    · cases found
  · cases found

/-- The segments of markup. A `<` that does not start a span tag is shown. -/
def segments (markup : Text) : List Segment :=
  match markup with
  | [] => []
  | character :: rest =>
    match _found : tagAt? (character :: rest) with
    | some (tag, following) => .tag tag :: segments following
    | none => .visible character :: segments rest
termination_by markup.length
decreasing_by
  · exact tagAt?_length _found
  · simp

/-- What is shown of markup when its span tags are dropped. -/
def stripTags (markup : Text) : Text :=
  (segments markup).filterMap fun
    | .visible character => some character
    | .tag _ => none

def tags (markup : Text) : List Text :=
  (segments markup).filterMap fun
    | .tag tag => some tag
    | .visible _ => none

end DumpLens.Markup
