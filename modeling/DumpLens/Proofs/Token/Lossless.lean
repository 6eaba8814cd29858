import DumpLens.Token.Lexer
import DumpLens.Proofs.Text.Lines

/-! Lexing loses nothing: the tokens of a text, put together again, are the text that was
prepared. -/

namespace DumpLens

/-- A text without the byte order mark that may stand at its start. -/
def dropMark : Text → Text
  | '\ufeff' :: rest => rest
  | text => text

theorem dropMark_sublist (text : Text) : (dropMark text).Sublist text := by
  unfold dropMark
  split
  · exact List.sublist_cons_self ..
  · exact List.Sublist.refl _

/-- The mark is no line ending. -/
theorem getLast?_dropMark_eq_newline_iff (text : Text) :
    (dropMark text).getLast? = some '\n' ↔ text.getLast? = some '\n' := by
  unfold dropMark
  split
  · rename_i rest
    cases rest <;> simp
  · rfl

theorem length_lines_dropMark (text : Text) :
    (dropMark text).lines.length = text.lines.length := by
  unfold dropMark
  split
  · simp [Text.lines, List.splitOn_cons_eq_if_modifyHead]
  · rfl

theorem prepareText_eq (text : Text) : prepareText text = (dropMark text).normalizeEndings := by
  cases text with
  | nil => rfl
  | cons first rest =>
      by_cases mark : first = '\ufeff'
      · subst mark
        rfl
      · simp [prepareText, dropMark, mark]

/-- Texts without carriage returns only lose the mark. -/
theorem prepareText_of_not_mem {text : Text} (plain : '\r' ∉ text) :
    prepareText text = dropMark text := by
  rw [prepareText_eq]
  apply Text.normalizeEndings_of_not_mem
  intro member
  exact plain ((dropMark_sublist text).subset member)

/-- Every token is cut off the front of what is left. -/
theorem text_lexFrom (state : LexState) (previous : Option Char) (input : Text) :
    (lexFrom state previous input).flatMap Token.text = input := by
  fun_induction lexFrom state previous input with
  | case1 => rfl
  | case2 state previous first rest kind length next found lexeme induction =>
      rw [List.flatMap_cons, induction]
      simp [lexeme]

/-- The tokens of a text make up the prepared text, in every language. -/
theorem text_tokens (language : Language) (text : Text) :
    (language.tokens text).flatMap Token.text = prepareText text := by
  cases language with
  | dump => exact text_lexFrom ..
  | plain => simp [Language.tokens]

end DumpLens
