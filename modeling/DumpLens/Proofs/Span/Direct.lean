import DumpLens.Span.Note

/-! The spans that the lines of a dump have of their own, line by line. -/

namespace DumpLens

variable {lines : List Text} {direct : List (Option SourceSpan)}

theorem directSpans_cons {text : Text} {rest : List Text}
    (readable : directSpans (text :: rest) = .ok direct) :
    ∃ own spans, parseSpan text = .ok own ∧ directSpans rest = .ok spans ∧
      direct = own :: spans := by
  simp only [directSpans, List.mapM_cons, bind, Except.bind] at readable
  cases own : parseSpan text with
  | error refusal =>
      rw [own] at readable
      cases readable
  | ok span =>
      rw [own] at readable
      cases others : List.mapM parseSpan rest with
      | error refusal =>
          simp only [others] at readable
          cases readable
      | ok spans =>
          simp only [others] at readable
          exact ⟨span, spans, rfl, others, (Except.ok.inj readable).symm⟩

theorem length_directSpans (readable : directSpans lines = .ok direct) :
    direct.length = lines.length := by
  induction lines generalizing direct with
  | nil =>
      cases readable
      rfl
  | cons text rest induction =>
      rcases directSpans_cons readable with ⟨own, spans, _, others, rfl⟩
      exact congrArg Nat.succ (induction others)

theorem directSpans_getElem? {line : Nat} {text : Text}
    (readable : directSpans lines = .ok direct) (here : lines[line]? = some text) :
    ∃ own, parseSpan text = .ok own ∧ direct[line]? = some own := by
  induction lines generalizing direct line with
  | nil => cases here
  | cons first rest induction =>
      rcases directSpans_cons readable with ⟨own, spans, firstOwn, others, rfl⟩
      cases line with
      | zero =>
          cases here
          exact ⟨own, firstOwn, rfl⟩
      | succ line =>
          have later := induction others here
          exact later

/-- A span that a line has of its own is read of it. -/
theorem exists_parseSpan_of_directSpans {line : Nat} {span : SourceSpan}
    (readable : directSpans lines = .ok direct) (own : direct[line]? = some (some span)) :
    ∃ text, lines[line]? = some text ∧ parseSpan text = .ok (some span) := by
  have bound := (List.getElem?_eq_some_iff.mp own).1
  rw [length_directSpans readable] at bound
  have here := List.getElem?_eq_getElem bound
  rcases directSpans_getElem? readable here with ⟨parsed, isParsed, isOwn⟩
  rw [own] at isOwn
  cases isOwn
  exact ⟨lines[line], here, isParsed⟩

theorem directSpans_append {first second : List Text} {later : List (Option SourceSpan)}
    (readable : directSpans first = .ok direct) (laterReadable : directSpans second = .ok later) :
    directSpans (first ++ second) = .ok (direct ++ later) := by
  rw [directSpans] at readable laterReadable ⊢
  rw [List.mapM_append, readable, laterReadable]
  rfl

/-- Where all annotations can be read, so can those that are looked through for a file. -/
theorem exists_firstSpanFile (readable : directSpans lines = .ok direct) :
    ∃ file, firstSpanFile lines = .ok file := by
  induction lines generalizing direct with
  | nil => exact ⟨none, rfl⟩
  | cons text rest induction =>
      rcases directSpans_cons readable with ⟨own, spans, isOwn, others, rfl⟩
      rw [firstSpanFile, isOwn]
      cases own with
      | none => exact induction others
      | some span => exact ⟨spanFile text, rfl⟩

end DumpLens
