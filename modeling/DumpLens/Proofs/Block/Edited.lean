import DumpLens.Proofs.Block.Alike
import DumpLens.Proofs.Block.OpenBraces
import DumpLens.Proofs.Block.Winner

/-! Edits of one line. As long as a line keeps its braces, a new annotation on it is only seen
on the line itself and in the block that is innermost behind the line. -/

namespace DumpLens

variable {lines : List Text} {direct changed : List (Option SourceSpan)} {edited : Nat}

/-- The block that is innermost behind a line is closed, and its braces are on two lines. -/
def BlockBehind (lines : List Text) (line openLine closeLine : Nat) : Prop :=
  ∃ opening closing, LastOpenAt lines.flatten opening (lineStart lines (line + 1)) ∧
    BracePair lines.flatten opening closing ∧ OnLine lines opening openLine ∧
    OnLine lines closing closeLine

/-- The spans of the lines of a dump before and after an edit of one line. -/
structure ChangedLocally (lines : List Text) (edited : Nat) (before after : LineSpans) : Prop where
  sameLength : after.length = before.length
  /-- Another line keeps its span, or it is one of the block that is innermost behind the
  edited line. -/
  outside : ∀ line, line ≠ edited →
    (∀ openLine closeLine, BlockBehind lines edited openLine closeLine →
      ¬ (openLine ≤ line ∧ line ≤ closeLine)) →
    after[line]? = before[line]?
  /-- All other lines keep their spans where no block is open behind the edited line, or that
  block is never closed. -/
  unclosed : (∀ opening closing, LastOpenAt lines.flatten opening (lineStart lines (edited + 1)) →
      ¬ BracePair lines.flatten opening closing) →
    ∀ line, line ≠ edited → after[line]? = before[line]?

/-! ## Spans of the lines of their own -/

theorem directSpans_set_ne {text : Text} {line : Nat} (readable : directSpans lines = .ok direct)
    (changedReadable : directSpans (lines.set edited text) = .ok changed)
    (different : line ≠ edited) : changed[line]? = direct[line]? := by
  have sameLine : (lines.set edited text)[line]? = lines[line]? :=
    List.getElem?_set_ne different.symm
  cases here : lines[line]? with
  | none =>
      have behind := List.getElem?_eq_none_iff.mp here
      rw [List.getElem?_eq_none, List.getElem?_eq_none]
      · rwa [length_directSpans readable]
      · rwa [length_directSpans changedReadable, List.length_set]
  | some unchanged =>
      rcases directSpans_getElem? readable here with ⟨own, parsed, isOwn⟩
      rcases directSpans_getElem? changedReadable (sameLine.trans here) with
        ⟨changedOwn, changedParsed, isChangedOwn⟩
      rw [isOwn, isChangedOwn, Except.ok.inj (parsed.symm.trans changedParsed)]

/-! ## Blocks -/

section Blocks

variable (same : ∀ line, line ≠ edited → changed[line]? = direct[line]?)
include same

/-- The annotation of a line only counts for the block that is innermost behind it. -/
theorem annotates_congr {opening line : Nat} {span : SourceSpan}
    (notInnermost : ¬ InnermostAt lines.flatten opening (lineStart lines (edited + 1))) :
    Annotates lines changed opening line span ↔ Annotates lines direct opening line span := by
  by_cases atEdit : line = edited
  · subst atEdit
    constructor
    · intro annotates
      exact absurd annotates.innermost notInnermost
    · intro annotates
      exact absurd annotates.innermost notInnermost
  · constructor
    · intro annotates
      exact ⟨(same line atEdit).symm.trans annotates.own, annotates.innermost⟩
    · intro annotates
      exact ⟨(same line atEdit).trans annotates.own, annotates.innermost⟩

/-- The other blocks stay as they are. -/
theorem SpannedBlock.isIn_congr {block : SpannedBlock}
    (notInnermost : ¬ InnermostAt lines.flatten block.opening (lineStart lines (edited + 1))) :
    block.IsIn lines changed ↔ block.IsIn lines direct := by
  have annotations : LastAnnotation lines changed block.opening block.closeLine block.span ↔
      LastAnnotation lines direct block.opening block.closeLine block.span := by
    simp only [ LastAnnotation, annotates_congr same notInnermost]
  constructor
  · intro isIn
    exact ⟨isIn.pair, isIn.opensOn, isIn.closesOn, annotations.mp isIn.annotated⟩
  · intro isIn
    exact ⟨isIn.pair, isIn.opensOn, isIn.closesOn, annotations.mpr isIn.annotated⟩

/-- Around a line outside of the block behind the edited line are the same blocks. -/
theorem SpannedBlock.around_congr {block : SpannedBlock} {line : Nat}
    (outside : ∀ openLine closeLine, BlockBehind lines edited openLine closeLine →
      ¬ (openLine ≤ line ∧ line ≤ closeLine)) :
    block.Around lines changed line ↔ block.Around lines direct line := by
  by_cases innermost : InnermostAt lines.flatten block.opening (lineStart lines (edited + 1))
  · have notAround (direct : List (Option SourceSpan)) : ¬ block.Around lines direct line := by
      intro around
      refine outside block.openLine block.closeLine ?_ around.covers
      exact ⟨block.opening, block.closing, innermostAt_iff_lastOpenAt.mp innermost,
        around.isIn.pair, around.isIn.opensOn, around.isIn.closesOn⟩
    exact iff_of_false (notAround changed) (notAround direct)
  · constructor
    · intro around
      exact ⟨(isIn_congr same innermost).mp around.isIn, around.covers⟩
    · intro around
      exact ⟨(isIn_congr same innermost).mpr around.isIn, around.covers⟩

end Blocks

/-! ## Spans of lines -/

/-- Where a line keeps its braces and all annotations can be read, new text on the line
changes the spans of the dump locally. -/
theorem computeLineSpans_set_changedLocally {old new : Text} (here : lines[edited]? = some old)
    (sameBraces : new.filter isBrace = old.filter isBrace)
    (readable : directSpans lines = .ok direct)
    (newReadable : directSpans (lines.set edited new) = .ok changed) :
    ∃ before after, computeLineSpans lines = .ok before ∧
      computeLineSpans (lines.set edited new) = .ok after ∧
        ChangedLocally lines edited before after := by
  have same (line : Nat) (different : line ≠ edited) : changed[line]? = direct[line]? :=
    directSpans_set_ne readable newReadable different
  have sameLength : (lines.set edited new).length = lines.length := List.length_set
  have bound : lines.length ≤ changed.length := by
    rw [length_directSpans newReadable, sameLength]
  rcases computeLineSpans_eq readable with ⟨blocks, closed, computed⟩
  rcases trackBlocks_closed bound with ⟨newBlocks, tracked, newClosed⟩
  -- The blocks of the edited dump are read off the lines before the edit.
  have keepsBraces : (lines.set edited new).map (List.filter isBrace) =
      lines.map (List.filter isBrace) := by
    rcases List.getElem?_eq_some_iff.mp here with ⟨inside, rfl⟩
    rw [List.map_set, sameBraces, ← List.map_set, List.set_getElem_self]
  have newTracked := (trackBlocks_of_sameBraces keepsBraces changed).trans tracked
  have newComputed := computeLineSpans_of_tracked newReadable newTracked
    (sameLength.symm ▸ newClosed.fits)
  rw [sameLength] at newComputed
  have outside (line : Nat) (different : line ≠ edited)
      (apart : ∀ openLine closeLine, BlockBehind lines edited openLine closeLine →
        ¬ (openLine ≤ line ∧ line ≤ closeLine)) :
      ((List.range lines.length).map (spanAt newBlocks changed))[line]? =
        ((List.range lines.length).map (spanAt blocks direct))[line]? := by
    have sameSpan : spanAt newBlocks changed line = spanAt blocks direct line :=
      spanAt_congr closed newClosed (same line different)
        fun _ => SpannedBlock.around_congr same apart
    by_cases inside : line < lines.length
    · simp [inside, sameSpan]
    · simp [inside]
  refine ⟨_, _, computed, newComputed, by simp, outside, ?_⟩
  intro unclosed line different
  refine outside line different ?_
  rintro openLine closeLine ⟨opening, closing, lastOpen, pair, _, _⟩
  exact absurd pair (unclosed opening closing lastOpen)

/-- A block without a span and one with a span that meet on a line, inside of a block with a
span. -/
def annotatedElse : List Text :=
  ["fn f() \x7b", "a.rs:1:2", "\x7b", "\x7d b.rs:3:4 \x7b", "c", "\x7d", "\x7d"].map String.toList

/-- Without its annotation the line on which they meet leaves both blocks without a span. -/
theorem computeLineSpans_set_changedLocally_annotatedElse :
    annotatedElse[3]? = some "\x7d b.rs:3:4 \x7b".toList ∧
      "\x7d else \x7b".toList.filter isBrace = "\x7d b.rs:3:4 \x7b".toList.filter isBrace ∧
      ∃ direct changed, directSpans annotatedElse = .ok direct ∧
        directSpans (annotatedElse.set 3 "\x7d else \x7b".toList) = .ok changed ∧
        ∃ before after, computeLineSpans annotatedElse = .ok before ∧
          computeLineSpans (annotatedElse.set 3 "\x7d else \x7b".toList) = .ok after ∧
            ChangedLocally annotatedElse 3 before after := by
  have here : annotatedElse[3]? = some "\x7d b.rs:3:4 \x7b".toList := rfl
  have sameBraces : "\x7d else \x7b".toList.filter isBrace =
      "\x7d b.rs:3:4 \x7b".toList.filter isBrace := by decide
  have readable : directSpans annotatedElse = .ok
      [none, some ⟨1, 2, 1, 2⟩, none, some ⟨3, 4, 3, 4⟩, none, none, none] := by decide +kernel
  have newReadable : directSpans (annotatedElse.set 3 "\x7d else \x7b".toList) = .ok
      [none, some ⟨1, 2, 1, 2⟩, none, none, none, none, none] := by decide +kernel
  exact ⟨here, sameBraces, _, _, readable, newReadable,
    computeLineSpans_set_changedLocally here sameBraces readable newReadable⟩

end DumpLens
