import DumpLens.Proofs.Block.Tracked
import DumpLens.Proofs.Span.Margins

/-! Dumps whose lines are alike: line by line they have the same annotations and the same
braces. Nothing else of a dump counts for the spans of its lines. -/

namespace DumpLens

def isBrace (character : Char) : Bool :=
  character == '{' || character == '}'

structure AlikeLines (first second : Text) : Prop where
  sameSpan : parseSpan first = parseSpan second
  sameBraces : first.filter isBrace = second.filter isBrace

theorem scanLine_filter (line : Nat) (text : Text) (stack : List OpenBlock) :
    OpenBlock.scanLine line (text.filter isBrace) stack = OpenBlock.scanLine line text stack := by
  induction text generalizing stack with
  | nil => rfl
  | cons character text induction =>
      by_cases isOpening : character = '{'
      · subst isOpening
        exact induction _
      · by_cases isClosing : character = '}'
        · subst isClosing
          cases stack with
          | nil => exact induction []
          | cons block stack =>
              rw [List.filter_cons_of_pos (by decide), OpenBlock.scanLine, OpenBlock.scanLine,
                induction]
        · rw [List.filter_cons_of_neg (by simp [isBrace, isOpening, isClosing]), induction,
            scanLine_other isOpening isClosing]

variable {first second : List Text}

theorem scanLines_filter (lines : List Text) (direct : List (Option SourceSpan)) (line : Nat)
    (stack : List OpenBlock) :
    OpenBlock.scanLines line stack ((lines.map (List.filter isBrace)).zip direct) =
      OpenBlock.scanLines line stack (lines.zip direct) := by
  induction lines generalizing direct line stack with
  | nil => rfl
  | cons text lines induction =>
      cases direct with
      | nil => rfl
      | cons span direct =>
          simp only [List.map_cons, List.zip_cons_cons, OpenBlock.scanLines, scanLine_filter,
            induction]

/-- Of the characters of a dump only the braces count for its blocks. -/
theorem trackBlocks_of_sameBraces
    (same : first.map (List.filter isBrace) = second.map (List.filter isBrace))
    (direct : List (Option SourceSpan)) : trackBlocks first direct = trackBlocks second direct := by
  have sameLength := congrArg List.length same
  rw [List.length_map, List.length_map] at sameLength
  rw [trackBlocks, trackBlocks, ← scanLines_filter first, same, scanLines_filter, sameLength]

theorem directSpans_congr (alike : List.Forall₂ AlikeLines first second) :
    directSpans first = directSpans second := by
  induction alike with
  | nil => rfl
  | cons sameLine _ induction =>
      simp only [directSpans] at induction ⊢
      rw [List.mapM_cons, List.mapM_cons, sameLine.sameSpan, induction]

theorem trackBlocks_congr (alike : List.Forall₂ AlikeLines first second)
    (direct : List (Option SourceSpan)) : trackBlocks first direct = trackBlocks second direct := by
  refine trackBlocks_of_sameBraces ?_ direct
  induction alike with
  | nil => rfl
  | cons sameLine _ induction => rw [List.map_cons, List.map_cons, sameLine.sameBraces, induction]

/-- Alike dumps have the same spans. -/
theorem computeLineSpans_congr (alike : List.Forall₂ AlikeLines first second) :
    computeLineSpans first = computeLineSpans second := by
  simp only [computeLineSpans, directSpans_congr alike, trackBlocks_congr alike, alike.length_eq]

/-! ## Shown lines -/

theorem ShownAs.alike {line shown : Text} (shownAs : ShownAs line shown) :
    AlikeLines line shown := by
  refine ⟨shownAs.parseSpan_eq, ?_⟩
  have spaces (width : Nat) : (List.replicate width ' ').filter isBrace = [] := by
    rw [List.filter_replicate_of_neg (by decide)]
  have compacted {line : Text} (whole : '\n' ∉ line) :
      line.filter isBrace = (Indent.compact line).filter isBrace := by
    rcases Indent.exists_compact whole with ⟨width, kept, rfl, compacted⟩
    rw [compacted, List.filter_append, List.filter_append, spaces, spaces]
  cases shownAs with
  | plain whole => exact compacted whole
  | returned whole =>
      rw [List.filter_append, compacted whole]
      exact List.append_nil _

/-- The lines of a text have the spans of the lines that are shown. -/
theorem computeLineSpans_displayText {text : Text} (endings : text.ReturnsAtLineEnds) :
    computeLineSpans (displayText text).lines = computeLineSpans text.lines :=
  (computeLineSpans_congr ((shownAs_lines endings).imp fun _ _ => ShownAs.alike)).symm

end DumpLens
