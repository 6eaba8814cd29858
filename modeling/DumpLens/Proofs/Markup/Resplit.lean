import DumpLens.Proofs.Markup.Styled

/-! Splitting what has been split. A fragment closes what it opens and is a single line, so
splitting the fragments again leaves them as they are. -/

namespace DumpLens.Markup

variable {markup line rest tag : Text} {stack fragments : List Text}

/-! ## Tags of a line -/

/-- Segments lose nothing of the markup. -/
theorem text_segments (composed : Composed line) :
    (segments line).flatMap Segment.text = line := by
  induction composed with
  | nil => rw [segments_nil, List.flatMap_nil]
  | tag isTag _ induction =>
      rw [segments_isTag_append isTag, List.flatMap_cons, induction]
      rfl
  | visible noStart _ induction =>
      rw [segments_cons_of_not_startsTag noStart, List.flatMap_cons, induction]
      rfl

/-- A tag has the characters of its line. -/
theorem subset_of_mem_tags (composed : Composed line) (member : tag ∈ tags line) :
    tag ⊆ line := by
  intro character inTag
  rcases List.mem_filterMap.mp member with ⟨part, inSegments, isPart⟩
  rw [← text_segments composed]
  refine List.mem_flatMap.mpr ⟨part, inSegments, ?_⟩
  cases part with
  | tag own =>
      cases isPart
      exact inTag
  | visible => cases isPart

/-- A tag that is open behind others was open before, or is one of them. -/
theorem mem_foldl_afterTag {tags : List Text} (isOpen : tag ∈ tags.foldl afterTag stack) :
    tag ∈ stack ∨ tag ∈ tags := by
  induction tags generalizing stack with
  | nil => exact .inl isOpen
  | cons first tags induction =>
      rcases induction isOpen with behindFirst | later
      · unfold afterTag at behindFirst
        split at behindFirst
        · exact .inl (List.mem_of_mem_tail behindFirst)
        · rcases List.mem_cons.mp behindFirst with rfl | before
          · exact .inr List.mem_cons_self
          · exact .inl before
      · exact .inr (List.mem_cons_of_mem first later)

/-! ## Fragments that stand alone -/

/-- Single lines that close what they open, and close nothing else. -/
structure StandsAlone (fragment : Text) : Prop where
  whole : '\n' ∉ fragment
  splits : splitLine [] fragment = (fragment, [])

/-- The tags that are open behind lines which are split one after the other. -/
def openAfter (stack : List Text) (lines : List Text) : List Text :=
  lines.foldl (fun stack line => (splitLine stack line).2) stack

theorem standsAlone_splitLine (reopenable : Reopenable stack)
    (onLines : ∀ tag ∈ stack, '\n' ∉ tag) (composed : Composed line) (whole : '\n' ∉ line) :
    StandsAlone (splitLine stack line).1 := by
  constructor
  case whole =>
    have inFront : '\n' ∉ stack.reverse.flatten := by
      intro isIn
      rcases List.mem_flatten.mp isIn with ⟨tag, member, inTag⟩
      exact onLines tag (List.mem_reverse.mp member) inTag
    have behind (count : Nat) : '\n' ∉ (List.replicate count closeTag).flatten := by
      intro isIn
      rcases List.mem_flatten.mp isIn with ⟨tag, member, inTag⟩
      rw [List.eq_of_mem_replicate member] at inTag
      exact absurd inTag (by decide)
    simp only [splitLine, List.mem_append, not_or]
    exact ⟨⟨inFront, whole⟩, behind _⟩
  case splits =>
    have closed : (tags (splitLine stack line).1).foldl afterTag [] = [] :=
      openBehind_splitLine reopenable composed
    rw [splitLine, closed]
    simp

theorem splitLinesFrom_standsAlone (reopenable : Reopenable stack)
    (onLines : ∀ tag ∈ stack, '\n' ∉ tag) {lines : List Text}
    (ends : ∀ line ∈ lines, TagsEnd line) (whole : ∀ line ∈ lines, '\n' ∉ line) :
    ∀ fragment ∈ splitLinesFrom stack lines, StandsAlone fragment := by
  -- The tags that are open come from the lines in front, so there is no newline in them.
  induction lines generalizing stack with
  | nil => exact List.forall_mem_nil _
  | cons line lines induction =>
      rcases List.forall_mem_cons.mp ends with ⟨lineEnds, othersEnd⟩
      rcases List.forall_mem_cons.mp whole with ⟨lineWhole, othersWhole⟩
      have composed := lineEnds.composed
      have onLinesNext : ∀ tag ∈ (splitLine stack line).2, '\n' ∉ tag := by
        intro tag isOpen
        rcases mem_foldl_afterTag isOpen with before | inLine
        · exact onLines tag before
        · exact fun inTag => lineWhole (subset_of_mem_tags composed inLine inTag)
      exact List.forall_mem_cons.mpr
        ⟨standsAlone_splitLine reopenable onLines composed lineWhole,
          induction (reopenable.foldl (isTag_of_mem_tags composed)) onLinesNext othersEnd
            othersWhole⟩

theorem splitLinesFrom_of_standsAlone (alone : ∀ fragment ∈ fragments, StandsAlone fragment) :
    splitLinesFrom [] fragments = fragments := by
  induction fragments with
  | nil => rfl
  | cons fragment fragments induction =>
      rcases List.forall_mem_cons.mp alone with ⟨first, others⟩
      rw [splitLinesFrom, first.splits]
      exact congrArg (fragment :: ·) (induction others)

theorem openAfter_of_standsAlone (alone : ∀ fragment ∈ fragments, StandsAlone fragment) :
    openAfter [] fragments = [] := by
  induction fragments with
  | nil => rfl
  | cons fragment fragments induction =>
      rcases List.forall_mem_cons.mp alone with ⟨first, others⟩
      rw [openAfter, List.foldl_cons, first.splits]
      exact induction others

/-- Where each span tag of markup ends on the line on which it begins, splitting the fragments
of the markup again gives the same fragments, and no tag is open behind any of them. -/
theorem splitLines_idempotent (ends : ∀ line ∈ markup.lines, TagsEnd line) :
    splitLines (Text.unlines (splitLines markup)) = splitLines markup ∧
      ∀ front, front <+: splitLines markup → openAfter [] front = [] := by
  have alone : ∀ fragment ∈ splitLines markup, StandsAlone fragment :=
    splitLinesFrom_standsAlone reopenable_nil (List.forall_mem_nil _) ends
      fun _ => Text.not_mem_of_mem_lines
  have someLine : splitLines markup ≠ [] := splitLinesFrom_ne_nil (Text.lines_ne_nil markup)
  constructor
  · have whole : ∀ fragment ∈ splitLines markup, '\n' ∉ fragment :=
      fun fragment member => (alone fragment member).whole
    rw [splitLines, Text.lines_unlines someLine whole]
    exact splitLinesFrom_of_standsAlone alone
  · intro front isFront
    exact openAfter_of_standsAlone fun fragment member => alone fragment (isFront.subset member)

/-- A closing tag without an element, elements that are never closed, and one that is closed
two lines later. -/
def unclosedTags : Text :=
  "</span>a <span x><\n<span y>b\n</span></span></span>c<span>".toList

/-- The fragments of these tags. -/
def unclosedFragments : List Text :=
  ["</span>a <span x><</span>".toList, "<span x><span y>b</span></span>".toList,
    "<span x><span y></span></span></span>c<span></span>".toList]

theorem splitLines_idempotent_unclosedTags :
    (∀ line ∈ unclosedTags.lines, TagsEnd line) ∧
      splitLines unclosedTags = unclosedFragments ∧
      splitLines (Text.unlines unclosedFragments) = unclosedFragments ∧
      ∀ front, front <+: unclosedFragments → openAfter [] front = [] := by
  have ends : ∀ line ∈ unclosedTags.lines, TagsEnd line := by decide +kernel
  have computed : splitLines unclosedTags = unclosedFragments := by decide +kernel
  have again := splitLines_idempotent ends
  rw [computed] at again
  exact ⟨ends, computed, again⟩

end DumpLens.Markup
