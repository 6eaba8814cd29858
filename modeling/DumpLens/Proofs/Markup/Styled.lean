import DumpLens.Proofs.Markup.Composed
import DumpLens.Proofs.Text.Lines

/-! Splitting keeps the style of every character. The tags that are open at a character of
the markup are open at it in the fragment of its line too, and each fragment closes all that
it opens. -/

namespace DumpLens.Markup

variable {markup line rest tag : Text} {stack : List Text}

/-! ## Styled characters -/

/-- The characters that segments show, each with the tags that are open at it, innermost
first. -/
def styledFrom (stack : List Text) : List Segment → List (Char × List Text)
  | [] => []
  | .visible character :: parts => (character, stack) :: styledFrom stack parts
  | .tag tag :: parts => styledFrom (afterTag stack tag) parts

/-- The tags that are open behind segments. -/
def openBehind (stack : List Text) (parts : List Segment) : List Text :=
  (tagsOf parts).foldl afterTag stack

/-- No tag closes an element where none is open. -/
def ClosesOpen (stack : List Text) : List Text → Prop
  | [] => True
  | tag :: tags => (isClosing tag = true → stack ≠ []) ∧ ClosesOpen (afterTag stack tag) tags

/-- The characters that markup shows, each with the tags that are open at it. -/
def styled (markup : Text) : List (Char × List Text) :=
  styledFrom [] (segments markup)

theorem styledFrom_append (stack : List Text) (first second : List Segment) :
    styledFrom stack (first ++ second) =
      styledFrom stack first ++ styledFrom (openBehind stack first) second := by
  induction first generalizing stack with
  | nil => rfl
  | cons part first induction =>
      cases part with
      | visible character => exact congrArg ((character, stack) :: ·) (induction stack)
      | tag tag => exact induction (afterTag stack tag)

theorem openBehind_append (stack : List Text) (first second : List Segment) :
    openBehind stack (first ++ second) = openBehind (openBehind stack first) second := by
  rw [openBehind, tagsOf_append, List.foldl_append]
  rfl

theorem closesOpen_append (stack : List Text) (first second : List Text) :
    ClosesOpen stack (first ++ second) ↔
      ClosesOpen stack first ∧ ClosesOpen (first.foldl afterTag stack) second := by
  induction first generalizing stack with
  | nil => simp [ClosesOpen]
  | cons tag first induction =>
      rw [List.cons_append, ClosesOpen, ClosesOpen, induction, and_assoc]
      rfl

/-- Only visible characters are styled. -/
theorem map_styledFrom (stack : List Text) (parts : List Segment) :
    (styledFrom stack parts).map Prod.fst = shownOf parts := by
  induction parts generalizing stack with
  | nil => rfl
  | cons part parts induction =>
      cases part with
      | visible character => exact congrArg (character :: ·) (induction stack)
      | tag tag => exact induction (afterTag stack tag)

/-! ## Tags alone -/

@[simp] theorem tagsOf_tags (tags : List Text) : tagsOf (tags.map .tag) = tags := by
  rw [tagsOf, List.filterMap_map]
  exact List.filterMap_some

@[simp] theorem shownOf_tags (tags : List Text) : shownOf (tags.map .tag) = [] := by
  rw [shownOf, List.filterMap_map]
  exact List.filterMap_eq_nil_iff.mpr fun _ _ => rfl

@[simp] theorem styledFrom_tags (stack tags : List Text) :
    styledFrom stack (tags.map .tag) = [] := by
  apply List.map_eq_nil_iff.mp
  rw [map_styledFrom, shownOf_tags]

/-! ## Open tags -/

/-- Tags that can be opened again: span tags that do not close an element. -/
def Reopenable (stack : List Text) : Prop :=
  ∀ tag ∈ stack, IsTag tag ∧ isClosing tag = false

theorem reopenable_nil : Reopenable [] :=
  fun _ impossible => absurd impossible List.not_mem_nil

theorem Reopenable.afterTag (reopenable : Reopenable stack) (isTag : IsTag tag) :
    Reopenable (afterTag stack tag) := by
  unfold Markup.afterTag
  by_cases closes : isClosing tag = true
  · rw [if_pos closes]
    exact fun other member => reopenable other (List.mem_of_mem_tail member)
  · rw [if_neg closes]
    intro other member
    rcases List.mem_cons.mp member with rfl | member
    · exact ⟨isTag, Bool.not_eq_true _ ▸ closes⟩
    · exact reopenable other member

theorem Reopenable.foldl {tags : List Text} (reopenable : Reopenable stack)
    (areTags : ∀ tag ∈ tags, IsTag tag) : Reopenable (tags.foldl Markup.afterTag stack) := by
  induction tags generalizing stack with
  | nil => exact reopenable
  | cons tag tags induction =>
      exact induction (reopenable.afterTag (areTags tag List.mem_cons_self))
        fun other member => areTags other (List.mem_cons_of_mem tag member)

theorem isTag_of_mem_tags (composed : Composed line) : ∀ tag ∈ tags line, IsTag tag := by
  intro tag member
  rcases List.mem_filterMap.mp member with ⟨part, inSegments, isPart⟩
  rcases mem_of_mem_segments composed part inSegments with ⟨other, rfl, isTag⟩ | ⟨_, _, rfl⟩
  · cases isPart
    exact isTag
  · cases isPart

/-- Opening again what was open, outermost first, brings it back. -/
theorem foldl_reopened (reopenable : Reopenable stack) :
    stack.reverse.foldl afterTag [] = stack := by
  induction stack with
  | nil => rfl
  | cons tag stack induction =>
      rw [List.reverse_cons, List.foldl_append,
        induction fun other member => reopenable other (List.mem_cons_of_mem tag member)]
      simp [afterTag, (reopenable tag List.mem_cons_self).2]

theorem openBehind_reopened (reopenable : Reopenable stack) :
    openBehind [] (stack.reverse.map .tag) = stack := by
  rw [openBehind, tagsOf_tags, foldl_reopened reopenable]

theorem closesOpen_reopened (reopenable : Reopenable stack) :
    ClosesOpen [] stack.reverse := by
  induction stack with
  | nil => trivial
  | cons tag stack induction =>
      rw [List.reverse_cons, closesOpen_append]
      refine ⟨induction fun other member => reopenable other (List.mem_cons_of_mem tag member), ?_⟩
      simp [ClosesOpen, (reopenable tag List.mem_cons_self).2]

/-- One closing tag for each open tag closes all of them. -/
theorem foldl_closed (stack : List Text) :
    (List.replicate stack.length closeTag).foldl afterTag stack = [] := by
  induction stack with
  | nil => rfl
  | cons tag stack induction => exact induction

theorem closesOpen_closed (stack : List Text) :
    ClosesOpen stack (List.replicate stack.length closeTag) := by
  induction stack with
  | nil => trivial
  | cons tag stack induction => exact ⟨fun _ => List.cons_ne_nil tag stack, induction⟩

/-! ## Fragments -/

/-- The segments of a line on its own: what was open is opened again, and what is left open
is closed. -/
def fragmentParts (stack : List Text) (line : Text) : List Segment :=
  stack.reverse.map .tag ++ segments line ++
    (List.replicate (openBehind stack (segments line)).length closeTag).map .tag

/-- A fragment is read back as it was made, whatever joins it. -/
theorem segments_fragment (reopenable : Reopenable stack) (composed : Composed line)
    (joins : Joins rest) :
    segments ((splitLine stack line).1 ++ rest) = fragmentParts stack line ++ segments rest := by
  have areOpening : ∀ tag ∈ stack.reverse, IsTag tag :=
    fun tag member => (reopenable tag (List.mem_reverse.mp member)).1
  have areClosing : ∀ tag ∈ List.replicate (openBehind stack (segments line)).length closeTag,
      IsTag tag := by
    intro tag member
    rw [List.eq_of_mem_replicate member]
    exact ⟨"</span".toList, .inr List.prefix_rfl, by decide, rfl⟩
  -- A closing tag begins with `<`, so it never completes what the line leaves unfinished.
  have closingJoins : Joins
      ((List.replicate (openBehind stack (segments line)).length closeTag).flatten ++ rest) := by
    cases openBehind stack (segments line) with
    | nil => exact joins
    | cons tag final =>
        intro character equal
        cases equal
        decide
  rw [splitLine, List.append_assoc, List.append_assoc, segments_flatten areOpening]
  show _ ++ segments (line ++
    ((List.replicate (openBehind stack (segments line)).length closeTag).flatten ++ rest)) = _
  rw [segments_append composed closingJoins, segments_flatten areClosing]
  simp only [fragmentParts, List.append_assoc]

section Alone

variable (reopenable : Reopenable stack) (composed : Composed line)
include reopenable composed

theorem segments_splitLine : segments (splitLine stack line).1 = fragmentParts stack line := by
  have alone := segments_fragment reopenable composed joins_nil
  rwa [List.append_nil, segments_nil, List.append_nil] at alone

theorem openBehind_splitLine : openBehind [] (segments (splitLine stack line).1) = [] := by
  rw [segments_splitLine reopenable composed, fragmentParts, openBehind_append,
    openBehind_append, openBehind_reopened reopenable, openBehind, tagsOf_tags, foldl_closed]

/-- A fragment shows the characters of its line with the style that they have there. -/
theorem styled_splitLine :
    styled (splitLine stack line).1 = styledFrom stack (segments line) := by
  rw [styled, segments_splitLine reopenable composed, fragmentParts, styledFrom_append,
    styledFrom_append, styledFrom_tags, styledFrom_tags, openBehind_reopened reopenable,
    List.nil_append, List.append_nil]

theorem closesOpen_splitLine (closes : ClosesOpen stack (tags line)) :
    ClosesOpen [] (tags (splitLine stack line).1) := by
  show ClosesOpen [] (tagsOf (segments _))
  rw [segments_splitLine reopenable composed, fragmentParts, tagsOf_append, tagsOf_append,
    tagsOf_tags, tagsOf_tags, closesOpen_append, closesOpen_append, List.foldl_append,
    foldl_reopened reopenable]
  exact ⟨⟨closesOpen_reopened reopenable, closes⟩, closesOpen_closed _⟩

end Alone

theorem shownOf_fragmentParts (stack : List Text) (line : Text) :
    shownOf (fragmentParts stack line) = stripTags line := by
  rw [fragmentParts, shownOf_append, shownOf_append, shownOf_tags, shownOf_tags, List.nil_append,
    List.append_nil]
  rfl

/-! ## Whole texts -/

/-- Fragments of markup for its lines, where some tags are open at its start: the characters
of each line have the style that they have in the markup, and each fragment stands on its
own. -/
structure KeepsStyle (stack : List Text) (markup : Text) (fragments : List Text) : Prop where
  perLine : fragments.length = markup.lines.length
  /-- Between two newlines the markup shows what the fragment shows. -/
  styled : fragments.map styled =
    (styledFrom stack (segments markup)).splitOnP fun shown => shown.1 == '\n'
  closed : ∀ fragment ∈ fragments, openBehind [] (segments fragment) = []
  closesOpen : ClosesOpen stack (tags markup) →
    ∀ fragment ∈ fragments, ClosesOpen [] (tags fragment)
  shown : stripTags (Text.unlines fragments) = stripTags markup

/-- A line shows none but its own characters. -/
theorem ne_newline_of_mem_styledFrom (composed : Composed line) (whole : '\n' ∉ line) :
    ∀ shown ∈ styledFrom stack (segments line), (shown.1 == '\n') = false := by
  intro shown member
  have inShown := List.mem_map_of_mem (f := Prod.fst) member
  rw [map_styledFrom] at inShown
  rcases List.mem_filterMap.mp inShown with ⟨part, inSegments, isPart⟩
  rcases mem_of_mem_segments composed part inSegments with
    ⟨tag, rfl, _⟩ | ⟨character, inLine, rfl⟩
  · cases isPart
  · cases isPart
    rw [beq_eq_false_iff_ne]
    intro newline
    exact whole (newline ▸ inLine)

theorem KeepsStyle.last (reopenable : Reopenable stack) (composed : Composed line)
    (whole : '\n' ∉ line) : KeepsStyle stack line [(splitLine stack line).1] := by
  constructor
  case perLine =>
    rw [Text.lines_of_not_mem whole]
    rfl
  case styled =>
    rw [List.splitOnP_eq_singleton (ne_newline_of_mem_styledFrom composed whole),
      List.map_singleton, styled_splitLine reopenable composed]
  case closed =>
    intro fragment member
    cases List.mem_singleton.mp member
    exact openBehind_splitLine reopenable composed
  case closesOpen =>
    intro closes fragment member
    cases List.mem_singleton.mp member
    exact closesOpen_splitLine reopenable composed closes
  case shown =>
    rw [Text.unlines, List.intercalate_singleton]
    show shownOf (segments _) = _
    rw [segments_splitLine reopenable composed, shownOf_fragmentParts]

theorem KeepsStyle.cons {fragments : List Text} (reopenable : Reopenable stack)
    (composed : Composed line) (whole : '\n' ∉ line) (someFragment : fragments ≠ [])
    (keeps : KeepsStyle (splitLine stack line).2 rest fragments) :
    KeepsStyle stack (line ++ '\n' :: rest) ((splitLine stack line).1 :: fragments) := by
  constructor
  case perLine =>
    rw [Text.lines_append_newline whole, List.length_cons, List.length_cons, keeps.perLine]
  case styled =>
    rw [segments_line composed, styledFrom_append]
    show _ = (_ ++ ('\n', _) :: styledFrom _ _).splitOnP _
    rw [List.splitOnP_append_cons_of_forall_mem (ne_newline_of_mem_styledFrom composed whole) _ rfl,
      List.map_cons, styled_splitLine reopenable composed, keeps.styled]
    rfl
  case closed =>
    exact List.forall_mem_cons.mpr ⟨openBehind_splitLine reopenable composed, keeps.closed⟩
  case closesOpen =>
    intro closes
    have bothClose : ClosesOpen stack (tagsOf (segments (line ++ '\n' :: rest))) := closes
    rw [segments_line composed, tagsOf_append, closesOpen_append] at bothClose
    exact List.forall_mem_cons.mpr
      ⟨closesOpen_splitLine reopenable composed bothClose.1, keeps.closesOpen bothClose.2⟩
  case shown =>
    have laterShown : shownOf (segments (Text.unlines fragments)) = shownOf (segments rest) :=
      keeps.shown
    rw [Text.unlines_cons _ someFragment]
    show shownOf (segments _) = shownOf (segments _)
    rw [segments_fragment reopenable composed (joins_newline _), segments_line composed,
      segments_cons (by decide), shownOf_append, shownOf_append, shownOf_fragmentParts]
    exact congrArg (stripTags line ++ '\n' :: ·) laterShown

theorem splitLinesFrom_ne_nil {lines : List Text} (some : lines ≠ []) :
    splitLinesFrom stack lines ≠ [] := by
  cases lines with
  | nil => exact absurd rfl some
  | cons line lines => exact List.cons_ne_nil _ _

theorem splitLinesFrom_keepsStyle (reopenable : Reopenable stack)
    (ends : ∀ line ∈ markup.lines, TagsEnd line) :
    KeepsStyle stack markup (splitLinesFrom stack markup.lines) := by
  -- By induction on the lines. All that is carried on is that the tags that are open in front
  -- of a line can be opened again there.
  induction markup using Text.lineInduction generalizing stack with
  | last line whole =>
      rw [Text.lines_of_not_mem whole] at ends ⊢
      exact .last reopenable (ends line List.mem_cons_self).composed whole
  | more line rest whole induction =>
      rw [Text.lines_append_newline whole] at ends ⊢
      have composed := (ends line List.mem_cons_self).composed
      have reopenableNext : Reopenable (splitLine stack line).2 :=
        reopenable.foldl (isTag_of_mem_tags composed)
      exact .cons reopenable composed whole (splitLinesFrom_ne_nil (Text.lines_ne_nil rest))
        (induction reopenableNext fun later member => ends later (List.mem_cons_of_mem _ member))

/-- Where each span tag of markup ends on the line on which it begins, the markup splits into
fragments that keep the style of every character. -/
theorem splitLines_keepsStyle (ends : ∀ line ∈ markup.lines, TagsEnd line) :
    KeepsStyle [] markup (splitLines markup) :=
  splitLinesFrom_keepsStyle reopenable_nil ends

/-- Elements that reach over line ends, closing tags without elements, a tag that begins
inside of another one, and beginnings of tags at line ends. -/
def straddlingTags : Text :=
  "<span a>x <span b><spa\ny</span> <\n</span></span>z <span <span c>\n".toList

theorem splitLines_keepsStyle_straddlingTags :
    (∀ line ∈ straddlingTags.lines, TagsEnd line) ∧
      KeepsStyle [] straddlingTags (["<span a>x <span b><spa</span></span>",
        "<span a><span b>y</span> <</span>", "<span a></span></span>z <span <span c></span>",
        "<span <span c></span>"].map String.toList) := by
  have ends : ∀ line ∈ straddlingTags.lines, TagsEnd line := by decide +kernel
  have computed : splitLines straddlingTags = ["<span a>x <span b><spa</span></span>",
      "<span a><span b>y</span> <</span>", "<span a></span></span>z <span <span c></span>",
      "<span <span c></span>"].map String.toList := by
    decide +kernel
  exact ⟨ends, computed ▸ splitLines_keepsStyle ends⟩

end DumpLens.Markup
