import DumpLens.Proofs.Block.Matching

/-! Blocks with spans, said by the braces and annotations of a dump. A block has the span
of the last annotation on whose line it is innermost at the end. No two such blocks where
one stands in the other cover the same lines. -/

namespace DumpLens

variable {lines : List Text} {direct : List (Option SourceSpan)}

/-! ## Places and lines -/

/-- The place in the text of all lines where a line starts. The line before ends there. -/
def lineStart (lines : List Text) (line : Nat) : Nat :=
  (lines.take line).flatten.length

/-- A place of the text of all lines is on a line. -/
def OnLine (lines : List Text) (place line : Nat) : Prop :=
  lineStart lines line ≤ place ∧ place < lineStart lines (line + 1)

theorem lineStart_mono (lines : List Text) {line later : Nat} (ordered : line ≤ later) :
    lineStart lines line ≤ lineStart lines later := by
  have parts := List.take_append_drop line (lines.take later)
  rw [List.take_take, Nat.min_eq_left ordered] at parts
  rw [lineStart, lineStart, ← parts, List.flatten_append, List.length_append]
  exact Nat.le_add_right ..

theorem lineStart_succ {line : Nat} {text : Text} (here : lines[line]? = some text) :
    lineStart lines (line + 1) = lineStart lines line + text.length := by
  simp [lineStart, List.take_add_one, here]

theorem lineStart_length (lines : List Text) :
    lineStart lines lines.length = lines.flatten.length := by
  rw [lineStart, List.take_length]

/-- Behind the start of a line come its characters and those of the later lines. -/
theorem drop_lineStart {line : Nat} {text : Text} (here : lines[line]? = some text) :
    lines.flatten.drop (lineStart lines line) = text ++ (lines.drop (line + 1)).flatten := by
  have parts := congrArg List.flatten (List.take_append_drop line lines)
  rw [List.flatten_append] at parts
  rw [← parts, lineStart, List.drop_left, List.drop_eq_getElem?_toList_append, here]
  rfl

theorem OnLine.le_of_le {place later line laterLine : Nat} (onLine : OnLine lines place line)
    (laterOn : OnLine lines later laterLine) (ordered : place ≤ later) : line ≤ laterLine := by
  rcases Nat.lt_or_ge laterLine line with before | notBefore
  · have start : lineStart lines (laterLine + 1) ≤ lineStart lines line :=
      lineStart_mono lines before
    have first := onLine.1
    have last := laterOn.2
    omega
  · exact notBefore

theorem OnLine.unique {place line other : Nat} (onLine : OnLine lines place line)
    (otherOn : OnLine lines place other) : line = other :=
  Nat.le_antisymm (onLine.le_of_le otherOn (Nat.le_refl place))
    (otherOn.le_of_le onLine (Nat.le_refl place))

theorem OnLine.lt_length {place line : Nat} (onLine : OnLine lines place line)
    (inside : place < lines.flatten.length) : line < lines.length := by
  rcases Nat.lt_or_ge line lines.length with before | behind
  · exact before
  · have start := onLine.1
    rw [lineStart, List.take_of_length_le behind] at start
    omega

/-- A character of the text of all lines is one of the line that its place is on. -/
theorem OnLine.mem {place line : Nat} {character : Char} {text : Text}
    (onLine : OnLine lines place line) (there : lines.flatten[place]? = some character)
    (here : lines[line]? = some text) : character ∈ text := by
  have inside : place - lineStart lines line < text.length := by
    have next := lineStart_succ here
    have first := onLine.1
    have last := onLine.2
    omega
  rw [← Nat.add_sub_cancel' onLine.1, ← List.getElem?_drop, drop_lineStart here,
    List.getElem?_append_left inside] at there
  exact List.mem_of_getElem? there

/-! ## Annotations of blocks -/

/-- The block behind an opening brace is innermost at the end of a line with a span of
its own. -/
structure Annotates (lines : List Text) (direct : List (Option SourceSpan))
    (opening line : Nat) (span : SourceSpan) : Prop where
  own : direct[line]? = some (some span)
  innermost : InnermostAt lines.flatten opening (lineStart lines (line + 1))

/-- The span of the last line in front of the given one that annotates a block. -/
def LastAnnotation (lines : List Text) (direct : List (Option SourceSpan))
    (opening count : Nat) (span : SourceSpan) : Prop :=
  ∃ line, line < count ∧ Annotates lines direct opening line span ∧
    ∀ later, line < later → later < count →
      ∀ other, ¬ Annotates lines direct opening later other

theorem Annotates.span_unique {opening line : Nat} {span other : SourceSpan}
    (annotates : Annotates lines direct opening line span)
    (otherAnnotates : Annotates lines direct opening line other) : span = other := by
  have equal := annotates.own.symm.trans otherAnnotates.own
  exact Option.some.inj (Option.some.inj equal)

/-- A block is not annotated in front of the line on which it opens. -/
theorem Annotates.openLine_le {opening openLine line : Nat} {span : SourceSpan}
    (annotates : Annotates lines direct opening line span)
    (opensOn : OnLine lines opening openLine) : openLine ≤ line := by
  rcases Nat.lt_or_ge line openLine with early | notEarly
  · have start : lineStart lines (line + 1) ≤ lineStart lines openLine :=
      lineStart_mono lines early
    have first := opensOn.1
    have before := annotates.innermost.before
    omega
  · exact notEarly

theorem LastAnnotation.unique {opening count : Nat} {span other : SourceSpan}
    (last : LastAnnotation lines direct opening count span)
    (otherLast : LastAnnotation lines direct opening count other) : span = other := by
  rcases last with ⟨line, bound, annotates, nothingLater⟩
  rcases otherLast with ⟨otherLine, otherBound, otherAnnotates, nothingAfter⟩
  rcases Nat.lt_trichotomy line otherLine with before | equal | after
  · exact absurd otherAnnotates (nothingLater otherLine before otherBound other)
  · subst equal
    exact annotates.span_unique otherAnnotates
  · exact absurd annotates (nothingAfter line after bound span)

/-- An annotation replaces those before it. -/
theorem lastAnnotation_succ_of_annotates {opening count : Nat} {span : SourceSpan}
    (annotates : Annotates lines direct opening count span) (other : SourceSpan) :
    LastAnnotation lines direct opening (count + 1) other ↔ span = other := by
  have last : LastAnnotation lines direct opening (count + 1) span :=
    ⟨count, Nat.lt_succ_self count, annotates, by omega⟩
  constructor
  · exact last.unique
  · intro equal
    exact equal ▸ last

/-- A line that does not annotate a block leaves its annotation as it was. -/
theorem lastAnnotation_succ_of_not_annotates {opening count : Nat}
    (nothing : ∀ span, ¬ Annotates lines direct opening count span) (span : SourceSpan) :
    LastAnnotation lines direct opening (count + 1) span ↔
      LastAnnotation lines direct opening count span := by
  constructor
  · intro ⟨line, bound, annotates, nothingLater⟩
    rcases Nat.lt_succ_iff_lt_or_eq.mp bound with before | equal
    · exact ⟨line, before, annotates, fun later behind ahead =>
        nothingLater later behind (Nat.lt_succ_of_lt ahead)⟩
    · exact absurd (equal ▸ annotates) (nothing span)
  · intro ⟨line, bound, annotates, nothingLater⟩
    refine ⟨line, Nat.lt_succ_of_lt bound, annotates, ?_⟩
    intro later behind ahead
    rcases Nat.lt_succ_iff_lt_or_eq.mp ahead with before | equal
    · exact nothingLater later behind before
    · exact equal ▸ nothing

/-! ## Blocks with spans -/

/-- A block with the places of its braces, the lines they are on, and a span. -/
structure SpannedBlock where
  opening : Nat
  closing : Nat
  openLine : Nat
  closeLine : Nat
  span : SourceSpan
  deriving DecidableEq, Repr

namespace SpannedBlock

/-- A block of a dump: its braces match, and the last annotation in front of the line on
which it closes is its span. -/
structure IsIn (block : SpannedBlock) (lines : List Text) (direct : List (Option SourceSpan)) :
    Prop where
  pair : BracePair lines.flatten block.opening block.closing
  opensOn : OnLine lines block.opening block.openLine
  closesOn : OnLine lines block.closing block.closeLine
  annotated : LastAnnotation lines direct block.opening block.closeLine block.span

/-- A block covers the lines from that of its first brace to that of its last. -/
def Covers (block : SpannedBlock) (line : Nat) : Prop :=
  block.openLine ≤ line ∧ line ≤ block.closeLine

instance (block : SpannedBlock) (line : Nat) : Decidable (block.Covers line) :=
  inferInstanceAs (Decidable (_ ∧ _))

/-- A block stands in another one. -/
def Inside (inner outer : SpannedBlock) : Prop :=
  outer.opening < inner.opening ∧ inner.closing < outer.closing

/-- A block without the places of its braces. -/
def toBlock (block : SpannedBlock) : Block :=
  ⟨block.openLine, some block.closeLine, some block.span⟩

variable {block inner outer : SpannedBlock} {line : Nat}

/-- The opening brace of a block tells which block it is. -/
theorem IsIn.eq_of_opening {other : SpannedBlock} (isIn : block.IsIn lines direct)
    (otherIn : other.IsIn lines direct) (equal : block.opening = other.opening) :
    block = other := by
  rcases block with ⟨opening, closing, openLine, closeLine, span⟩
  rcases other with ⟨otherOpening, otherClosing, otherOpenLine, otherCloseLine, otherSpan⟩
  rcases isIn with ⟨pair, opensOn, closesOn, annotated⟩
  rcases otherIn with ⟨otherPair, otherOpensOn, otherClosesOn, otherAnnotated⟩
  simp only at *
  subst equal
  have sameClosing := pair.closing_unique otherPair
  subst sameClosing
  have sameOpenLine := opensOn.unique otherOpensOn
  have sameCloseLine := closesOn.unique otherClosesOn
  subst sameOpenLine sameCloseLine
  rw [annotated.unique otherAnnotated]

theorem IsIn.openLine_le (isIn : block.IsIn lines direct) : block.openLine ≤ block.closeLine :=
  isIn.opensOn.le_of_le isIn.closesOn (Nat.le_of_lt isIn.pair.before)

/-- A block cannot be annotated at the end of a line at which a block inside of it is
open. -/
theorem not_annotates_of_open {place noteLine : Nat} {span : SourceSpan}
    (isIn : inner.IsIn lines direct) (opensIn : place < inner.opening)
    (opened : inner.opening < lineStart lines (noteLine + 1))
    (notClosed : lineStart lines (noteLine + 1) ≤ inner.closing) :
    ¬ Annotates lines direct place noteLine span := by
  intro annotates
  rcases innermostAt_iff.mp annotates.innermost with ⟨_, _, level, above⟩
  have outerHigh := above inner.opening opensIn (Nat.le_of_lt opened)
  have innerHigh := isIn.pair.above opened notClosed
  omega

/-- Of two blocks where one stands in the other the inner one reaches over fewer lines:
the annotation of the outer one is on a line at whose end the inner one is not open. -/
theorem Inside.length_lt (innerIn : inner.IsIn lines direct) (outerIn : outer.IsIn lines direct)
    (inside : inner.Inside outer) :
    inner.closeLine - inner.openLine < outer.closeLine - outer.openLine := by
  have opensLater := outerIn.opensOn.le_of_le innerIn.opensOn (Nat.le_of_lt inside.1)
  have closesEarlier := innerIn.closesOn.le_of_le outerIn.closesOn (Nat.le_of_lt inside.2)
  have innerOrdered := innerIn.openLine_le
  rcases Nat.lt_or_ge outer.openLine inner.openLine with later | sameOpen
  · omega
  rcases Nat.lt_or_ge inner.closeLine outer.closeLine with earlier | sameClose
  · omega
  rcases outerIn.annotated with ⟨noteLine, beforeClose, annotates, _⟩
  have openedBefore := Nat.le_trans sameOpen (annotates.openLine_le outerIn.opensOn)
  have opened : inner.opening < lineStart lines (noteLine + 1) :=
    Nat.lt_of_lt_of_le innerIn.opensOn.2 (lineStart_mono lines (Nat.succ_le_succ openedBefore))
  have notClosed : lineStart lines (noteLine + 1) ≤ inner.closing :=
    Nat.le_trans (lineStart_mono lines (Nat.lt_of_lt_of_le beforeClose sameClose))
      innerIn.closesOn.1
  exact absurd annotates (not_annotates_of_open innerIn inside.1 opened notClosed)

/-- Two blocks that cover a line on which none opens are the same, or one stands in the
other. -/
theorem IsIn.nested {other : SpannedBlock} {text : Text} (isIn : block.IsIn lines direct)
    (otherIn : other.IsIn lines direct) (covers : block.Covers line)
    (otherCovers : other.Covers line) (here : lines[line]? = some text) (noOpening : '{' ∉ text) :
    block = other ∨ block.Inside other ∨ other.Inside block := by
  have around {block : SpannedBlock} (isIn : block.IsIn lines direct) (covers : block.Covers line) :
      block.opening < lineStart lines line ∧ lineStart lines line ≤ block.closing := by
    constructor
    · rcases Nat.lt_or_eq_of_le covers.1 with before | equal
      · exact Nat.lt_of_lt_of_le isIn.opensOn.2 (lineStart_mono lines before)
      · exact absurd (isIn.opensOn.mem isIn.pair.innermost.brace (equal ▸ here)) noOpening
    · exact Nat.le_trans (lineStart_mono lines covers.2) isIn.closesOn.1
  have places := around isIn covers
  have otherPlaces := around otherIn otherCovers
  rcases Nat.lt_trichotomy block.opening other.opening with before | equal | after
  · exact .inr (.inr ⟨before, isIn.pair.nested otherIn.pair before (by omega)⟩)
  · exact .inl (isIn.eq_of_opening otherIn equal)
  · exact .inr (.inl ⟨after, otherIn.pair.nested isIn.pair after (by omega)⟩)

end SpannedBlock

end DumpLens
