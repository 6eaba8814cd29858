import DumpLens.Proofs.Block.Spanned

/-! Tracking finds the blocks with spans. What is open while a dump is read are the blocks
that are innermost one behind the other, so a closing brace closes the block that it
matches, and that block has got its last annotation by then. -/

namespace DumpLens

variable {lines : List Text} {direct : List (Option SourceSpan)}

/-! ## Open blocks -/

/-- Open blocks of a place, innermost first: each of the others is innermost in front of
the one before it, and in front of the last none is open. -/
inductive OpenStack (text : Text) (Opens : Nat → OpenBlock → Prop) : Nat → List OpenBlock → Prop
  | nil {place : Nat} :
      (∀ earlier, earlier ≤ place → depth text place ≤ depth text earlier) →
      OpenStack text Opens place []
  | cons {opening place : Nat} {block : OpenBlock} {stack : List OpenBlock} :
      InnermostAt text opening place → Opens opening block →
      OpenStack text Opens opening stack → OpenStack text Opens place (block :: stack)

namespace OpenStack

variable {text : Text} {Opens : Nat → OpenBlock → Prop} {place later : Nat}
  {stack : List OpenBlock}

/-- As long as the depth does not fall and comes back, the same blocks are open. -/
theorem extend (opened : OpenStack text Opens place stack) (ordered : place ≤ later)
    (level : depth text later = depth text place)
    (above : ∀ between, place ≤ between → between ≤ later →
      depth text place ≤ depth text between) : OpenStack text Opens later stack := by
  cases opened with
  | nil lowest =>
      refine .nil ?_
      intro earlier notLater
      rw [level]
      rcases Nat.le_total earlier place with before | behind
      · exact lowest earlier before
      · exact above earlier behind notLater
  | cons innermost opens rest =>
      exact .cons (innermost.extend ordered level above) opens rest

theorem step_other {character : Char} (opened : OpenStack text Opens place stack)
    (here : text[place]? = some character) (notOpening : character ≠ '{')
    (notClosing : character ≠ '}') : OpenStack text Opens (place + 1) stack := by
  have level := depth_other here notOpening notClosing
  refine opened.extend (Nat.le_succ place) level ?_
  intro between behind notLater
  have near : between = place ∨ between = place + 1 := by omega
  rcases near with equal | equal
  · exact Int.le_of_eq (by rw [equal])
  · exact Int.le_of_eq (by rw [equal, level])

theorem step_opening {block : OpenBlock} (opened : OpenStack text Opens place stack)
    (brace : text[place]? = some '{') (opens : Opens place block) :
    OpenStack text Opens (place + 1) (block :: stack) := by
  refine .cons (innermostAt_iff.mpr ⟨brace, Nat.lt_succ_self place, depth_opening brace, ?_⟩)
    opens opened
  intro between behind notLater
  exact Int.le_of_eq (by rw [Nat.le_antisymm notLater behind, depth_opening brace])

theorem step_stray (opened : OpenStack text Opens place []) (brace : text[place]? = some '}') :
    OpenStack text Opens (place + 1) [] := by
  cases opened with
  | nil lowest =>
      have level := depth_closing brace
      refine .nil ?_
      intro earlier notLater
      rcases Nat.lt_or_eq_of_le notLater with before | equal
      · have low := lowest earlier (Nat.le_of_lt_succ before)
        omega
      · exact Int.le_of_eq (by rw [equal])

theorem step_closing {opening : Nat} (pair : BracePair text opening place)
    (opened : OpenStack text Opens opening stack) : OpenStack text Opens (place + 1) stack := by
  have before := pair.before
  refine opened.extend (by omega) pair.level ?_
  intro between behind notLater
  have position : between = opening ∨ between = place + 1 ∨
      (opening < between ∧ between ≤ place) := by omega
  rcases position with first | last | inside
  · exact Int.le_of_eq (by rw [first])
  · exact Int.le_of_eq (by rw [last, pair.level])
  · have high := pair.above inside.1 inside.2
    omega

/-- No block is open where a stack is empty, so a brace that closes there is no match. -/
theorem not_pair_of_nil {opening : Nat} (opened : OpenStack text Opens place []) :
    ¬ BracePair text opening place := by
  intro pair
  cases opened with
  | nil lowest =>
      rcases innermostAt_iff.mp pair.innermost with ⟨_, before, level, _⟩
      have low := lowest opening (Nat.le_of_lt before)
      omega

/-- Only the innermost block can change where the others are known to stay as they are. -/
theorem mono_behind {Stays : Nat → OpenBlock → Prop}
    (opened : OpenStack text Opens place stack)
    (stays : ∀ opening block, opening < place → Opens opening block → Stays opening block) :
    OpenStack text Stays place stack := by
  induction opened with
  | nil lowest => exact .nil lowest
  | cons innermost opens rest induction =>
      refine .cons innermost (stays _ _ innermost.before opens) (induction ?_)
      intro opening block before
      exact stays opening block (Nat.lt_trans before innermost.before)

end OpenStack

/-! ## Closed blocks -/

/-- Blocks are those with spans whose last braces are from one place up to another, in the
order of their last braces. -/
def ClosedBetween (lines : List Text) (direct : List (Option SourceSpan)) (first last : Nat)
    (blocks : List Block) : Prop :=
  ∃ spanned : List SpannedBlock, blocks = spanned.map SpannedBlock.toBlock ∧
    spanned.Pairwise (fun earlier later => earlier.closing < later.closing) ∧
    ∀ block, block ∈ spanned ↔
      block.IsIn lines direct ∧ first ≤ block.closing ∧ block.closing < last

namespace ClosedBetween

variable {first middle last : Nat} {blocks rest : List Block}

theorem nil (nothing : ∀ block : SpannedBlock, block.IsIn lines direct →
    first ≤ block.closing → last ≤ block.closing) : ClosedBetween lines direct first last [] := by
  refine ⟨[], rfl, .nil, ?_⟩
  intro block
  constructor
  · intro member
    cases member
  · intro ⟨isIn, behind, ahead⟩
    exact absurd (nothing block isIn behind) (Nat.not_le_of_lt ahead)

theorem append (closed : ClosedBetween lines direct first middle blocks)
    (closedLater : ClosedBetween lines direct middle last rest) (fromFirst : first ≤ middle)
    (toLast : middle ≤ last) : ClosedBetween lines direct first last (blocks ++ rest) := by
  rcases closed with ⟨spanned, equal, sorted, members⟩
  rcases closedLater with ⟨laterSpanned, laterEqual, laterSorted, laterMembers⟩
  refine ⟨spanned ++ laterSpanned, by rw [equal, laterEqual, List.map_append], ?_, ?_⟩
  · refine List.pairwise_append.mpr ⟨sorted, laterSorted, ?_⟩
    intro earlier earlierMember later laterMember
    have before := ((members earlier).mp earlierMember).2.2
    have behind := ((laterMembers later).mp laterMember).2.1
    omega
  · intro block
    rw [List.mem_append, members, laterMembers]
    constructor
    · rintro (⟨isIn, behind, ahead⟩ | ⟨isIn, behind, ahead⟩)
      · exact ⟨isIn, behind, by omega⟩
      · exact ⟨isIn, by omega, ahead⟩
    · intro ⟨isIn, behind, ahead⟩
      rcases Nat.lt_or_ge block.closing middle with early | late
      · exact .inl ⟨isIn, behind, early⟩
      · exact .inr ⟨isIn, late, ahead⟩

/-- A closing brace closes the block that is innermost, if it has a span. -/
theorem close {block : OpenBlock} {opening place line : Nat}
    (pair : BracePair lines.flatten opening place) (opensOn : OnLine lines opening block.line)
    (closesOn : OnLine lines place line)
    (annotated : ∀ span, block.span = some span ↔ LastAnnotation lines direct opening line span) :
    ClosedBetween lines direct place (place + 1) (block.close line) := by
  have isIn (closed : SpannedBlock) (member : closed.IsIn lines direct)
      (behind : place ≤ closed.closing) (ahead : closed.closing < place + 1) :
      block.span = some closed.span ∧
        closed = ⟨opening, place, block.line, line, closed.span⟩ := by
    have atPlace : closed.closing = place := by omega
    rcases closed with ⟨closedOpening, closing, openLine, closeLine, span⟩
    rcases member with ⟨closedPair, closedOpensOn, closedClosesOn, closedAnnotated⟩
    simp only at *
    subst atPlace
    have sameOpening := closedPair.opening_unique pair
    subst sameOpening
    have sameLine := closedClosesOn.unique closesOn
    have sameOpenLine := closedOpensOn.unique opensOn
    subst sameLine sameOpenLine
    exact ⟨(annotated span).mpr closedAnnotated, rfl⟩
  rcases block with ⟨openLine, span⟩
  cases span with
  | none =>
      refine .nil ?_
      intro closed member behind
      rcases Nat.lt_or_ge place closed.closing with later | notLater
      · exact later
      · have impossible := (isIn closed member behind (Nat.lt_succ_of_le notLater)).1
        cases impossible
  | some span =>
      refine ⟨[⟨opening, place, openLine, line, span⟩], rfl, List.pairwise_singleton .., ?_⟩
      intro closed
      rw [List.mem_singleton]
      constructor
      · intro equal
        subst equal
        exact ⟨⟨pair, opensOn, closesOn, (annotated span).mp rfl⟩, Nat.le_refl _,
          Nat.lt_succ_self _⟩
      · intro ⟨member, behind, ahead⟩
        have parts := isIn closed member behind ahead
        rw [parts.2, ← Option.some.inj parts.1]

end ClosedBetween

/-! ## Reading lines -/

/-- What an open block says of the block behind an opening brace, when the given number of
lines has been read. -/
structure OpenBlock.StandsFor (lines : List Text) (direct : List (Option SourceSpan))
    (count opening : Nat) (block : OpenBlock) : Prop where
  onLine : OnLine lines opening block.line
  annotated : ∀ span, block.span = some span ↔ LastAnnotation lines direct opening count span

/-- The open blocks at a place when the given number of lines has been read. -/
abbrev Opened (lines : List Text) (direct : List (Option SourceSpan)) (count place : Nat)
    (stack : List OpenBlock) : Prop :=
  OpenStack lines.flatten (OpenBlock.StandsFor lines direct count) place stack

namespace Opened

variable {place line : Nat} {stack : List OpenBlock}

/-- A block that opens on a line has no annotation yet. -/
theorem step_opening (opened : Opened lines direct line place stack)
    (brace : lines.flatten[place]? = some '{') (onLine : OnLine lines place line) :
    Opened lines direct line (place + 1) (⟨line, none⟩ :: stack) := by
  refine OpenStack.step_opening opened brace ⟨onLine, ?_⟩
  intro span
  constructor
  · intro impossible
    cases impossible
  · intro ⟨noteLine, before, annotates, _⟩
    exact absurd (annotates.openLine_le onLine) (Nat.not_le_of_lt before)

/-- The span of a line goes to the block that is innermost at its end, and no other block
is annotated there. -/
theorem annotate {span : Option SourceSpan} (own : direct[line]? = some span)
    (opened : Opened lines direct line (lineStart lines (line + 1)) stack) :
    Opened lines direct (line + 1) (lineStart lines (line + 1))
      (OpenBlock.annotate span stack) := by
  cases opened with
  | nil lowest => exact .nil lowest
  | @cons opening _ block stack innermost opens rest =>
      refine .cons innermost ⟨opens.onLine, ?_⟩ (rest.mono_behind ?_)
      · intro other
        cases span with
        | none =>
            have nothing (span : SourceSpan) : ¬ Annotates lines direct opening line span := by
              intro annotates
              cases own.symm.trans annotates.own
            rw [lastAnnotation_succ_of_not_annotates nothing]
            exact opens.annotated other
        | some span =>
            rw [lastAnnotation_succ_of_annotates ⟨own, innermost⟩]
            exact Option.some_inj
      · intro outer block before outerOpens
        have nothing (span : SourceSpan) : ¬ Annotates lines direct outer line span := by
          intro annotates
          exact Nat.ne_of_lt before (annotates.innermost.unique innermost)
        refine ⟨outerOpens.onLine, ?_⟩
        intro other
        rw [lastAnnotation_succ_of_not_annotates nothing]
        exact outerOpens.annotated other

end Opened

/-- No block closes at a place that matches no opening brace. -/
theorem ClosedBetween.unmatched {place : Nat}
    (nothing : ∀ opening, ¬ BracePair lines.flatten opening place) :
    ClosedBetween lines direct place (place + 1) [] := by
  refine .nil ?_
  intro block isIn behind
  rcases Nat.lt_or_eq_of_le behind with later | equal
  · exact later
  · exact absurd (equal ▸ isIn.pair) (nothing block.opening)

theorem ClosedBetween.other {place : Nat} {character : Char}
    (here : lines.flatten[place]? = some character) (notClosing : character ≠ '}') :
    ClosedBetween lines direct place (place + 1) [] := by
  refine .unmatched ?_
  intro opening pair
  exact notClosing (Option.some.inj (here.symm.trans pair.brace))

theorem scanLine_other {line : Nat} {character : Char} {rest : Text} {stack : List OpenBlock}
    (notOpening : character ≠ '{') (notClosing : character ≠ '}') :
    OpenBlock.scanLine line (character :: rest) stack = OpenBlock.scanLine line rest stack := by
  simp [OpenBlock.scanLine, notClosing]

/-- Reading a line finds what closes on it and what is open at its end. -/
theorem scanLine_tracks {line place : Nat} {rest later : Text} {stack : List OpenBlock}
    (following : lines.flatten.drop place = rest ++ later)
    (starts : lineStart lines line ≤ place)
    (ends : place + rest.length = lineStart lines (line + 1))
    (opened : Opened lines direct line place stack) :
    Opened lines direct line (lineStart lines (line + 1)) (OpenBlock.scanLine line rest stack).1 ∧
      ClosedBetween lines direct place (lineStart lines (line + 1))
        (OpenBlock.scanLine line rest stack).2 := by
  induction rest generalizing place stack with
  | nil =>
      have atEnd : place = lineStart lines (line + 1) := ends
      subst atEnd
      exact ⟨opened, .nil fun _ _ behind => behind⟩
  | cons character rest induction =>
      have here : lines.flatten[place]? = some character := by
        rw [← List.head?_drop, following]
        rfl
      have followingNext : lines.flatten.drop (place + 1) = rest ++ later := by
        rw [← List.tail_drop, following]
        rfl
      have endsNext : place + 1 + rest.length = lineStart lines (line + 1) := by
        rw [← ends, List.length_cons]
        omega
      have onLine : OnLine lines place line := ⟨starts, by omega⟩
      have toEnd : place + 1 ≤ lineStart lines (line + 1) := by omega
      have next {stack : List OpenBlock} (opened : Opened lines direct line (place + 1) stack) :=
        induction followingNext (by omega) endsNext opened
      by_cases isOpening : character = '{'
      · subst isOpening
        have tracked := next (opened.step_opening here onLine)
        exact ⟨tracked.1, (ClosedBetween.other here (by decide)).append tracked.2 (by omega) toEnd⟩
      · by_cases isClosing : character = '}'
        · subst isClosing
          cases stack with
          | nil =>
              have tracked := next (opened.step_stray here)
              have stray : ClosedBetween lines direct place (place + 1) [] :=
                ClosedBetween.unmatched fun _ => opened.not_pair_of_nil
              exact ⟨tracked.1, stray.append tracked.2 (by omega) toEnd⟩
          | cons block stack =>
              cases opened with
              | @cons opening _ _ _ innermost opens rest =>
                  have pair : BracePair lines.flatten opening place := ⟨innermost, here⟩
                  have tracked := next (OpenStack.step_closing pair rest)
                  have closed := ClosedBetween.close pair opens.onLine onLine opens.annotated
                  exact ⟨tracked.1, closed.append tracked.2 (by omega) toEnd⟩
        · have tracked := next (opened.step_other here isOpening isClosing)
          rw [scanLine_other isOpening isClosing]
          exact ⟨tracked.1, (ClosedBetween.other here isClosing).append tracked.2 (by omega) toEnd⟩

/-- Reading the lines from one on finds what closes on them. -/
theorem scanLines_tracks {line : Nat} {stack : List OpenBlock}
    {remaining : List (Text × Option SourceSpan)} (bound : lines.length ≤ direct.length)
    (rest : (lines.zip direct).drop line = remaining)
    (opened : Opened lines direct line (lineStart lines line) stack) :
    ClosedBetween lines direct (lineStart lines line) lines.flatten.length
      (OpenBlock.scanLines line stack remaining) := by
  induction remaining generalizing line stack with
  | nil =>
      refine .nil ?_
      intro block isIn behind
      have notBefore : lines.length ≤ line := by
        have short := List.drop_eq_nil_iff.mp rest
        rw [List.length_zip] at short
        omega
      rw [lineStart, List.take_of_length_le notBefore] at behind
      exact behind
  | cons first remaining induction =>
      rcases first with ⟨text, span⟩
      have both : (lines.zip direct)[line]? = some (text, span) := by
        rw [← List.head?_drop, rest]
        rfl
      have here := (List.getElem?_zip_eq_some.mp both).1
      have own := (List.getElem?_zip_eq_some.mp both).2
      have restNext : (lines.zip direct).drop (line + 1) = remaining := by
        rw [← List.tail_drop, rest]
        rfl
      have tracked := scanLine_tracks (drop_lineStart here) (Nat.le_refl _)
        (lineStart_succ here).symm opened
      have closedLater := induction restNext (tracked.1.annotate own)
      have toEnd : lineStart lines (line + 1) ≤ lines.flatten.length := by
        have total := lineStart_mono lines (Nat.succ_le_of_lt (List.getElem?_eq_some_iff.mp here).1)
        rw [lineStart, lineStart, List.take_length] at total
        exact total
      exact tracked.2.append closedLater (lineStart_mono lines (Nat.le_succ line)) toEnd

/-- Tracking gives the blocks with spans of a dump in the order in which they close. -/
theorem trackBlocks_closed (bound : lines.length ≤ direct.length) :
    ∃ blocks, trackBlocks lines direct = .ok blocks ∧
      ClosedBetween lines direct 0 lines.flatten.length blocks := by
  refine ⟨_, if_pos bound, scanLines_tracks bound rfl (.nil ?_)⟩
  intro earlier atStart
  have equal : earlier = lineStart lines 0 := Nat.le_zero.mp atStart
  exact Int.le_of_eq (by rw [equal])

end DumpLens
