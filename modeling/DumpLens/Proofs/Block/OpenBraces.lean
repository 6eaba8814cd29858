import DumpLens.Proofs.Block.Tracked
import Mathlib.Data.Nat.Find

/-! Tracking is the matching of braces. A brace is open at a place when no brace in front
of that place matches it, and the innermost block belongs to the last open brace. A block
is found for just those pairs of braces that get a span, in the order of the second
braces. -/

namespace DumpLens

/-! ## Open braces -/

/-- A brace opens in front of a place, and no brace in front of that place matches it. -/
structure OpenAt (text : Text) (opening place : Nat) : Prop where
  brace : text[opening]? = some '{'
  before : opening < place
  unmatched : ∀ closing, closing < place → ¬ BracePair text opening closing

/-- The last brace that is open at a place. -/
structure LastOpenAt (text : Text) (opening place : Nat) : Prop where
  isOpen : OpenAt text opening place
  last : ∀ other, OpenAt text other place → other ≤ opening

section Open

variable {text : Text} {opening place : Nat}

/-- Where the depth falls, a brace closes. -/
theorem closing_of_depth_lt (falls : depth text (place + 1) < depth text place) :
    text[place]? = some '}' := by
  cases here : text[place]? with
  | none => simp [depth, List.take_add_one, here] at falls
  | some character =>
      by_cases isClosing : character = '}'
      · rw [isClosing]
      · by_cases isOpening : character = '{'
        · rw [isOpening] at here
          have level := depth_opening here
          omega
        · have level := depth_other here isOpening isClosing
          omega

/-- Where the depth rises, a brace opens. -/
theorem opening_of_lt_depth (rises : depth text place < depth text (place + 1)) :
    text[place]? = some '{' := by
  cases here : text[place]? with
  | none => simp [depth, List.take_add_one, here] at rises
  | some character =>
      by_cases isOpening : character = '{'
      · rw [isOpening]
      · by_cases isClosing : character = '}'
        · rw [isClosing] at here
          have level := depth_closing here
          omega
        · have level := depth_other here isOpening isClosing
          omega

/-- The first place at which the depth is back to that of an opening brace is right behind
the brace that matches it. -/
theorem exists_bracePair (brace : text[opening]? = some '{') (before : opening < place)
    (back : depth text place ≤ depth text opening) :
    ∃ closing, closing < place ∧ BracePair text opening closing := by
  have some : ∃ later, opening < later ∧ depth text later ≤ depth text opening :=
    ⟨place, before, back⟩
  have found := Nat.find_spec some
  have above : ∀ between, opening < between → between < Nat.find some →
      depth text opening + 1 ≤ depth text between := by
    intro between behind ahead
    have high := Nat.find_min some ahead
    omega
  have notLater := Nat.find_min' some ⟨before, back⟩
  generalize Nat.find some = first at found above notLater
  have level := depth_opening brace
  obtain ⟨closing, rfl⟩ : ∃ closing, first = closing + 1 :=
    Nat.exists_eq_add_one_of_ne_zero (by omega)
  have notOpening : closing ≠ opening := by
    intro equal
    rw [equal] at found
    omega
  have behind : opening < closing := by omega
  have high := above closing behind (Nat.lt_succ_self closing)
  have falls : depth text (closing + 1) < depth text closing := by omega
  have isClosing := closing_of_depth_lt falls
  have levelBack := depth_closing isClosing
  refine ⟨closing, notLater, innermostAt_iff.mpr ⟨brace, behind, by omega, ?_⟩, isClosing⟩
  intro between first last
  exact above between first (Nat.lt_succ_of_le last)

theorem openAt_iff : OpenAt text opening place ↔
    text[opening]? = some '{' ∧ opening < place ∧
      ∀ between, opening < between → between ≤ place →
        depth text opening + 1 ≤ depth text between := by
  constructor
  · intro ⟨brace, before, unmatched⟩
    refine ⟨brace, before, ?_⟩
    intro between behind ahead
    by_contra low
    rcases exists_bracePair brace behind (by omega) with ⟨closing, inFront, pair⟩
    exact unmatched closing (Nat.lt_of_lt_of_le inFront ahead) pair
  · intro ⟨brace, before, above⟩
    refine ⟨brace, before, ?_⟩
    intro closing inFront pair
    have high := above (closing + 1) (Nat.lt_succ_of_lt pair.before) inFront
    have level := pair.level
    omega

/-- There is a last place that is not deeper than an earlier one. -/
theorem exists_last_low (text : Text) {first place : Nat} (ordered : first ≤ place) :
    ∃ last, first ≤ last ∧ last ≤ place ∧ depth text last ≤ depth text first ∧
      ∀ between, last < between → between ≤ place → depth text first < depth text between := by
  refine ⟨Nat.findGreatest (fun later => depth text later ≤ depth text first) place,
    Nat.le_findGreatest ordered (Int.le_refl _), Nat.findGreatest_le place, ?_, ?_⟩
  · exact Nat.findGreatest_spec (P := fun later => depth text later ≤ depth text first) ordered
      (Int.le_refl _)
  · intro between behind ahead
    exact Int.not_le.mp (Nat.findGreatest_is_greatest behind ahead)

/-- Behind that place a brace stays open. -/
theorem exists_openAt {first : Nat} (ordered : first ≤ place)
    (deeper : depth text first < depth text place) :
    ∃ opening, first ≤ opening ∧ OpenAt text opening place := by
  rcases exists_last_low text ordered with ⟨last, notEarlier, notLater, low, above⟩
  have before : last < place := by
    rcases Nat.lt_or_eq_of_le notLater with before | equal
    · exact before
    · rw [equal] at low
      omega
  have next := above (last + 1) (Nat.lt_succ_self last) before
  refine ⟨last, notEarlier, openAt_iff.mpr ⟨opening_of_lt_depth (by omega), before, ?_⟩⟩
  intro between behind ahead
  have high := above between behind ahead
  omega

/-- The innermost block of a place is that of the last brace that is open there. -/
theorem innermostAt_iff_lastOpenAt :
    InnermostAt text opening place ↔ LastOpenAt text opening place := by
  constructor
  · intro innermost
    rcases innermostAt_iff.mp innermost with ⟨brace, before, level, above⟩
    refine ⟨openAt_iff.mpr ⟨brace, before, above⟩, ?_⟩
    intro other isOpen
    rcases openAt_iff.mp isOpen with ⟨_, otherBefore, otherAbove⟩
    by_contra behind
    have high := above other (by omega) (by omega)
    have otherHigh := otherAbove place otherBefore (Nat.le_refl place)
    omega
  · intro ⟨isOpen, last⟩
    rcases openAt_iff.mp isOpen with ⟨brace, before, above⟩
    refine innermostAt_iff.mpr ⟨brace, before, ?_, above⟩
    have high := above place before (Nat.le_refl place)
    by_contra different
    have level := depth_opening brace
    have deeper : depth text (opening + 1) < depth text place := by omega
    rcases exists_openAt before deeper with ⟨other, behind, otherOpen⟩
    have notBehind := last other otherOpen
    omega

end Open

/-! ## Spans of pairs -/

variable {lines : List Text} {direct : List (Option SourceSpan)}

/-- A brace is the last open one at the end of a line with a span of its own. -/
structure GetsSpan (lines : List Text) (direct : List (Option SourceSpan))
    (opening line : Nat) (span : SourceSpan) : Prop where
  own : direct[line]? = some (some span)
  lastOpen : LastOpenAt lines.flatten opening (lineStart lines (line + 1))

theorem annotates_iff_getsSpan {opening line : Nat} {span : SourceSpan} :
    Annotates lines direct opening line span ↔ GetsSpan lines direct opening line span := by
  constructor
  · intro annotates
    exact ⟨annotates.own, innermostAt_iff_lastOpenAt.mp annotates.innermost⟩
  · intro gets
    exact ⟨gets.own, innermostAt_iff_lastOpenAt.mpr gets.lastOpen⟩

/-- Of the lines that annotate a block one is the last. -/
theorem exists_lastAnnotation {opening line count : Nat} {span : SourceSpan}
    (annotates : Annotates lines direct opening line span) (bound : line < count) :
    ∃ last, LastAnnotation lines direct opening count last := by
  induction count with
  | zero => exact absurd bound (Nat.not_lt_zero line)
  | succ count induction =>
      by_cases more : ∃ other, Annotates lines direct opening count other
      · rcases more with ⟨other, annotatesHere⟩
        exact ⟨other, (lastAnnotation_succ_of_annotates annotatesHere other).mpr rfl⟩
      · have nothing : ∀ other, ¬ Annotates lines direct opening count other :=
          not_exists.mp more
        have before : line < count := by
          rcases Nat.lt_succ_iff_lt_or_eq.mp bound with before | equal
          · exact before
          · exact absurd (equal ▸ annotates) (nothing span)
        rcases induction before with ⟨last, isLast⟩
        exact ⟨last, (lastAnnotation_succ_of_not_annotates nothing last).mpr isLast⟩

/-- Blocks are those of the pairs of braces that get a span. -/
structure MatchesBraces (lines : List Text) (direct : List (Option SourceSpan))
    (found : List SpannedBlock) : Prop where
  /-- Blocks stand in the order of their last braces. -/
  sorted : found.Pairwise fun earlier later => earlier.closing < later.closing
  /-- A block has a pair of braces and their lines, and the span of the last line up to
  which its first brace gets one. -/
  sound : ∀ block ∈ found,
    BracePair lines.flatten block.opening block.closing ∧
      OnLine lines block.opening block.openLine ∧ OnLine lines block.closing block.closeLine ∧
      ∃ line, block.openLine ≤ line ∧ line < block.closeLine ∧
        GetsSpan lines direct block.opening line block.span ∧
        ∀ later, line < later → later < block.closeLine →
          ∀ other, ¬ GetsSpan lines direct block.opening later other
  /-- A pair of braces has a block if its first brace gets a span before the line of the
  second. -/
  complete : ∀ opening closing openLine closeLine line span,
    BracePair lines.flatten opening closing → OnLine lines opening openLine →
    OnLine lines closing closeLine → openLine ≤ line → line < closeLine →
    GetsSpan lines direct opening line span →
    ∃ block ∈ found, block.opening = opening ∧ block.closing = closing

/-- Where every line has an entry, tracking finds the blocks of the pairs of braces that
get a span, and nothing else. -/
theorem trackBlocks_matchesBraces (sameLength : direct.length = lines.length) :
    ∃ found : List SpannedBlock,
      trackBlocks lines direct = .ok (found.map SpannedBlock.toBlock) ∧
        MatchesBraces lines direct found := by
  rcases trackBlocks_closed (Nat.le_of_eq sameLength.symm) with
    ⟨blocks, tracked, found, rfl, sorted, members⟩
  refine ⟨found, tracked, sorted, ?_, ?_⟩
  · intro block member
    rcases ((members block).mp member).1 with ⟨pair, opensOn, closesOn, annotated⟩
    rcases annotated with ⟨line, ahead, annotates, nothingLater⟩
    refine ⟨pair, opensOn, closesOn, line, annotates.openLine_le opensOn, ahead,
      annotates_iff_getsSpan.mp annotates, ?_⟩
    intro later behind laterAhead other gets
    exact nothingLater later behind laterAhead other (annotates_iff_getsSpan.mpr gets)
  · intro opening closing openLine closeLine line span pair opensOn closesOn _ ahead gets
    rcases exists_lastAnnotation (annotates_iff_getsSpan.mpr gets) ahead with ⟨last, isLast⟩
    have inside := (List.getElem?_eq_some_iff.mp pair.brace).1
    refine ⟨⟨opening, closing, openLine, closeLine, last⟩, ?_, rfl, rfl⟩
    exact (members _).mpr ⟨⟨pair, opensOn, closesOn, isLast⟩, Nat.zero_le _, inside⟩

/-- A stray brace, a block on one line with a span behind it, two blocks that meet on a
line, and a block that is never closed. -/
def strayBraces : List Text :=
  ["\x7d \x7b", "\x7b \x7d", "x \x7b", "y", "\x7d else \x7b", "\x7d \x7d \x7b"].map String.toList

def straySpans : List (Option SourceSpan) :=
  [none, some ⟨1, 1, 1, 1⟩, none, some ⟨3, 2, 3, 4⟩, some ⟨4, 1, 4, 2⟩, some ⟨5, 1, 5, 1⟩]

theorem trackBlocks_matchesBraces_strayBraces :
    straySpans.length = strayBraces.length ∧
      ∃ found : List SpannedBlock, found.map SpannedBlock.toBlock =
          [⟨2, some 4, some ⟨3, 2, 3, 4⟩⟩, ⟨4, some 5, some ⟨4, 1, 4, 2⟩⟩,
            ⟨0, some 5, some ⟨1, 1, 1, 1⟩⟩] ∧
        MatchesBraces strayBraces straySpans found := by
  have sameLength : straySpans.length = strayBraces.length := rfl
  rcases trackBlocks_matchesBraces sameLength with ⟨found, tracked, follows⟩
  exact ⟨sameLength, found, (Except.ok.inj tracked).symm, follows⟩

end DumpLens
