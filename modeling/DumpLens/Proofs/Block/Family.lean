import DumpLens.Proofs.Block.Resolved

/-! The blocks of a dump are a nested family. Of two of them the one that closes first ends
where the other begins, at the latest, or it stands in the other one and has fewer lines. So
blocks are never painted over blocks that stand in them. -/

namespace DumpLens

variable {lines : List Text} {direct : List (Option SourceSpan)} {blocks : List Block}

namespace Block

/-- The last line of a block. One that is not closed has no line but its first. -/
def lastLine (block : Block) : Int :=
  block.closeLine.getD block.openLine

/-- All lines of a block are lines of another one. -/
structure Within (inner outer : Block) : Prop where
  first : outer.openLine ≤ inner.openLine
  last : inner.lastLine ≤ outer.lastLine

/-- A line that two blocks share is the last of the one and the first of the other. -/
def MeetsAtEnd (earlier later : Block) : Prop :=
  ∀ line : Nat, earlier.covers line = true → later.covers line = true →
    earlier.lastLine = line ∧ later.openLine = line

end Block

/-- Blocks within a number of lines, in the order in which they close, that overlap only
where one stands in another. -/
structure NestedFamily (blocks : List Block) (count : Nat) : Prop where
  /-- A block has a span, and closes on a later line than it opens on. -/
  each : ∀ block ∈ blocks, block.span.isSome ∧ ∃ first last : Nat,
    block.openLine = first ∧ block.closeLine = some (last : Int) ∧ first < last ∧ last < count
  ordered : blocks.Pairwise fun earlier later => earlier.lastLine ≤ later.lastLine
  distinct : blocks.Pairwise fun earlier later =>
    ¬ (earlier.openLine = later.openLine ∧ earlier.lastLine = later.lastLine)
  apart : blocks.Pairwise fun earlier later =>
    earlier.MeetsAtEnd later ∨ earlier.Within later ∧ earlier.reach < later.reach
  /-- No block is painted over one that stands in it. -/
  painting : ∃ order, sortByLength blocks = .ok order ∧
    order.Pairwise fun earlier later => ¬ earlier.2.Within later.2

/-! ## Pairs of blocks -/

namespace SpannedBlock

variable {block earlier later : SpannedBlock}

/-- A block is annotated on a line in front of that on which it closes. -/
theorem IsIn.openLine_lt (isIn : block.IsIn lines direct) : block.openLine < block.closeLine := by
  rcases isIn.annotated with ⟨line, ahead, annotates, _⟩
  exact Nat.lt_of_le_of_lt (annotates.openLine_le isIn.opensOn) ahead

/-- A block that closes in front of another one has ended where that one begins, or stands
in it. -/
theorem IsIn.ends_or_inside (earlierIn : earlier.IsIn lines direct)
    (laterIn : later.IsIn lines direct) (closesFirst : earlier.closing < later.closing) :
    earlier.closeLine ≤ later.openLine ∨ earlier.Inside later := by
  rcases Nat.lt_trichotomy earlier.opening later.opening with before | equal | after
  · rcases Nat.lt_or_ge later.opening earlier.closing with overlapping | ended
    · have crossing := earlierIn.pair.nested laterIn.pair before overlapping
      omega
    · exact .inl (earlierIn.closesOn.le_of_le laterIn.opensOn ended)
  · have same := earlierIn.eq_of_opening laterIn equal
    rw [same] at closesFirst
    exact absurd closesFirst (Nat.lt_irrefl _)
  · exact .inr ⟨after, closesFirst⟩

theorem Inside.within (inside : earlier.Inside later) (earlierIn : earlier.IsIn lines direct)
    (laterIn : later.IsIn lines direct) : earlier.toBlock.Within later.toBlock := by
  have opensLater := laterIn.opensOn.le_of_le earlierIn.opensOn (Nat.le_of_lt inside.1)
  have closesFirst := earlierIn.closesOn.le_of_le laterIn.closesOn (Nat.le_of_lt inside.2)
  exact ⟨Int.ofNat_le.mpr opensLater, Int.ofNat_le.mpr closesFirst⟩

theorem Inside.reach_lt (inside : earlier.Inside later) (earlierIn : earlier.IsIn lines direct)
    (laterIn : later.IsIn lines direct) : earlier.toBlock.reach < later.toBlock.reach := by
  have shorter := inside.length_lt earlierIn laterIn
  have ordered := earlierIn.openLine_lt
  rw [reach_toBlock, reach_toBlock]
  omega

theorem meetsAtEnd_of_le (ends : earlier.closeLine ≤ later.openLine) :
    earlier.toBlock.MeetsAtEnd later.toBlock := by
  intro line covers laterCovers
  have inEarlier := (covers_toBlock.mp covers).2
  have inLater := (covers_toBlock.mp laterCovers).1
  have atEnd : earlier.closeLine = line := by omega
  have atStart : later.openLine = line := by omega
  exact ⟨congrArg Int.ofNat atEnd, congrArg Int.ofNat atStart⟩

/-- A block does not stand in one that closes in front of it. -/
theorem IsIn.not_within (earlierIn : earlier.IsIn lines direct) (laterIn : later.IsIn lines direct)
    (closesFirst : earlier.closing < later.closing) :
    ¬ later.toBlock.Within earlier.toBlock := by
  intro within
  have first : earlier.openLine ≤ later.openLine := Int.ofNat_le.mp within.first
  have last : later.closeLine ≤ earlier.closeLine := Int.ofNat_le.mp within.last
  have ordered := laterIn.openLine_lt
  rcases earlierIn.ends_or_inside laterIn closesFirst with ends | inside
  · omega
  · have shorter := inside.length_lt earlierIn laterIn
    omega

theorem IsIn.reach_lt_of_within (earlierIn : earlier.IsIn lines direct)
    (laterIn : later.IsIn lines direct) (closesFirst : earlier.closing < later.closing)
    (within : earlier.toBlock.Within later.toBlock) :
    earlier.toBlock.reach < later.toBlock.reach := by
  rcases earlierIn.ends_or_inside laterIn closesFirst with ends | inside
  · have first : later.openLine ≤ earlier.openLine := Int.ofNat_le.mp within.first
    have ordered := earlierIn.openLine_lt
    omega
  · exact inside.reach_lt earlierIn laterIn

end SpannedBlock

/-! ## The order of painting -/

/-- Where blocks are shorter than those they stand in, none is painted over another one that
stands in it. -/
theorem painted_pairwise_not_within
    (shorter : blocks.Pairwise fun first second =>
      (first.Within second → first.reach < second.reach) ∧
        (second.Within first → second.reach < first.reach)) :
    (painted blocks).Pairwise fun earlier later => ¬ earlier.Within later := by
  have shorterPainted := (painted_perm blocks).symm.pairwise shorter And.symm
  refine (shorterPainted.and (painted_pairwise blocks)).imp ?_
  intro earlier later ⟨isShorter, notShorter⟩ within
  exact absurd (isShorter.1 within) (Int.not_lt.mpr notShorter)

/-! ## Families -/

section Closed

variable (closed : ClosedBetween lines direct 0 lines.flatten.length blocks)
include closed

/-- What holds of two blocks of which the first closes in front of the second holds all along
the list. -/
theorem ClosedBetween.pairwise {Related : Block → Block → Prop}
    (related : ∀ earlier later : SpannedBlock, earlier.IsIn lines direct →
      later.IsIn lines direct → earlier.closing < later.closing →
      Related earlier.toBlock later.toBlock) : blocks.Pairwise Related := by
  rcases closed with ⟨spanned, rfl, sorted, members⟩
  rw [List.pairwise_map]
  refine sorted.imp_of_mem ?_
  intro earlier later earlierMember laterMember closesFirst
  exact related earlier later ((members earlier).mp earlierMember).1
    ((members later).mp laterMember).1 closesFirst

theorem ClosedBetween.nestedFamily : NestedFamily blocks lines.length := by
  constructor
  case each =>
    intro block member
    rcases closed.mem_iff.mp member with ⟨source, isIn, rfl⟩
    exact ⟨rfl, source.openLine, source.closeLine, rfl, rfl, isIn.openLine_lt, isIn.closeLine_lt⟩
  case ordered =>
    refine closed.pairwise ?_
    intro earlier later earlierIn laterIn closesFirst
    exact Int.ofNat_le.mpr
      (earlierIn.closesOn.le_of_le laterIn.closesOn (Nat.le_of_lt closesFirst))
  case distinct =>
    refine closed.pairwise ?_
    rintro earlier later earlierIn laterIn closesFirst ⟨sameFirst, sameLast⟩
    exact earlierIn.not_within laterIn closesFirst
      ⟨Int.le_of_eq sameFirst, Int.le_of_eq sameLast.symm⟩
  case apart =>
    refine closed.pairwise ?_
    intro earlier later earlierIn laterIn closesFirst
    rcases earlierIn.ends_or_inside laterIn closesFirst with ends | inside
    · exact .inl (SpannedBlock.meetsAtEnd_of_le ends)
    · exact .inr ⟨inside.within earlierIn laterIn, inside.reach_lt earlierIn laterIn⟩
  case painting =>
    refine ⟨_, sortByLength_eq closed.fits, List.pairwise_map.mp (painted_pairwise_not_within ?_)⟩
    refine closed.pairwise ?_
    intro earlier later earlierIn laterIn closesFirst
    exact ⟨earlierIn.reach_lt_of_within laterIn closesFirst,
      fun within => absurd within (earlierIn.not_within laterIn closesFirst)⟩

end Closed

/-- Where every line has an entry, the blocks that tracking finds are a nested family. -/
theorem trackBlocks_nestedFamily (sameLength : direct.length = lines.length) :
    ∃ blocks, trackBlocks lines direct = .ok blocks ∧ NestedFamily blocks lines.length := by
  rcases trackBlocks_closed (Nat.le_of_eq sameLength.symm) with ⟨blocks, tracked, closed⟩
  exact ⟨blocks, tracked, closed.nestedFamily⟩

/-- Two blocks open on one line and close on one line, two others meet on a line, and a
closing brace stands alone. -/
def sharedLines : List Text :=
  ["\x7b \x7b", "a", "\x7d else \x7b", "b", "\x7d", "\x7b", "c", "\x7d \x7d", "\x7d"].map
    String.toList

def sharedSpans : List (Option SourceSpan) :=
  [none, some ⟨1, 1, 1, 1⟩, none, some ⟨2, 1, 2, 1⟩, some ⟨3, 1, 3, 1⟩, none,
    some ⟨4, 1, 4, 1⟩, none, some ⟨5, 1, 5, 1⟩]

theorem trackBlocks_nestedFamily_sharedLines :
    sharedSpans.length = sharedLines.length ∧
      NestedFamily [⟨0, some 2, some ⟨1, 1, 1, 1⟩⟩, ⟨2, some 4, some ⟨2, 1, 2, 1⟩⟩,
        ⟨5, some 7, some ⟨4, 1, 4, 1⟩⟩, ⟨0, some 7, some ⟨3, 1, 3, 1⟩⟩] sharedLines.length := by
  have sameLength : sharedSpans.length = sharedLines.length := rfl
  rcases trackBlocks_nestedFamily sameLength with ⟨blocks, tracked, nested⟩
  have computed : trackBlocks sharedLines sharedSpans =
      .ok [⟨0, some 2, some ⟨1, 1, 1, 1⟩⟩, ⟨2, some 4, some ⟨2, 1, 2, 1⟩⟩,
        ⟨5, some 7, some ⟨4, 1, 4, 1⟩⟩, ⟨0, some 7, some ⟨3, 1, 3, 1⟩⟩] := rfl
  rw [computed] at tracked
  cases tracked
  exact ⟨sameLength, nested⟩

end DumpLens
