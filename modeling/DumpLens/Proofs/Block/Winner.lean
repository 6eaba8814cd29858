import DumpLens.Proofs.Block.Resolved
import DumpLens.Proofs.Block.Shortest

/-! The block whose span a line shows, said by the blocks of a dump and without their order:
the shortest one around the line, and of equally short ones the one that closes last. Lines
with the same blocks around them show the same span. -/

namespace DumpLens

variable {lines : List Text} {direct : List (Option SourceSpan)} {blocks : List Block}

namespace SpannedBlock

variable {block other : SpannedBlock} {line : Nat}

/-- A block of a dump that covers a line. -/
structure Around (block : SpannedBlock) (lines : List Text) (direct : List (Option SourceSpan))
    (line : Nat) : Prop where
  isIn : block.IsIn lines direct
  covers : block.Covers line

/-- A block is shorter than another one, or as long and does not close in front of it. -/
def Outranks (block other : SpannedBlock) : Prop :=
  block.toBlock.reach < other.toBlock.reach ∨
    block.toBlock.reach = other.toBlock.reach ∧ other.closing ≤ block.closing

/-- Of the blocks around a line one outranks all others. -/
structure Wins (block : SpannedBlock) (lines : List Text) (direct : List (Option SourceSpan))
    (line : Nat) : Prop where
  around : block.Around lines direct line
  outranks : ∀ other : SpannedBlock, other.Around lines direct line → block.Outranks other

theorem IsIn.eq_of_closing (isIn : block.IsIn lines direct) (otherIn : other.IsIn lines direct)
    (equal : block.closing = other.closing) : block = other :=
  isIn.eq_of_opening otherIn (isIn.pair.opening_unique (equal ▸ otherIn.pair))

theorem Wins.unique (wins : block.Wins lines direct line)
    (otherWins : other.Wins lines direct line) : block = other := by
  refine wins.around.isIn.eq_of_closing otherWins.around.isIn ?_
  have notLower := wins.outranks other otherWins.around
  have notHigher := otherWins.outranks block wins.around
  unfold Outranks at notLower notHigher
  omega

end SpannedBlock

section Closed

variable (closed : ClosedBetween lines direct 0 lines.flatten.length blocks) {line : Nat}
include closed

/-- The last of the shortest blocks in the list is the one that wins: blocks stand in the list
in the order in which they close. -/
theorem ShortestAt.exists_wins {place : Nat} {block : Block}
    (shortest : ShortestAt blocks line place block) :
    ∃ source : SpannedBlock, source.Wins lines direct line ∧ source.toBlock = block := by
  rcases closed with ⟨spanned, rfl, sorted, members⟩
  rcases Option.map_eq_some_iff.mp (List.getElem?_map .. ▸ shortest.isAt) with ⟨source, isAt, rfl⟩
  have isIn := ((members source).mp (List.mem_of_getElem? isAt)).1
  refine ⟨source, ⟨⟨isIn, SpannedBlock.covers_toBlock.mp shortest.covers⟩, ?_⟩, rfl⟩
  intro other otherAround
  have bound := otherAround.isIn.pair.closing_lt
  have member := (members other).mpr ⟨otherAround.isIn, Nat.zero_le _, bound⟩
  rcases List.getElem?_of_mem member with ⟨otherPlace, otherAt⟩
  have otherListed : (spanned.map SpannedBlock.toBlock)[otherPlace]? = some other.toBlock := by
    rw [List.getElem?_map, otherAt]
    rfl
  have covers := SpannedBlock.covers_toBlock.mpr otherAround.covers
  rcases Int.lt_or_eq_of_le (shortest.shortest otherPlace _ otherListed covers) with
    shorter | equal
  · exact .inl shorter
  · refine .inr ⟨equal, ?_⟩
    have notBehind := shortest.last otherPlace _ otherListed covers equal.symm
    rcases Nat.lt_or_eq_of_le notBehind with before | same
    · rcases List.getElem?_eq_some_iff.mp otherAt with ⟨otherBound, rfl⟩
      rcases List.getElem?_eq_some_iff.mp isAt with ⟨placeBound, rfl⟩
      exact Nat.le_of_lt (List.pairwise_iff_getElem.mp sorted _ _ otherBound placeBound before)
    · subst same
      exact Nat.le_of_eq (congrArg _ (Option.some.inj (otherAt.symm.trans isAt)))

theorem shownBlock?_span_eq_some_iff {span : SourceSpan} :
    (shownBlock? blocks line).bind Block.span = some span ↔
      ∃ block : SpannedBlock, block.Wins lines direct line ∧ block.span = span := by
  constructor
  · intro shows
    rcases Option.bind_eq_some_iff.mp shows with ⟨painted, shown, hasSpan⟩
    rcases shownBlock?_shortestAt shown with ⟨place, shortest⟩
    rcases shortest.exists_wins closed with ⟨block, wins, rfl⟩
    exact ⟨block, wins, Option.some.inj hasSpan⟩
  · rintro ⟨block, wins, rfl⟩
    cases shown : shownBlock? blocks line with
    | none =>
        have nothing := shownBlock?_eq_none_iff.mp shown block.toBlock
          (closed.mem_iff.mpr ⟨block, wins.around.isIn, rfl⟩)
        exact absurd (SpannedBlock.covers_toBlock.mpr wins.around.covers) nothing
    | some painted =>
        rcases shownBlock?_shortestAt shown with ⟨place, shortest⟩
        rcases shortest.exists_wins closed with ⟨winner, winnerWins, rfl⟩
        rw [winnerWins.unique wins]
        rfl

/-- A line that shows a span has it of its own, or from the block that wins there. -/
theorem spanAt_eq_some_iff {span : SourceSpan} :
    spanAt blocks direct line = some span ↔
      direct[line]? = some (some span) ∨ direct[line]?.join = none ∧
        ∃ block : SpannedBlock, block.Wins lines direct line ∧ block.span = span := by
  rw [spanAt, Option.or_eq_some_iff, Option.join_eq_some_iff, shownBlock?_span_eq_some_iff closed]

end Closed

/-! ## Two dumps -/

section Moved

variable {others : List Text} {otherDirect : List (Option SourceSpan)} {otherBlocks : List Block}
  {line otherLine : Nat}

/-- Where the blocks around one line are those around another one, moved in a way that keeps
their rank, the moved winner wins. -/
theorem SpannedBlock.wins_move_iff {move : SpannedBlock → SpannedBlock}
    (rank : ∀ block other : SpannedBlock, (move block).Outranks (move other) ↔ block.Outranks other)
    (around : ∀ block : SpannedBlock, block.Around others otherDirect otherLine ↔
      ∃ source : SpannedBlock, source.Around lines direct line ∧ move source = block)
    (block : SpannedBlock) :
    block.Wins others otherDirect otherLine ↔
      ∃ source : SpannedBlock, source.Wins lines direct line ∧ move source = block := by
  constructor
  · intro wins
    rcases (around block).mp wins.around with ⟨source, sourceAround, rfl⟩
    refine ⟨source, ⟨sourceAround, ?_⟩, rfl⟩
    intro other otherAround
    exact (rank source other).mp (wins.outranks _ ((around _).mpr ⟨other, otherAround, rfl⟩))
  · rintro ⟨source, wins, rfl⟩
    refine ⟨(around _).mpr ⟨source, wins.around, rfl⟩, ?_⟩
    intro other otherAround
    rcases (around other).mp otherAround with ⟨otherSource, sourceAround, rfl⟩
    exact (rank source otherSource).mpr (wins.outranks otherSource sourceAround)

/-- Two lines with the same span of their own, or none, show the same span where the blocks
around them are the same up to places. -/
theorem spanAt_move (move : SpannedBlock → SpannedBlock)
    (closed : ClosedBetween lines direct 0 lines.flatten.length blocks)
    (otherClosed : ClosedBetween others otherDirect 0 others.flatten.length otherBlocks)
    (own : otherDirect[otherLine]? = direct[line]?)
    (span : ∀ block : SpannedBlock, (move block).span = block.span)
    (rank : ∀ block other : SpannedBlock, (move block).Outranks (move other) ↔ block.Outranks other)
    (around : ∀ block : SpannedBlock, block.Around others otherDirect otherLine ↔
      ∃ source : SpannedBlock, source.Around lines direct line ∧ move source = block) :
    spanAt otherBlocks otherDirect otherLine = spanAt blocks direct line := by
  apply Option.ext
  intro shown
  rw [spanAt_eq_some_iff closed, spanAt_eq_some_iff otherClosed, own]
  simp only [SpannedBlock.wins_move_iff rank around]
  refine or_congr_right (and_congr_right fun _ => ?_)
  constructor
  · rintro ⟨_, ⟨source, wins, rfl⟩, rfl⟩
    exact ⟨source, wins, (span source).symm⟩
  · rintro ⟨source, wins, rfl⟩
    exact ⟨_, ⟨source, wins, rfl⟩, span source⟩

/-- Two lines with the same span of their own, or none, and the same blocks around them show
the same span. -/
theorem spanAt_congr (closed : ClosedBetween lines direct 0 lines.flatten.length blocks)
    (otherClosed : ClosedBetween others otherDirect 0 others.flatten.length otherBlocks)
    (own : otherDirect[line]? = direct[line]?)
    (around : ∀ block : SpannedBlock,
      block.Around others otherDirect line ↔ block.Around lines direct line) :
    spanAt otherBlocks otherDirect line = spanAt blocks direct line := by
  refine spanAt_move id closed otherClosed own (fun _ => rfl) (fun _ _ => Iff.rfl) ?_
  intro block
  rw [around]
  exact ⟨fun isAround => ⟨block, isAround, rfl⟩, fun ⟨_, isAround, same⟩ => same ▸ isAround⟩

end Moved

end DumpLens
