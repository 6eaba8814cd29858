import DumpLens.Proofs.Block.Painted

/-! The shortest block wins. Sorting keeps the order of equally long blocks, so a line
without a span of its own shows the block that stands last in the list among the shortest
ones that cover the line. -/

namespace DumpLens

variable {count line : Nat} {blocks : List Block} {direct : List (Option SourceSpan)}

/-! ## Places in the list

A block may stand in the list more than once, so it is painted together with its place. -/

/-- Blocks with how far they reach and their places, in the order in which they are
painted. -/
def placedOrder (blocks : List Block) : List ((Int × Block) × Nat) :=
  (blocks.map fun block => (block.reach, block)).zipIdx.mergeSort (List.zipIdxLE reachesAsFar)

theorem map_placedOrder (blocks : List Block) :
    (placedOrder blocks).map Prod.fst = paintOrder blocks :=
  List.mergeSort_zipIdx

theorem mem_placedOrder {entry : (Int × Block) × Nat} :
    entry ∈ placedOrder blocks ↔
      entry.1.1 = entry.1.2.reach ∧ blocks[entry.2]? = some entry.1.2 := by
  rw [placedOrder, List.mem_mergeSort, List.mem_zipIdx_iff_getElem?, List.getElem?_map,
    Option.map_eq_some_iff]
  constructor
  · intro ⟨block, isAt, equal⟩
    rw [← equal]
    exact ⟨rfl, isAt⟩
  · intro ⟨reach, isAt⟩
    exact ⟨entry.1.2, isAt, by rw [← reach]⟩

def placed (blocks : List Block) : List (Block × Nat) :=
  (placedOrder blocks).map fun entry => (entry.1.2, entry.2)

theorem map_placed (blocks : List Block) : (placed blocks).map Prod.fst = painted blocks := by
  rw [painted, ← map_placedOrder, placed, List.map_map, List.map_map]
  rfl

theorem mem_placed {place : Nat} {block : Block} :
    (block, place) ∈ placed blocks ↔ blocks[place]? = some block := by
  rw [placed, List.mem_map]
  constructor
  · intro ⟨entry, member, equal⟩
    cases equal
    exact (mem_placedOrder.mp member).2
  · intro isAt
    exact ⟨((block.reach, block), place), mem_placedOrder.mpr ⟨rfl, isAt⟩, rfl⟩

/-- A block is painted in front of shorter ones, and in front of equally long ones behind it
in the list. -/
def PaintedBefore (earlier later : Block × Nat) : Prop :=
  later.1.reach < earlier.1.reach ∨ later.1.reach = earlier.1.reach ∧ earlier.2 ≤ later.2

theorem placed_pairwise (blocks : List Block) : (placed blocks).Pairwise PaintedBefore := by
  have sorted := List.pairwise_mergeSort (List.zipIdxLE_trans reachesAsFar_trans)
    (List.zipIdxLE_total reachesAsFar_total) (blocks.map fun block => (block.reach, block)).zipIdx
  rw [placed, List.pairwise_map]
  refine List.Pairwise.imp_of_mem ?_ sorted
  intro earlier later earlierMember laterMember ordered
  have earlierReach := (mem_placedOrder.mp earlierMember).1
  have laterReach := (mem_placedOrder.mp laterMember).1
  simp only [List.zipIdxLE, reachesAsFar, decide_eq_true_eq] at ordered
  simp only [PaintedBefore]
  split at ordered
  · split at ordered
    · have inOrder := of_decide_eq_true ordered
      omega
    · omega
  · cases ordered

/-! ## The shortest block -/

/-- The block at a place of a list is the shortest one that covers a line, and the last one
in the list of those that are as short. -/
structure ShortestAt (blocks : List Block) (line place : Nat) (block : Block) : Prop where
  isAt : blocks[place]? = some block
  covers : block.covers line = true
  shortest : ∀ (other : Nat) otherBlock, blocks[other]? = some otherBlock →
    otherBlock.covers line = true → block.reach ≤ otherBlock.reach
  last : ∀ (other : Nat) otherBlock, blocks[other]? = some otherBlock →
    otherBlock.covers line = true → otherBlock.reach = block.reach → other ≤ place

theorem ShortestAt.unique {place other : Nat} {block otherBlock : Block}
    (shortest : ShortestAt blocks line place block)
    (otherShortest : ShortestAt blocks line other otherBlock) : block = otherBlock := by
  have notLonger := shortest.shortest other otherBlock otherShortest.isAt otherShortest.covers
  have notShorter := otherShortest.shortest place block shortest.isAt shortest.covers
  have sameReach : otherBlock.reach = block.reach := Int.le_antisymm notShorter notLonger
  have notBehind := shortest.last other otherBlock otherShortest.isAt otherShortest.covers
    sameReach
  have notBefore := otherShortest.last place block shortest.isAt shortest.covers
    sameReach.symm
  have samePlace : place = other := Nat.le_antisymm notBefore notBehind
  subst samePlace
  exact Option.some.inj (shortest.isAt.symm.trans otherShortest.isAt)

/-- The block that is painted last over a line is the last one of the shortest. -/
theorem shownBlock?_shortestAt {block : Block} (shown : shownBlock? blocks line = some block) :
    ∃ place, ShortestAt blocks line place block := by
  rw [shownBlock?, ← map_placed, List.filter_map, List.getLast?_map,
    Option.map_eq_some_iff] at shown
  rcases shown with ⟨⟨found, place⟩, isLast, rfl⟩
  show ∃ place, ShortestAt blocks line place found
  rcases List.getLast?_eq_some_iff.mp isLast with ⟨earlier, covering⟩
  have isCovering : (found, place) ∈ (placed blocks).filter (Block.covers line ∘ Prod.fst) := by
    rw [covering]
    exact List.mem_concat_self
  have parts := List.mem_filter.mp isCovering
  have sorted := (placed_pairwise blocks).filter (Block.covers line ∘ Prod.fst)
  rw [covering] at sorted
  -- Of those that cover the line, all others are painted in front of the one found.
  have notLater (other : Nat) (otherBlock : Block) (isAt : blocks[other]? = some otherBlock)
      (covers : otherBlock.covers line = true) :
      found.reach < otherBlock.reach ∨ found.reach = otherBlock.reach ∧ other ≤ place := by
    have member : (otherBlock, other) ∈ (placed blocks).filter (Block.covers line ∘ Prod.fst) :=
      List.mem_filter.mpr ⟨mem_placed.mpr isAt, covers⟩
    rw [covering] at member
    rcases List.mem_append.mp member with isEarlier | isSame
    · exact (List.pairwise_append.mp sorted).2.2 _ isEarlier _ List.mem_cons_self
    · cases List.mem_singleton.mp isSame
      exact .inr ⟨rfl, Nat.le_refl _⟩
  refine ⟨place, mem_placed.mp parts.1, parts.2, ?_, ?_⟩
  · intro other otherBlock isAt covers
    rcases notLater other otherBlock isAt covers with shorter | ⟨same, _⟩
    · exact Int.le_of_lt shorter
    · exact Int.le_of_eq same
  · intro other otherBlock isAt covers same
    rcases notLater other otherBlock isAt covers with shorter | ⟨_, inFront⟩
    · omega
    · exact inFront

/-! ## What a line is given -/

/-- What blocks and direct spans give a line: its direct span, or else the span of the last
of the shortest blocks that cover it, which may have none. -/
inductive GivesSpan (blocks : List Block) (direct : List (Option SourceSpan)) (line : Nat) :
    Option SourceSpan → Prop
  | own {span : SourceSpan} : direct[line]? = some (some span) →
      GivesSpan blocks direct line (some span)
  | shortest {place : Nat} {block : Block} : direct[line]?.join = none →
      ShortestAt blocks line place block → GivesSpan blocks direct line block.span
  | uncovered : direct[line]?.join = none → (∀ block ∈ blocks, block.covers line = false) →
      GivesSpan blocks direct line none

/-- The span that painting leaves on a line is the one that the line is given. -/
theorem spanAt_givesSpan (blocks : List Block) (direct : List (Option SourceSpan)) (line : Nat) :
    GivesSpan blocks direct line (spanAt blocks direct line) := by
  unfold spanAt
  cases own : direct[line]?.join with
  | some span => exact .own (Option.join_eq_some_iff.mp own)
  | none =>
      cases shown : shownBlock? blocks line with
      | none =>
          refine .uncovered own ?_
          intro block member
          simpa using shownBlock?_eq_none_iff.mp shown block member
      | some block =>
          rcases shownBlock?_shortestAt shown with ⟨place, shortest⟩
          exact .shortest own shortest

theorem GivesSpan.eq_spanAt {result : Option SourceSpan}
    (gives : GivesSpan blocks direct line result) : result = spanAt blocks direct line := by
  cases gives with
  | own isOwn =>
      rw [spanAt, isOwn]
      rfl
  | @shortest place block without shortest =>
      rw [spanAt, without, Option.none_or]
      cases shown : shownBlock? blocks line with
      | none =>
          have nothing := shownBlock?_eq_none_iff.mp shown block
          exact absurd shortest.covers (nothing (List.mem_of_getElem? shortest.isAt))
      | some shownBlock =>
          rcases shownBlock?_shortestAt shown with ⟨_, shownShortest⟩
          rw [shortest.unique shownShortest]
          rfl
  | uncovered without nothing =>
      have noBlock : shownBlock? blocks line = none := by
        refine shownBlock?_eq_none_iff.mpr ?_
        intro block member
        simp [nothing block member]
      rw [spanAt, without, noBlock]
      rfl

/-- Blocks within the lines of a dump and direct spans for some of the lines give every
line its span, and give no other line one. -/
theorem resolveLineSpans_givesSpans (fits : ∀ block ∈ blocks, block.Fits count)
    (bound : direct.length ≤ count) :
    ∃ spans, resolveLineSpans count blocks direct = .ok spans ∧ spans.length = count ∧
      ∀ (line : Nat) result, line < count →
        (spans[line]? = some result ↔ GivesSpan blocks direct line result) := by
  refine ⟨_, resolveLineSpans_eq fits bound, by rw [List.length_map, List.length_range], ?_⟩
  intro line result inside
  rw [List.getElem?_map, List.getElem?_range inside, Option.map_some, Option.some_inj]
  constructor
  · intro equal
    exact equal ▸ spanAt_givesSpan blocks direct line
  · intro gives
    exact gives.eq_spanAt.symm

/-- Blocks of one length that overlap, one of them without a span, in a longer one that
stands in the list twice with different spans. -/
def overlappingBlocks : List Block :=
  [⟨1, some 2, some ⟨1, 1, 1, 1⟩⟩, ⟨0, some 4, some ⟨2, 1, 2, 1⟩⟩, ⟨2, some 3, none⟩,
    ⟨0, some 4, some ⟨3, 1, 3, 1⟩⟩]

/-- Direct spans for the first lines only. -/
def firstSpans : List (Option SourceSpan) := [none, some ⟨4, 1, 4, 1⟩]

theorem resolveLineSpans_givesSpans_overlappingBlocks :
    (∀ block ∈ overlappingBlocks, block.Fits 6) ∧ firstSpans.length ≤ 6 ∧
      ∃ spans, resolveLineSpans 6 overlappingBlocks firstSpans = .ok spans ∧
        spans = [some ⟨3, 1, 3, 1⟩, some ⟨4, 1, 4, 1⟩, none, none, some ⟨3, 1, 3, 1⟩, none] ∧
        ∀ (line : Nat) result, line < 6 →
          (spans[line]? = some result ↔ GivesSpan overlappingBlocks firstSpans line result) := by
  have fits : ∀ block ∈ overlappingBlocks, block.Fits 6 := by
    simp only [overlappingBlocks, List.forall_mem_cons]
    refine ⟨?_, ?_, ?_, ?_, List.forall_mem_nil _⟩ <;> constructor <;> decide
  have bound : firstSpans.length ≤ 6 := by decide
  rcases resolveLineSpans_givesSpans fits bound with ⟨spans, resolved, _, each⟩
  have computed : resolveLineSpans 6 overlappingBlocks firstSpans =
      .ok [some ⟨3, 1, 3, 1⟩, some ⟨4, 1, 4, 1⟩, none, none, some ⟨3, 1, 3, 1⟩, none] := by
    simp [resolveLineSpans, sortByLength, overlappingBlocks, firstSpans, Block.length,
      List.mergeSort, List.MergeSort.Internal.splitInTwo, LineSpans.paintBlock,
      LineSpans.paintDirect, bind, Except.bind, pure, Except.pure, Except.map]
  exact ⟨fits, bound, spans, resolved, Except.ok.inj (resolved.symm.trans computed), each⟩

end DumpLens
