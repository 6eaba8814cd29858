import DumpLens.Block.LineSpans

/-! What painting shows. A line without a span of its own shows the block that was painted
over it last. As blocks are painted in the order of falling length, that is a shortest one
of those that cover the line. -/

namespace DumpLens

/-! ## Blocks within a dump -/

namespace Block

/-- How many lines a block reaches beyond its first. -/
def reach (block : Block) : Int :=
  block.closeLine.getD block.openLine - block.openLine

/-- A block is closed, and all of its lines are among the given number of lines. -/
structure Fits (block : Block) (count : Nat) : Prop where
  closed : block.closeLine.isSome
  fromStart : 0 ≤ block.openLine
  ordered : 0 ≤ block.reach
  toEnd : block.openLine + block.reach < count

def covers (line : Nat) (block : Block) : Bool :=
  block.openLine ≤ line && line ≤ block.openLine + block.reach

theorem covers_iff {line : Nat} {block : Block} :
    block.covers line = true ↔ block.openLine ≤ line ∧ line ≤ block.openLine + block.reach := by
  rw [covers, Bool.and_eq_true, decide_eq_true_eq, decide_eq_true_eq]

theorem Fits.length {block : Block} {count : Nat} (fits : block.Fits count) :
    block.length = .ok block.reach := by
  rcases block with ⟨openLine, closeLine, span⟩
  cases closeLine with
  | none => cases fits.closed
  | some closeLine => rfl

end Block

/-! ## The order of painting -/

/-- The comparison of blocks with how far they reach, by which they are sorted. -/
def reachesAsFar (left right : Int × Block) : Bool :=
  right.1 ≤ left.1

theorem reachesAsFar_trans (first second third : Int × Block)
    (firstFar : reachesAsFar first second = true) (secondFar : reachesAsFar second third = true) :
    reachesAsFar first third = true :=
  decide_eq_true (Int.le_trans (of_decide_eq_true secondFar) (of_decide_eq_true firstFar))

theorem reachesAsFar_total (first second : Int × Block) :
    (reachesAsFar first second || reachesAsFar second first) = true := by
  rw [reachesAsFar, reachesAsFar, Bool.or_eq_true, decide_eq_true_eq, decide_eq_true_eq]
  exact Int.le_total second.1 first.1

/-- Blocks with how far they reach, in the order in which they are painted. -/
def paintOrder (blocks : List Block) : List (Int × Block) :=
  (blocks.map fun block => (block.reach, block)).mergeSort fun left right => right.1 ≤ left.1

theorem sortByLength_eq {blocks : List Block} {count : Nat}
    (fits : ∀ block ∈ blocks, block.Fits count) :
    sortByLength blocks = .ok (paintOrder blocks) := by
  have measured : (blocks.mapM fun block => do
      let length ← block.length
      pure (length, block)) = .ok (blocks.map fun block => (block.reach, block)) := by
    induction blocks with
    | nil => rfl
    | cons block rest induction =>
        have restFits : ∀ block ∈ rest, block.Fits count := by
          intro other member
          exact fits other (List.mem_cons_of_mem block member)
        rw [List.mapM_cons, (fits block List.mem_cons_self).length, induction restFits]
        rfl
  rw [sortByLength, measured]
  rfl

theorem mem_paintOrder {blocks : List Block} {measured : Int × Block} :
    measured ∈ paintOrder blocks ↔ measured.2 ∈ blocks ∧ measured.1 = measured.2.reach := by
  rw [paintOrder, List.mem_mergeSort, List.mem_map]
  constructor
  · intro ⟨block, member, equal⟩
    subst equal
    exact ⟨member, rfl⟩
  · intro ⟨member, equal⟩
    exact ⟨measured.2, member, by rw [← equal]⟩

def painted (blocks : List Block) : List Block :=
  (paintOrder blocks).map Prod.snd

theorem painted_perm (blocks : List Block) : (painted blocks).Perm blocks := by
  have sorted := (List.mergeSort_perm (blocks.map fun block => (block.reach, block))
    reachesAsFar).map Prod.snd
  rw [List.map_map] at sorted
  exact sorted.trans (.of_eq (List.map_id blocks))

theorem mem_painted {blocks : List Block} {block : Block} :
    block ∈ painted blocks ↔ block ∈ blocks :=
  (painted_perm blocks).mem_iff

theorem painted_pairwise (blocks : List Block) :
    (painted blocks).Pairwise fun earlier later => later.reach ≤ earlier.reach := by
  have sorted := List.pairwise_mergeSort reachesAsFar_trans reachesAsFar_total
    (blocks.map fun block => (block.reach, block))
  rw [painted, List.pairwise_map]
  refine List.Pairwise.imp_of_mem ?_ sorted
  intro earlier later earlierMember laterMember ordered
  rw [← (mem_paintOrder.mp earlierMember).2, ← (mem_paintOrder.mp laterMember).2]
  exact of_decide_eq_true ordered

/-- The block that is painted last over a line. -/
def shownBlock? (blocks : List Block) (line : Nat) : Option Block :=
  ((painted blocks).filter (Block.covers line)).getLast?

theorem shownBlock?_eq_none_iff {blocks : List Block} {line : Nat} :
    shownBlock? blocks line = none ↔ ∀ block ∈ blocks, ¬ block.covers line = true := by
  rw [shownBlock?, List.getLast?_eq_none_iff, List.filter_eq_nil_iff]
  constructor
  · intro nothing block member
    exact nothing block (mem_painted.mpr member)
  · intro nothing block member
    exact nothing block (mem_painted.mp member)

/-- The block that a line shows covers it, and no other one that does is shorter. -/
theorem shownBlock?_eq_some {blocks : List Block} {line : Nat} {block : Block}
    (shown : shownBlock? blocks line = some block) :
    block ∈ blocks ∧ block.covers line = true ∧
      ∀ other ∈ blocks, other.covers line = true → block.reach ≤ other.reach := by
  rcases List.getLast?_eq_some_iff.mp shown with ⟨earlier, covering⟩
  have isCovering : block ∈ (painted blocks).filter (Block.covers line) := by
    rw [covering]
    exact List.mem_concat_self
  have parts := List.mem_filter.mp isCovering
  refine ⟨mem_painted.mp parts.1, parts.2, ?_⟩
  intro other member otherCovers
  have otherCovering := List.mem_filter.mpr ⟨mem_painted.mpr member, otherCovers⟩
  have sorted := (painted_pairwise blocks).filter (Block.covers line)
  rw [covering] at otherCovering sorted
  rcases List.mem_append.mp otherCovering with isEarlier | isLast
  · exact (List.pairwise_append.mp sorted).2.2 other isEarlier block List.mem_cons_self
  · exact Int.le_of_eq (by rw [List.mem_singleton.mp isLast])

/-! ## Painting -/

namespace LineSpans

/-- Painting a block changes the lines that it covers. -/
theorem paintBlock_eq {spans : LineSpans} {block : Block} (fits : block.Fits spans.length) :
    paintBlock spans block block.reach =
      .ok (spans.mapIdx fun line span => if block.covers line then block.span else span) := by
  have fromStart := fits.fromStart
  have ordered := fits.ordered
  have toEnd := fits.toEnd
  have notNegative : ¬ block.reach < 0 := by omega
  have inRange : ¬ (block.openLine < -spans.length ∨
      spans.length ≤ block.openLine + block.reach) := by omega
  simp only [paintBlock, if_neg notNegative, if_neg inRange]
  congr 1
  refine List.mapIdx_eq_mapIdx_iff.mpr ?_
  intro line bound
  have fromFront : ¬ block.openLine ≤ (line : Int) - spans.length := by omega
  simp only [fromFront, false_and, or_false, Block.covers_iff]

/-- Painting blocks one after the other shows the last one of them that covers a line. -/
theorem paintAll_eq {spans : LineSpans} {blocks : List (Int × Block)}
    (measured : ∀ block ∈ blocks, block.1 = block.2.reach)
    (fits : ∀ block ∈ blocks, block.2.Fits spans.length) :
    blocks.foldlM (fun spans (length, block) => paintBlock spans block length) spans =
      .ok (spans.mapIdx fun line span =>
        (((blocks.map Prod.snd).filter (Block.covers line)).getLast?).elim span Block.span) := by
  induction blocks generalizing spans with
  | nil => exact congrArg Except.ok (List.mapIdx_eq_iff.mpr fun _ => (Option.map_id' ..).symm).symm
  | cons first rest induction =>
      rcases first with ⟨length, block⟩
      have sameLength : length = block.reach := measured _ List.mem_cons_self
      subst sameLength
      rw [List.foldlM_cons]
      show (paintBlock spans block block.reach >>= _) = _
      rw [paintBlock_eq (fits _ List.mem_cons_self)]
      show List.foldlM _ _ rest = _
      rw [induction (fun other member => measured other (List.mem_cons_of_mem _ member))]
      · rw [List.mapIdx_mapIdx]
        congr 2
        funext line span
        rw [List.map_cons, List.filter_cons]
        by_cases covers : block.covers line = true
        · rw [if_pos covers, List.getLast?_cons]
          cases ((rest.map Prod.snd).filter (Block.covers line)).getLast? with
          | none => simp [covers]
          | some later => rfl
        · rw [if_neg covers]
          simp [covers]
      · intro other member
        rw [List.length_mapIdx]
        exact fits other (List.mem_cons_of_mem _ member)

/-- Painting the direct spans puts those that lines have over what was painted before. -/
theorem paintDirect_eq {spans : LineSpans} {direct : List (Option SourceSpan)}
    (bound : direct.length ≤ spans.length) :
    paintDirect spans direct = .ok (spans.mapIdx fun line => (direct[line]?.join).or) := by
  induction direct generalizing spans with
  | nil => exact congrArg Except.ok (List.mapIdx_eq_iff.mpr fun _ => (Option.map_id' ..).symm).symm
  | cons own rest induction =>
      cases spans with
      | nil => cases bound
      | cons span spans =>
          rw [paintDirect, induction (Nat.le_of_succ_le_succ bound), List.mapIdx_cons]
          rfl

end LineSpans

/-- The span that blocks and direct spans give a line: its direct span, or the span of the
block that is painted last over it. -/
def spanAt (blocks : List Block) (direct : List (Option SourceSpan)) (line : Nat) :
    Option SourceSpan :=
  (direct[line]?.join).or ((shownBlock? blocks line).bind Block.span)

theorem resolveLineSpans_eq {count : Nat} {blocks : List Block} {direct : List (Option SourceSpan)}
    (fits : ∀ block ∈ blocks, block.Fits count) (bound : direct.length ≤ count) :
    resolveLineSpans count blocks direct =
      .ok ((List.range count).map (spanAt blocks direct)) := by
  have empty : (List.replicate count (none : Option SourceSpan)).length = count :=
    List.length_replicate
  have fitsEmpty : ∀ block ∈ paintOrder blocks,
      block.2.Fits (List.replicate count (none : Option SourceSpan)).length := by
    intro block member
    rw [empty]
    exact fits block.2 (mem_paintOrder.mp member).1
  have painting :=
    LineSpans.paintAll_eq (fun block member => (mem_paintOrder.mp member).2) fitsEmpty
  simp only [resolveLineSpans, sortByLength_eq fits, bind, Except.bind, painting]
  rw [LineSpans.paintDirect_eq (by rw [List.length_mapIdx, empty]; exact bound)]
  congr 1
  refine List.mapIdx_eq_iff.mpr ?_
  intro line
  rw [List.getElem?_mapIdx, List.getElem?_replicate, List.getElem?_map]
  by_cases inside : line < count
  · rw [if_pos inside, List.getElem?_range inside]
    simp only [Option.map_some, spanAt, shownBlock?, painted]
    cases ((List.map Prod.snd (paintOrder blocks)).filter (Block.covers line)).getLast? <;> rfl
  · rw [if_neg inside, List.getElem?_eq_none (by rw [List.length_range]; omega)]
    rfl

end DumpLens
