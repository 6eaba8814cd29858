import DumpLens.Proofs.Block.Painted
import DumpLens.Proofs.Block.Tracked
import DumpLens.Proofs.Span.Readable

/-! Blocks over lines. A line without a span of its own shows the span of a block that
covers it, if there is one, and no block inside of that one covers the line too. -/

namespace DumpLens

variable {lines : List Text} {direct : List (Option SourceSpan)} {blocks : List Block}

namespace SpannedBlock

variable {block : SpannedBlock} {line : Nat}

theorem IsIn.closeLine_lt (isIn : block.IsIn lines direct) : block.closeLine < lines.length :=
  isIn.closesOn.lt_length isIn.pair.closing_lt

theorem reach_toBlock (block : SpannedBlock) :
    block.toBlock.reach = (block.closeLine : Int) - block.openLine := rfl

theorem covers_toBlock : block.toBlock.covers line = true ↔ block.Covers line := by
  rw [Block.covers_iff, reach_toBlock]
  simp only [toBlock, Covers]
  omega

theorem IsIn.fits (isIn : block.IsIn lines direct) : block.toBlock.Fits lines.length := by
  have ordered := isIn.openLine_le
  have bound := isIn.closeLine_lt
  refine ⟨rfl, Int.natCast_nonneg _, ?_, ?_⟩
  · rw [reach_toBlock]
    omega
  · rw [reach_toBlock]
    simp only [toBlock]
    omega

end SpannedBlock

theorem ClosedBetween.mem_iff (closed : ClosedBetween lines direct 0 lines.flatten.length blocks)
    {block : Block} :
    block ∈ blocks ↔
      ∃ source : SpannedBlock, source.IsIn lines direct ∧ source.toBlock = block := by
  rcases closed with ⟨spanned, equal, _, members⟩
  rw [equal, List.mem_map]
  constructor
  · intro ⟨source, member, same⟩
    exact ⟨source, ((members source).mp member).1, same⟩
  · intro ⟨source, isIn, same⟩
    exact ⟨source, (members source).mpr ⟨isIn, Nat.zero_le _, isIn.pair.closing_lt⟩, same⟩

theorem ClosedBetween.fits (closed : ClosedBetween lines direct 0 lines.flatten.length blocks) :
    ∀ block ∈ blocks, block.Fits lines.length := by
  intro block member
  rcases closed.mem_iff.mp member with ⟨source, isIn, rfl⟩
  exact isIn.fits

/-- Blocks that are tracked are painted over the lines. -/
theorem computeLineSpans_of_tracked (readable : directSpans lines = .ok direct)
    (tracked : trackBlocks lines direct = .ok blocks)
    (fits : ∀ block ∈ blocks, block.Fits lines.length) :
    computeLineSpans lines = .ok ((List.range lines.length).map (spanAt blocks direct)) := by
  have read (cause : Overlong → SpanError) :
      (Except.ok direct).mapError cause = .ok direct := rfl
  simp only [computeLineSpans, readable, read, bind, Except.bind, tracked]
  exact resolveLineSpans_eq fits (Nat.le_of_eq (length_directSpans readable))

/-- The spans of the lines of a dump come from its blocks and the spans of the lines of
their own. -/
theorem computeLineSpans_eq (readable : directSpans lines = .ok direct) :
    ∃ blocks, ClosedBetween lines direct 0 lines.flatten.length blocks ∧
      computeLineSpans lines = .ok ((List.range lines.length).map (spanAt blocks direct)) := by
  have sameLength := length_directSpans readable
  rcases trackBlocks_closed (Nat.le_of_eq sameLength.symm) with ⟨blocks, tracked, closed⟩
  exact ⟨blocks, closed, computeLineSpans_of_tracked readable tracked closed.fits⟩

/-- Where an annotation cannot be read, the spans of the lines cannot be found. -/
theorem computeLineSpans_of_error {refusal : Overlong}
    (unreadable : directSpans lines = .error refusal) :
    computeLineSpans lines = .error (.overlong refusal.digits) := by
  rw [computeLineSpans, unreadable]
  rfl

/-- Where the spans of the lines are found, all annotations can be read. -/
theorem computeLineSpans_eq_ok {spans : LineSpans} (computed : computeLineSpans lines = .ok spans) :
    ∃ direct blocks, directSpans lines = .ok direct ∧
      ClosedBetween lines direct 0 lines.flatten.length blocks ∧
      spans = (List.range lines.length).map (spanAt blocks direct) := by
  cases readable : directSpans lines with
  | error refusal =>
      rw [computeLineSpans_of_error readable] at computed
      cases computed
  | ok direct =>
      rcases computeLineSpans_eq readable with ⟨blocks, closed, equal⟩
      rw [equal] at computed
      cases computed
      exact ⟨direct, blocks, rfl, closed, rfl⟩

theorem length_computeLineSpans {spans : LineSpans}
    (computed : computeLineSpans lines = .ok spans) :
    spans.length = lines.length := by
  rcases computeLineSpans_eq_ok computed with ⟨direct, blocks, _, _, rfl⟩
  rw [List.length_map, List.length_range]

theorem getElem?_map_spanAt {line : Nat} (inside : line < lines.length) :
    ((List.range lines.length).map (spanAt blocks direct))[line]? =
      some (spanAt blocks direct line) := by
  rw [List.getElem?_map, List.getElem?_range inside, Option.map_some]

/-! ## What a line shows -/

/-- No span comes from blocks where none covers a line. -/
theorem shownBlock?_span_eq_none_iff {line : Nat}
    (closed : ClosedBetween lines direct 0 lines.flatten.length blocks) :
    (shownBlock? blocks line).bind Block.span = none ↔
      ∀ block : SpannedBlock, block.IsIn lines direct → ¬ block.Covers line := by
  constructor
  · intro nothing block isIn covers
    cases shown : shownBlock? blocks line with
    | none =>
        have member := closed.mem_iff.mpr ⟨block, isIn, rfl⟩
        exact shownBlock?_eq_none_iff.mp shown _ member (SpannedBlock.covers_toBlock.mpr covers)
    | some other =>
        rcases closed.mem_iff.mp (shownBlock?_eq_some shown).1 with ⟨source, _, same⟩
        rw [shown, ← same] at nothing
        cases nothing
  · intro nothing
    have none : shownBlock? blocks line = none := by
      refine shownBlock?_eq_none_iff.mpr ?_
      intro block member covers
      rcases closed.mem_iff.mp member with ⟨source, isIn, same⟩
      rw [← same] at covers
      exact nothing source isIn (SpannedBlock.covers_toBlock.mp covers)
    rw [none]
    rfl

/-- A span that comes from blocks is that of one that covers the line, and none inside of
it does. -/
theorem shownBlock?_span_eq_some {line : Nat} {span : SourceSpan}
    (closed : ClosedBetween lines direct 0 lines.flatten.length blocks)
    (shows : (shownBlock? blocks line).bind Block.span = some span) :
    ∃ block : SpannedBlock, block.IsIn lines direct ∧ block.Covers line ∧ block.span = span ∧
      ∀ other : SpannedBlock, other.IsIn lines direct → other.Covers line →
        ¬ other.Inside block := by
  rcases Option.bind_eq_some_iff.mp shows with ⟨painted, shown, hasSpan⟩
  rcases shownBlock?_eq_some shown with ⟨member, covers, shortest⟩
  rcases closed.mem_iff.mp member with ⟨block, isIn, rfl⟩
  refine ⟨block, isIn, SpannedBlock.covers_toBlock.mp covers, Option.some.inj hasSpan, ?_⟩
  intro other otherIn otherCovers inside
  have notShorter := shortest other.toBlock (closed.mem_iff.mpr ⟨other, otherIn, rfl⟩)
    (SpannedBlock.covers_toBlock.mpr otherCovers)
  have shorter := inside.length_lt otherIn isIn
  have ordered := otherIn.openLine_le
  rw [SpannedBlock.reach_toBlock, SpannedBlock.reach_toBlock] at notShorter
  omega

/-- Two lines are within the lines of two braces that match. -/
def InOneBlock (lines : List Text) (line other : Nat) : Prop :=
  ∃ opening closing openLine closeLine, BracePair lines.flatten opening closing ∧
    OnLine lines opening openLine ∧ OnLine lines closing closeLine ∧
    (openLine ≤ line ∧ line ≤ closeLine) ∧ openLine ≤ other ∧ other ≤ closeLine

/-- Every span that is shown is one that a line has of its own: the line that shows it or one
in a block with it. -/
theorem spanAt_origin {line : Nat} {span : SourceSpan}
    (closed : ClosedBetween lines direct 0 lines.flatten.length blocks)
    (shows : spanAt blocks direct line = some span) :
    ∃ other : Nat, direct[other]? = some (some span) ∧
      (other = line ∨ InOneBlock lines line other) := by
  rw [spanAt, Option.or_eq_some_iff] at shows
  rcases shows with own | ⟨_, fromBlock⟩
  · exact ⟨line, Option.join_eq_some_iff.mp own, .inl rfl⟩
  · rcases shownBlock?_span_eq_some closed fromBlock with ⟨block, isIn, covers, rfl, _⟩
    rcases isIn.annotated with ⟨other, beforeClose, annotates, _⟩
    have behindOpen := annotates.openLine_le isIn.opensOn
    exact ⟨other, annotates.own, .inr ⟨_, _, _, _, isIn.pair, isIn.opensOn, isIn.closesOn, covers,
      behindOpen, Nat.le_of_lt beforeClose⟩⟩

/-- The span of a line is read of the line itself or of one in a block with it. -/
theorem computeLineSpans_origin {spans : LineSpans} {line : Nat} {span : SourceSpan}
    (computed : computeLineSpans lines = .ok spans) (shows : spans[line]? = some (some span)) :
    ∃ (other : Nat) (text : Text), lines[other]? = some text ∧ parseSpan text = .ok (some span) ∧
      (other = line ∨ InOneBlock lines line other) := by
  have inside := (List.getElem?_eq_some_iff.mp shows).1
  rw [length_computeLineSpans computed] at inside
  rcases computeLineSpans_eq_ok computed with ⟨direct, blocks, readable, closed, rfl⟩
  rw [getElem?_map_spanAt inside] at shows
  rcases spanAt_origin closed (Option.some.inj shows) with ⟨other, own, near⟩
  rcases exists_parseSpan_of_directSpans readable own with ⟨text, here, parsed⟩
  exact ⟨other, text, here, parsed, near⟩

/-- A line shows the span that it has of its own. -/
theorem computeLineSpans_own {spans : LineSpans} {line : Nat} {text : Text} {span : SourceSpan}
    (computed : computeLineSpans lines = .ok spans) (here : lines[line]? = some text)
    (parsed : parseSpan text = .ok (some span)) : spans[line]? = some (some span) := by
  rcases computeLineSpans_eq_ok computed with ⟨direct, blocks, readable, _, rfl⟩
  rcases directSpans_getElem? readable here with ⟨own, isOwn, isAt⟩
  cases parsed.symm.trans isOwn
  rw [getElem?_map_spanAt (List.getElem?_eq_some_iff.mp here).1, spanAt, isAt]
  rfl

theorem exists_parseSpan_of_computeLineSpans {spans : LineSpans} {span : SourceSpan}
    (computed : computeLineSpans lines = .ok spans) (member : some span ∈ spans) :
    ∃ text ∈ lines, parseSpan text = .ok (some span) := by
  rcases List.getElem?_of_mem member with ⟨line, shows⟩
  rcases computeLineSpans_origin computed shows with ⟨other, text, here, parsed, _⟩
  exact ⟨text, List.mem_of_getElem? here, parsed⟩

/-- The spans of lines can be written and read again. -/
theorem readable_computeLineSpans {spans : LineSpans} {span : SourceSpan}
    (computed : computeLineSpans lines = .ok spans) (member : some span ∈ spans) :
    span.Readable := by
  rcases exists_parseSpan_of_computeLineSpans computed member with ⟨text, _, parsed⟩
  exact readable_parseSpan parsed

/-- The spans of lines are only refused for an annotation that cannot be read. -/
theorem exists_of_computeLineSpans_eq_error {cause : SpanError}
    (refused : computeLineSpans lines = .error cause) :
    ∃ refusal : Overlong, (∃ line ∈ lines, parseSpan line = .error refusal) ∧
      cause = .overlong refusal.digits := by
  cases readable : directSpans lines with
  | error refusal =>
      rw [computeLineSpans_of_error readable] at refused
      cases refused
      exact ⟨refusal, exists_of_mapM_eq_error readable, rfl⟩
  | ok direct =>
      rcases computeLineSpans_eq readable with ⟨_, _, computed⟩
      rw [computed] at refused
      cases refused

end DumpLens
