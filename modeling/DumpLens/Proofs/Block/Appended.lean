import DumpLens.Proofs.Block.Winner

/-! Dumps put together from two. The blocks of the first part are blocks of the whole, and so
are those of the second part, moved behind the first. Only a block that is open behind the
first part can reach over both. -/

namespace DumpLens

/-! ## Braces -/

section Braces

variable {first second : Text} {opening closing place : Nat}

theorem innermostAt_append_left (inside : place ≤ first.length) :
    InnermostAt (first ++ second) opening place ↔ InnermostAt first opening place := by
  have taken : (first ++ second).take place = first.take place :=
    List.take_append_of_le_length inside
  constructor
  · rintro ⟨brace, before, balanced⟩
    rw [List.getElem?_append_left (Nat.lt_of_lt_of_le before inside)] at brace
    exact ⟨brace, before, taken ▸ balanced⟩
  · rintro ⟨brace, before, balanced⟩
    refine ⟨?_, before, taken.symm ▸ balanced⟩
    rw [List.getElem?_append_left (Nat.lt_of_lt_of_le before inside), brace]

theorem innermostAt_append_right :
    InnermostAt (first ++ second) (first.length + opening) (first.length + place) ↔
      InnermostAt second opening place := by
  have brace : (first ++ second)[first.length + opening]? = second[opening]? := by
    rw [List.getElem?_append_right (Nat.le_add_right ..), Nat.add_sub_cancel_left]
  have between : ((first ++ second).take (first.length + place)).drop
      (first.length + opening + 1) = (second.take place).drop (opening + 1) := by
    rw [List.take_length_add_append, Nat.add_assoc, List.drop_length_add_append]
  constructor
  · intro innermost
    exact ⟨brace.symm.trans innermost.brace, Nat.lt_of_add_lt_add_left innermost.before,
      between ▸ innermost.balanced⟩
  · intro innermost
    exact ⟨brace.trans innermost.brace, Nat.add_lt_add_left innermost.before _,
      between.symm ▸ innermost.balanced⟩

theorem bracePair_append_left (inside : closing < first.length) :
    BracePair (first ++ second) opening closing ↔ BracePair first opening closing := by
  have brace : (first ++ second)[closing]? = first[closing]? :=
    List.getElem?_append_left inside
  constructor
  · intro pair
    exact ⟨(innermostAt_append_left (Nat.le_of_lt inside)).mp pair.innermost,
      brace.symm.trans pair.brace⟩
  · intro pair
    exact ⟨(innermostAt_append_left (Nat.le_of_lt inside)).mpr pair.innermost,
      brace.trans pair.brace⟩

theorem bracePair_append_right :
    BracePair (first ++ second) (first.length + opening) (first.length + closing) ↔
      BracePair second opening closing := by
  have brace : (first ++ second)[first.length + closing]? = second[closing]? := by
    rw [List.getElem?_append_right (Nat.le_add_right ..), Nat.add_sub_cancel_left]
  constructor
  · intro pair
    exact ⟨innermostAt_append_right.mp pair.innermost, brace.symm.trans pair.brace⟩
  · intro pair
    exact ⟨innermostAt_append_right.mpr pair.innermost, brace.trans pair.brace⟩

end Braces

variable {first second : List Text} {direct later : List (Option SourceSpan)}

/-! ## Places and lines -/

section Lines

variable {place line : Nat}

theorem lineStart_append_left (bound : line ≤ first.length) :
    lineStart (first ++ second) line = lineStart first line := by
  rw [lineStart, lineStart, List.take_append_of_le_length bound]

theorem lineStart_append_right :
    lineStart (first ++ second) (first.length + line) =
      first.flatten.length + lineStart second line := by
  rw [lineStart, lineStart, List.take_length_add_append, List.flatten_append, List.length_append]

theorem onLine_append_left (bound : line < first.length) :
    OnLine (first ++ second) place line ↔ OnLine first place line := by
  rw [OnLine, OnLine, lineStart_append_left (Nat.le_of_lt bound), lineStart_append_left bound]

theorem onLine_append_right :
    OnLine (first ++ second) (first.flatten.length + place) (first.length + line) ↔
      OnLine second place line := by
  rw [OnLine, OnLine, Nat.add_assoc, lineStart_append_right, lineStart_append_right]
  omega

/-- Places in the first part are those on its lines. -/
theorem OnLine.lt_length_iff (onLine : OnLine (first ++ second) place line) :
    line < first.length ↔ place < first.flatten.length := by
  have atSeam : lineStart (first ++ second) first.length = first.flatten.length := by
    rw [lineStart_append_left (Nat.le_refl _), lineStart_length]
  constructor
  · intro before
    have ends := lineStart_mono (first ++ second) (Nat.succ_le_of_lt before)
    exact Nat.lt_of_lt_of_le onLine.2 (atSeam ▸ ends)
  · intro inside
    rcases Nat.lt_or_ge line first.length with before | behind
    · exact before
    · have start := lineStart_mono (first ++ second) behind
      have notBefore := onLine.1
      omega

end Lines

/-! ## Blocks -/

/-- A block of a dump as it stands behind the lines of another dump. -/
def SpannedBlock.behind (first : List Text) (block : SpannedBlock) : SpannedBlock where
  opening := first.flatten.length + block.opening
  closing := first.flatten.length + block.closing
  openLine := first.length + block.openLine
  closeLine := first.length + block.closeLine
  span := block.span

section Blocks

variable (sameLength : direct.length = first.length) {opening line count : Nat} {span : SourceSpan}
include sameLength

theorem own_append_left (bound : line < first.length) : (direct ++ later)[line]? = direct[line]? :=
  List.getElem?_append_left (sameLength.symm ▸ bound)

theorem own_append_right : (direct ++ later)[first.length + line]? = later[line]? := by
  rw [← sameLength, List.getElem?_append_right (Nat.le_add_right ..), Nat.add_sub_cancel_left]

theorem annotates_append_left (bound : line < first.length) :
    Annotates (first ++ second) (direct ++ later) opening line span ↔
      Annotates first direct opening line span := by
  have own : (direct ++ later)[line]? = direct[line]? := own_append_left sameLength bound
  have place : lineStart first (line + 1) ≤ first.flatten.length :=
    lineStart_length first ▸ lineStart_mono first (Nat.succ_le_of_lt bound)
  have innermost : InnermostAt (first ++ second).flatten opening
      (lineStart (first ++ second) (line + 1)) ↔
        InnermostAt first.flatten opening (lineStart first (line + 1)) := by
    rw [lineStart_append_left (Nat.succ_le_of_lt bound), List.flatten_append,
      innermostAt_append_left place]
  constructor
  · intro annotates
    exact ⟨own.symm.trans annotates.own, innermost.mp annotates.innermost⟩
  · intro annotates
    exact ⟨own.trans annotates.own, innermost.mpr annotates.innermost⟩

theorem annotates_append_right :
    Annotates (first ++ second) (direct ++ later) (first.flatten.length + opening)
        (first.length + line) span ↔
      Annotates second later opening line span := by
  have own : (direct ++ later)[first.length + line]? = later[line]? := own_append_right sameLength
  have innermost : InnermostAt (first ++ second).flatten (first.flatten.length + opening)
      (lineStart (first ++ second) (first.length + line + 1)) ↔
        InnermostAt second.flatten opening (lineStart second (line + 1)) := by
    rw [Nat.add_assoc, lineStart_append_right, List.flatten_append, innermostAt_append_right]
  constructor
  · intro annotates
    exact ⟨own.symm.trans annotates.own, innermost.mp annotates.innermost⟩
  · intro annotates
    exact ⟨own.trans annotates.own, innermost.mpr annotates.innermost⟩

theorem lastAnnotation_append_left (bound : count ≤ first.length) :
    LastAnnotation (first ++ second) (direct ++ later) opening count span ↔
      LastAnnotation first direct opening count span := by
  have annotations {line : Nat} {span : SourceSpan} (ahead : line < count) :
      Annotates (first ++ second) (direct ++ later) opening line span ↔
        Annotates first direct opening line span :=
    annotates_append_left sameLength (Nat.lt_of_lt_of_le ahead bound)
  constructor
  · rintro ⟨line, ahead, annotates, nothingLater⟩
    exact ⟨line, ahead, (annotations ahead).mp annotates, fun laterLine behind laterAhead other =>
      mt (annotations laterAhead).mpr (nothingLater laterLine behind laterAhead other)⟩
  · rintro ⟨line, ahead, annotates, nothingLater⟩
    exact ⟨line, ahead, (annotations ahead).mpr annotates, fun laterLine behind laterAhead other =>
      mt (annotations laterAhead).mp (nothingLater laterLine behind laterAhead other)⟩

theorem lastAnnotation_append_right :
    LastAnnotation (first ++ second) (direct ++ later) (first.flatten.length + opening)
        (first.length + count) span ↔
      LastAnnotation second later opening count span := by
  -- No line of the first part is behind a brace of the second one.
  have behindSeam {line : Nat} {span : SourceSpan} (annotates : Annotates (first ++ second)
      (direct ++ later) (first.flatten.length + opening) line span) : first.length ≤ line := by
    rcases Nat.lt_or_ge line first.length with before | notBefore
    · have ends : lineStart (first ++ second) (line + 1) ≤
          lineStart (first ++ second) first.length := lineStart_mono _ before
      rw [lineStart_append_left (Nat.le_refl _), lineStart_length] at ends
      have behind := annotates.innermost.before
      omega
    · exact notBefore
  constructor
  · rintro ⟨line, ahead, annotates, nothingLater⟩
    rcases Nat.exists_eq_add_of_le (behindSeam annotates) with ⟨line, rfl⟩
    refine ⟨line, by omega, (annotates_append_right sameLength).mp annotates, ?_⟩
    intro laterLine behind laterAhead other annotatesLater
    exact nothingLater (first.length + laterLine) (by omega) (by omega) other
      ((annotates_append_right sameLength).mpr annotatesLater)
  · rintro ⟨line, ahead, annotates, nothingLater⟩
    refine ⟨first.length + line, by omega, (annotates_append_right sameLength).mpr annotates, ?_⟩
    intro laterLine behind laterAhead other annotatesLater
    rcases Nat.exists_eq_add_of_le (behindSeam annotatesLater) with ⟨laterLine, rfl⟩
    exact nothingLater laterLine (by omega) (by omega) other
      ((annotates_append_right sameLength).mp annotatesLater)

namespace SpannedBlock

variable {block : SpannedBlock}

/-- The blocks of the first part are those of the whole that close in it. -/
theorem isIn_append_left : block.IsIn first direct ↔
    block.IsIn (first ++ second) (direct ++ later) ∧ block.closing < first.flatten.length := by
  constructor
  · intro isIn
    have inside := isIn.pair.closing_lt
    have closes := isIn.closesOn.lt_length inside
    have opens := Nat.lt_of_le_of_lt isIn.openLine_le closes
    refine ⟨⟨?_, (onLine_append_left opens).mpr isIn.opensOn,
      (onLine_append_left closes).mpr isIn.closesOn, ?_⟩, inside⟩
    · rw [List.flatten_append]
      exact (bracePair_append_left inside).mpr isIn.pair
    · exact (lastAnnotation_append_left sameLength (Nat.le_of_lt closes)).mpr isIn.annotated
  · rintro ⟨isIn, inside⟩
    have closes := isIn.closesOn.lt_length_iff.mpr inside
    have opens := Nat.lt_of_le_of_lt isIn.openLine_le closes
    have pair := isIn.pair
    rw [List.flatten_append, bracePair_append_left inside] at pair
    exact ⟨pair, (onLine_append_left opens).mp isIn.opensOn,
      (onLine_append_left closes).mp isIn.closesOn,
      (lastAnnotation_append_left sameLength (Nat.le_of_lt closes)).mp isIn.annotated⟩

theorem isIn_behind :
    (block.behind first).IsIn (first ++ second) (direct ++ later) ↔ block.IsIn second later := by
  have pairs : BracePair (first ++ second).flatten (block.behind first).opening
      (block.behind first).closing ↔ BracePair second.flatten block.opening block.closing := by
    rw [List.flatten_append]
    exact bracePair_append_right
  constructor
  · intro isIn
    exact ⟨pairs.mp isIn.pair, onLine_append_right.mp isIn.opensOn,
      onLine_append_right.mp isIn.closesOn,
      (lastAnnotation_append_right sameLength).mp isIn.annotated⟩
  · intro isIn
    exact ⟨pairs.mpr isIn.pair, onLine_append_right.mpr isIn.opensOn,
      onLine_append_right.mpr isIn.closesOn,
      (lastAnnotation_append_right sameLength).mpr isIn.annotated⟩

/-- A block that opens in the second part is a block of that part. -/
theorem IsIn.exists_behind (isIn : block.IsIn (first ++ second) (direct ++ later))
    (opens : first.flatten.length ≤ block.opening) :
    ∃ source : SpannedBlock, source.IsIn second later ∧ source.behind first = block := by
  have before := isIn.pair.before
  have openLine := mt isIn.opensOn.lt_length_iff.mp (Nat.not_lt_of_le opens)
  have closeLine := mt isIn.closesOn.lt_length_iff.mp (by omega)
  have moved : SpannedBlock.behind first ⟨block.opening - first.flatten.length,
      block.closing - first.flatten.length, block.openLine - first.length,
      block.closeLine - first.length, block.span⟩ = block := by
    rcases block with ⟨blockOpening, blockClosing, blockOpenLine, blockCloseLine, blockSpan⟩
    simp only at opens before openLine closeLine
    simp only [behind, mk.injEq, and_true]
    omega
  exact ⟨_, (isIn_behind sameLength).mp (moved.symm ▸ isIn), moved⟩

end SpannedBlock

end Blocks

end DumpLens
