import DumpLens.Block.Tracking

/-! Matching of braces, said without a stack. Places count the characters of all lines of
a dump. The innermost open block of a place is the one behind whose opening brace all
braces are matched, and a brace that closes there makes a pair with it. -/

namespace DumpLens

/-! ## Matched braces -/

/-- The braces of a text are matched: as many close as open, and up to no place do more
close than open. -/
structure Balanced (text : Text) : Prop where
  equal : text.count '{' = text.count '}'
  enough : ∀ length, (text.take length).count '}' ≤ (text.take length).count '{'

/-- The brace at a place opens the block that is innermost at a later place. -/
structure InnermostAt (text : Text) (opening place : Nat) : Prop where
  brace : text[opening]? = some '{'
  before : opening < place
  balanced : Balanced ((text.take place).drop (opening + 1))

/-- Two braces match. -/
structure BracePair (text : Text) (opening closing : Nat) : Prop where
  innermost : InnermostAt text opening closing
  brace : text[closing]? = some '}'

/-! ## Checking

Whether braces match can be computed, as it only takes the places of the text. -/

instance (text : Text) : Decidable (Balanced text) :=
  decidable_of_iff (text.count '{' = text.count '}' ∧
    ∀ length < text.length, (text.take length).count '}' ≤ (text.take length).count '{') <| by
  constructor
  · intro ⟨equal, enough⟩
    refine ⟨equal, ?_⟩
    intro length
    rcases Nat.lt_or_ge length text.length with inside | behind
    · exact enough length inside
    · rw [List.take_of_length_le behind]
      exact Nat.le_of_eq equal.symm
  · intro balanced
    exact ⟨balanced.equal, fun length _ => balanced.enough length⟩

instance (text : Text) (opening place : Nat) : Decidable (InnermostAt text opening place) :=
  decidable_of_iff (text[opening]? = some '{' ∧ opening < place ∧
      Balanced ((text.take place).drop (opening + 1)))
    ⟨fun ⟨brace, before, balanced⟩ => ⟨brace, before, balanced⟩,
      fun ⟨brace, before, balanced⟩ => ⟨brace, before, balanced⟩⟩

instance (text : Text) (opening closing : Nat) : Decidable (BracePair text opening closing) :=
  decidable_of_iff (InnermostAt text opening closing ∧ text[closing]? = some '}')
    ⟨fun ⟨innermost, brace⟩ => ⟨innermost, brace⟩, fun ⟨innermost, brace⟩ => ⟨innermost, brace⟩⟩

/-! ## Depth

Matching is decided by the depth of places, where every brace is a step up or down. -/

/-- How many more braces open than close in front of a place. -/
def depth (text : Text) (place : Nat) : Int :=
  (text.take place).count '{' - (text.take place).count '}'

theorem depth_opening {text : Text} {place : Nat} (brace : text[place]? = some '{') :
    depth text (place + 1) = depth text place + 1 := by
  simp [depth, List.take_add_one, brace]
  omega

theorem depth_closing {text : Text} {place : Nat} (brace : text[place]? = some '}') :
    depth text (place + 1) = depth text place - 1 := by
  simp [depth, List.take_add_one, brace]
  omega

theorem depth_other {text : Text} {place : Nat} {character : Char}
    (here : text[place]? = some character) (notOpening : character ≠ '{')
    (notClosing : character ≠ '}') : depth text (place + 1) = depth text place := by
  simp [depth, List.take_add_one, here, notOpening, notClosing]

/-- The characters between two places are those in front of the second but not of the
first. -/
theorem count_between (text : Text) (character : Char) {first last : Nat}
    (ordered : first ≤ last) :
    ((text.take last).drop first).count character + (text.take first).count character =
      (text.take last).count character := by
  have parts := List.take_append_drop first (text.take last)
  rw [List.take_take, Nat.min_eq_left ordered] at parts
  rw [← congrArg (List.count character) parts, List.count_append, Nat.add_comm]

theorem balanced_between_iff (text : Text) {first last : Nat} (ordered : first ≤ last) :
    Balanced ((text.take last).drop first) ↔
      depth text last = depth text first ∧
        ∀ place, first ≤ place → place ≤ last → depth text first ≤ depth text place := by
  constructor
  · intro balanced
    have opened := count_between text '{' ordered
    have closed := count_between text '}' ordered
    have equal := balanced.equal
    refine ⟨by unfold depth; omega, ?_⟩
    intro place fromFirst toLast
    have enough := balanced.enough (place - first)
    rw [List.take_drop, List.take_take, Nat.add_sub_cancel' fromFirst,
      Nat.min_eq_left toLast] at enough
    have openedHere := count_between text '{' fromFirst
    have closedHere := count_between text '}' fromFirst
    unfold depth
    omega
  · intro ⟨equal, above⟩
    have opened := count_between text '{' ordered
    have closed := count_between text '}' ordered
    refine ⟨by unfold depth at equal; omega, ?_⟩
    intro length
    rw [List.take_drop, List.take_take]
    have fromFirst : first ≤ min (first + length) last := by omega
    have openedHere := count_between text '{' fromFirst
    have closedHere := count_between text '}' fromFirst
    have aboveHere := above (min (first + length) last) fromFirst (Nat.min_le_right ..)
    unfold depth at aboveHere
    omega

theorem innermostAt_iff {text : Text} {opening place : Nat} :
    InnermostAt text opening place ↔
      text[opening]? = some '{' ∧ opening < place ∧ depth text place = depth text opening + 1 ∧
        ∀ between, opening < between → between ≤ place →
          depth text opening + 1 ≤ depth text between := by
  constructor
  · intro innermost
    have level := depth_opening innermost.brace
    have parts := (balanced_between_iff text innermost.before).mp innermost.balanced
    rw [level] at parts
    exact ⟨innermost.brace, innermost.before, parts.1, parts.2⟩
  · intro ⟨brace, before, equal, above⟩
    refine ⟨brace, before, (balanced_between_iff text before).mpr ?_⟩
    rw [depth_opening brace]
    exact ⟨equal, above⟩

theorem InnermostAt.unique {text : Text} {left right place : Nat}
    (leftInnermost : InnermostAt text left place) (rightInnermost : InnermostAt text right place) :
    left = right := by
  rcases innermostAt_iff.mp leftInnermost with ⟨_, leftBefore, leftLevel, leftAbove⟩
  rcases innermostAt_iff.mp rightInnermost with ⟨_, rightBefore, rightLevel, rightAbove⟩
  rcases Nat.lt_trichotomy left right with before | equal | after
  · have inside := leftAbove right before (Nat.le_of_lt rightBefore)
    omega
  · exact equal
  · have inside := rightAbove left after (Nat.le_of_lt leftBefore)
    omega

/-- A block stays innermost as long as the depth does not fall and comes back. -/
theorem InnermostAt.extend {text : Text} {opening place later : Nat}
    (innermost : InnermostAt text opening place) (ordered : place ≤ later)
    (level : depth text later = depth text place)
    (above : ∀ between, place ≤ between → between ≤ later →
      depth text place ≤ depth text between) : InnermostAt text opening later := by
  rcases innermostAt_iff.mp innermost with ⟨brace, before, innermostLevel, innermostAbove⟩
  refine innermostAt_iff.mpr ⟨brace, Nat.lt_of_lt_of_le before ordered, by omega, ?_⟩
  intro between behind notLater
  by_cases early : between ≤ place
  · exact innermostAbove between behind early
  · have high := above between (by omega) notLater
    omega

namespace BracePair

variable {text : Text} {opening closing : Nat}

theorem before (pair : BracePair text opening closing) : opening < closing :=
  pair.innermost.before

theorem closing_lt (pair : BracePair text opening closing) : closing < text.length :=
  (List.getElem?_eq_some_iff.mp pair.brace).1

/-- The depth between two matching braces is above the depth in front of them, and comes
back to it behind them. -/
theorem level (pair : BracePair text opening closing) :
    depth text (closing + 1) = depth text opening := by
  rcases innermostAt_iff.mp pair.innermost with ⟨_, _, equal, _⟩
  rw [depth_closing pair.brace, equal, Int.add_sub_cancel]

theorem above (pair : BracePair text opening closing) {place : Nat} (behind : opening < place)
    (ahead : place ≤ closing) : depth text opening + 1 ≤ depth text place := by
  rcases innermostAt_iff.mp pair.innermost with ⟨_, _, _, high⟩
  exact high place behind ahead

theorem closing_unique {other : Nat} (pair : BracePair text opening closing)
    (otherPair : BracePair text opening other) : closing = other := by
  have before := pair.before
  have otherBefore := otherPair.before
  have level := pair.level
  have otherLevel := otherPair.level
  rcases Nat.lt_trichotomy closing other with less | equal | more
  · have behind : opening < closing + 1 := Nat.lt_succ_of_lt before
    have high := otherPair.above behind less
    omega
  · exact equal
  · have behind : opening < other + 1 := Nat.lt_succ_of_lt otherBefore
    have high := pair.above behind more
    omega

theorem opening_unique {other : Nat} (pair : BracePair text opening closing)
    (otherPair : BracePair text other closing) : opening = other :=
  pair.innermost.unique otherPair.innermost

/-- A pair that opens inside of another one closes inside of it. -/
theorem nested {inner innerClosing : Nat} (pair : BracePair text opening closing)
    (innerPair : BracePair text inner innerClosing) (behind : opening < inner)
    (ahead : inner < closing) : innerClosing < closing := by
  rcases Nat.lt_trichotomy innerClosing closing with inside | equal | crossing
  · exact inside
  · subst equal
    exact absurd (pair.opening_unique innerPair) (Nat.ne_of_lt behind)
  · have past : inner < closing + 1 := Nat.lt_succ_of_lt ahead
    have high := innerPair.above past crossing
    have innerHigh := pair.above behind (Nat.le_of_lt ahead)
    have level := pair.level
    omega

end BracePair

end DumpLens
