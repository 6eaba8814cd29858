import DumpLens.Proofs.Block.Appended
import DumpLens.Proofs.Block.Family
import Mathlib.Control.Monad.Basic

/-! Spans of lines when a dump goes on. What follows a dump never changes a span that one of
its lines shows, except on lines with opening braces, and where no block is open behind it the
two parts do not see each other at all. -/

namespace DumpLens

variable {first second : List Text} {direct later : List (Option SourceSpan)}

/-! ## Dumps that are cut off -/

/-- The block that wins on a line without opening braces also wins when the dump goes on: what
closes later stands around it. -/
theorem SpannedBlock.Wins.append {block : SpannedBlock} {line : Nat} {text : Text}
    (sameLength : direct.length = first.length) (wins : block.Wins first direct line)
    (here : first[line]? = some text) (noOpening : '{' ∉ text) :
    block.Wins (first ++ second) (direct ++ later) line := by
  rcases (isIn_append_left sameLength).mp wins.around.isIn with ⟨isIn, inside⟩
  have covers := wins.around.covers
  refine ⟨⟨isIn, covers⟩, ?_⟩
  intro other ⟨otherIn, otherCovers⟩
  rcases Nat.lt_or_ge other.closing first.flatten.length with otherInside | behind
  · have firstIn := (isIn_append_left sameLength).mpr ⟨otherIn, otherInside⟩
    exact wins.outranks other ⟨firstIn, otherCovers⟩
  · have hereToo : (first ++ second)[line]? = some text := by
      rw [List.getElem?_append_left (List.getElem?_eq_some_iff.mp here).1, here]
    rcases isIn.nested otherIn covers otherCovers hereToo noOpening with
      equal | blockInside | otherInside
    · subst equal
      exact absurd inside (Nat.not_lt_of_le behind)
    · exact .inl (blockInside.reach_lt isIn otherIn)
    · have closesBefore := otherInside.2
      omega

/-- A dump that is cut off shows no other spans than the whole one on lines without opening
braces. Only spans may be missing. -/
theorem computeLineSpans_append_keepsShown (readable : directSpans first = .ok direct)
    (laterReadable : directSpans second = .ok later) :
    ∃ spans longer, computeLineSpans first = .ok spans ∧
      computeLineSpans (first ++ second) = .ok longer ∧
      ∀ (line : Nat) text span, first[line]? = some text → '{' ∉ text →
        spans[line]? = some (some span) → longer[line]? = some (some span) := by
  have sameLength := length_directSpans readable
  rcases computeLineSpans_eq readable with ⟨blocks, closed, computed⟩
  rcases computeLineSpans_eq (directSpans_append readable laterReadable) with
    ⟨longerBlocks, longerClosed, longerComputed⟩
  refine ⟨_, _, computed, longerComputed, ?_⟩
  intro line text span here noOpening shows
  have inside := (List.getElem?_eq_some_iff.mp here).1
  rw [List.getElem?_map, List.getElem?_range inside, Option.map_some, Option.some_inj] at shows
  rw [List.getElem?_map, List.getElem?_range (by rw [List.length_append]; omega),
    Option.map_some, Option.some_inj]
  refine (spanAt_eq_some_iff longerClosed).mpr ?_
  rw [own_append_left sameLength inside]
  rcases (spanAt_eq_some_iff closed).mp shows with isOwn | ⟨without, block, wins, hasSpan⟩
  · exact .inl isOwn
  · exact .inr ⟨without, block, wins.append sameLength here noOpening, hasSpan⟩

/-- A closed block in one that is cut off. -/
def cutOff : List Text :=
  ["mod m \x7b", "m.rs:9:9", "fn f() \x7b", "f.rs:1:2", "y", "\x7d z"].map String.toList

theorem computeLineSpans_append_keepsShown_cutOff :
    ∃ direct later, directSpans cutOff = .ok direct ∧ directSpans [['\x7d']] = .ok later ∧
      ∃ longer, computeLineSpans cutOff =
          .ok [none, some ⟨9, 9, 9, 9⟩, some ⟨1, 2, 1, 2⟩, some ⟨1, 2, 1, 2⟩,
            some ⟨1, 2, 1, 2⟩, some ⟨1, 2, 1, 2⟩] ∧
        computeLineSpans (cutOff ++ [['\x7d']]) = .ok longer ∧
        longer[4]? = some (some ⟨1, 2, 1, 2⟩) ∧ longer[5]? = some (some ⟨1, 2, 1, 2⟩) := by
  have readable : directSpans cutOff =
      .ok [none, some ⟨9, 9, 9, 9⟩, none, some ⟨1, 2, 1, 2⟩, none, none] := by decide +kernel
  have laterReadable : directSpans [['\x7d']] = .ok [none] := by decide +kernel
  rcases computeLineSpans_append_keepsShown readable laterReadable with
    ⟨spans, longer, computed, longerComputed, keeps⟩
  have shown : computeLineSpans cutOff = .ok [none, some ⟨9, 9, 9, 9⟩, some ⟨1, 2, 1, 2⟩,
      some ⟨1, 2, 1, 2⟩, some ⟨1, 2, 1, 2⟩, some ⟨1, 2, 1, 2⟩] := by decide +kernel
  cases computed.symm.trans shown
  exact ⟨_, _, readable, laterReadable, longer, shown, longerComputed,
    keeps 4 _ _ rfl (by decide) rfl, keeps 5 _ _ rfl (by decide) rfl⟩

/-! ## Dumps put together -/

/-- No block is open behind a text: all of its opening braces match a later one. -/
def AllMatched (text : Text) : Prop :=
  ∀ opening, text[opening]? = some '{' → ∃ closing, BracePair text opening closing

instance (text : Text) : Decidable (AllMatched text) :=
  decidable_of_iff (∀ opening < text.length, text[opening]? = some '{' →
    ∃ closing < text.length, BracePair text opening closing) <| by
  constructor
  · intro matched opening brace
    rcases matched opening (List.getElem?_eq_some_iff.mp brace).1 brace with ⟨closing, _, pair⟩
    exact ⟨closing, pair⟩
  · intro matched opening _ brace
    rcases matched opening brace with ⟨closing, pair⟩
    exact ⟨closing, pair.closing_lt, pair⟩

section Seam

variable (sameLength : direct.length = first.length) (matched : AllMatched first.flatten)
include sameLength matched

/-- No block reaches over the seam, so each is one of the first part or of the second. -/
theorem SpannedBlock.IsIn.first_or_behind {block : SpannedBlock}
    (isIn : block.IsIn (first ++ second) (direct ++ later)) :
    block.IsIn first direct ∨
      ∃ source : SpannedBlock, source.IsIn second later ∧ source.behind first = block := by
  rcases Nat.lt_or_ge block.closing first.flatten.length with inside | closesBehind
  · exact .inl ((isIn_append_left sameLength).mpr ⟨isIn, inside⟩)
  rcases Nat.lt_or_ge block.opening first.flatten.length with before | opensBehind
  · have pair := isIn.pair
    rw [List.flatten_append] at pair
    have brace := pair.innermost.brace
    rw [List.getElem?_append_left before] at brace
    rcases matched block.opening brace with ⟨closing, firstPair⟩
    have inside := firstPair.closing_lt
    have same := pair.closing_unique ((bracePair_append_left inside).mpr firstPair)
    omega
  · exact .inr (isIn.exists_behind sameLength opensBehind)

theorem SpannedBlock.around_append_left {block : SpannedBlock} {line : Nat}
    (inside : line < first.length) :
    block.Around (first ++ second) (direct ++ later) line ↔ block.Around first direct line := by
  constructor
  · rintro ⟨isIn, covers⟩
    rcases isIn.first_or_behind sameLength matched with isFirst | ⟨source, _, rfl⟩
    · exact ⟨isFirst, covers⟩
    · have opensBefore : first.length + source.openLine ≤ line := covers.1
      omega
  · rintro ⟨isIn, covers⟩
    exact ⟨((isIn_append_left sameLength).mp isIn).1, covers⟩

theorem SpannedBlock.around_append_right {block : SpannedBlock} {line : Nat} :
    block.Around (first ++ second) (direct ++ later) (first.length + line) ↔
      ∃ source : SpannedBlock, source.Around second later line ∧ source.behind first = block := by
  have covers (source : SpannedBlock) :
      (source.behind first).Covers (first.length + line) ↔ source.Covers line := by
    simp [Covers, behind]
  constructor
  · rintro ⟨isIn, isCovered⟩
    rcases isIn.first_or_behind sameLength matched with isFirst | ⟨source, sourceIn, rfl⟩
    · have closesBehind := isCovered.2
      have bound := isFirst.closeLine_lt
      omega
    · exact ⟨source, ⟨sourceIn, (covers source).mp isCovered⟩, rfl⟩
  · rintro ⟨source, sourceAround, rfl⟩
    exact ⟨(isIn_behind sameLength).mpr sourceAround.isIn,
      (covers source).mpr sourceAround.covers⟩

end Seam

theorem SpannedBlock.outranks_behind (block other : SpannedBlock) :
    (block.behind first).Outranks (other.behind first) ↔ block.Outranks other := by
  simp only [Outranks, reach_toBlock, behind]
  omega

/-- Where all blocks of the first of two dumps are closed, the lines of both have the same
spans together as apart. -/
theorem computeLineSpans_append (readable : directSpans first = .ok direct)
    (laterReadable : directSpans second = .ok later) (matched : AllMatched first.flatten) :
    ∃ spans laterSpans, computeLineSpans first = .ok spans ∧
      computeLineSpans second = .ok laterSpans ∧
      computeLineSpans (first ++ second) = .ok (spans ++ laterSpans) := by
  have sameLength := length_directSpans readable
  rcases computeLineSpans_eq readable with ⟨blocks, closed, computed⟩
  rcases computeLineSpans_eq laterReadable with ⟨laterBlocks, laterClosed, laterComputed⟩
  rcases computeLineSpans_eq (directSpans_append readable laterReadable) with
    ⟨allBlocks, allClosed, allComputed⟩
  refine ⟨_, _, computed, laterComputed, allComputed.trans (congrArg Except.ok ?_)⟩
  rw [List.length_append, List.range_add, List.map_append, List.map_map]
  congr 1
  · refine List.map_congr_left ?_
    intro line member
    have inside := List.mem_range.mp member
    exact spanAt_congr closed allClosed (own_append_left sameLength inside)
      fun _ => SpannedBlock.around_append_left sameLength matched inside
  · refine List.map_congr_left ?_
    intro line _
    exact spanAt_move (SpannedBlock.behind first) laterClosed allClosed
      (own_append_right sameLength) (fun _ => rfl) SpannedBlock.outranks_behind
      fun _ => SpannedBlock.around_append_right sameLength matched

/-- Blocks that meet on a line, behind a stray brace. -/
def closedDump : List Text :=
  ["\x7d", "if \x7b", "a.rs:1:2", "\x7d else \x7b", "b.rs:3:4", "\x7d"].map String.toList

/-- A stray brace and a block that is never closed. -/
def openDump : List Text :=
  ["\x7d \x7b", "c.rs:5:6", "\x7d \x7b"].map String.toList

theorem computeLineSpans_append_strayBraces :
    AllMatched closedDump.flatten ∧
      ∃ direct later, directSpans closedDump = .ok direct ∧ directSpans openDump = .ok later ∧
        ∃ spans laterSpans, computeLineSpans closedDump = .ok spans ∧
          computeLineSpans openDump = .ok laterSpans ∧
          computeLineSpans (closedDump ++ openDump) = .ok (spans ++ laterSpans) := by
  have matched : AllMatched closedDump.flatten := by decide +kernel
  have readable : directSpans closedDump =
      .ok [none, none, some ⟨1, 2, 1, 2⟩, none, some ⟨3, 4, 3, 4⟩, none] := by decide +kernel
  have laterReadable : directSpans openDump =
      .ok [none, some ⟨5, 6, 5, 6⟩, none] := by decide +kernel
  exact ⟨matched, _, _, readable, laterReadable,
    computeLineSpans_append readable laterReadable matched⟩

end DumpLens
