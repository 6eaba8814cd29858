import DumpLens.Proofs.Document.SourceFile
import DumpLens.Proofs.Text.Runs

/-! Lines that are highlighted together. The lines with a span fall into groups, one for each
span: what is highlighted for a line is its group, and what is shown about two lines is the same
just if they are in one group. -/

namespace DumpLens

variable {text : Text} {span other : SourceSpan} {range : EditorRange} {document : Document}
  {number : Int}

/-! ## Ranges of lines -/

/-- A range goes from the first column of a line to the end of the line. -/
structure EditorRange.IsLine (range : EditorRange) (place : Nat) (line : Text) : Prop where
  startLine : range.start.line = place
  startCharacter : range.start.character = 0
  stopLine : range.stop.line = place
  stopCharacter : range.stop.character = line.length

theorem EditorRange.ofLine_eq_ok_iff {place : Nat} {line : Text} :
    ofLine place line = .ok range ↔ range.IsLine place line := by
  rw [ofLine, make_eq_ok_iff]
  constructor
  · rintro ⟨⟨startLine, startCharacter⟩, stopLine, stopCharacter⟩
    exact ⟨startLine, startCharacter, stopLine, stopCharacter⟩
  · rintro ⟨startLine, startCharacter, stopLine, stopCharacter⟩
    exact ⟨⟨startLine, startCharacter⟩, stopLine, stopCharacter⟩

theorem Document.lineRange_eq_ok_iff {place : Nat} : document.lineRange place = .ok range ↔
    ∃ line, document.lines[place]? = some line ∧ range.IsLine place line := by
  cases here : document.lines[place]? with
  | none => simp [lineRange, here]
  | some line => simp [lineRange, here, EditorRange.ofLine_eq_ok_iff]

/-! ## Texts of spans -/

/-- A number ends where no digit follows. -/
theorem Text.ofInt_append_inj {first second : Int} {mark : Char} {rest others : Text}
    (noDigit : isAsciiDigit mark = false) (noSign : mark ≠ '-')
    (same : Text.ofInt first ++ mark :: rest = Text.ofInt second ++ mark :: others) :
    first = second ∧ rest = others := by
  have isRun (number : Int) (rest : Text) :
      IsRun (fun character => isAsciiDigit character || character == '-') (Text.ofInt number)
        (mark :: rest) := by
    refine isRun_cons ?_ ?_ ?_
    · cases number <;> simp [Text.ofInt]
    · intro character member
      simpa using Text.mem_ofInt member
    · simp [noDigit, noSign]
  rcases (isRun first rest).unique (isRun second others) same with ⟨sameNumber, sameRest⟩
  exact ⟨Text.ofInt_injective sameNumber, (List.cons.inj sameRest).2⟩

theorem Document.exists_describeSpan (file : Option Text) : ∃ front, ∀ span : SourceSpan,
    describeSpan file span = front ++ (Text.ofInt span.startLine ++ ':' ::
      (Text.ofInt span.startCol ++ ' ' :: '–' :: ' ' ::
        (Text.ofInt span.endLine ++ ':' :: Text.ofInt span.endCol))) := by
  have dash : " – ".toList = [' ', '–', ' '] := by simp
  unfold describeSpan
  rw [dash]
  generalize "**source span** ".toList = label
  cases file with
  | none =>
      refine ⟨label, fun span => ?_⟩
      simp only [List.append_assoc, List.cons_append, List.nil_append]
  | some file =>
      refine ⟨label ++ if file.isEmpty then [] else '`' :: file ++ "` ".toList, fun span => ?_⟩
      simp only [List.append_assoc, List.cons_append, List.nil_append]

/-- With the same file in front, different spans are shown differently. -/
theorem Document.describeSpan_injective (file : Option Text) :
    Function.Injective (describeSpan file) := by
  intro span other same
  rcases exists_describeSpan file with ⟨front, shape⟩
  rw [shape, shape, List.append_cancel_left_eq] at same
  rcases Text.ofInt_append_inj (by decide) (by decide) same with ⟨startLine, same⟩
  rcases Text.ofInt_append_inj (by decide) (by decide) same with ⟨startCol, same⟩
  simp only [List.cons.injEq, true_and] at same
  rcases Text.ofInt_append_inj (by decide) (by decide) same with ⟨endLine, same⟩
  rcases span with ⟨_, _, _, _⟩
  rcases other with ⟨_, _, _, _⟩
  rw [SourceSpan.mk.injEq]
  exact ⟨startLine, startCol, endLine, Text.ofInt_injective same⟩

/-! ## Lines with a span -/

/-- A span is found for a line of a text. No span is found for what is no line. -/
def Text.Resolves (text : Text) (number : Int) (span : SourceSpan) : Prop :=
  ∃ spans place, computeLineSpans text.lines = .ok spans ∧ number = Int.ofNat place ∧
    spans[place]? = some (some span)

theorem Text.Resolves.unique (resolves : text.Resolves number span)
    (alsoResolves : text.Resolves number other) : span = other := by
  rcases resolves with ⟨spans, place, computed, rfl, shown⟩
  rcases alsoResolves with ⟨otherSpans, otherPlace, otherComputed, samePlace, otherShown⟩
  cases computed.symm.trans otherComputed
  cases samePlace
  exact Option.some.inj (Option.some.inj (shown.symm.trans otherShown))

namespace Document

variable (isOf : document.IsOf text)
include isOf

theorem IsOf.spanAt_eq_some_iff :
    document.spanAt number = some span ↔ text.Resolves number span := by
  constructor
  · intro shows
    have shown := lineSpans_of_spanAt shows
    unfold spanAt at shows
    split at shows
    · rename_i natural
      exact ⟨_, _, isOf.lineSpans, (Int.toNat_of_nonneg natural).symm, shown⟩
    · cases shows
  · rintro ⟨spans, place, computed, rfl, shown⟩
    cases computed.symm.trans isOf.lineSpans
    simp [spanAt, shown]

theorem IsOf.spanAt_eq_none_iff :
    document.spanAt number = none ↔ ∀ span, ¬ text.Resolves number span := by
  simp only [← isOf.spanAt_eq_some_iff, Option.eq_none_iff_forall_ne_some]

theorem IsOf.lineSpans_eq_iff {place : Nat} :
    document.lineSpans[place]? = some (some span) ↔ text.Resolves place span := by
  rw [← isOf.spanAt_eq_some_iff]
  simp [spanAt, Option.join_eq_some_iff]

end Document

/-! ## What is shown and highlighted -/

namespace Document

/-- An editor can point to every line and to its end. -/
structure Fits (document : Document) : Prop where
  lines : (document.lines.length : Int) ≤ PositionError.bound
  columns : ∀ line ∈ document.lines, (line.length : Int) ≤ PositionError.bound

/-- The lines of a span are given by their numbers in order. They are the lines for which the same
is shown, and each one has the range that is shown with it. -/
structure IsGroup (document : Document) (text : Text) (span : SourceSpan) (shown : Text)
    (numbers : List Nat) (ranges : List EditorRange) : Prop where
  increasing : numbers.Pairwise (· < ·)
  sameSpan : ∀ place : Nat, place ∈ numbers ↔ text.Resolves place span
  sameText : ∀ place : Nat, place ∈ numbers ↔
    ∃ hover, document.hover place = .ok (some hover) ∧ hover.text = shown
  ranges : List.Forall₂ (fun (place : Nat) range => ∃ hover line,
    document.hover place = .ok (some hover) ∧ hover.range = range ∧
      document.lines[place]? = some line ∧ range.IsLine place line) numbers ranges

theorem pairwise_linesWith (span : SourceSpan) (first : Nat) (spans : LineSpans) :
    (linesWith span first spans).Pairwise (· < ·) := by
  induction spans generalizing first with
  | nil => exact .nil
  | cons own spans induction =>
      rw [linesWith]
      split
      · refine .cons ?_ (induction (first + 1))
        intro later member
        rcases mem_linesWith.mp member with ⟨place, rfl, _⟩
        omega
      · exact induction (first + 1)

section Analyzed

variable (isOf : document.IsOf text)
include isOf

theorem IsOf.hover_eq_some_iff {hover : HoverText} :
    document.hover number = .ok (some hover) ↔ ∃ span range, text.Resolves number span ∧
      document.lineRange number.toNat = .ok range ∧
      hover = ⟨describeSpan document.sourceFile span, range⟩ := by
  cases shows : document.spanAt number with
  | none =>
      have nowhere := isOf.spanAt_eq_none_iff.mp shows
      simp [Document.hover, shows, nowhere]
  | some span =>
      have resolves := isOf.spanAt_eq_some_iff.mp shows
      rw [hover_eq_ok_iff shows]
      constructor
      · rintro ⟨range, ranges, isHover⟩
        exact ⟨span, range, resolves, ranges, Option.some.inj isHover⟩
      · rintro ⟨other, range, otherResolves, ranges, rfl⟩
        cases resolves.unique otherResolves
        exact ⟨range, ranges, rfl⟩

theorem IsOf.hover_eq_none_iff :
    document.hover number = .ok none ↔ ∀ span, ¬ text.Resolves number span := by
  rw [← isOf.spanAt_eq_none_iff]
  cases shows : document.spanAt number with
  | none => simp [Document.hover, shows]
  | some span => simp [hover_eq_ok_iff shows]

theorem IsOf.highlights_eq_none_iff :
    document.highlights number = .ok none ↔ ∀ span, ¬ text.Resolves number span := by
  rw [← isOf.spanAt_eq_none_iff]
  cases shows : document.spanAt number with
  | none => simp [Document.highlights, shows]
  | some span => simp [highlights_eq_ok_iff shows]

theorem IsOf.exists_hover (fits : document.Fits) (resolves : text.Resolves number span) :
    ∃ range, document.lineRange number.toNat = .ok range ∧
      document.hover number = .ok (some ⟨describeSpan document.sourceFile span, range⟩) := by
  have shows := isOf.spanAt_eq_some_iff.mpr resolves
  have inside := lt_of_spanAt shows
  rw [← isOf.length_eq] at inside
  have lineBound : (number.toNat : Int) ≤ PositionError.bound := by
    have lines := fits.lines
    omega
  have columnBound := fits.columns _ (List.getElem_mem inside)
  rcases exists_lineRange (List.getElem?_eq_getElem inside) lineBound columnBound with
    ⟨range, ranges⟩
  exact ⟨range, ranges, (hover_eq_ok_iff shows).mpr ⟨range, ranges, rfl⟩⟩

/-- What is shown about a line stands for the span just if the line has the span. -/
theorem IsOf.resolves_iff_shows (fits : document.Fits) :
    text.Resolves number span ↔ ∃ hover, document.hover number = .ok (some hover) ∧
      hover.text = describeSpan document.sourceFile span := by
  constructor
  · intro resolves
    rcases isOf.exists_hover fits resolves with ⟨range, _, hovers⟩
    exact ⟨_, hovers, rfl⟩
  · rintro ⟨hover, hovers, same⟩
    rcases isOf.hover_eq_some_iff.mp hovers with ⟨other, range, resolves, _, rfl⟩
    exact describeSpan_injective _ same ▸ resolves

/-- What is highlighted for a line is the group of its span. -/
theorem IsOf.exists_group (fits : document.Fits) (resolves : text.Resolves number span) :
    ∃ hover numbers ranges, document.hover number = .ok (some hover) ∧
      document.highlights number = .ok (some ranges) ∧
      document.IsGroup text span hover.text numbers ranges := by
  have shows := isOf.spanAt_eq_some_iff.mpr resolves
  have sameSpan (place : Nat) :
      place ∈ linesWith span 0 document.lineSpans ↔ text.Resolves place span := by
    simp [mem_linesWith, ← isOf.lineSpans_eq_iff]
  rcases isOf.exists_hover fits resolves with ⟨ownRange, _, hovers⟩
  have made : ∃ ranges,
      (linesWith span 0 document.lineSpans).mapM document.lineRange = .ok ranges := by
    cases result : (linesWith span 0 document.lineSpans).mapM document.lineRange with
    | ok ranges => exact ⟨ranges, rfl⟩
    | error cause =>
        rcases exists_of_mapM_eq_error result with ⟨place, member, failed⟩
        rcases isOf.exists_hover fits ((sameSpan place).mp member) with ⟨range, ranges, _⟩
        cases ranges.symm.trans failed
  rcases made with ⟨ranges, made⟩
  have paired := mapM_eq_ok_iff.mp made
  refine ⟨_, _, ranges, hovers, (highlights_eq_ok_iff shows).mpr ⟨ranges, paired, rfl⟩,
    pairwise_linesWith span 0 _, sameSpan, ?_, ?_⟩
  · intro place
    rw [sameSpan, isOf.resolves_iff_shows fits]
  · refine List.forall₂_iff_zip.mpr ⟨paired.length_eq, ?_⟩
    intro place range member
    have ranges := (List.forall₂_iff_zip.mp paired).2 member
    have resolves := (sameSpan place).mp (List.of_mem_zip member).1
    rcases isOf.exists_hover fits resolves with ⟨shown, isShown, hovers⟩
    cases ranges.symm.trans isShown
    rcases lineRange_eq_ok_iff.mp ranges with ⟨line, here, isLine⟩
    exact ⟨_, line, hovers, rfl, here, isLine⟩

theorem IsOf.group_of_highlights (fits : document.Fits) {ranges : List EditorRange}
    (highlighted : document.highlights number = .ok (some ranges)) :
    ∃ span shown numbers, text.Resolves number span ∧
      document.IsGroup text span shown numbers ranges := by
  cases shows : document.spanAt number with
  | none =>
      rw [Document.highlights, shows] at highlighted
      cases highlighted
  | some span =>
      have resolves := isOf.spanAt_eq_some_iff.mp shows
      rcases isOf.exists_group fits resolves with ⟨hover, numbers, own, _, ownHighlighted, group⟩
      cases ownHighlighted.symm.trans highlighted
      exact ⟨span, _, numbers, resolves, group⟩

end Analyzed

/-- The ranges of two groups with different spans start on different lines. -/
theorem IsGroup.disjoint {shown otherShown : Text} {numbers otherNumbers : List Nat}
    {ranges otherRanges : List EditorRange}
    (group : document.IsGroup text span shown numbers ranges)
    (otherGroup : document.IsGroup text other otherShown otherNumbers otherRanges)
    (different : span ≠ other) :
    ∀ first ∈ ranges, ∀ second ∈ otherRanges, first.start.line ≠ second.start.line := by
  intro first isFirst second isSecond sameLine
  rcases exists_partner group.ranges isFirst with ⟨place, member, _, _, _, _, _, isLine⟩
  rcases exists_partner otherGroup.ranges isSecond with
    ⟨otherPlace, otherMember, _, _, _, _, _, isOtherLine⟩
  have samePlace : place = otherPlace := by
    have start := isLine.startLine
    have otherStart := isOtherLine.startLine
    omega
  subst samePlace
  exact different (((group.sameSpan place).mp member).unique
    ((otherGroup.sameSpan place).mp otherMember))

end Document

/-! ## Open documents -/

/-- Nothing is highlighted for a line, and nothing is shown about it, just if it has no span. What
is highlighted for a line with a span is the group of all lines about which the same is shown, this
line among them. So the lines with a span are divided into groups: the same is highlighted for two
lines with one span, and lines with different spans have no highlighted line in common. -/
theorem highlights_formGroups {documents : Documents} {uri text : Text} {document : Document}
    (isOpen : documents.find? uri = some document)
    (analyzed : Document.analyze text = .ok document) (fits : document.Fits) :
    (∀ number : Int,
      (documents.highlights uri number = .ok none ↔ ∀ span, ¬ text.Resolves number span) ∧
      (documents.hover uri number = .ok none ↔ ∀ span, ¬ text.Resolves number span) ∧
      ∀ span, text.Resolves number span → ∃ hover numbers ranges,
        documents.hover uri number = .ok (some hover) ∧
        documents.highlights uri number = .ok (some ranges) ∧
        document.IsGroup text span hover.text numbers ranges ∧
        ∃ place ∈ numbers, number = Int.ofNat place) ∧
    ∀ first second : Int,
      ((∀ span, text.Resolves first span ↔ text.Resolves second span) →
        documents.highlights uri first = documents.highlights uri second) ∧
      ((∀ span, text.Resolves first span → ¬ text.Resolves second span) →
        ∀ ranges others, documents.highlights uri first = .ok (some ranges) →
          documents.highlights uri second = .ok (some others) →
          ∀ range ∈ ranges, ∀ other ∈ others, range.start.line ≠ other.start.line) := by
  have isOf := Document.analyze_eq_ok_iff.mp analyzed
  simp only [Documents.highlights, Documents.hover, isOpen]
  constructor
  · intro number
    refine ⟨isOf.highlights_eq_none_iff, isOf.hover_eq_none_iff, ?_⟩
    intro span resolves
    rcases isOf.exists_group fits resolves with ⟨hover, numbers, ranges, hovers, highlighted, group⟩
    rcases resolves with ⟨spans, place, computed, rfl, shown⟩
    have member := (group.sameSpan place).mpr ⟨spans, place, computed, rfl, shown⟩
    exact ⟨hover, numbers, ranges, hovers, highlighted, group, place, member, rfl⟩
  · intro first second
    constructor
    · intro same
      have sameSpan : document.spanAt first = document.spanAt second := by
        ext span
        rw [isOf.spanAt_eq_some_iff, isOf.spanAt_eq_some_iff, same]
      simp only [Document.highlights, sameSpan]
    · intro different ranges others firstHighlighted secondHighlighted
      rcases isOf.group_of_highlights fits firstHighlighted with ⟨span, _, _, resolves, group⟩
      rcases isOf.group_of_highlights fits secondHighlighted with
        ⟨other, _, _, otherResolves, otherGroup⟩
      refine group.disjoint otherGroup ?_
      rintro rfl
      exact different span resolves otherResolves

/-- A block with a span, a line with the same span behind it, and lines without one and with
another one. -/
def groupedDump : Text :=
  "fn f() \x7b\n  a.rs:1:2: 3:4\n\x7d\n\na.rs:1:2: 3:4\nb.rs:5:6".toList

def groupedDocuments : Documents :=
  Documents.afterCalls [.opened "u".toList groupedDump]

theorem highlights_formGroups_groupedDump :
    groupedDocuments.hover "u".toList 3 = .ok none ∧
      groupedDocuments.highlights "u".toList 1 = groupedDocuments.highlights "u".toList 4 ∧
      ∃ ranges others, groupedDocuments.highlights "u".toList 1 = .ok (some ranges) ∧
        groupedDocuments.highlights "u".toList 5 = .ok (some others) ∧
        ranges.map (·.start.line) = [0, 1, 2, 4] ∧ others.map (·.start.line) = [5] ∧
        ∀ range ∈ ranges, ∀ other ∈ others, range.start.line ≠ other.start.line := by
  let shown : SourceSpan := ⟨1, 2, 3, 4⟩
  let document : Document := ⟨groupedDump, groupedDump.lines,
    [some shown, some shown, some shown, none, some shown, some ⟨5, 6, 5, 6⟩], some "a.rs".toList⟩
  have analyzed : Document.analyze groupedDump = .ok document := by decide +kernel
  have isOpen : groupedDocuments.find? "u".toList = some document := by decide +kernel
  have isOf := Document.analyze_eq_ok_iff.mp analyzed
  have fits : document.Fits := by
    constructor <;> decide +kernel
  have firstStarts : (groupedDocuments.highlights "u".toList 1).toOption.map
      (·.map (·.map (·.start.line))) = some (some [0, 1, 2, 4]) := by
    decide +kernel
  have lastStarts : (groupedDocuments.highlights "u".toList 5).toOption.map
      (·.map (·.map (·.start.line))) = some (some [5]) := by
    decide +kernel
  have formed := highlights_formGroups isOpen analyzed fits
  have without : ∀ span, ¬ groupedDump.Resolves 3 span := isOf.spanAt_eq_none_iff.mp rfl
  have first : groupedDump.Resolves 1 shown := isOf.spanAt_eq_some_iff.mp rfl
  have fourth : groupedDump.Resolves 4 shown := isOf.spanAt_eq_some_iff.mp rfl
  have last : groupedDump.Resolves 5 ⟨5, 6, 5, 6⟩ := isOf.spanAt_eq_some_iff.mp rfl
  rcases (formed.1 1).2.2 _ first with ⟨_, _, ranges, _, highlighted, _⟩
  rcases (formed.1 5).2.2 _ last with ⟨_, _, others, _, othersHighlighted, _⟩
  rw [highlighted] at firstStarts
  rw [othersHighlighted] at lastStarts
  refine ⟨(formed.1 3).2.1.mpr without, (formed.2 1 4).1 ?_, ranges, others, highlighted,
    othersHighlighted, Option.some.inj (Option.some.inj firstStarts),
    Option.some.inj (Option.some.inj lastStarts), ?_⟩
  · intro span
    exact ⟨fun resolves => resolves.unique first ▸ fourth,
      fun resolves => resolves.unique fourth ▸ first⟩
  · refine (formed.2 1 5).2 ?_ ranges others highlighted othersHighlighted
    intro span resolves otherResolves
    have same : shown = ⟨5, 6, 5, 6⟩ := (resolves.unique first).symm.trans (otherResolves.unique last)
    exact absurd same (by decide)

end DumpLens
