import DumpLens.Proofs.Document.Ranges

/-! Source files of documents. A document names a source file just if one of its lines has a
span, so what is shown about a line with a span always names the file. The place of its source
is only missing where the file is to be looked for beside a dump that is no file. -/

namespace DumpLens

variable {lines : List Text} {text file : Text} {span : SourceSpan}

/-! ## The first file -/

/-- A file is named on the first line that has a span of its own. -/
def FirstNamed (lines : List Text) (file : Text) : Prop :=
  ∃ front text behind span, lines = front ++ text :: behind ∧
    (∀ earlier ∈ front, parseSpan earlier = .ok none) ∧ parseSpan text = .ok (some span) ∧
    spanFile text = some file

theorem spanFile_of_parseSpan (parsed : parseSpan text = .ok (some span)) :
    ∃ file, spanFile text = some file := by
  rcases parseSpan_eq_some_iff.mp parsed with ⟨note, found, _⟩
  exact ⟨note.file, by rw [spanFile, found]; rfl⟩

theorem ne_nil_of_spanFile (named : spanFile text = some file) : file ≠ [] := by
  rcases Option.map_eq_some_iff.mp named with ⟨note, found, rfl⟩
  rcases SpanNote.find?_eq_some_iff.mp found with ⟨_, _, _, _, begins, _⟩
  rcases begins.file with ⟨stem, nonempty, isFile⟩
  rw [isFile]
  exact List.append_ne_nil_of_left_ne_nil nonempty _

theorem firstSpanFile_cons_of_none (without : parseSpan text = .ok none) :
    firstSpanFile (text :: lines) = firstSpanFile lines := by
  rw [firstSpanFile, without]
  rfl

theorem firstSpanFile_cons_of_some (parsed : parseSpan text = .ok (some span)) :
    firstSpanFile (text :: lines) = .ok (spanFile text) := by
  rw [firstSpanFile, parsed]
  rfl

/-- Where a search for a file ends well, it has found the first one, or no line has a span. -/
theorem firstSpanFile_eq_ok {found : Option Text} (searched : firstSpanFile lines = .ok found) :
    (∀ text ∈ lines, parseSpan text = .ok none) ∧ found = none ∨
      ∃ file, FirstNamed lines file ∧ found = some file := by
  induction lines with
  | nil =>
      cases searched
      exact .inl ⟨List.forall_mem_nil _, rfl⟩
  | cons text lines induction =>
      cases own : parseSpan text with
      | error refusal =>
          rw [firstSpanFile, own] at searched
          cases searched
      | ok parsed =>
          cases parsed with
          | none =>
              rw [firstSpanFile_cons_of_none own] at searched
              rcases induction searched with ⟨without, nothing⟩ | ⟨file, firstNamed, isFile⟩
              · exact .inl ⟨List.forall_mem_cons.mpr ⟨own, without⟩, nothing⟩
              · rcases firstNamed with ⟨front, named, behind, span, rfl, without, hasSpan⟩
                exact .inr ⟨file, ⟨text :: front, named, behind, span, rfl,
                  List.forall_mem_cons.mpr ⟨own, without⟩, hasSpan⟩, isFile⟩
          | some span =>
              rw [firstSpanFile_cons_of_some own] at searched
              cases searched
              rcases spanFile_of_parseSpan own with ⟨file, named⟩
              exact .inr ⟨file, ⟨[], text, lines, span, rfl, List.forall_mem_nil _, own, named⟩,
                named⟩

theorem FirstNamed.firstSpanFile_eq (firstNamed : FirstNamed lines file) :
    firstSpanFile lines = .ok (some file) := by
  rcases firstNamed with ⟨front, text, behind, span, rfl, without, hasSpan, named⟩
  induction front with
  | nil => rw [List.nil_append, firstSpanFile_cons_of_some hasSpan, named]
  | cons first front induction =>
      rcases List.forall_mem_cons.mp without with ⟨own, others⟩
      rw [List.cons_append, firstSpanFile_cons_of_none own]
      exact induction others

/-! ## The source file of a document -/

namespace Document

variable {document : Document} {number : Int}

theorem IsOf.sourceFile_eq_some_iff (isOf : document.IsOf text) :
    document.sourceFile = some file ↔ FirstNamed document.lines file := by
  have searched := isOf.sourceFile
  rw [← isOf.lines] at searched
  constructor
  · intro named
    rcases firstSpanFile_eq_ok searched with ⟨_, nothing⟩ | ⟨found, firstNamed, isFile⟩
    · cases nothing.symm.trans named
    · cases isFile.symm.trans named
      exact firstNamed
  · intro firstNamed
    exact Except.ok.inj (searched.symm.trans firstNamed.firstSpanFile_eq)

theorem IsOf.sourceFile_eq_none_iff (isOf : document.IsOf text) :
    document.sourceFile = none ↔ ∀ line ∈ document.lines, parseSpan line = .ok none := by
  have searched := isOf.sourceFile
  rw [← isOf.lines] at searched
  rcases firstSpanFile_eq_ok searched with ⟨without, nothing⟩ | ⟨found, firstNamed, isFile⟩
  · exact iff_of_true nothing without
  · rw [isFile]
    apply iff_of_false
    · intro impossible
      cases impossible
    · intro without
      rcases firstNamed with ⟨front, named, behind, span, parts, _, hasSpan, _⟩
      have member : named ∈ document.lines := by simp [parts]
      cases hasSpan.symm.trans (without named member)

/-- No line shows a span just if no line has one of its own. -/
theorem IsOf.forall_lineSpans_iff (isOf : document.IsOf text) :
    (∀ shown ∈ document.lineSpans, shown = none) ↔
      ∀ line ∈ document.lines, parseSpan line = .ok none := by
  have computed := isOf.lineSpans
  rw [← isOf.lines] at computed
  constructor
  · intro nothing line member
    rcases List.getElem?_of_mem member with ⟨place, here⟩
    rcases computeLineSpans_eq_ok computed with ⟨_, _, readable, _, _⟩
    rcases directSpans_getElem? readable here with ⟨own, parsed, _⟩
    cases own with
    | none => exact parsed
    | some span =>
        have shows := computeLineSpans_own computed here parsed
        cases nothing _ (List.mem_of_getElem? shows)
  · intro without shown member
    cases shown with
    | none => rfl
    | some span =>
        rcases exists_parseSpan_of_computeLineSpans computed member with ⟨line, isLine, parsed⟩
        cases parsed.symm.trans (without line isLine)

theorem IsOf.exists_sourceFile (isOf : document.IsOf text)
    (shows : document.spanAt number = some span) :
    ∃ file, document.sourceFile = some file ∧ file ≠ [] := by
  cases named : document.sourceFile with
  | none =>
      have without := isOf.forall_lineSpans_iff.mpr (isOf.sourceFile_eq_none_iff.mp named)
      cases without _ (List.mem_of_getElem? (lineSpans_of_spanAt shows))
  | some file =>
      rcases isOf.sourceFile_eq_some_iff.mp named with ⟨_, _, _, _, _, _, _, namesFile⟩
      exact ⟨file, rfl, ne_nil_of_spanFile namesFile⟩

/-! ## What is shown about a line -/

/-- What is shown about a line names a file. It is shown where the line and its end are within
the bounds of an editor. -/
structure HoverNames (document : Document) (number : Int) (file : Text) : Prop where
  named : ∀ shown, document.hover number = .ok shown →
    ∃ hover, shown = some hover ∧ '`' :: file ++ ['`'] <:+: hover.text
  shown : number ≤ PositionError.bound →
    (∀ line, document.lines[number.toNat]? = some line → line.length ≤ PositionError.bound) →
    ∃ shown, document.hover number = .ok shown

theorem infix_describeSpan (nonempty : file ≠ []) :
    '`' :: file ++ ['`'] <:+: describeSpan (some file) span := by
  have isNamed : file.isEmpty = false := List.isEmpty_eq_false_iff.mpr nonempty
  unfold describeSpan
  generalize " – ".toList = dash
  refine ⟨"**source span** ".toList, ' ' :: (Text.ofInt span.startLine ++
    ':' :: Text.ofInt span.startCol ++ dash ++ Text.ofInt span.endLine ++
    ':' :: Text.ofInt span.endCol), ?_⟩
  simp [isNamed]

theorem hover_eq_ok_iff {shown : Option HoverText} (shows : document.spanAt number = some span) :
    document.hover number = .ok shown ↔
      ∃ range, document.lineRange number.toNat = .ok range ∧
        shown = some ⟨describeSpan document.sourceFile span, range⟩ := by
  have asked : document.hover number = (do
      let range ← document.lineRange number.toNat
      pure (some ⟨describeSpan document.sourceFile span, range⟩)) := by
    rw [hover, shows]
  rw [asked, bind_eq_ok_iff]
  simp [pure, Except.pure, eq_comm]

theorem exists_lineRange {place : Nat} {line : Text} (here : document.lines[place]? = some line)
    (lineBound : place ≤ PositionError.bound) (lengthBound : line.length ≤ PositionError.bound) :
    ∃ range, document.lineRange place = .ok range := by
  rw [lineRange, here]
  rcases EditorRange.exists_ofLine lineBound lengthBound with ⟨range, made⟩
  exact ⟨range, mapError_eq_ok_iff.mpr made⟩

theorem IsOf.hoverNames (isOf : document.IsOf text) (shows : document.spanAt number = some span)
    (named : document.sourceFile = some file) (nonempty : file ≠ []) :
    document.HoverNames number file := by
  have inside := lt_of_spanAt shows
  rw [← isOf.length_eq] at inside
  have here := List.getElem?_eq_getElem inside
  constructor
  · intro shown hovers
    rcases (hover_eq_ok_iff shows).mp hovers with ⟨range, _, rfl⟩
    rw [named]
    exact ⟨_, rfl, infix_describeSpan nonempty⟩
  · intro lineBound lengthBound
    have natural : (number.toNat : Int) ≤ PositionError.bound := by
      have positive : 0 ≤ PositionError.bound := by decide
      omega
    rcases exists_lineRange here natural (lengthBound _ here) with ⟨range, ranges⟩
    exact ⟨_, (hover_eq_ok_iff shows).mpr ⟨range, ranges, rfl⟩⟩

/-! ## The place of the source -/

theorem definition_eq_none_iff {uri : Text} (shows : document.spanAt number = some span) :
    document.definition uri number = .ok none ↔ document.sourceUri? uri = .ok none := by
  constructor
  · intro nowhere
    rw [definition, shows] at nowhere
    rcases bind_eq_ok_iff.mp nowhere with ⟨found, isFound, later⟩
    cases found with
    | none => exact mapError_eq_ok_iff.mp isFound
    | some target =>
        rcases bind_eq_ok_iff.mp later with ⟨range, _, impossible⟩
        cases impossible
  · intro nowhere
    rw [definition, shows]
    exact bind_eq_ok_iff.mpr ⟨none, mapError_eq_ok_iff.mpr nowhere, rfl⟩

/-- Only a relative name is looked for beside the dump, which has to be a file for that. -/
theorem sourceUri?_eq_none_iff {uri : Text} (named : document.sourceFile = some file) :
    document.sourceUri? uri = .ok none ↔
      (Path.ofText file).isAbsolute = false ∧ Uri.filePath? uri = .ok none := by
  have isSome (made : Except UriError Text) : some <$> made ≠ .ok none := by
    cases made with
    | error cause => exact fun impossible => by cases impossible
    | ok target => exact fun impossible => by cases impossible
  rw [sourceUri?, named]
  by_cases absolute : (Path.ofText file).isAbsolute = true
  · simp [absolute, isSome]
  · have relative := Bool.eq_false_iff.mpr absolute
    simp only [relative, Bool.false_eq_true, if_false, true_and]
    rw [bind_eq_ok_iff]
    constructor
    · rintro ⟨found, isFound, later⟩
      cases found with
      | none => exact isFound
      | some place => exact absurd later (isSome _)
    · intro noFile
      exact ⟨none, noFile, rfl⟩

end Document

theorem Path.isAbsolute_ofText_eq_false_iff :
    (Path.ofText file).isAbsolute = false ↔ file.head? ≠ some '/' := by
  show decide (0 < leadingSlashes file) = false ↔ file.head? ≠ some '/'
  unfold leadingSlashes
  split
  · simp
  · simp
  · simp
  · rename_i noSlash
    simpa [List.head?_eq_some_iff] using noSlash

/-- A URI names no file. -/
def Uri.NamesNoFile (uri : Text) : Prop :=
  ∃ parts, Uri.parts uri = .ok parts ∧ parts.scheme ≠ "file".toList

theorem Uri.filePath?_eq_none_iff {uri : Text} :
    Uri.filePath? uri = .ok none ↔ Uri.NamesNoFile uri := by
  constructor
  · intro noFile
    rcases bind_eq_ok_iff.mp noFile with ⟨parts, isParts, later⟩
    refine ⟨parts, isParts, ?_⟩
    intro isFile
    rw [if_neg (not_not_intro isFile)] at later
    split at later
    · cases later
    · split at later
      · split at later
        · cases later
        · cases later
      · cases later
  · rintro ⟨parts, isParts, noFile⟩
    refine bind_eq_ok_iff.mpr ⟨parts, isParts, ?_⟩
    rw [if_pos noFile]
    rfl

/-! ## Spans and the source file -/

/-- What the spans of a document have to do with its source file. -/
structure Document.NamesSource (document : Document) : Prop where
  unnamed : document.sourceFile = none ↔ ∀ shown ∈ document.lineSpans, shown = none
  first : ∀ file, document.sourceFile = some file ↔ FirstNamed document.lines file
  origin : ∀ (line : Nat) span, document.lineSpans[line]? = some (some span) →
    ∃ (other : Nat) (text : Text), document.lines[other]? = some text ∧
      parseSpan text = .ok (some span) ∧ (other = line ∨ InOneBlock document.lines line other)
  /-- What is shown about a line with a span names the source file. The place of its source is
  missing just where the name is relative and the URI of the dump names no file. -/
  named : ∀ number span, document.spanAt number = some span →
    ∃ file, document.sourceFile = some file ∧ document.HoverNames number file ∧
      ∀ uri, document.definition uri number = .ok none ↔
        file.head? ≠ some '/' ∧ Uri.NamesNoFile uri

/-- In a dump whose spans can be found, spans are shown just if a source file is known. Each of
them is read of a line in one block with the line that shows it. -/
theorem analyze_namesSource {document : Document}
    (analyzed : Document.analyze text = .ok document) : document.NamesSource := by
  have isOf := Document.analyze_eq_ok_iff.mp analyzed
  constructor
  · rw [isOf.sourceFile_eq_none_iff, isOf.forall_lineSpans_iff]
  · intro file
    exact isOf.sourceFile_eq_some_iff
  · intro line span shows
    rw [isOf.lines]
    exact computeLineSpans_origin isOf.lineSpans shows
  · intro number span shows
    rcases isOf.exists_sourceFile shows with ⟨file, named, nonempty⟩
    refine ⟨file, named, isOf.hoverNames shows named nonempty, ?_⟩
    intro uri
    rw [Document.definition_eq_none_iff shows, Document.sourceUri?_eq_none_iff named,
      Path.isAbsolute_ofText_eq_false_iff, Uri.filePath?_eq_none_iff]

/-- A block with an annotation behind one that denotes no span. -/
def laterNote : Text := "b.rs:0:1\nfn f() \x7b\n/src/a.rs:3:5: 5:10\n\x7d\nc.rs:7:1".toList

theorem analyze_namesSource_laterNote :
    ∃ document, Document.analyze laterNote = .ok document ∧
      document.sourceFile = some "/src/a.rs".toList ∧
      document.spanAt 3 = some ⟨3, 5, 5, 10⟩ ∧ document.NamesSource := by
  have analyzed : Document.analyze laterNote = .ok ⟨laterNote, laterNote.lines,
      [none, some ⟨3, 5, 5, 10⟩, some ⟨3, 5, 5, 10⟩, some ⟨3, 5, 5, 10⟩, some ⟨7, 1, 7, 1⟩],
      some "/src/a.rs".toList⟩ := by
    cbv
  exact ⟨_, analyzed, rfl, rfl, analyze_namesSource analyzed⟩

/-- An annotation with the name of a file that is relative. -/
def relativeNote : Text := "main.rs:3:5: 5:10".toList

/-- A dump that is no file shows a span, but the place of its source is missing. -/
theorem definition_eq_none_relativeNote :
    ((Documents.afterCalls [.opened "untitled:Untitled-1".toList relativeNote]).call
      (.definition "untitled:Untitled-1".toList 0)).1 = .ok (.definition none) ∧
    ¬ ∀ text document, Document.analyze text = .ok document →
      ∀ uri number span, document.spanAt number = some span →
        document.definition uri number ≠ .ok none := by
  have analyzed : Document.analyze relativeNote = .ok ⟨relativeNote, relativeNote.lines,
      [some ⟨3, 5, 5, 10⟩], some "main.rs".toList⟩ := by
    cbv
  refine ⟨by cbv, ?_⟩
  intro always
  exact always _ _ analyzed "untitled:Untitled-1".toList 0 _ rfl (by cbv)

end DumpLens
