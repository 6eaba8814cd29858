import DumpLens.Proofs.Json.SpanObject
import DumpLens.Proofs.Render.Made
import DumpLens.Proofs.Render.PageOutline
import DumpLens.Proofs.Render.TagFree
import Mathlib.Data.List.Permutation

/-! What a page keeps of its inputs. They come back as they were when the page is read, and
none of them brings a tag of its own into the page. -/

namespace DumpLens

variable {span : Option SourceSpan} {line : RenderedLine} {shown : Text} {palette : Palette}
  {direct : List (Option SourceSpan)}

/-- The characters of a span are digits and marks between them. -/
theorem SourceSpan.not_mem_text {span : SourceSpan} {character : Char}
    (noDigit : isAsciiDigit character = false) (notMinus : character ≠ '-')
    (notColon : character ≠ ':') : character ∉ span.text := by
  have notNumber (number : Int) : character ∉ Text.ofInt number := by
    intro member
    rcases Text.mem_ofInt member with digit | minus
    · rw [noDigit] at digit
      cases digit
    · exact notMinus minus
  simp [SourceSpan.text, notNumber, notMinus, notColon]

/-- A line shows its text, and a newline if there is none. -/
theorem MadeFrom.shows (made : MadeFrom palette shown span line) :
    (Markup.segments line.markup).flatMap Markup.Segment.text = line.markup ∧
      Markup.Shows (Markup.segments line.markup) (if shown.isEmpty then ['\n'] else shown) := by
  rcases made with ⟨_, _, _, fragment, renders, written⟩
  rw [written]
  cases shown with
  | nil =>
      have sound : ∀ part ∈ [Markup.Segment.visible '\n'], part.Sound := by
        intro part member
        cases List.mem_singleton.mp member
        exact .visible (by decide) (by decide)
      have read : Markup.segments ['\n'] = [.visible '\n'] := Markup.segments_text sound
      rw [renders.eq_nil_iff.mpr rfl, List.isEmpty_nil, if_pos rfl, read]
      exact ⟨rfl, sound, .nil, by decide⟩
  | cons first rest =>
      have some := mt renders.eq_nil_iff.mp (List.cons_ne_nil first rest)
      rw [if_neg (mt List.isEmpty_iff.mp some)]
      exact renders.shows

namespace Page

open Markup (Segment)

/-! ## Elements of lines -/

def lineAttributes (line : RenderedLine) : List (Text × Text) :=
  match line.span with
  | none => [("class".toList, "ir-line".toList)]
  | some span => [
    ("class".toList, "ir-line has-span".toList),
    ("data-span".toList, Markup.quote span.fieldText),
    ("title".toList, span.text),
    ("style".toList, "background-color: ".toList ++ line.color.getD [])]

def lineParts (line : RenderedLine) : List Segment :=
  .tag (tagText "div".toList (lineAttributes line)) :: Markup.segments line.markup ++
    [.tag "</div>".toList]

theorem tagText_plain :
    tagText "div".toList [("class".toList, "ir-line".toList)] =
      "<div class=\"ir-line\">".toList := by
  decide +kernel

theorem tagText_marked (data title color : Text) :
    tagText "div".toList [
      ("class".toList, "ir-line has-span".toList), ("data-span".toList, data),
      ("title".toList, title), ("style".toList, "background-color: ".toList ++ color)] =
    "<div class=\"ir-line has-span\" data-span=\"".toList ++ data ++
      "\" title=\"".toList ++ title ++
      "\" style=\"background-color: ".toList ++ color ++ "\">".toList := by
  simp [tagText, fieldText]

theorem text_lineParts
    (written : (Markup.segments line.markup).flatMap Segment.text = line.markup) :
    (lineParts line).flatMap Segment.text = lineElement line := by
  rw [lineParts, List.flatMap_append, List.flatMap_cons, written, lineAttributes, lineElement]
  cases line.span with
  | none => exact congrArg (· ++ line.markup ++ "</div>".toList) tagText_plain
  | some span =>
      exact congrArg (· ++ line.markup ++ "</div>".toList) (tagText_marked ..)

theorem lineAttributes_plain (made : MadeFrom palette shown none line) :
    lineAttributes line = [("class".toList, "ir-line".toList)] := by
  rw [lineAttributes, made.standsFor]

theorem lineAttributes_marked {source : SourceSpan}
    (made : MadeFrom palette shown (some source) line) :
    ∃ color ∈ palette, palette.color? source = some color ∧ lineAttributes line = [
      ("class".toList, "ir-line has-span".toList),
      ("data-span".toList, Markup.quote source.fieldText),
      ("title".toList, source.text),
      ("style".toList, "background-color: ".toList ++ color)] := by
  rcases made.colored source rfl with ⟨color, chosen, isOwn⟩
  refine ⟨color, List.mem_of_getElem? chosen, chosen, ?_⟩
  rw [lineAttributes, made.standsFor, isOwn]
  rfl

theorem isPlain_div : IsPlain "div".toList := by
  decide

theorem isPlain_quote (text : Text) : IsPlain (Markup.quote text) :=
  ⟨Markup.not_mem_opening_quote text, Markup.not_mem_closing_quote text,
    Markup.not_mem_mark_quote text⟩

theorem isPlain_spanText (source : SourceSpan) : IsPlain source.text := by
  refine ⟨?_, ?_, ?_⟩ <;>
    exact SourceSpan.not_mem_text (by decide) (by decide) (by decide)

/-- A line brings nothing into its tag that ends an attribute, or the tag. -/
theorem isField_lineAttributes (plainColors : ∀ color ∈ palette, IsPlain color)
    (made : MadeFrom palette shown span line) : ∀ field ∈ lineAttributes line, IsField field := by
  cases span with
  | none =>
      rw [lineAttributes_plain made, List.forall_mem_singleton]
      exact isField (by decide) (by decide)
  | some source =>
      rcases lineAttributes_marked made with ⟨color, member, _, equal⟩
      have plainStyle : IsPlain ("background-color: ".toList ++ color) :=
        .append (by decide) (plainColors color member)
      rw [equal, List.forall_mem_cons, List.forall_mem_cons, List.forall_mem_cons,
        List.forall_mem_singleton]
      exact ⟨isField (by decide) (by decide), isField (by decide) (isPlain_quote _),
        isField (by decide) (isPlain_spanText source), isField (by decide) plainStyle⟩

/-- Span tags are whole, and no style sheet follows them. -/
theorem inert_of_sound {parts : List Segment} (sound : ∀ part ∈ parts, part.Sound) :
    Inert parts := by
  refine ⟨?_, ?_⟩
  · intro part member
    cases sound part member with
    | visible notStart notEnd => exact ⟨notStart, notEnd⟩
    | @tag start inside isStart noStart noEnd =>
        rcases isStart with rfl | rfl
        · exact @isWhole_tag ("span".toList ++ inside) (by simp [noStart]) (by simp [noEnd])
        · exact @isWhole_tag ("/span".toList ++ inside) (by simp [noStart]) (by simp [noEnd])
  · intro member
    have noSpan : ¬ "<span".toList <+: sheetTag ∧ ¬ "</span".toList <+: sheetTag := by
      decide
    generalize equal : Segment.tag sheetTag = part at member
    cases sound part member with
    | visible => cases equal
    | @tag start inside isStart =>
        have starts : start <+: sheetTag := by
          rw [Segment.tag.inj equal, List.append_assoc]
          exact List.prefix_append _ _
        rcases isStart with rfl | rfl
        · exact noSpan.1 starts
        · exact noSpan.2 starts

theorem inert_lineParts (plainColors : ∀ color ∈ palette, IsPlain color)
    (made : MadeFrom palette shown span line) : Inert (lineParts line) := by
  have opening : Inert [.tag (tagText "div".toList (lineAttributes line))] := by
    have whole := isWhole_tagText isPlain_div (isField_lineAttributes plainColors made)
    refine ⟨List.forall_mem_singleton.mpr whole, ?_⟩
    intro member
    have equal := Segment.tag.inj (List.mem_singleton.mp member)
    have starts : '<' :: "div".toList <+: sheetTag := by
      rw [equal, tagText, ← List.cons_append, List.append_assoc]
      exact List.prefix_append _ _
    exact absurd starts (by decide)
  have closing : Inert [.tag "</div>".toList] := ⟨by decide, by decide⟩
  exact (opening.append (inert_of_sound made.shows.2.sound)).append closing

/-! ## What is read -/

/-- The tag in front of a line, read. It has the span of the line as data, and without a
span no more than a class. -/
structure OpensLine (palette : Palette) (span : Option SourceSpan) (opening : Text) : Prop where
  isDiv : "<div ".toList <+: opening
  plain : span = none → attributes opening = [("class".toList, "ir-line".toList)]
  marked : ∀ source, span = some source → ∃ data color,
    attributes opening = [
      ("class".toList, "ir-line has-span".toList),
      ("data-span".toList, data),
      ("title".toList, source.text),
      ("style".toList, "background-color: ".toList ++ color)] ∧
    palette.color? source = some color ∧
    ∀ other, Json.read (.ofText (Markup.decode data)) = .ok (.ofSpan other) ↔ other = source

/-- The element of a line, read. Its tags are nested span tags, and it shows the text of the
line, or a newline if there is none. -/
structure KeepsLine (palette : Palette) (text : Text) (span : Option SourceSpan)
    (line : RenderedLine) (div : List Segment) : Prop where
  standsFor : line.span = span
  enclosed : ∃ opening, OpensLine palette span opening ∧
    div = .tag opening :: Markup.segments line.markup ++ [.tag "</div>".toList]
  spanTags : ∀ tag ∈ Markup.tags line.markup, "<span".toList <+: tag ∨ "</span".toList <+: tag
  nested : Markup.Nested (Markup.tags line.markup)
  shown : Markup.decode (Markup.stripTags line.markup) =
    if text.isEmpty then ['\n'] else text

/-- A page, read. It shows its title and its messages where they belong, and all of its tags
are its own or those of its lines. -/
structure KeepsPage (title messages : Text) (divs : List (List Segment)) (page : Text) :
    Prop where
  outlined : ∃ titleText messagesText, segments page = outline titleText divs messagesText ∧
    Markup.decode titleText = title ∧ Markup.decode messagesText = messages
  tags : Markup.tagsOf (segments page) = frontTags ++ divs.flatMap Markup.tagsOf ++ backTags
  whole : ∀ part ∈ segments page, IsWhole part

theorem opensLine (plainColors : ∀ color ∈ palette, IsPlain color)
    (made : MadeFrom palette shown span line)
    (readable : ∀ source, span = some source → source.Readable) :
    OpensLine palette span (tagText "div".toList (lineAttributes line)) := by
  have read := attributes_tagText isPlain_div (isField_lineAttributes plainColors made)
  refine ⟨?_, ?_, ?_⟩
  · cases span with
    | none =>
        rw [lineAttributes_plain made]
        exact List.prefix_append _ _
    | some source =>
        rcases lineAttributes_marked made with ⟨_, _, _, equal⟩
        rw [equal]
        exact List.prefix_append _ _
  · rintro rfl
    rw [read, lineAttributes_plain made]
  · rintro source rfl
    rcases lineAttributes_marked made with ⟨color, _, chosen, equal⟩
    refine ⟨_, color, read.trans equal, chosen, ?_⟩
    intro other
    rw [Markup.decode_quote, SourceSpan.read_fieldText (readable source rfl), Except.ok.injEq]
    constructor
    · intro same
      exact (Json.ofSpan_injective same).symm
    · rintro rfl
      rfl

theorem spanTag_of_sound {tag : Text} (sound : Segment.Sound (.tag tag)) :
    "<span".toList <+: tag ∨ "</span".toList <+: tag := by
  cases sound with
  | @tag start inside isStart =>
      have starts : start <+: start ++ inside ++ ['>'] := by
        rw [List.append_assoc]
        exact List.prefix_append _ _
      rcases isStart with rfl | rfl
      · exact .inl starts
      · exact .inr starts

theorem keepsLine (plainColors : ∀ color ∈ palette, IsPlain color)
    (made : MadeFrom palette shown span line)
    (readable : ∀ source, span = some source → source.Readable) :
    KeepsLine palette shown span line (lineParts line) := by
  have shows := made.shows.2
  refine ⟨made.standsFor, ⟨_, opensLine plainColors made readable, rfl⟩, ?_, shows.nested, ?_⟩
  · intro tag member
    rcases List.mem_filterMap.mp member with ⟨part, inside, isTag⟩
    cases part with
    | tag own =>
        cases isTag
        exact spanTag_of_sound (shows.sound _ inside)
    | visible => cases isTag
  · have escaped : Markup.stripTags line.markup = _ := shows.shown
    rw [escaped, Markup.decode_escape]

theorem keepsPage {dump : RenderedDump} {divs : List (List Segment)} {sheet : Text}
    (written : dump.lines.map lineElement = divs.map fun div => div.flatMap Segment.text)
    (inert : ∀ div ∈ divs, Inert div) (title : Text) (noTag : '<' ∉ sheet) :
    KeepsPage title dump.messages divs (assemble dump title sheet) := by
  have read := segments_assemble written inert title noTag
  refine ⟨⟨_, _, read, Markup.decode_quote title, Markup.decode_quote dump.messages⟩, ?_, ?_⟩
  · rw [read, tagsOf_outline]
  · rw [read]
    exact isWhole_outline inert title dump.messages

/-- Where all annotations of a dump can be read, and with colours that can stand in
attributes, the page of the dump keeps what it is made of: title, messages, and the text
and the span of every line are read back from it, and it has no tags beside those of pages
and of lines. No style of the page changes that. -/
theorem render_keepsInputs {result : CompileResult}
    (readable : directSpans (displayText result.shownOutput).lines = .ok direct)
    (someColor : palette ≠ []) (plainColors : ∀ color ∈ palette, IsPlain color)
    (language : Language) (title : Text) :
    ∃ spans dump divs, computeLineSpans (displayText result.shownOutput).lines = .ok spans ∧
      renderDump result language palette = .ok dump ∧
      dump.lines.length = (dropMark (displayText result.shownOutput)).lines.length ∧
      divs.length = dump.lines.length ∧
      (∀ (index : Nat) text, (dropMark (displayText result.shownOutput)).lines[index]? = some text →
        ∃ span line div, spans[index]? = some span ∧ dump.lines[index]? = some line ∧
          divs[index]? = some div ∧ KeepsLine palette text span line div) ∧
      (∀ sheet, '<' ∉ sheet →
        KeepsPage title result.shownMessages divs (assemble dump title sheet)) ∧
      ∀ styleName style, Style.ofName? styleName = some style →
        ∃ page, render dump title styleName = .ok page ∧
          KeepsPage title result.shownMessages divs page := by
  rcases exists_rendersAs readable someColor language with ⟨spans, rendered, rendersAs⟩
  have rendering := renderDump_eq rendersAs.rendering
  have written : rendered.map lineElement =
      (rendered.map lineParts).map fun div => div.flatMap Segment.text := by
    rw [List.map_map]
    apply List.map_congr_left
    intro line member
    rcases rendersAs.madeFrom_of_mem member with ⟨_, _, made⟩
    exact (text_lineParts made.shows.1).symm
  have inert : ∀ div ∈ rendered.map lineParts, Inert div := by
    intro div member
    rcases List.mem_map.mp member with ⟨line, isLine, rfl⟩
    rcases rendersAs.madeFrom_of_mem isLine with ⟨_, _, made⟩
    exact inert_lineParts plainColors made
  have kept (sheet : Text) (noTag : '<' ∉ sheet) :
      KeepsPage title result.shownMessages (rendered.map lineParts)
        (assemble ⟨rendered, gutter rendered.length, result.shownMessages⟩ title sheet) :=
    @keepsPage ⟨rendered, _, _⟩ _ sheet written inert title noTag
  refine ⟨spans, _, rendered.map lineParts, rendersAs.computed, rendering,
    rendersAs.lineCount.trans (length_lines_dropMark _).symm, List.length_map _, ?_, kept, ?_⟩
  · intro index text here
    rcases rendersAs.made index text here with ⟨span, line, isOwn, atIndex, made⟩
    refine ⟨span, line, lineParts line, isOwn, atIndex, ?_, keepsLine plainColors made ?_⟩
    · rw [List.getElem?_map, atIndex]
      rfl
    · rintro source rfl
      exact rendersAs.readable index source isOwn
  · intro styleName style isStyle
    have noTag : '<' ∉ style.sheet outputSelector := Style.not_mem_sheet (by decide) style
    refine ⟨_, ?_, kept _ noTag⟩
    rw [render, isStyle]

/-- A result whose texts all look like parts of a page. -/
def tagLikeResult : CompileResult :=
  ⟨true, "\ufeff</div> // a.rs:1:2: 3:4\n\n\"<style>\" \x7blines\x7d".toList, "&lt;</pre>".toList⟩

theorem render_keepsInputs_tagLikeResult :
    ∃ dump divs page, renderDump tagLikeResult .dump .standard = .ok dump ∧
      render dump "</title><b>&amp;".toList "monokai".toList = .ok page ∧
      dump.lines.length = 3 ∧ divs.length = 3 ∧
      KeepsPage "</title><b>&amp;".toList "&lt;</pre>".toList divs page ∧
      ∃ span line div, divs[0]? = some div ∧
        KeepsLine .standard "</div> // a.rs:1:2: 3:4".toList span line div := by
  have readable : directSpans (displayText tagLikeResult.shownOutput).lines =
      .ok [some ⟨1, 2, 3, 4⟩, none, none] := by
    cbv
  have lines : (dropMark (displayText tagLikeResult.shownOutput)).lines =
      ["</div> // a.rs:1:2: 3:4", "", "\"<style>\" \x7blines\x7d"].map String.toList := by
    cbv
  have someColor : Palette.standard ≠ [] := List.cons_ne_nil _ _
  have plainColors : ∀ color ∈ Palette.standard, IsPlain color := by
    decide +kernel
  rcases render_keepsInputs readable someColor plainColors .dump "</title><b>&amp;".toList with
    ⟨_, dump, divs, _, rendering, lineCount, divCount, each, _, styled⟩
  rw [lines] at lineCount each
  rcases styled "monokai".toList .monokai (by decide) with ⟨page, isPage, keepsPage⟩
  rcases each 0 _ rfl with ⟨span, line, div, _, _, isDiv, keepsLine⟩
  exact ⟨dump, divs, page, rendering, isPage, lineCount, divCount.trans lineCount, keepsPage,
    span, line, div, isDiv, keepsLine⟩

end Page

end DumpLens
