import DumpLens.Proofs.Render.PageReading
import DumpLens.Proofs.Text.Lines

/-! The outline of a page: its own tags, around its title, its lines and its messages. -/

namespace DumpLens.Page

open Markup (Segment)

variable {sheet : Text} {divs : List (List Segment)}

/-! ## The outline -/

def newline : Segment := .visible '\n'

/-- Segments between the tags of an element. -/
def element (opening closing : String) (inside : List Segment) : List Segment :=
  .tag opening.toList :: inside ++ [.tag closing.toList]

def headOutline (title : Text) : List Segment :=
  element "<head>" "</head>" <|
    newline :: .tag "<meta charset=\"utf-8\">".toList ::
    newline :: element "<title>" "</title>" (title.map .visible) ++
    newline :: element "<style>" "</style>" [] ++ [newline]

/-- The body of a page with elements for its lines, and messages. -/
def bodyOutline (divs : List (List Segment)) (messages : Text) : List Segment :=
  element "<body>" "</body>" <|
    newline :: element "<div class=\"ir-output\">" "</div>"
      (newline :: [newline].intercalate divs ++ [newline]) ++
    newline :: element "<pre class=\"messages\">" "</pre>" (messages.map .visible) ++ [newline]

/-- The tags of a page and all it shows. -/
def outline (title : Text) (divs : List (List Segment)) (messages : Text) : List Segment :=
  .tag "<!DOCTYPE html>".toList ::
  newline :: element "<html>" "</html>"
    (newline :: headOutline title ++ newline :: bodyOutline divs messages ++ [newline]) ++
  [newline]

def frontTags : List Text :=
  ["<!DOCTYPE html>", "<html>", "<head>", "<meta charset=\"utf-8\">", "<title>", "</title>",
    "<style>", "</style>", "</head>", "<body>", "<div class=\"ir-output\">"].map String.toList

def backTags : List Text :=
  ["</div>", "<pre class=\"messages\">", "</pre>", "</body>", "</html>"].map String.toList

/-! ## The outline as it is written

The parts are named for what they stand in front of, or behind. -/

def titleFront : List Segment := [
  .tag "<!DOCTYPE html>".toList, newline,
  .tag "<html>".toList, newline,
  .tag "<head>".toList, newline,
  .tag "<meta charset=\"utf-8\">".toList, newline,
  .tag "<title>".toList]

def sheetFront : List Segment := [.tag "</title>".toList, newline]

def linesFront : List Segment := [
  newline, .tag "</head>".toList,
  newline, .tag "<body>".toList,
  newline, .tag "<div class=\"ir-output\">".toList, newline]

def messagesFront : List Segment := [
  newline, .tag "</div>".toList,
  newline, .tag "<pre class=\"messages\">".toList]

def messagesBehind : List Segment := [
  .tag "</pre>".toList, newline,
  .tag "</body>".toList, newline,
  .tag "</html>".toList, newline]

/-- The rules that every page has for its own elements. -/
def ownRules : Text :=
  beforeSheet.drop 16

theorem outline_eq (title : Text) (divs : List (List Segment)) (messages : Text) :
    outline title divs messages =
      (titleFront ++ title.map .visible ++ sheetFront) ++
        .tag sheetTag :: .tag sheetEnd ::
          (linesFront ++ [newline].intercalate divs ++ messagesFront ++ messages.map .visible ++
            messagesBehind) := by
  simp only [outline, headOutline, bodyOutline, element, titleFront, sheetFront, linesFront,
    messagesFront, messagesBehind, List.cons_append, List.append_assoc, -String.reduceToList]
  rfl

theorem text_titleFront : titleFront.flatMap Segment.text = beforeTitle := by
  decide +kernel

theorem text_sheetFront :
    sheetFront.flatMap Segment.text ++ sheetTag ++ ownRules = beforeSheet := by
  have front : beforeSheet.take 16 = sheetFront.flatMap Segment.text ++ sheetTag := by
    unfold beforeSheet
    iterate 5 rw [String.toList_append]
    decide +kernel
  rw [← front]
  exact List.take_append_drop 16 beforeSheet

theorem not_mem_ownRules : '<' ∉ ownRules := by
  unfold ownRules beforeSheet
  iterate 5 rw [String.toList_append]
  decide +kernel

theorem text_linesFront :
    ['\n'] ++ sheetEnd ++ linesFront.flatMap Segment.text = beforeLines := by
  decide +kernel

theorem text_messagesFront : messagesFront.flatMap Segment.text = beforeMessages := by
  decide +kernel

theorem text_messagesBehind : messagesBehind.flatMap Segment.text = afterMessages := by
  decide +kernel

theorem text_intercalate (divs : List (List Segment)) :
    ([newline].intercalate divs).flatMap Segment.text =
      Text.unlines (divs.map fun div => div.flatMap Segment.text) := by
  induction divs with
  | nil => rfl
  | cons div divs induction =>
      cases divs with
      | nil => simp [Text.unlines]
      | cons next divs =>
          have more : next :: divs ≠ [] := List.cons_ne_nil _ _
          rw [List.intercalate_cons_of_ne_nil more, List.flatMap_append, List.flatMap_append,
            induction, List.map_cons (a := div),
            Text.unlines_cons _ (mt List.map_eq_nil_iff.mp more), List.append_assoc]
          rfl

/-! ## Reading the outline -/

theorem inert_newline : Inert [newline] := by
  refine ⟨by decide, by decide⟩

theorem inert_intercalate (inert : ∀ div ∈ divs, Inert div) :
    Inert ([newline].intercalate divs) := by
  induction divs with
  | nil => exact ⟨by simp, by simp⟩
  | cons div divs induction =>
      have others := induction fun div member => inert div (List.mem_cons_of_mem _ member)
      have first := inert div List.mem_cons_self
      cases divs with
      | nil => simpa using first
      | cons next divs =>
          rw [List.intercalate_cons_of_ne_nil (List.cons_ne_nil _ _)]
          exact (first.append inert_newline).append others

theorem inert_quote (text : Text) : Inert ((Markup.quote text).map .visible) :=
  inert_visible (Markup.not_mem_opening_quote text) (Markup.not_mem_closing_quote text)

theorem inert_front (title : Text) :
    Inert (titleFront ++ (Markup.quote title).map Segment.visible ++ sheetFront) := by
  have titleFrontInert : Inert titleFront := ⟨by decide +kernel, by decide +kernel⟩
  have sheetFrontInert : Inert sheetFront := ⟨by decide +kernel, by decide +kernel⟩
  exact (titleFrontInert.append (inert_quote title)).append sheetFrontInert

theorem inert_back (inert : ∀ div ∈ divs, Inert div) (messages : Text) :
    Inert (linesFront ++ [newline].intercalate divs ++ messagesFront ++
      (Markup.quote messages).map Segment.visible ++ messagesBehind) := by
  have linesFrontInert : Inert linesFront := ⟨by decide +kernel, by decide +kernel⟩
  have messagesFrontInert : Inert messagesFront := ⟨by decide +kernel, by decide +kernel⟩
  have messagesBehindInert : Inert messagesBehind := ⟨by decide +kernel, by decide +kernel⟩
  have lines := linesFrontInert.append (inert_intercalate inert)
  exact ((lines.append messagesFrontInert).append (inert_quote messages)).append
    messagesBehindInert

/-- A page is read back as its outline, whatever its title and its messages are. -/
theorem segments_assemble {dump : RenderedDump}
    (written : dump.lines.map lineElement = divs.map fun div => div.flatMap Segment.text)
    (inert : ∀ div ∈ divs, Inert div) (title : Text) (noTag : '<' ∉ sheet) :
    segments (assemble dump title sheet) =
      outline (Markup.quote title) divs (Markup.quote dump.messages) := by
  have noSheetTag : '<' ∉ ownRules ++ sheet ++ ['\n'] := by
    simp [not_mem_ownRules, noTag]
  have assembled : assemble dump title sheet =
      (titleFront ++ (Markup.quote title).map Segment.visible ++ sheetFront).flatMap Segment.text ++
        (sheetTag ++ ((ownRules ++ sheet ++ ['\n']) ++ (sheetEnd ++
          ((linesFront ++ [newline].intercalate divs ++ messagesFront ++
            (Markup.quote dump.messages).map Segment.visible ++ messagesBehind).flatMap
              Segment.text ++ [])))) := by
    rw [assemble, written, ← text_titleFront, ← text_sheetFront, ← text_linesFront,
      ← text_messagesFront, ← text_messagesBehind, ← text_intercalate]
    simp only [List.flatMap_append, Markup.text_visible, List.append_assoc, List.append_nil]
  rw [assembled, segments_append (inert_front title), segments_sheet noSheetTag,
    segments_append (inert_back inert dump.messages), segments_nil, List.append_nil, outline_eq]

/-- What is whole in the elements of lines is whole in the page. -/
theorem isWhole_outline (inert : ∀ div ∈ divs, Inert div) (title messages : Text) :
    ∀ part ∈ outline (Markup.quote title) divs (Markup.quote messages), IsWhole part := by
  intro part member
  rw [outline_eq] at member
  rcases List.mem_append.mp member with front | behind
  · exact (inert_front title).whole part front
  · rcases List.mem_cons.mp behind with rfl | behind
    · decide
    · rcases List.mem_cons.mp behind with rfl | back
      · decide
      · exact (inert_back inert messages).whole part back

/-! ## Tags of the outline -/

theorem tagsOf_intercalate (divs : List (List Segment)) :
    Markup.tagsOf ([newline].intercalate divs) = divs.flatMap Markup.tagsOf := by
  induction divs with
  | nil => rfl
  | cons div divs induction =>
      by_cases last : divs = []
      · simp [last]
      · rw [List.intercalate_cons_of_ne_nil last, Markup.tagsOf_append, Markup.tagsOf_append,
          induction, List.flatMap_cons, List.append_assoc]
        rfl

/-- The tags of a page are its own, around those of its lines. -/
theorem tagsOf_outline (title : Text) (divs : List (List Segment)) (messages : Text) :
    Markup.tagsOf (outline title divs messages) =
      frontTags ++ divs.flatMap Markup.tagsOf ++ backTags := by
  have front : frontTags = Markup.tagsOf titleFront ++ Markup.tagsOf sheetFront ++
      sheetTag :: sheetEnd :: Markup.tagsOf linesFront := rfl
  have back : backTags = Markup.tagsOf messagesFront ++ Markup.tagsOf messagesBehind := rfl
  rw [outline_eq, front, back]
  simp [tagsOf_intercalate]

end DumpLens.Page
