import DumpLens.Markup.Escape
import DumpLens.Render.Dump
import DumpLens.Render.Stylesheet

/-! Pages: rendered dumps as documents that stand on their own. -/

namespace DumpLens

/-- The numbers of a span as an object with named fields. -/
def SourceSpan.fieldText (span : SourceSpan) : Text :=
  "\x7b\"start_line\": ".toList ++ Text.ofInt span.startLine ++
    ", \"start_col\": ".toList ++ Text.ofInt span.startCol ++
    ", \"end_line\": ".toList ++ Text.ofInt span.endLine ++
    ", \"end_col\": ".toList ++ Text.ofInt span.endCol ++ "\x7d".toList

namespace Page

/-- The element of a line. A line with a span carries it as data and as a title. -/
def lineElement (line : RenderedLine) : Text :=
  match line.span with
  | none => "<div class=\"ir-line\">".toList ++ line.markup ++ "</div>".toList
  | some span =>
    "<div class=\"ir-line has-span\" data-span=\"".toList ++ Markup.quote span.fieldText ++
      "\" title=\"".toList ++ span.text ++
      "\" style=\"background-color: ".toList ++ line.color.getD [] ++ "\">".toList ++
      line.markup ++ "</div>".toList

def beforeTitle : Text :=
  "<!DOCTYPE html>\n<html>\n<head>\n<meta charset=\"utf-8\">\n<title>".toList

/-- What comes between the title and the style sheet. -/
def beforeSheet : Text :=
  ("</title>\n<style>\n" ++
    "body \x7b font-family: \"SF Mono\", \"Fira Code\", monospace; font-size: 13px; \x7d\n" ++
    ".ir-output \x7b white-space: pre; \x7d\n" ++
    ".ir-line.has-span \x7b cursor: pointer; \x7d\n" ++
    ".ir-line.has-span:hover \x7b outline: 1px solid rgba(128, 128, 128, 0.5); \x7d\n" ++
    ".messages \x7b white-space: pre-wrap; color: #a00; \x7d\n").toList

/-- What comes between the style sheet and the lines. -/
def beforeLines : Text :=
  "\n</style>\n</head>\n<body>\n<div class=\"ir-output\">\n".toList

/-- What comes between the lines and the messages. -/
def beforeMessages : Text :=
  "\n</div>\n<pre class=\"messages\">".toList

/-- What comes behind the messages. -/
def afterMessages : Text :=
  "</pre>\n</body>\n</html>\n".toList

/-- The page of a dump with the given style sheet. -/
def assemble (dump : RenderedDump) (title sheet : Text) : Text :=
  beforeTitle ++ Markup.quote title ++ beforeSheet ++ sheet ++ beforeLines ++
    Text.unlines (dump.lines.map lineElement) ++
    beforeMessages ++ Markup.quote dump.messages ++ afterMessages

/-- The selector of the element that holds the lines. -/
def outputSelector : Text := ".ir-output".toList

/-- The page of a dump in the style of a name. -/
def render (dump : RenderedDump) (title styleName : Text) : Except RenderError Text :=
  match Style.ofName? styleName with
  | some style => .ok (assemble dump title (style.sheet outputSelector))
  | none => .error (.unknownStyle styleName)

end Page

end DumpLens
