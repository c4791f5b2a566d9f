/-
The readme: the sections of an output as markdown, one after the other.
-/
import ProfileReadme.Markdown.Block
import ProfileReadme.Render.Output

namespace ProfileReadme

open Reader

namespace Markdown

structure ExportOptions where
  /-- Each section starts with a comment that names its type. -/
  sectionComments : Bool := false
  /-- A comment at the start and a line at the end say what made the readme. -/
  attribution : Bool := false
  lineEnding : LineEnding := .lf
deriving DecidableEq, Repr, Inhabited

def ExportOptions.read : Reader ExportOptions :=
  record "export options" fun fs =>
    ExportOptions.mk <$> field "include_section_comments" false bool fs
      <*> field "attribution" false bool fs <*> field "line_ending" .lf Named.read fs

def attributionComment : String := "<!-- Created with GitHub Profile Studio -->"

def attributionFooter : String :=
  "*Made with ❤️ using [GitHub Profile Studio](https://github.com/github-profile-studio)*"

/-- The sections of a page: each ends its line, and a blank line stands between two of them. -/
def sectionLines : List String → String
  | [] => ""
  | [s] => s ++ "\n"
  | s :: rest => s ++ "\n\n" ++ sectionLines rest

/-- A page as it is laid out, before its ends are trimmed. The attribution stands around the
sections in paragraphs of its own. -/
def page (attribution : Bool) (sections : List String) : String :=
  let head := if attribution then attributionComment ++ "\n\n" else ""
  let gap := if sections.isEmpty then "" else "\n"
  let foot := if attribution then gap ++ "---\n\n" ++ attributionFooter ++ "\n" else ""
  head ++ sectionLines sections ++ foot

end Markdown

/-- A section as markdown: a comment and a title if there are any, and the blocks. A section that
is hidden or shows nothing is the empty text. -/
def Render.RenderedSection.markdown (s : Render.RenderedSection) (comment : Bool) : String :=
  let body := if s.visible then Markdown.joinBlocks "\n\n" s.blocks else ""
  if body.isEmpty then ""
  else
    let marker := if comment then ["<!-- Section: " ++ s.type ++ " -->"] else []
    let title := (Text.filled? s.title).toList.map ("## " ++ ·)
    match marker ++ title with
    | [] => body
    | head => Text.join "\n" head ++ "\n\n" ++ body

/-- The sections of an output that show something, as markdown. -/
def Render.Output.sectionTexts (output : Render.Output) (o : Markdown.ExportOptions) :
    List String :=
  (output.sections.map (·.markdown o.sectionComments)).filter (!·.isEmpty)

/-- The readme of an output, without blanks at both ends and with a line break at its end. It is
empty if there is nothing to show. -/
def Render.Output.readme (output : Render.Output) (o : Markdown.ExportOptions) : String :=
  let body := Text.strip (Markdown.page o.attribution (output.sectionTexts o))
  if body.isEmpty then "" else o.lineEnding.normalize (body ++ "\n")

end ProfileReadme
