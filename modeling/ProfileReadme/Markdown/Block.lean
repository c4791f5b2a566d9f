/-
Blocks as markdown. What is invisible or empty gives the empty text, and blocks that hold others
leave such parts out. Alignment that markdown cannot express is written as markup.
-/
import ProfileReadme.Block.Shown

namespace ProfileReadme

namespace Markdown

/-- Whether an alignment differs from the usual one. -/
def isSet (align : Option Align) : Bool := align == some .center || align == some .right

/-- Markdown in an aligned container; blank lines keep the inside markdown. -/
def aligned (align : Option Align) (s : String) : String :=
  match align with
  | some a =>
    if s.isEmpty || !isSet align then s
    else "<div align=\"" ++ Named.name a ++ "\">\n\n" ++ s ++ "\n\n</div>"
  | none => s

/-- An element of a line with an alignment of its own. -/
def alignedTag (tag : String) (align : Align) (content : String) : String :=
  "<" ++ tag ++ " align=\"" ++ Named.name align ++ "\">" ++ content ++ "</" ++ tag ++ ">"

/-- The alignment that markdown cannot express. -/
def setAlign? (align : Option Align) : Option Align := if isSet align then align else none

def embed (alt src : String) : String := "![" ++ Inline.escapeBrackets alt ++ "](" ++ src ++ ")"

def linkTo (text href : String) : String := "[" ++ text ++ "](" ++ href ++ ")"

/-- Text that leads somewhere if there is a link. -/
def linked (href : Option String) (text : String) : String :=
  match Text.filled? href with
  | some href => linkTo text href
  | none => text

/-- Paragraphs with a blank line between them. -/
def paragraphs (parts : List String) : String := Text.join "\n\n" parts

/-- A part that is there if its text is not empty. -/
def part (s : String) (write : String → String) : List String :=
  if s.isEmpty then [] else [write s]

def part? (s : Option String) (write : String → String) : List String :=
  part (s.getD "") write

/-- A part that lists something, if there is anything to list. -/
def listPart (ss : List String) (write : List String → String) : List String :=
  if ss.isEmpty then [] else [write ss]

def bullets (ss : List String) : String := Text.join "\n" (ss.map ("- " ++ ·))

def techLine (ss : List String) : String := "**Tech:** " ++ Text.join ", " ss

end Markdown

namespace Element

open Markdown

def Phrase.markdown (p : Phrase) : String :=
  if p.value.isEmpty then ""
  else
    match setAlign? p.align with
    | some a => alignedTag "p" a (Inline.wrap p.emphasis (Inline.toTags p.value))
    | none => Inline.mark p.emphasis p.value

def Heading.markdown (h : Heading) : String :=
  if h.value.isEmpty then ""
  else
    match setAlign? h.align with
    | some a => alignedTag ("h" ++ toString h.level.val) a (Inline.toTags h.value)
    | none => Text.repeated "#" h.level.val.toNat ++ " " ++ h.value

def Code.markdown (c : Code) : String :=
  if c.isInline then Inline.codeSpan c.value
  else "\x60\x60\x60" ++ c.language.getD "" ++ "\n" ++ c.value ++ "\n\x60\x60\x60"

def Quote.line (s : String) : String := if s.isEmpty then ">" else "> " ++ s

def Quote.markdown (q : Quote) : String :=
  if q.value.isEmpty then ""
  else
    let attribution := match Text.filled? q.author with
      | some author =>
        let source := match Text.filled? q.source with
          | some source => ", *" ++ source ++ "*"
          | none => ""
        [">", "> — " ++ author ++ source]
      | none => []
    Text.join "\n" ((Text.lines q.value).map Quote.line ++ attribution)

/-- An image with sizes or an alignment is written as markup, any other as markdown. -/
def Image.markdown (i : Image) : String :=
  let width := sizeOf? i.width
  let height := sizeOf? i.height
  let align := setAlign? i.align
  if align.isSome || width.isSome || height.isSome then
    let attributes := [("src", i.src), ("alt", i.alt)]
      ++ width.toList.map (fun n => ("width", toString n))
      ++ height.toList.map (fun n => ("height", toString n))
    let shown := attributes.map fun (k, v) => k ++ "=\"" ++ Text.escapeAttribute v ++ "\""
    let tag := "<img " ++ Text.join " " shown ++ " />"
    let tag := match Text.filled? i.link with
      | some href => "<a href=\"" ++ Text.escapeAttribute href ++ "\">" ++ tag ++ "</a>"
      | none => tag
    match align with
    | some a => alignedTag "p" a tag
    | none => tag
  else linked i.link (embed i.alt i.src)

def Link.markdown (l : Link) : String :=
  match Text.filled? l.title with
  | some title => linkTo l.label (l.href ++ " \"" ++ title ++ "\"")
  | none => linkTo l.label l.href

def Badge.markdown (b : Badge) : String := linked b.link (embed b.label b.imageUrl)

/-- How many breaks make up a height. -/
def Spacer.breaks : SizeToken → Nat
  | .xs | .sm => 1
  | .md => 2
  | .lg => 3
  | .xl => 4

def Spacer.markdown (s : Spacer) : String :=
  Text.join "\n" (List.replicate (Spacer.breaks s.height) "<br />")

def Rule.markdown (_ : Rule) : String := "---"

def Stat.markdown (s : Stat) : String :=
  "**" ++ withIcon s.icon s.label ++ ":** " ++ s.value.shown

def Social.markdown (s : Social) : String :=
  linkTo (if s.showIcon then embed s.text s.imageUrl else s.text) s.url

def Typing.markdown (t : Typing) : String :=
  if t.texts.isEmpty then "" else embed "Typing SVG" t.imageUrl

def StatsCard.markdown (c : StatsCard) : String := embed c.alt c.imageUrl

def Graph.markdown (g : Graph) : String := "![" ++ g.alt ++ "](" ++ g.imageUrl ++ ")"

def Card.markdown (c : Card) : String :=
  paragraphs <| ["### " ++ withIcon c.icon c.title]
    ++ part? c.subtitle (fun s => "*" ++ s ++ "*") ++ part? c.description id
    ++ part? c.url (linkTo "🔗 Link")

def ProjectCard.markdown (p : ProjectCard) : String :=
  let links := part? p.repoUrl (linkTo "📁 Repository") ++ part? p.demoUrl (linkTo "🚀 Live Demo")
  paragraphs <| ["### " ++ p.name] ++ part p.description id ++ listPart p.techStack techLine
    ++ listPart p.counts (Text.join " · ") ++ listPart links (Text.join " · ")

def Position.markdown (p : Position) : String :=
  paragraphs <| ["#### " ++ p.role ++ " @ " ++ p.company ++ "\n*" ++ p.period ++ "*"]
    ++ part p.description id ++ listPart p.highlights bullets
    ++ listPart p.technologies techLine

def Study.markdown (s : Study) : String :=
  let head := Text.join "\n"
    ["#### " ++ s.title, "*" ++ s.institution ++ "*", "*" ++ period s.startDate s.endDate ++ "*"]
  paragraphs <| [head] ++ part? s.gpa ("**GPA:** " ++ ·) ++ listPart s.honors bullets

def Award.markdown (a : Award) : String :=
  let line := a.iconText ++ " **" ++ linked a.url a.title ++ "**"
  let description := match Text.filled? a.description with
    | some d => " — " ++ d
    | none => ""
  let details := match a.details with
    | [] => ""
    | ds => " *(" ++ Text.join ", " ds ++ ")*"
  line ++ description ++ details

end Element

namespace Markdown

/-- The members of a group that show anything. -/
def group (sep : String) (markdown : α → String) (members : List (Placed α)) : String :=
  Text.joinFilled sep (members.map fun p => if p.visible then markdown p.content else "")

end Markdown

open Markdown in
def Element.markdown : Element → String
  | .text e => e.markdown
  | .heading e => e.markdown
  | .code e => e.markdown
  | .quote e => e.markdown
  | .image e => e.markdown
  | .link e => e.markdown
  | .badge e => e.markdown
  | .spacer e => e.markdown
  | .rule e => e.markdown
  | .stat e => e.markdown
  | .social e => e.markdown
  | .typing e => e.markdown
  | .statsCard e => e.markdown
  | .graph e => e.markdown
  | .card e => e.markdown
  | .projectCard e => e.markdown
  | .position e => e.markdown
  | .study e => e.markdown
  | .award e => e.markdown
  | .custom e => e.content
  | .badgeGroup e => aligned (some e.align) (group " " Element.Badge.markdown e.members)
  | .statGroup e => group " | " Element.Stat.markdown e.members
  | .socialGroup e => aligned (some e.align) (group " " Element.Social.markdown e.members)

namespace Markdown

/-- The parts of a stack in its layout: a paragraph is one line, other parts stand apart. -/
def arrange (layout : Layout) (parts : List String) : String :=
  match layout with
  | .paragraph align => aligned align (Text.joinFilled " " parts)
  | _ => Text.joinFilled "\n\n" parts

/-- A line of a list; nested lists are indented by two blanks each. -/
def listLine (marker : ListMarker) (depth number : Nat) (icon : Option String) (content : String) :
    String :=
  let lead := match marker with
    | .ordered => toString number ++ "."
    | _ => "-"
  Text.repeated "  " depth ++ lead ++ " " ++ Element.withIcon icon content

end Markdown

mutual

def Block.markdown : Block → String
  | .element _ visible content => if visible then content.markdown else ""
  | .stack _ visible layout children =>
    if visible then Markdown.arrange layout (Block.markdownAll children) else ""
  | .list _ visible marker items =>
    if visible then Text.join "\n" (Item.linesAll marker 0 1 items) else ""

def Block.markdownAll : List Block → List String
  | [] => []
  | b :: bs => b.markdown :: Block.markdownAll bs

/-- The lines of items, numbered from `number`; an item without content is left out together with
what is nested in it. -/
def Item.linesAll (marker : ListMarker) (depth number : Nat) : List Item → List String
  | [] => []
  | .text content icon nested :: rest =>
    if content.isEmpty then Item.linesAll marker depth number rest
    else
      Markdown.listLine marker depth number icon content
        :: Item.linesAll marker (depth + 1) 1 nested
        ++ Item.linesAll marker depth (number + 1) rest
  | .block content icon nested :: rest =>
    let content := content.markdown
    if content.isEmpty then Item.linesAll marker depth number rest
    else
      Markdown.listLine marker depth number icon content
        :: Item.linesAll marker (depth + 1) 1 nested
        ++ Item.linesAll marker depth (number + 1) rest

end

/-- The markdown of blocks that is not empty, joined. -/
def Markdown.joinBlocks (sep : String) (blocks : List Block) : String :=
  Text.joinFilled sep (blocks.map Block.markdown)

end ProfileReadme
