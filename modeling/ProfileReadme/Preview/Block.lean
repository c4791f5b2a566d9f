/-
Blocks as page elements. A block shows here exactly what it shows as markdown; images of cards are
tracked, and stand as skeletons until they are loaded.
-/
import ProfileReadme.Markdown.Block
import ProfileReadme.Markup.Sanitize
import ProfileReadme.Preview.Node
import ProfileReadme.Preview.Tracker
import ProfileReadme.Url.Reference

namespace ProfileReadme

namespace Preview

/-- The settings of one preview. -/
structure Context where
  theme : ColorScheme := .system
  /-- Blocks are shown as their markdown. -/
  asMarkdown : Bool := false
  /-- The URL that relative links start from. -/
  baseUrl : Option String := none
deriving DecidableEq, Repr, Inhabited

open Reader in
def Context.read : Reader Context :=
  record "context" fun fs =>
    Context.mk <$> field "theme" .system Named.read fs <*> field "as_markdown" false bool fs
      <*> optionalField "base_url" text fs

/-- Why a block cannot be drawn. -/
inductive Fault where
  | url (fault : Url.Fault)
  | markup (rejection : Markup.Rejection)
  /-- The source of an image is a list or an object. -/
  | source
  | invalid (issues : List Issue)

/-- A drawing that may fail, and that tracks images either way. -/
abbrev Drawing (α : Type) := ExceptT Fault (StateM Tracker) α

def Drawing.ofExcept (fault : ε → Fault) : Except ε α → Drawing α
  | .ok a => pure a
  | .error e => throw (fault e)

/-- A link as the page follows it. -/
def Context.resolve (c : Context) (url : String) : Drawing String :=
  .ofExcept .url (Url.resolve url c.baseUrl)

/-! ## Parts -/

def words (s : String) : Option Child := some (.text s)

def inside (n : Node) : Option Child := some (.node n)

/-- A part that is there if its text is not empty. -/
def part? (s : Option String) (draw : String → Node) : Option Child :=
  (Text.filled? s).map fun s => .node (draw s)

def classed (tag cls : String) (s : String) : Node :=
  element tag [("class", some cls)] [words s] false

def plain (tag : String) (s : String) : Node := element tag [] [words s] false

def alignClass (a : Align) : String := "text-" ++ Named.name a

def lazyImage (src alt : String) (cls : Option String) : Node :=
  element "img" [("src", some src), ("alt", some alt), ("loading", some "lazy"), ("class", cls)] []
    false

/-- A link that opens a page of its own. -/
def outerLink (href s : String) : Node :=
  element "a" [("href", some href), ("target", some "_blank")] [words s] false

def optionalLink (c : Context) (url : Option String) (s : String) : Drawing (Option Child) :=
  match Text.filled? url with
  | some url => do return inside (outerLink (← c.resolve url) s)
  | none => pure none

/-- A container around what is drawn inside it, if anything is. -/
def container (tag : String) (attrs : List (String × Option String)) (nodes : List Node) :
    Option Node :=
  if nodes.isEmpty then none else some (element tag attrs (nodes.map inside) false)

def bullets (ss : List String) : Option Child :=
  if ss.isEmpty then none
  else inside (element "ul" [] (ss.map fun s => inside (plain "li" s)) false)

/-- The image of a card: tracked, and a skeleton until it is loaded. -/
def card (src alt : Value) (type : String) : Drawing Node := do
  if !src.isKey then throw .source
  let status ← modifyGet fun t =>
    let (image, t) := (t.track src alt type).observe src
    ((image.map (·.status)).getD .failed, t)
  let node :=
    if status = .loaded then
      elementOf "img"
        [("src", src), ("alt", alt), ("loading", .text "lazy"),
          ("class", .text ("stat-card stat-" ++ type))] [] false
    else
      elementOf "div"
        [("class", .text ("stat-card-skeleton stat-" ++ type)), ("role", .text "img"),
          ("aria-label", alt),
          ("aria-busy", if status = .loading then .text "true" else .null),
          ("data-status", Named.write status), ("data-src", src)] [] false
  match node with
  | .ok n => pure n
  | .bad issues => throw (.invalid issues)

end Preview

/-! ## Elements -/

namespace Element

open Preview

def Phrase.draw (p : Phrase) : Option Node :=
  if p.value.isEmpty then none
  else
    some (element "span" [("class", p.align.map alignClass)]
      [words (Inline.wrap p.emphasis (Inline.html p.value))] true)

def Heading.draw (h : Heading) : Option Node :=
  if h.value.isEmpty then none
  else
    some (element ("h" ++ toString h.level.val) [("class", h.align.map alignClass)]
      [words (Inline.html h.value)] true)

def Code.draw (c : Code) : Node :=
  if c.isInline then plain "code" c.value
  else
    let language := (Text.filled? c.language).map ("language-" ++ ·)
    element "pre" [] [inside (element "code" [("class", language)] [words c.value] false)] false

def Quote.draw (q : Quote) : Node :=
  let footer := part? q.author fun author =>
    element "footer" []
      [words ("— " ++ author), part? q.source fun source => plain "cite" (", " ++ source)] false
  element "blockquote" [] [inside (plain "p" q.value), footer] false

def Image.draw (c : Context) (i : Image) : Drawing Node := do
  let image := element "img"
    [("src", some (← c.resolve i.src)), ("alt", some i.alt),
      ("width", (sizeOf? i.width).map toString), ("height", (sizeOf? i.height).map toString),
      ("loading", some "lazy"), ("class", i.size.map fun s => "img-" ++ Named.name s)] [] false
  let image ← match Text.filled? i.link with
    | some link => do pure (element "a" [("href", some (← c.resolve link))] [inside image] false)
    | none => pure image
  return element "p" [("class", some (alignClass (i.align.getD .center)))] [inside image] false

def Link.draw (c : Context) (l : Link) : Drawing Node := do
  let outer := fun (s : String) => if l.external then some s else none
  return element "a"
    [("href", some (← c.resolve l.href)), ("title", l.title), ("target", outer "_blank"),
      ("rel", outer "noopener noreferrer")] [words l.label] false

def Badge.draw (c : Context) (b : Badge) : Drawing Node := do
  let image := lazyImage b.imageUrl b.label none
  match Text.filled? b.link with
  | some link =>
    return element "a" [("href", some (← c.resolve link)), ("target", some "_blank")]
      [inside image] false
  | none => return image

def Spacer.draw (s : Spacer) : Node :=
  element "div" [("class", some ("spacer spacer-" ++ Named.name s.height))] [] false

def Rule.draw (r : Rule) : Node :=
  element "hr"
    [("class", some ("divider divider-" ++ Named.name r.style)),
      ("style", some ("width: " ++ Named.name r.width))] [] false

def Stat.draw (s : Stat) : Node :=
  let color := (Text.filled? s.color).map ("color: " ++ ·)
  element "div" [("class", some "stat")]
    [part? s.icon (classed "span" "stat-icon"),
      inside (element "span" [("class", some "stat-value"), ("style", color)]
        [words s.value.shown] false),
      inside (classed "span" "stat-label" s.label)] false

def Social.draw (c : Context) (s : Social) : Drawing Node := do
  let content := if s.showIcon then inside (lazyImage s.imageUrl s.text none) else words s.text
  return element "a"
    [("href", some (← c.resolve s.url)), ("target", some "_blank"),
      ("rel", some "noopener noreferrer"),
      ("class", some ("social-link social-" ++ s.platform))] [content] false

def Typing.draw (t : Typing) : Option Node :=
  if t.texts.isEmpty then none
  else
    some (element "p" [("class", some "text-center")]
      [inside (lazyImage t.imageUrl "Typing SVG" none)] false)

def StatsCard.draw (s : StatsCard) : Drawing Node :=
  Preview.card (.text s.imageUrl) (.text s.alt) (Named.name s.card)

def Graph.draw (g : Graph) : Drawing Node :=
  Preview.card (.text g.imageUrl) (.text g.alt) (Named.name StatCard.activityGraph)

def Card.draw (c : Context) (k : Card) : Drawing Node := do
  let link ← optionalLink c k.url "🔗 Link"
  return element "div" [("class", some "card")]
    [inside (classed "h4" "card-title" (withIcon k.icon k.title)),
      part? k.subtitle (classed "p" "card-subtitle"),
      part? k.description (classed "p" "card-description"), link] false

/-- The most technologies that a project card shows. -/
def shownTech : Nat := 3

def ProjectCard.draw (p : ProjectCard) : Node :=
  let tags := (p.techStack.take shownTech).map (classed "span" "tech-tag")
    ++ p.counts.map (plain "span")
  let links := (Text.filled? p.repoUrl).toList.map (outerLink · "📁 Repository")
    ++ (Text.filled? p.demoUrl).toList.map (outerLink · "🚀 Live Demo")
  let cls := if p.featured then "card project-card featured" else "card project-card"
  element "div" [("class", some cls)]
    [part? p.imageUrl fun src => lazyImage src p.name (some "card-image"),
      inside (classed "h4" "card-title" p.name),
      part? (some p.description) (classed "p" "card-description"),
      (container "div" [("class", some "card-footer")] tags).map Child.node,
      (container "div" [("class", some "card-links")] links).map Child.node] false

def Position.draw (p : Position) : Node :=
  let tech := if p.technologies.isEmpty then none
    else inside (classed "p" "timeline-tech" ("Tech: " ++ Text.join ", " p.technologies))
  let cls := if p.isCurrent then "timeline-item current" else "timeline-item"
  element "div" [("class", some cls)]
    [inside (classed "h4" "timeline-title" p.role),
      inside (classed "p" "timeline-subtitle" p.company),
      inside (classed "p" "timeline-date" p.period), part? (some p.description) (plain "p"),
      bullets p.highlights, tech] false

def Study.draw (s : Study) : Node :=
  element "div" [("class", some "timeline-item")]
    [inside (classed "h4" "timeline-title" s.title),
      inside (classed "p" "timeline-subtitle" s.institution),
      inside (classed "p" "timeline-date" (period s.startDate s.endDate)),
      part? s.gpa fun gpa => plain "p" ("GPA: " ++ gpa), bullets s.honors] false

def Award.draw (c : Context) (a : Award) : Drawing Node := do
  let title ← match Text.filled? a.url with
    | some url => do
      pure (inside (element "a" [("href", some (← c.resolve url))] [words a.title] false))
    | none => pure (words a.title)
  let content := element "div" [("class", some "achievement-content")]
    [inside (element "h4" [] [title] false), part? a.description (plain "p"),
      part? (some (Text.join ", " a.details)) (classed "p" "achievement-meta")] false
  return element "div" [("class", some "achievement")]
    [inside (classed "span" "achievement-icon" a.iconText), inside content] false

/-- The value of a field, unless it stands for nothing. -/
def Custom.setting? (b : Custom) (name : String) : Option Value :=
  (b.data.find? name).filter (!·.isEmptyLike)

/-- Content of another type: an image that its data names, markup made safe, or plain text. -/
def Custom.draw (b : Custom) : Drawing (Option Node) :=
  match b.setting? "image_url" with
  | some src =>
    some <$> Preview.card src ((b.setting? "alt").getD (.text b.customType)) b.customType
  | none =>
    let shown := fun (s : String) (raw : Bool) =>
      element "div" [("class", some ("custom custom-" ++ b.customType))] [words s] raw
    if b.content.isEmpty then pure none
    else if b.customType = "markdown" then pure (some (shown b.content true))
    else if b.customType = "html" then do
      let safe ← Drawing.ofExcept .markup (Markup.sanitize b.content)
      return some (shown safe true)
    else pure (some (shown b.content false))

end Element

namespace Preview

/-- The visible members of a group, drawn. -/
def drawMembers (draw : α → Drawing Node) (members : List (Placed α)) : Drawing (List Node) :=
  (members.filter (·.visible)).mapM fun p => draw p.content

end Preview

open Preview in
def Element.draw (c : Context) : Element → Drawing (Option Node)
  | .text e => pure e.draw
  | .heading e => pure e.draw
  | .code e => pure (some e.draw)
  | .quote e => pure (some e.draw)
  | .image e => some <$> e.draw c
  | .link e => some <$> e.draw c
  | .badge e => some <$> e.draw c
  | .spacer e => pure (some e.draw)
  | .rule e => pure (some e.draw)
  | .stat e => pure (some e.draw)
  | .social e => some <$> e.draw c
  | .typing e => pure e.draw
  | .statsCard e => some <$> e.draw
  | .graph e => some <$> e.draw
  | .card e => some <$> e.draw c
  | .projectCard e => pure (some e.draw)
  | .position e => pure (some e.draw)
  | .study e => pure (some e.draw)
  | .award e => some <$> e.draw c
  | .custom e => e.draw
  | .badgeGroup e => do
    let cls := "badge-container gap-" ++ Named.name e.gap ++ " " ++ alignClass e.align
    return container "div" [("class", some cls)] (← drawMembers (Element.Badge.draw c) e.members)
  | .statGroup e => do
    let cls := "stats-container stats-" ++ Named.name e.layout
    return container "div" [("class", some cls)]
      (← drawMembers (fun s => pure (Element.Stat.draw s)) e.members)
  | .socialGroup e => do
    let cls := "social-links social-" ++ Named.name e.style ++ " " ++ alignClass e.align
    return container "div" [("class", some cls)] (← drawMembers (Element.Social.draw c) e.members)

/-! ## Blocks -/

namespace Preview

/-- The container of a stack. -/
def arrange (layout : Layout) (nodes : List Node) : Option Node :=
  match layout with
  | .paragraph align => container "p" [("class", align.map alignClass)] nodes
  | .row align justify gap wraps =>
    let cls := "flex-row align-" ++ Named.name align ++ " justify-" ++ Named.name justify ++ " gap-"
      ++ Named.name gap ++ (if wraps then " flex-wrap" else "")
    container "div" [("class", some cls)] nodes
  | .column span =>
    container "div"
      [("class", some "flex-col"),
        ("style", (Element.sizeOf? span).map fun n => "flex: " ++ toString n)] nodes
  | .grid columns gap =>
    let style := "grid-template-columns: repeat(" ++ toString columns.val ++ ", minmax(0, 1fr))"
    container "div" [("class", some ("grid gap-" ++ Named.name gap)), ("style", some style)] nodes

/-- The element around the items of a list. -/
def listOf (marker : ListMarker) (entries : List Node) : Option Node :=
  match marker with
  | .ordered => container "ol" [] entries
  | .unordered => container "ul" [] entries
  | .hidden => container "ul" [("class", some "list-none")] entries

/-- An item: its icon, its content, and the list below it. -/
def entry (icon : Option String) (content : Child) (nested : Option Node) (raw : Bool) : Node :=
  element "li" [] [part? icon (classed "span" "list-icon"), some content, nested.map .node] raw

end Preview

open Preview in
mutual

/-- A block in a preview that shows blocks as they will look. -/
def Block.drawTree (c : Context) : Block → Drawing (Option Node)
  | .element _ visible content => if visible then content.draw c else pure none
  | .stack _ visible layout children =>
    if visible then do return arrange layout (← Block.drawAll c children) else pure none
  | .list _ visible marker items =>
    if visible then do return listOf marker (← Item.drawAll c marker items) else pure none

/-- The blocks that show anything, drawn in order. -/
def Block.drawAll (c : Context) : List Block → Drawing (List Node)
  | [] => pure []
  | b :: bs => do
    let node ← b.drawTree c
    let nodes ← Block.drawAll c bs
    return node.toList ++ nodes

/-- Items in order. What is nested in an item is drawn before its content. -/
def Item.drawAll (c : Context) (marker : ListMarker) : List Item → Drawing (List Node)
  | [] => pure []
  | .text content icon nested :: rest => do
    let below ← Item.drawAll c marker nested
    let nodes ← Item.drawAll c marker rest
    if content.isEmpty then return nodes
    else
      return entry icon (.text (Inline.html content)) (listOf marker below) true :: nodes
  | .block content icon nested :: rest => do
    let below ← Item.drawAll c marker nested
    let node ← content.drawTree c
    let nodes ← Item.drawAll c marker rest
    match node with
    | some n => return entry icon (.node n) (listOf marker below) false :: nodes
    | none => return nodes

end

open Preview in
/-- A block in a preview: as it will look, or as its markdown. -/
def Block.draw (c : Context) (b : Block) : Drawing (Option Node) :=
  if c.asMarkdown then
    let s := b.markdown
    pure (if s.isEmpty then none else some (classed "pre" "markdown-source" s))
  else b.drawTree c

end ProfileReadme
