/-
What blocks say: one record per kind that holds no blocks of any kind. Groups hold members of one
kind, each with an id of its own.
-/
import ProfileReadme.Block.Kind
import ProfileReadme.Inline
import ProfileReadme.Number.Decimal
import ProfileReadme.Style

namespace ProfileReadme

open Reader

/-- The space between neighbours. -/
inductive Gap where
  | sm | md | lg
deriving DecidableEq, Repr, Inhabited

instance : Named Gap where
  all := [.sm, .md, .lg]
  name
    | .sm => "sm"
    | .md => "md"
    | .lg => "lg"

instance : Named.Lawful Gap := ⟨by intro a; cases a <;> decide⟩

/-- A height in steps. -/
inductive SizeToken where
  | xs | sm | md | lg | xl
deriving DecidableEq, Repr, Inhabited

instance : Named SizeToken where
  all := [.xs, .sm, .md, .lg, .xl]
  name
    | .xs => "xs"
    | .sm => "sm"
    | .md => "md"
    | .lg => "lg"
    | .xl => "xl"

instance : Named.Lawful SizeToken := ⟨by intro a; cases a <;> decide⟩

/-- The size of an image in steps. -/
inductive ImageSize where
  | xs | sm | md | lg | xl | full | auto
deriving DecidableEq, Repr, Inhabited

instance : Named ImageSize where
  all := [.xs, .sm, .md, .lg, .xl, .full, .auto]
  name
    | .xs => "xs"
    | .sm => "sm"
    | .md => "md"
    | .lg => "lg"
    | .xl => "xl"
    | .full => "full"
    | .auto => "auto"

instance : Named.Lawful ImageSize := ⟨by intro a; cases a <;> decide⟩

/-- The line of a dividing rule. -/
inductive RuleStyle where
  | solid | dashed | dotted | gradient | wave
deriving DecidableEq, Repr, Inhabited

instance : Named RuleStyle where
  all := [.solid, .dashed, .dotted, .gradient, .wave]
  name
    | .solid => "solid"
    | .dashed => "dashed"
    | .dotted => "dotted"
    | .gradient => "gradient"
    | .wave => "wave"

instance : Named.Lawful RuleStyle := ⟨by intro a; cases a <;> decide⟩

/-- What a figure counts. -/
inductive StatFormat where
  | number | percentage | currency
deriving DecidableEq, Repr, Inhabited

instance : Named StatFormat where
  all := [.number, .percentage, .currency]
  name
    | .number => "number"
    | .percentage => "percentage"
    | .currency => "currency"

instance : Named.Lawful StatFormat := ⟨by intro a; cases a <;> decide⟩

/-- How figures stand together. -/
inductive StatLayout where
  | row | grid
deriving DecidableEq, Repr, Inhabited

instance : Named StatLayout where
  all := [.row, .grid]
  name
    | .row => "row"
    | .grid => "grid"

instance : Named.Lawful StatLayout := ⟨by intro a; cases a <;> decide⟩

/-- The look of social links. -/
inductive SocialStyle where
  | icons | badges | buttons | pills
deriving DecidableEq, Repr, Inhabited

instance : Named SocialStyle where
  all := [.icons, .badges, .buttons, .pills]
  name
    | .icons => "icons"
    | .badges => "badges"
    | .buttons => "buttons"
    | .pills => "pills"

instance : Named.Lawful SocialStyle := ⟨by intro a; cases a <;> decide⟩

/-- The value of a figure: a text or a number. -/
inductive Figure where
  | text (s : String)
  | whole (n : Int)
  | real (x : Binary64)
deriving DecidableEq, Repr, Inhabited

namespace Figure

/-- A text or a number as it is; of other values, what reads as one of them. -/
def read : Reader Figure
  | .text s => .ok (.text s)
  | .int n => .ok (.whole n)
  | .real x => .ok (.real x)
  | v =>
    match Reader.text v, Reader.int v, Reader.real v with
    | Checked.ok s, _, _ => .ok (.text s)
    | _, Checked.ok n, _ => .ok (.whole n)
    | _, _, Checked.ok x => .ok (.real x)
    | Checked.bad asText, Checked.bad asInt, Checked.bad asReal =>
      .bad <| asText.map (Issue.under (.field "str")) ++ asInt.map (Issue.under (.field "int"))
        ++ asReal.map (Issue.under (.field "float"))

def write : Figure → Value
  | .text s => .text s
  | .whole n => .int n
  | .real x => .real x

def shown : Figure → String
  | .text s => s
  | .whole n => toString n
  | .real x => x.text

end Figure

/-- A block's content with its id; what is not visible shows nowhere. -/
structure Placed (α : Type) where
  id : String
  visible : Bool := true
  content : α
deriving DecidableEq, Repr, Inhabited

namespace Placed

/-- The field that names the kind may be absent, but not name another one. -/
def kindField (k : BlockKind) (fs : Fields) : Checked Unit :=
  match fs.find? "kind" with
  | none => .ok ()
  | some (.text s) => if s = Named.name k then .ok () else wrong
  | some _ => wrong
where
  wrong : Checked Unit := (Checked.fail .notListed).inField "kind"

/-- The fields of a block: id and visibility, those that come before the kind, the kind, the
others. -/
def readFields (k : BlockKind) (read : Fields → Checked α) (fs : Fields) : Checked (Placed α) :=
  (fun id visible _ content => ⟨id, visible, content⟩) <$> required "id" text fs
    <*> field "visible" true bool fs <*> kindField k fs <*> read fs

def read (k : BlockKind) (readContent : Fields → Checked α) : Reader (Placed α) :=
  record (Named.name k) (readFields k readContent)

def write (k : BlockKind) (fields : α → List (String × Value)) (p : Placed α) : Value :=
  .obj <| [("id", .text p.id), ("visible", .bool p.visible), ("kind", Named.write k)]
    ++ fields p.content

end Placed

namespace Element

/-- A line of text. -/
structure Phrase where
  value : String
  emphasis : Emphasis := .normal
  align : Option Align := none
deriving DecidableEq, Repr, Inhabited

def Phrase.readFields (fs : Fields) : Checked Phrase :=
  Phrase.mk <$> required "value" text fs <*> field "emphasis" .normal Named.read fs
    <*> optionalField "align" Named.read fs

def Phrase.writeFields (r : Phrase) : List (String × Value) :=
  [("value", .text r.value), ("emphasis", Named.write r.emphasis),
    ("align", .optional Named.write r.align)]

structure Heading where
  value : String
  level : Bounded 1 (some 6) := .of 2 (.refl true)
  align : Option Align := none
deriving DecidableEq, Repr

def Heading.readFields (fs : Fields) : Checked Heading :=
  Heading.mk <$> required "value" text fs
    <*> field "level" (.of 2 (.refl true)) (bounded 1 (some 6)) fs
    <*> optionalField "align" Named.read fs

def Heading.writeFields (r : Heading) : List (String × Value) :=
  [("value", .text r.value), ("level", .int r.level.val), ("align", .optional Named.write r.align)]

structure Code where
  value : String
  language : Option String := none
  isInline : Bool := false
deriving DecidableEq, Repr, Inhabited

def Code.readFields (fs : Fields) : Checked Code :=
  Code.mk <$> required "value" text fs <*> optionalField "language" text fs
    <*> field "inline" false bool fs

def Code.writeFields (r : Code) : List (String × Value) :=
  [("value", .text r.value), ("language", .optional .text r.language),
    ("inline", .bool r.isInline)]

structure Quote where
  value : String
  author : Option String := none
  source : Option String := none
deriving DecidableEq, Repr, Inhabited

def Quote.readFields (fs : Fields) : Checked Quote :=
  Quote.mk <$> required "value" text fs <*> optionalField "author" text fs
    <*> optionalField "source" text fs

def Quote.writeFields (r : Quote) : List (String × Value) :=
  [("value", .text r.value), ("author", .optional .text r.author),
    ("source", .optional .text r.source)]

structure Image where
  src : String
  alt : String := ""
  width : Option Int := none
  height : Option Int := none
  size : Option ImageSize := none
  align : Option Align := none
  isAnimated : Bool := false
  link : Option String := none
deriving DecidableEq, Repr, Inhabited

def Image.readFields (fs : Fields) : Checked Image :=
  Image.mk <$> required "src" text fs <*> field "alt" "" text fs <*> optionalField "width" int fs
    <*> optionalField "height" int fs <*> optionalField "size" Named.read fs
    <*> optionalField "align" Named.read fs <*> field "is_animated" false bool fs
    <*> optionalField "link" text fs

def Image.writeFields (r : Image) : List (String × Value) :=
  [("src", .text r.src), ("alt", .text r.alt), ("width", .optional .int r.width),
    ("height", .optional .int r.height), ("size", .optional Named.write r.size),
    ("align", .optional Named.write r.align), ("is_animated", .bool r.isAnimated),
    ("link", .optional .text r.link)]

structure Link where
  href : String
  label : String
  title : Option String := none
  external : Bool := true
deriving DecidableEq, Repr, Inhabited

def Link.readFields (fs : Fields) : Checked Link :=
  Link.mk <$> required "href" text fs <*> required "text" text fs
    <*> optionalField "title" text fs <*> field "external" true bool fs

def Link.writeFields (r : Link) : List (String × Value) :=
  [("href", .text r.href), ("text", .text r.label), ("title", .optional .text r.title),
    ("external", .bool r.external)]

structure Badge where
  label : String
  message : Option String := none
  color : String := "#0969da"
  labelColor : Option String := none
  logo : Option String := none
  logoColor : Option String := none
  style : BadgeStyle := .forTheBadge
  link : Option String := none
deriving DecidableEq, Repr, Inhabited

def Badge.readFields (fs : Fields) : Checked Badge :=
  Badge.mk <$> required "label" text fs <*> optionalField "message" text fs
    <*> field "color" "#0969da" text fs <*> optionalField "label_color" text fs
    <*> optionalField "logo" text fs <*> optionalField "logo_color" text fs
    <*> field "style" .forTheBadge Named.read fs <*> optionalField "link" text fs

def Badge.writeFields (r : Badge) : List (String × Value) :=
  [("label", .text r.label), ("message", .optional .text r.message), ("color", .text r.color),
    ("label_color", .optional .text r.labelColor), ("logo", .optional .text r.logo),
    ("logo_color", .optional .text r.logoColor), ("style", Named.write r.style),
    ("link", .optional .text r.link)]

structure Spacer where
  height : SizeToken := .md
deriving DecidableEq, Repr, Inhabited

def Spacer.readFields (fs : Fields) : Checked Spacer :=
  Spacer.mk <$> field "height" .md Named.read fs

def Spacer.writeFields (r : Spacer) : List (String × Value) :=
  [("height", Named.write r.height)]

/-- A line across the page. -/
structure Rule where
  style : RuleStyle := .solid
  width : RuleWidth := .full
deriving DecidableEq, Repr, Inhabited

def Rule.readFields (fs : Fields) : Checked Rule :=
  Rule.mk <$> field "style" .solid Named.read fs <*> field "width" .full Named.read fs

def Rule.writeFields (r : Rule) : List (String × Value) :=
  [("style", Named.write r.style), ("width", Named.write r.width)]

/-- A figure with its label. -/
structure Stat where
  label : String
  value : Figure
  icon : Option String := none
  color : Option String := none
  format : Option StatFormat := none
deriving DecidableEq, Repr, Inhabited

def Stat.readFields (fs : Fields) : Checked Stat :=
  Stat.mk <$> required "label" text fs <*> required "value" Figure.read fs
    <*> optionalField "icon" text fs <*> optionalField "color" text fs
    <*> optionalField "format" Named.read fs

def Stat.writeFields (r : Stat) : List (String × Value) :=
  [("label", .text r.label), ("value", r.value.write), ("icon", .optional .text r.icon),
    ("color", .optional .text r.color), ("format", .optional Named.write r.format)]

/-- A link to an account elsewhere. -/
structure Social where
  platform : String
  url : String
  username : Option String := none
  label : Option String := none
  showIcon : Bool := true
  showLabel : Bool := true
deriving DecidableEq, Repr, Inhabited

def Social.readFields (fs : Fields) : Checked Social :=
  Social.mk <$> required "platform" text fs <*> required "url" text fs
    <*> optionalField "username" text fs <*> optionalField "label" text fs
    <*> field "show_icon" true bool fs <*> field "show_label" true bool fs

def Social.writeFields (r : Social) : List (String × Value) :=
  [("platform", .text r.platform), ("url", .text r.url), ("username", .optional .text r.username),
    ("label", .optional .text r.label), ("show_icon", .bool r.showIcon),
    ("show_label", .bool r.showLabel)]

/-- Lines that are typed one after the other. -/
structure Typing where
  texts : List String
  speed : Int := 100
  deleteSpeed : Int := 50
  pauseTime : Int := 2000
  loop : Bool := true
deriving DecidableEq, Repr, Inhabited

def Typing.readFields (fs : Fields) : Checked Typing :=
  Typing.mk <$> required "texts" (list text) fs <*> field "speed" 100 int fs
    <*> field "delete_speed" 50 int fs <*> field "pause_time" 2000 int fs
    <*> field "loop" true bool fs

def Typing.writeFields (r : Typing) : List (String × Value) :=
  [("texts", .texts r.texts), ("speed", .int r.speed), ("delete_speed", .int r.deleteSpeed),
    ("pause_time", .int r.pauseTime), ("loop", .bool r.loop)]

/-- A card about an account. -/
structure StatsCard where
  username : String
  card : StatCard := .stats
  theme : String := "default"
  showIcons : Bool := true
  hideBorder : Bool := false
  includeAllCommits : Bool := true
  countPrivate : Bool := true
deriving DecidableEq, Repr, Inhabited

def StatsCard.readFields (fs : Fields) : Checked StatsCard :=
  StatsCard.mk <$> required "username" text fs <*> field "card_type" .stats Named.read fs
    <*> field "theme" "default" text fs <*> field "show_icons" true bool fs
    <*> field "hide_border" false bool fs <*> field "include_all_commits" true bool fs
    <*> field "count_private" true bool fs

def StatsCard.writeFields (r : StatsCard) : List (String × Value) :=
  [("username", .text r.username), ("card_type", Named.write r.card), ("theme", .text r.theme),
    ("show_icons", .bool r.showIcons), ("hide_border", .bool r.hideBorder),
    ("include_all_commits", .bool r.includeAllCommits), ("count_private", .bool r.countPrivate)]

/-- The contributions of an account. -/
structure Graph where
  username : String
  theme : String := "github-compact"
  showLegend : Bool := true
deriving DecidableEq, Repr, Inhabited

def Graph.readFields (fs : Fields) : Checked Graph :=
  Graph.mk <$> required "username" text fs <*> field "theme" "github-compact" text fs
    <*> field "show_legend" true bool fs

def Graph.writeFields (r : Graph) : List (String × Value) :=
  [("username", .text r.username), ("theme", .text r.theme), ("show_legend", .bool r.showLegend)]

structure Card where
  title : String
  subtitle : Option String := none
  description : Option String := none
  url : Option String := none
  icon : Option String := none
deriving DecidableEq, Repr, Inhabited

def Card.readFields (fs : Fields) : Checked Card :=
  Card.mk <$> required "title" text fs <*> optionalField "subtitle" text fs
    <*> optionalField "description" text fs <*> optionalField "url" text fs
    <*> optionalField "icon" text fs

def Card.writeFields (r : Card) : List (String × Value) :=
  [("title", .text r.title), ("subtitle", .optional .text r.subtitle),
    ("description", .optional .text r.description), ("url", .optional .text r.url),
    ("icon", .optional .text r.icon)]

structure ProjectCard where
  name : String
  description : String := ""
  repoUrl : Option String := none
  demoUrl : Option String := none
  imageUrl : Option String := none
  techStack : List String := []
  stars : Option Int := none
  forks : Option Int := none
  featured : Bool := false
deriving DecidableEq, Repr, Inhabited

def ProjectCard.readFields (fs : Fields) : Checked ProjectCard :=
  ProjectCard.mk <$> required "name" text fs <*> field "description" "" text fs
    <*> optionalField "repo_url" text fs <*> optionalField "demo_url" text fs
    <*> optionalField "image_url" text fs <*> field "tech_stack" [] (list text) fs
    <*> optionalField "stars" int fs <*> optionalField "forks" int fs
    <*> field "featured" false bool fs

def ProjectCard.writeFields (r : ProjectCard) : List (String × Value) :=
  [("name", .text r.name), ("description", .text r.description),
    ("repo_url", .optional .text r.repoUrl), ("demo_url", .optional .text r.demoUrl),
    ("image_url", .optional .text r.imageUrl), ("tech_stack", .texts r.techStack),
    ("stars", .optional .int r.stars), ("forks", .optional .int r.forks),
    ("featured", .bool r.featured)]

/-- A position in a company. -/
structure Position where
  company : String
  role : String
  startDate : String
  endDate : Option String := none
  location : Option String := none
  description : String := ""
  highlights : List String := []
  technologies : List String := []
deriving DecidableEq, Repr, Inhabited

def Position.readFields (fs : Fields) : Checked Position :=
  Position.mk <$> required "company" text fs <*> required "role" text fs
    <*> required "start_date" text fs <*> optionalField "end_date" text fs
    <*> optionalField "location" text fs <*> field "description" "" text fs
    <*> field "highlights" [] (list text) fs <*> field "technologies" [] (list text) fs

def Position.writeFields (r : Position) : List (String × Value) :=
  [("company", .text r.company), ("role", .text r.role), ("start_date", .text r.startDate),
    ("end_date", .optional .text r.endDate), ("location", .optional .text r.location),
    ("description", .text r.description), ("highlights", .texts r.highlights),
    ("technologies", .texts r.technologies)]

/-- A degree. -/
structure Study where
  institution : String
  degree : String
  startDate : String
  endDate : Option String := none
  subject : Option String := none
  gpa : Option String := none
  honors : List String := []
deriving DecidableEq, Repr, Inhabited

def Study.readFields (fs : Fields) : Checked Study :=
  Study.mk <$> required "institution" text fs <*> required "degree" text fs
    <*> required "start_date" text fs <*> optionalField "end_date" text fs
    <*> optionalField "field" text fs <*> optionalField "gpa" text fs
    <*> field "honors" [] (list text) fs

def Study.writeFields (r : Study) : List (String × Value) :=
  [("institution", .text r.institution), ("degree", .text r.degree),
    ("start_date", .text r.startDate), ("end_date", .optional .text r.endDate),
    ("field", .optional .text r.subject), ("gpa", .optional .text r.gpa),
    ("honors", .texts r.honors)]

/-- An achievement. -/
structure Award where
  title : String
  description : Option String := none
  date : Option String := none
  issuer : Option String := none
  icon : Option String := none
  url : Option String := none
deriving DecidableEq, Repr, Inhabited

def Award.readFields (fs : Fields) : Checked Award :=
  Award.mk <$> required "title" text fs <*> optionalField "description" text fs
    <*> optionalField "date" text fs <*> optionalField "issuer" text fs
    <*> optionalField "icon" text fs <*> optionalField "url" text fs

def Award.writeFields (r : Award) : List (String × Value) :=
  [("title", .text r.title), ("description", .optional .text r.description),
    ("date", .optional .text r.date), ("issuer", .optional .text r.issuer),
    ("icon", .optional .text r.icon), ("url", .optional .text r.url)]

/-- Content of another type, shown as it is. -/
structure Custom where
  customType : String
  content : String := ""
  data : Fields := []
deriving Repr, Inhabited

def Custom.readFields (fs : Fields) : Checked Custom :=
  Custom.mk <$> required "custom_type" text fs <*> field "content" "" text fs
    <*> field "data" [] object fs

def Custom.writeFields (r : Custom) : List (String × Value) :=
  [("custom_type", .text r.customType), ("content", .text r.content), ("data", .object r.data)]

structure BadgeGroup where
  members : List (Placed Badge) := []
  align : Align := .center
  gap : Gap := .md
deriving DecidableEq, Repr, Inhabited

def BadgeGroup.readFields (fs : Fields) : Checked BadgeGroup :=
  BadgeGroup.mk <$> field "children" [] (list (Placed.read .badge Badge.readFields)) fs
    <*> field "align" .center Named.read fs <*> field "gap" .md Named.read fs

def BadgeGroup.writeFields (r : BadgeGroup) : List (String × Value) :=
  [("children", .list (r.members.map (Placed.write .badge Badge.writeFields))),
    ("align", Named.write r.align), ("gap", Named.write r.gap)]

structure StatGroup where
  members : List (Placed Stat) := []
  layout : StatLayout := .row
deriving DecidableEq, Repr, Inhabited

def StatGroup.readFields (fs : Fields) : Checked StatGroup :=
  StatGroup.mk <$> field "children" [] (list (Placed.read .stat Stat.readFields)) fs
    <*> field "layout" .row Named.read fs

def StatGroup.writeFields (r : StatGroup) : List (String × Value) :=
  [("children", .list (r.members.map (Placed.write .stat Stat.writeFields))),
    ("layout", Named.write r.layout)]

structure SocialGroup where
  members : List (Placed Social) := []
  style : SocialStyle := .badges
  align : Align := .center
deriving DecidableEq, Repr, Inhabited

def SocialGroup.readFields (fs : Fields) : Checked SocialGroup :=
  SocialGroup.mk <$> field "children" [] (list (Placed.read .social Social.readFields)) fs
    <*> field "style" .badges Named.read fs <*> field "align" .center Named.read fs

def SocialGroup.writeFields (r : SocialGroup) : List (String × Value) :=
  [("children", .list (r.members.map (Placed.write .social Social.writeFields))),
    ("style", Named.write r.style), ("align", Named.write r.align)]

end Element

/-- A block that holds no blocks of other kinds. -/
inductive Element where
  | text (e : Element.Phrase)
  | heading (e : Element.Heading)
  | code (e : Element.Code)
  | quote (e : Element.Quote)
  | image (e : Element.Image)
  | link (e : Element.Link)
  | badge (e : Element.Badge)
  | spacer (e : Element.Spacer)
  | rule (e : Element.Rule)
  | stat (e : Element.Stat)
  | social (e : Element.Social)
  | typing (e : Element.Typing)
  | statsCard (e : Element.StatsCard)
  | graph (e : Element.Graph)
  | card (e : Element.Card)
  | projectCard (e : Element.ProjectCard)
  | position (e : Element.Position)
  | study (e : Element.Study)
  | award (e : Element.Award)
  | custom (e : Element.Custom)
  | badgeGroup (e : Element.BadgeGroup)
  | statGroup (e : Element.StatGroup)
  | socialGroup (e : Element.SocialGroup)
deriving Repr, Inhabited

namespace Element

def kind : Element → BlockKind
  | .text _ => .text
  | .heading _ => .heading
  | .code _ => .code
  | .quote _ => .quote
  | .image _ => .image
  | .link _ => .link
  | .badge _ => .badge
  | .spacer _ => .spacer
  | .rule _ => .rule
  | .stat _ => .stat
  | .social _ => .social
  | .typing _ => .typing
  | .statsCard _ => .statsCard
  | .graph _ => .graph
  | .card _ => .card
  | .projectCard _ => .projectCard
  | .position _ => .position
  | .study _ => .study
  | .award _ => .award
  | .custom _ => .custom
  | .badgeGroup _ => .badgeGroup
  | .statGroup _ => .statGroup
  | .socialGroup _ => .socialGroup

/-- How the fields of a kind are read, if the kind holds no other blocks. -/
def reader? : BlockKind → Option (Fields → Checked Element)
  | .text => some fun fs => .text <$> Phrase.readFields fs
  | .heading => some fun fs => .heading <$> Heading.readFields fs
  | .code => some fun fs => .code <$> Code.readFields fs
  | .quote => some fun fs => .quote <$> Quote.readFields fs
  | .image => some fun fs => .image <$> Image.readFields fs
  | .link => some fun fs => .link <$> Link.readFields fs
  | .badge => some fun fs => .badge <$> Badge.readFields fs
  | .spacer => some fun fs => .spacer <$> Spacer.readFields fs
  | .rule => some fun fs => .rule <$> Rule.readFields fs
  | .stat => some fun fs => .stat <$> Stat.readFields fs
  | .social => some fun fs => .social <$> Social.readFields fs
  | .typing => some fun fs => .typing <$> Typing.readFields fs
  | .statsCard => some fun fs => .statsCard <$> StatsCard.readFields fs
  | .graph => some fun fs => .graph <$> Graph.readFields fs
  | .card => some fun fs => .card <$> Card.readFields fs
  | .projectCard => some fun fs => .projectCard <$> ProjectCard.readFields fs
  | .position => some fun fs => .position <$> Position.readFields fs
  | .study => some fun fs => .study <$> Study.readFields fs
  | .award => some fun fs => .award <$> Award.readFields fs
  | .custom => some fun fs => .custom <$> Custom.readFields fs
  | .badgeGroup => some fun fs => .badgeGroup <$> BadgeGroup.readFields fs
  | .statGroup => some fun fs => .statGroup <$> StatGroup.readFields fs
  | .socialGroup => some fun fs => .socialGroup <$> SocialGroup.readFields fs
  | _ => none

def writeFields : Element → List (String × Value)
  | .text e => e.writeFields
  | .heading e => e.writeFields
  | .code e => e.writeFields
  | .quote e => e.writeFields
  | .image e => e.writeFields
  | .link e => e.writeFields
  | .badge e => e.writeFields
  | .spacer e => e.writeFields
  | .rule e => e.writeFields
  | .stat e => e.writeFields
  | .social e => e.writeFields
  | .typing e => e.writeFields
  | .statsCard e => e.writeFields
  | .graph e => e.writeFields
  | .card e => e.writeFields
  | .projectCard e => e.writeFields
  | .position e => e.writeFields
  | .study e => e.writeFields
  | .award e => e.writeFields
  | .custom e => e.writeFields
  | .badgeGroup e => e.writeFields
  | .statGroup e => e.writeFields
  | .socialGroup e => e.writeFields

end Element

end ProfileReadme
