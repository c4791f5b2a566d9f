/-
How each kind of section becomes blocks. A builder reads the section and falls back to the profile
where the section leaves something empty.
-/
import ProfileReadme.Block.Numbered
import ProfileReadme.Block.Shown
import ProfileReadme.Markup.Sanitize
import ProfileReadme.Render.Binding
import ProfileReadme.Render.Error
import ProfileReadme.Template

namespace ProfileReadme.Render

/-- A computation of numbered blocks that may fail. -/
abbrev Build (α : Type) := Making Failure α

open Making

/-! ## Parts -/

/-- The first `n` items; a negative number leaves out that many at the end. -/
def upTo (n : Int) (xs : List α) : List α :=
  if 0 ≤ n then xs.take n.toNat else xs.take (xs.length - n.natAbs)

/-- The items of a section, or those of the profile if it has none. -/
def own (items others : List α) : List α := if items.isEmpty then others else items

def word (value : String) : Build Block := element (.text { value })

def heading (value : String) (level : Bounded 1 (some 6)) (align : Option Align) : Build Block :=
  element (.heading { value, level, align })

def part? (s : Option String) (build : String → Build Block) : Build (List Block) :=
  match Text.filled? s with
  | some s => do return [← build s]
  | none => return []

/-- A part that is there under a condition. -/
def partIf (b : Bool) (build : Build Block) : Build (List Block) :=
  if b then do return [← build] else pure []

/-- A bullet list of plain texts. -/
def bulletList (ss : List String) : Build Block := list .unordered (ss.map fun s => .text s none [])

def grid (columns : Bounded 1 none) (children : List Block) : Build Block :=
  stack (.grid columns .md) children

def row (children : List Block) : Build Block := stack (.row .center .center .md true) children

def column (children : List Block) : Build Block := stack (.column none) children

def twoColumns : Bounded 1 none := .of 2 (.refl true)

/-- The blocks in a container, if there are any. -/
def gathered (contain : List Block → Build Block) (blocks : List Block) : Build (List Block) :=
  if blocks.isEmpty then return [] else do return [← contain blocks]

/-- The account of a section, or of the profile. -/
def account (username : String) (p : Profile) : Build String :=
  let username := Text.filledOr (some username) p.githubUsername
  if username.isEmpty then throw .noAccount else pure username

/-! ## Introductions -/

def waveImage : String :=
  "https://user-images.githubusercontent.com/18350557/" ++
    "176309783-0785949b-9127-417c-8b55-ab5a4333674e.gif"

def heroAlign (c : HeroConfig) : Align :=
  match c.layout with
  | .leftAligned => .left
  | .rightAligned => .right
  | _ => c.alignment

def hero (d : HeroData) (c : HeroConfig) (p : Profile) : Build (List Block) := do
  let align := some (heroAlign c)
  let wave ← partIf d.showWave <| element <| .image
    { src := waveImage, alt := "Wave", align, isAnimated := true, width := some 60 }
  let headline ← heading (p.bind d.headline) (.of 1 (.refl true)) align
  let subheadline ← part? d.subheadline fun s => heading (p.bind s) (.of 3 (.refl true)) align
  let typing ← partIf (!d.typingTexts.isEmpty) <| element <| .typing
    { texts := d.typingTexts.map p.bind, speed := c.typingSpeed.getD 100,
      deleteSpeed := c.typingDeleteSpeed.getD 50, pauseTime := c.typingPauseTime.getD 2000 }
  let tagline ← part? d.tagline fun s =>
    element (.text { value := p.bind s, emphasis := .italic, align })
  return wave ++ [headline] ++ subheadline ++ typing ++ tagline

def avatarSize : AvatarSize → ImageSize
  | .sm => .sm
  | .md => .md
  | .lg => .lg

def avatarAlign : AvatarPosition → Align
  | .top => .center
  | .left => .left
  | .right => .right

def about (d : AboutData) (c : AboutConfig) (p : Profile) : Build (List Block) := do
  let avatar ← part? (if c.showAvatar then p.avatarUrl else none) fun src =>
    element <| .image
      { src, alt := p.githubUsername ++ "'s avatar", size := some (avatarSize c.avatarSize),
        align := some (avatarAlign c.avatarPosition) }
  let content ← part? (some (Text.filledOr (some d.content) (p.personal.bio.getD ""))) fun s =>
    word (p.bind s)
  let highlights ← partIf (!d.highlights.isEmpty) <|
    list (if c.highlightsAsBullets then .unordered else .hidden)
      (d.highlights.map fun s => .text s c.highlightIcon [])
  let focus ← part? d.currentFocus fun s => word ("🔭 **Currently:** " ++ s)
  let fact ← part? d.funFact fun s => word ("⚡ **Fun fact:** " ++ s)
  let place := Text.filled? d.location |>.orElse fun _ => p.personal.location
  let location ← part? place fun s => word ("📍 " ++ s)
  return avatar ++ content ++ highlights ++ focus ++ fact ++ location

/-! ## Technologies -/

/-- Puts an item at the end of its category; a category that was not there becomes the last. -/
def putUnder (item : TechItem) : List (String × List TechItem) → List (String × List TechItem)
  | [] => [(item.category, [item])]
  | (category, items) :: groups =>
    if category = item.category then (category, items ++ [item]) :: groups
    else (category, items) :: putUnder item groups

/-- The items by category, put under their categories one after the other. -/
def byCategory (items : List TechItem) : List (String × List TechItem) :=
  items.foldl (fun groups item => putUnder item groups) []

def techBadge (style : BadgeStyle) (item : TechItem) : Build (Placed Element.Badge) :=
  member .badge { label := item.name, logo := some (logoName item.name), style }

def techStack (d : TechStackData) (c : TechStackConfig) (p : Profile) : Build (List Block) := do
  let items := own d.items p.techStack.items
  if items.isEmpty then return []
  match c.display with
  | .list => return [← bulletList (items.map (·.name))]
  | .badges =>
    if d.groupByCategory && c.categoryHeaders then
      let groups ← (byCategory items).mapM fun (category, items) => do
        let title ← heading (Text.title category) (.of 4 (.refl true)) (some .left)
        let members ← items.mapM (techBadge c.badgeStyle)
        return [title, ← element (.badgeGroup { members, align := .left, gap := .sm })]
      return groups.flatten
    else
      let members ← items.mapM (techBadge c.badgeStyle)
      return [← element (.badgeGroup { members, align := c.alignment })]
  | _ => return [← grid (c.columns.widen (.refl true)) (← items.mapM (word ·.name))]

/-! ## Accounts -/

def githubStats (d : GithubStatsData) (c : GithubStatsConfig) (p : Profile) :
    Build (List Block) := do
  let username ← account d.username p
  let cards ← d.cards.mapM fun card =>
    element <| .statsCard
      { username, card, theme := c.theme, showIcons := c.showIcons, hideBorder := c.hideBorder,
        includeAllCommits := c.includeAllCommits, countPrivate := c.countPrivate }
  gathered (match c.cardLayout with
    | .row => row
    | .column => column
    | .grid => grid twoColumns) cards

def contributions (d : ContributionsData) (c : ContributionsConfig) (p : Profile) :
    Build (List Block) := do
  let username ← account d.username p
  return [← element (.graph { username, theme := c.theme, showLegend := d.showLegend })]

def pinnedCard (r : Repository) : Build Block :=
  element <| .projectCard
    { name := r.name, description := r.description.getD "", repoUrl := r.url,
      techStack := (Text.filled? r.language).toList, stars := some r.stars,
      forks := some r.forks }

def pinnedRepos (d : PinnedReposData) (_ : PinnedReposConfig) (p : Profile) :
    Build (List Block) := do
  let username ← account d.username p
  let cards ← (upTo d.maxRepos d.repos).mapM fun name =>
    element <| .projectCard
      { name, repoUrl := some ("https://github.com/" ++ username ++ "/" ++ name) }
  let cards ← if cards.isEmpty then
      (upTo d.maxRepos (p.github.elim [] (·.pinnedRepos))).mapM pinnedCard
    else pure cards
  gathered (grid twoColumns) cards

def codingUser (d : WakatimeData) (p : Profile) : Build String :=
  let username := Text.filledOr (some d.username) (p.integrations.wakatime.username.getD "")
  if username.isEmpty then throw .noCodingAccount else pure username

/-- Content of another type that is an image. -/
def imageContent (customType alt src : String) (data : List (String × Value)) : Build Block :=
  element <| .custom
    { customType, content := "![" ++ Inline.escapeBrackets alt ++ "](" ++ src ++ ")",
      data := named ([("image_url", .text src), ("alt", .text alt)] ++ data) }

def wakatime (d : WakatimeData) (c : WakatimeConfig) (p : Profile) : Build (List Block) := do
  let username ← codingUser d p
  let src := Url.codingCard (.text username) (Named.write c.layout) false
  return [← imageContent "wakatime-stats" (username ++ "'s WakaTime stats") src
    [("username", .text username), ("range", Named.write d.range),
      ("show_languages", .bool c.showLanguages), ("show_editors", .bool c.showEditors)]]

def spotify (d : SpotifyData) (c : SpotifyConfig) : Build (List Block) :=
  let widget := Named.name d.widget
  part? d.embedUrl fun src =>
    imageContent ("spotify-" ++ widget) ("Spotify " ++ Text.title widget) src
      [("theme", Named.write c.theme), ("show_album_art", .bool c.showAlbumArt),
        ("compact", .bool c.compact)]

/-! ## Entries -/

/-- The projects that a section shows. -/
def shownProjects (d : ProjectsData) (c : ProjectsConfig) (p : Profile) : List Project :=
  let projects := own d.items p.projects.items
  let projects := if d.featuredOnly then projects.filter (·.featured) else projects
  match Element.sizeOf? c.maxProjects with
  | some n => upTo n projects
  | none => projects

def projects (d : ProjectsData) (c : ProjectsConfig) (p : Profile) : Build (List Block) := do
  let cards ← (shownProjects d c p).mapM fun r =>
    element <| .projectCard
      { name := r.name, description := r.description, repoUrl := r.repoUrl, demoUrl := r.demoUrl,
        techStack := r.techStack, stars := r.stars, forks := r.forks, featured := r.featured }
  match c.display with
  | .cards | .grid => gathered (grid (c.columns.widen (.refl true))) cards
  | _ => return cards

def experience (d : ExperienceData) (c : ExperienceConfig) (p : Profile) : Build (List Block) :=
  (own d.items p.professional.experience).mapM fun e =>
    element <| .position
      { company := e.company, role := e.role, startDate := e.startDate, endDate := e.endDate,
        location := e.location, description := e.description, highlights := e.highlights,
        technologies := if c.showTechnologies then e.technologies else [] }

def education (d : EducationData) (c : EducationConfig) (p : Profile) : Build (List Block) :=
  (own d.items p.professional.education).mapM fun e =>
    element <| .study
      { institution := e.institution, degree := e.degree, startDate := e.startDate,
        endDate := e.endDate, subject := e.subject, gpa := if c.showGpa then e.gpa else none,
        honors := e.honors }

def achievements (d : AchievementsData) (c : AchievementsConfig) : Build (List Block) := do
  if d.items.isEmpty then return []
  match c.display with
  | .badges =>
    let members ← d.items.mapM fun a =>
      member .badge
        { label := a.title, message := a.issuer, link := a.url, style := .flat : Element.Badge }
    return [← element (.badgeGroup { members, align := c.alignment })]
  | display =>
    let items ← d.items.mapM fun a =>
      element <| .award
        { title := a.title, description := a.description, date := a.date, issuer := a.issuer,
          icon := a.icon, url := a.url }
    match display with
    | .grid => return [← grid (c.columns.widen (.refl true)) items]
    | _ => return items

def blogPosts (d : BlogPostsData) (c : BlogPostsConfig) : Build (List Block) :=
  (upTo d.maxPosts d.items).mapM fun post => do
    let title ← element (.link { href := post.url, label := post.title })
    let excerpt ← part? (if c.showExcerpt then post.excerpt else none) word
    let date ← part? (if c.showDate then post.date else none) fun value =>
      element (.text { value, emphasis := .italic })
    column (title :: excerpt ++ date)

/-! ## Contacts -/

/-- What a contact method leads to; mail and phone numbers get a scheme unless they have it. -/
def contactLink (m : ContactMethod) : String :=
  let withScheme := fun (scheme : String) =>
    if Text.hasStart scheme m.value then m.value else scheme ++ m.value
  match m.kind with
  | .email => withScheme "mailto:"
  | .phone => withScheme "tel:"
  | _ => m.value

def contactLabel (m : ContactMethod) : String := Text.filledOr m.label (Named.name m.kind)

def contact (d : ContactData) (c : ContactConfig) (p : Profile) : Build (List Block) := do
  let headline ← part? d.headline fun s => heading s (.of 3 (.refl true)) (some c.alignment)
  let description ← part? d.description fun value =>
    element (.text { value, align := some c.alignment })
  let methods := own d.methods <|
    (Text.filled? p.personal.email).toList.map fun value => { kind := .email, value }
  let ways ← partIf (!methods.isEmpty) <|
    match c.display with
    | .minimal => do
      row (← methods.mapM fun m =>
        element (.link { href := contactLink m, label := contactLabel m }))
    | _ => bulletList (methods.map fun m => "**" ++ contactLabel m ++ ":** " ++ m.value)
  return headline ++ description ++ ways

def socialStyle : SocialDisplay → SocialStyle
  | .icons => .icons
  | .buttons => .buttons
  | .pills => .pills
  | _ => .badges

def socials (d : SocialsData) (c : SocialsConfig) (p : Profile) : Build (List Block) := do
  let links := own d.links p.socialLinks.links
  if links.isEmpty then return []
  let members ← links.mapM fun l =>
    member .social
      { platform := platformName l.platform, url := l.url, username := l.username,
        label := l.label, showIcon := c.display != .minimal, showLabel := c.showLabels :
          Element.Social }
  let style := socialStyle c.display
  return [← element (.socialGroup { members, style, align := c.alignment })]

/-! ## Dividers, quotes, content as it is -/

def quote (d : QuoteData) : Build (List Block) :=
  part? (some d.quote) fun value =>
    element (.quote { value, author := d.author, source := d.source })

def ruleStyle? : DividerLine → Option RuleStyle
  | .line => some .solid
  | .dashed => some .dashed
  | .dotted => some .dotted
  | .gradient => some .gradient
  | .wave => some .wave
  | .none => none

def divider (d : DividerData) (c : DividerConfig) : Build (List Block) :=
  match ruleStyle? d.style with
  | some style => do return [← element (.rule { style, width := c.width })]
  | none => return []

/-- Heights by their numbers; any other text is the middle height. -/
def spacerHeight (s : String) : SizeToken :=
  if s = "0" || s = "1" then .xs
  else if s = "2" || s = "3" then .sm
  else if s = "6" || s = "8" then .lg
  else if s = "10" || s = "12" || s = "16" then .xl
  else .md

def spacer (d : SpacerData) : Build (List Block) := do
  return [← element (.spacer { height := spacerHeight d.height })]

def customMarkdown (d : CustomMarkdownData) (p : Profile) : Build (List Block) :=
  if Text.allBlank d.markdown then return []
  else do
    return [← element (.custom { customType := "markdown", content := p.bind d.markdown })]

def customHtml (d : CustomHtmlData) : Build (List Block) := do
  let content ← if d.sanitize then
      match Markup.sanitize d.html with
      | .ok s => pure s
      | .error r => throw (.markup r)
    else pure d.html
  if Text.allBlank content then return []
  else
    return [← element <| .custom
      { customType := "html", content, data := named [("sanitize", .bool d.sanitize)] }]

/-! ## All kinds -/

/-- How a section of any kind is built. -/
def build : (k : SectionKind) → k.Data → k.Config → Profile → Build (List Block)
  | .hero, d, c, p => hero d c p
  | .about, d, c, p => about d c p
  | .techStack, d, c, p => techStack d c p
  | .githubStats, d, c, p => githubStats d c p
  | .projects, d, c, p => projects d c p
  | .experience, d, c, p => experience d c p
  | .education, d, c, p => education d c p
  | .achievements, d, c, _ => achievements d c
  | .blogPosts, d, c, _ => blogPosts d c
  | .contact, d, c, p => contact d c p
  | .socials, d, c, p => socials d c p
  | .quote, d, _, _ => quote d
  | .divider, d, c, _ => divider d c
  | .spacer, d, _, _ => spacer d
  | .customMarkdown, d, _, p => customMarkdown d p
  | .customHtml, d, _, _ => customHtml d
  | .spotify, d, c, _ => spotify d c
  | .wakatime, d, c, p => wakatime d c p
  | .contributions, d, c, p => contributions d c p
  | .pinnedRepos, d, c, p => pinnedRepos d c p

end ProfileReadme.Render
