/-
What each kind of section says: one record per kind, closed to fields it does not name.
-/
import ProfileReadme.Section.Entry
import ProfileReadme.Style

namespace ProfileReadme

open Reader

/-- The line of a divider section. -/
inductive DividerLine where
  | line | dashed | dotted | gradient | wave | none
deriving DecidableEq, Repr, Inhabited

instance : Named DividerLine where
  all := [.line, .dashed, .dotted, .gradient, .wave, .none]
  name
    | .line => "line"
    | .dashed => "dashed"
    | .dotted => "dotted"
    | .gradient => "gradient"
    | .wave => "wave"
    | .none => "none"

instance : Named.Lawful DividerLine := ⟨by intro a; cases a <;> decide⟩

/-- What a music widget shows. -/
inductive SpotifyWidget where
  | nowPlaying | topTracks | recentlyPlayed
deriving DecidableEq, Repr, Inhabited

instance : Named SpotifyWidget where
  all := [.nowPlaying, .topTracks, .recentlyPlayed]
  name
    | .nowPlaying => "now-playing"
    | .topTracks => "top-tracks"
    | .recentlyPlayed => "recently-played"

instance : Named.Lawful SpotifyWidget := ⟨by intro a; cases a <;> decide⟩

/-- The span that coding statistics cover. -/
inductive CodingRange where
  | last7Days | last30Days | last6Months | lastYear | allTime
deriving DecidableEq, Repr, Inhabited

instance : Named CodingRange where
  all := [.last7Days, .last30Days, .last6Months, .lastYear, .allTime]
  name
    | .last7Days => "last_7_days"
    | .last30Days => "last_30_days"
    | .last6Months => "last_6_months"
    | .lastYear => "last_year"
    | .allTime => "all_time"

instance : Named.Lawful CodingRange := ⟨by intro a; cases a <;> decide⟩

structure HeroData where
  headline : String := "Hi there, I'm \x7bname\x7d 👋"
  subheadline : Option String := none
  tagline : Option String := none
  typingTexts : List String := []
  showWave : Bool := false
deriving DecidableEq, Repr, Inhabited

def HeroData.read : Reader HeroData :=
  closedRecord "hero data" ["headline", "subheadline", "tagline", "typing_texts",
      "show_wave_animation"] fun fs =>
    HeroData.mk <$> field "headline" "Hi there, I'm \x7bname\x7d 👋" text fs
      <*> optionalField "subheadline" text fs <*> optionalField "tagline" text fs
      <*> field "typing_texts" [] (list text) fs <*> field "show_wave_animation" false bool fs

def HeroData.write (r : HeroData) : Value :=
  .obj [("headline", .text r.headline), ("subheadline", .optional .text r.subheadline),
    ("tagline", .optional .text r.tagline), ("typing_texts", .texts r.typingTexts),
    ("show_wave_animation", .bool r.showWave)]

structure AboutData where
  content : String := ""
  highlights : List String := []
  currentFocus : Option String := none
  funFact : Option String := none
  location : Option String := none
deriving DecidableEq, Repr, Inhabited

def AboutData.read : Reader AboutData :=
  closedRecord "about data" ["content", "highlights", "current_focus", "fun_fact",
      "location"] fun fs =>
    AboutData.mk <$> field "content" "" text fs <*> field "highlights" [] (list text) fs
      <*> optionalField "current_focus" text fs <*> optionalField "fun_fact" text fs
      <*> optionalField "location" text fs

def AboutData.write (r : AboutData) : Value :=
  .obj [("content", .text r.content), ("highlights", .texts r.highlights),
    ("current_focus", .optional .text r.currentFocus), ("fun_fact", .optional .text r.funFact),
    ("location", .optional .text r.location)]

structure TechStackData where
  items : List TechItem := []
  groupByCategory : Bool := false
deriving DecidableEq, Repr, Inhabited

def TechStackData.read : Reader TechStackData :=
  closedRecord "tech stack data" ["items", "group_by_category"] fun fs =>
    TechStackData.mk <$> field "items" [] (list TechItem.read) fs
      <*> field "group_by_category" false bool fs

def TechStackData.write (r : TechStackData) : Value :=
  .obj [("items", .list (r.items.map TechItem.write)),
    ("group_by_category", .bool r.groupByCategory)]

structure GithubStatsData where
  username : String := ""
  cards : List StatCard := [.stats, .topLangs]
deriving DecidableEq, Repr, Inhabited

def GithubStatsData.read : Reader GithubStatsData :=
  closedRecord "account stats data" ["username", "cards"] fun fs =>
    GithubStatsData.mk <$> field "username" "" text fs
      <*> field "cards" ([.stats, .topLangs]) (list Named.read) fs

def GithubStatsData.write (r : GithubStatsData) : Value :=
  .obj [("username", .text r.username), ("cards", .list (r.cards.map Named.write))]

structure ProjectsData where
  items : List Project := []
  featuredOnly : Bool := false
deriving DecidableEq, Repr, Inhabited

def ProjectsData.read : Reader ProjectsData :=
  closedRecord "projects data" ["items", "show_featured_only"] fun fs =>
    ProjectsData.mk <$> field "items" [] (list Project.read) fs
      <*> field "show_featured_only" false bool fs

def ProjectsData.write (r : ProjectsData) : Value :=
  .obj [("items", .list (r.items.map Project.write)), ("show_featured_only", .bool r.featuredOnly)]

structure ExperienceData where
  items : List Experience := []
deriving DecidableEq, Repr, Inhabited

def ExperienceData.read : Reader ExperienceData :=
  closedRecord "experience data" ["items"] fun fs =>
    ExperienceData.mk <$> field "items" [] (list Experience.read) fs

def ExperienceData.write (r : ExperienceData) : Value :=
  .obj [("items", .list (r.items.map Experience.write))]

structure EducationData where
  items : List Education := []
deriving DecidableEq, Repr, Inhabited

def EducationData.read : Reader EducationData :=
  closedRecord "education data" ["items"] fun fs =>
    EducationData.mk <$> field "items" [] (list Education.read) fs

def EducationData.write (r : EducationData) : Value :=
  .obj [("items", .list (r.items.map Education.write))]

structure AchievementsData where
  items : List Achievement := []
deriving DecidableEq, Repr, Inhabited

def AchievementsData.read : Reader AchievementsData :=
  closedRecord "achievements data" ["items"] fun fs =>
    AchievementsData.mk <$> field "items" [] (list Achievement.read) fs

def AchievementsData.write (r : AchievementsData) : Value :=
  .obj [("items", .list (r.items.map Achievement.write))]

structure BlogPostsData where
  items : List BlogPost := []
  maxPosts : Int := 5
deriving DecidableEq, Repr, Inhabited

def BlogPostsData.read : Reader BlogPostsData :=
  closedRecord "blog posts data" ["items", "max_posts"] fun fs =>
    BlogPostsData.mk <$> field "items" [] (list BlogPost.read) fs <*> field "max_posts" 5 int fs

def BlogPostsData.write (r : BlogPostsData) : Value :=
  .obj [("items", .list (r.items.map BlogPost.write)), ("max_posts", .int r.maxPosts)]

structure ContactData where
  headline : Option String := none
  description : Option String := none
  methods : List ContactMethod := []
deriving DecidableEq, Repr, Inhabited

def ContactData.read : Reader ContactData :=
  closedRecord "contact data" ["headline", "description", "methods"] fun fs =>
    ContactData.mk <$> optionalField "headline" text fs <*> optionalField "description" text fs
      <*> field "methods" [] (list ContactMethod.read) fs

def ContactData.write (r : ContactData) : Value :=
  .obj [("headline", .optional .text r.headline), ("description", .optional .text r.description),
    ("methods", .list (r.methods.map ContactMethod.write))]

structure SocialsData where
  links : List SocialLink := []
deriving DecidableEq, Repr, Inhabited

def SocialsData.read : Reader SocialsData :=
  closedRecord "socials data" ["links"] fun fs =>
    SocialsData.mk <$> field "links" [] (list SocialLink.read) fs

def SocialsData.write (r : SocialsData) : Value :=
  .obj [("links", .list (r.links.map SocialLink.write))]

structure QuoteData where
  quote : String := ""
  author : Option String := none
  source : Option String := none
deriving DecidableEq, Repr, Inhabited

def QuoteData.read : Reader QuoteData :=
  closedRecord "quote data" ["quote", "author", "source"] fun fs =>
    QuoteData.mk <$> field "quote" "" text fs <*> optionalField "author" text fs
      <*> optionalField "source" text fs

def QuoteData.write (r : QuoteData) : Value :=
  .obj [("quote", .text r.quote), ("author", .optional .text r.author),
    ("source", .optional .text r.source)]

structure DividerData where
  style : DividerLine := .line
deriving DecidableEq, Repr, Inhabited

def DividerData.read : Reader DividerData :=
  closedRecord "divider data" ["style"] fun fs =>
    DividerData.mk <$> field "style" .line Named.read fs

def DividerData.write (r : DividerData) : Value :=
  .obj [("style", Named.write r.style)]

structure SpacerData where
  height : String := "4"
deriving DecidableEq, Repr, Inhabited

def SpacerData.read : Reader SpacerData :=
  closedRecord "spacer data" ["height"] fun fs =>
    SpacerData.mk <$> field "height" "4" text fs

def SpacerData.write (r : SpacerData) : Value :=
  .obj [("height", .text r.height)]

structure CustomMarkdownData where
  markdown : String := ""
deriving DecidableEq, Repr, Inhabited

def CustomMarkdownData.read : Reader CustomMarkdownData :=
  closedRecord "custom markdown data" ["markdown"] fun fs =>
    CustomMarkdownData.mk <$> field "markdown" "" text fs

def CustomMarkdownData.write (r : CustomMarkdownData) : Value :=
  .obj [("markdown", .text r.markdown)]

structure CustomHtmlData where
  html : String := ""
  sanitize : Bool := true
deriving DecidableEq, Repr, Inhabited

def CustomHtmlData.read : Reader CustomHtmlData :=
  closedRecord "custom markup data" ["html", "sanitize"] fun fs =>
    CustomHtmlData.mk <$> field "html" "" text fs <*> field "sanitize" true bool fs

def CustomHtmlData.write (r : CustomHtmlData) : Value :=
  .obj [("html", .text r.html), ("sanitize", .bool r.sanitize)]

structure SpotifyData where
  widget : SpotifyWidget := .nowPlaying
  embedUrl : Option String := none
deriving DecidableEq, Repr, Inhabited

def SpotifyData.read : Reader SpotifyData :=
  closedRecord "music data" ["type", "embed_url"] fun fs =>
    SpotifyData.mk <$> field "type" .nowPlaying Named.read fs
      <*> optionalField "embed_url" text fs

def SpotifyData.write (r : SpotifyData) : Value :=
  .obj [("type", Named.write r.widget), ("embed_url", .optional .text r.embedUrl)]

structure WakatimeData where
  username : String := ""
  range : CodingRange := .last7Days
deriving DecidableEq, Repr, Inhabited

def WakatimeData.read : Reader WakatimeData :=
  closedRecord "coding time data" ["username", "range"] fun fs =>
    WakatimeData.mk <$> field "username" "" text fs <*> field "range" .last7Days Named.read fs

def WakatimeData.write (r : WakatimeData) : Value :=
  .obj [("username", .text r.username), ("range", Named.write r.range)]

structure ContributionsData where
  username : String := ""
  showLegend : Bool := true
deriving DecidableEq, Repr, Inhabited

def ContributionsData.read : Reader ContributionsData :=
  closedRecord "contributions data" ["username", "show_legend"] fun fs =>
    ContributionsData.mk <$> field "username" "" text fs <*> field "show_legend" true bool fs

def ContributionsData.write (r : ContributionsData) : Value :=
  .obj [("username", .text r.username), ("show_legend", .bool r.showLegend)]

structure PinnedReposData where
  username : String := ""
  repos : List String := []
  maxRepos : Int := 6
deriving DecidableEq, Repr, Inhabited

def PinnedReposData.read : Reader PinnedReposData :=
  closedRecord "pinned repos data" ["username", "repos", "max_repos"] fun fs =>
    PinnedReposData.mk <$> field "username" "" text fs <*> field "repos" [] (list text) fs
      <*> field "max_repos" 6 int fs

def PinnedReposData.write (r : PinnedReposData) : Value :=
  .obj [("username", .text r.username), ("repos", .texts r.repos), ("max_repos", .int r.maxRepos)]

end ProfileReadme
