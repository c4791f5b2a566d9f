/-
Sections: an id, a place in the order, and the pair of records that the kind calls for. The types
of the pair depend on the kind, so a section never holds records of another kind.
-/
import ProfileReadme.Section.Config
import ProfileReadme.Section.Kind

namespace ProfileReadme

open Reader

namespace SectionKind

/-- What a section of a kind says. -/
@[reducible]
def Data : SectionKind → Type
  | .hero => HeroData
  | .about => AboutData
  | .techStack => TechStackData
  | .githubStats => GithubStatsData
  | .projects => ProjectsData
  | .experience => ExperienceData
  | .education => EducationData
  | .achievements => AchievementsData
  | .blogPosts => BlogPostsData
  | .contact => ContactData
  | .socials => SocialsData
  | .quote => QuoteData
  | .divider => DividerData
  | .spacer => SpacerData
  | .customMarkdown => CustomMarkdownData
  | .customHtml => CustomHtmlData
  | .spotify => SpotifyData
  | .wakatime => WakatimeData
  | .contributions => ContributionsData
  | .pinnedRepos => PinnedReposData

/-- How a section of a kind is shown. -/
@[reducible]
def Config : SectionKind → Type
  | .hero => HeroConfig
  | .about => AboutConfig
  | .techStack => TechStackConfig
  | .githubStats => GithubStatsConfig
  | .projects => ProjectsConfig
  | .experience => ExperienceConfig
  | .education => EducationConfig
  | .achievements => AchievementsConfig
  | .blogPosts => BlogPostsConfig
  | .contact => ContactConfig
  | .socials => SocialsConfig
  | .quote => QuoteConfig
  | .divider => DividerConfig
  | .spacer => SectionConfig
  | .customMarkdown => SectionConfig
  | .customHtml => SectionConfig
  | .spotify => SpotifyConfig
  | .wakatime => WakatimeConfig
  | .contributions => ContributionsConfig
  | .pinnedRepos => PinnedReposConfig

def readData : (k : SectionKind) → Reader k.Data
  | .hero => HeroData.read
  | .about => AboutData.read
  | .techStack => TechStackData.read
  | .githubStats => GithubStatsData.read
  | .projects => ProjectsData.read
  | .experience => ExperienceData.read
  | .education => EducationData.read
  | .achievements => AchievementsData.read
  | .blogPosts => BlogPostsData.read
  | .contact => ContactData.read
  | .socials => SocialsData.read
  | .quote => QuoteData.read
  | .divider => DividerData.read
  | .spacer => SpacerData.read
  | .customMarkdown => CustomMarkdownData.read
  | .customHtml => CustomHtmlData.read
  | .spotify => SpotifyData.read
  | .wakatime => WakatimeData.read
  | .contributions => ContributionsData.read
  | .pinnedRepos => PinnedReposData.read

def readConfig : (k : SectionKind) → Reader k.Config
  | .hero => HeroConfig.read
  | .about => AboutConfig.read
  | .techStack => TechStackConfig.read
  | .githubStats => GithubStatsConfig.read
  | .projects => ProjectsConfig.read
  | .experience => ExperienceConfig.read
  | .education => EducationConfig.read
  | .achievements => AchievementsConfig.read
  | .blogPosts => BlogPostsConfig.read
  | .contact => ContactConfig.read
  | .socials => SocialsConfig.read
  | .quote => QuoteConfig.read
  | .divider => DividerConfig.read
  | .spacer => SectionConfig.read
  | .customMarkdown => SectionConfig.read
  | .customHtml => SectionConfig.read
  | .spotify => SpotifyConfig.read
  | .wakatime => WakatimeConfig.read
  | .contributions => ContributionsConfig.read
  | .pinnedRepos => PinnedReposConfig.read

def writeData : (k : SectionKind) → k.Data → Value
  | .hero => HeroData.write
  | .about => AboutData.write
  | .techStack => TechStackData.write
  | .githubStats => GithubStatsData.write
  | .projects => ProjectsData.write
  | .experience => ExperienceData.write
  | .education => EducationData.write
  | .achievements => AchievementsData.write
  | .blogPosts => BlogPostsData.write
  | .contact => ContactData.write
  | .socials => SocialsData.write
  | .quote => QuoteData.write
  | .divider => DividerData.write
  | .spacer => SpacerData.write
  | .customMarkdown => CustomMarkdownData.write
  | .customHtml => CustomHtmlData.write
  | .spotify => SpotifyData.write
  | .wakatime => WakatimeData.write
  | .contributions => ContributionsData.write
  | .pinnedRepos => PinnedReposData.write

def writeConfig : (k : SectionKind) → k.Config → Value
  | .hero => HeroConfig.write
  | .about => AboutConfig.write
  | .techStack => TechStackConfig.write
  | .githubStats => GithubStatsConfig.write
  | .projects => ProjectsConfig.write
  | .experience => ExperienceConfig.write
  | .education => EducationConfig.write
  | .achievements => AchievementsConfig.write
  | .blogPosts => BlogPostsConfig.write
  | .contact => ContactConfig.write
  | .socials => SocialsConfig.write
  | .quote => QuoteConfig.write
  | .divider => DividerConfig.write
  | .spacer => SectionConfig.write
  | .customMarkdown => SectionConfig.write
  | .customHtml => SectionConfig.write
  | .spotify => SpotifyConfig.write
  | .wakatime => WakatimeConfig.write
  | .contributions => ContributionsConfig.write
  | .pinnedRepos => PinnedReposConfig.write

/-- The name of the record that says what a section of a kind says. -/
def dataShape : SectionKind → String
  | .hero => "hero data"
  | .about => "about data"
  | .techStack => "tech stack data"
  | .githubStats => "account stats data"
  | .projects => "projects data"
  | .experience => "experience data"
  | .education => "education data"
  | .achievements => "achievements data"
  | .blogPosts => "blog posts data"
  | .contact => "contact data"
  | .socials => "socials data"
  | .quote => "quote data"
  | .divider => "divider data"
  | .spacer => "spacer data"
  | .customMarkdown => "custom markdown data"
  | .customHtml => "custom markup data"
  | .spotify => "music data"
  | .wakatime => "coding time data"
  | .contributions => "contributions data"
  | .pinnedRepos => "pinned repos data"

def configShape : SectionKind → String
  | .hero => "hero config"
  | .about => "about config"
  | .techStack => "tech stack config"
  | .githubStats => "account stats config"
  | .projects => "projects config"
  | .experience => "experience config"
  | .education => "education config"
  | .achievements => "achievements config"
  | .blogPosts => "blog posts config"
  | .contact => "contact config"
  | .socials => "socials config"
  | .quote => "quote config"
  | .divider => "divider config"
  | .spacer => "section config"
  | .customMarkdown => "section config"
  | .customHtml => "section config"
  | .spotify => "music config"
  | .wakatime => "coding time config"
  | .contributions => "contributions config"
  | .pinnedRepos => "pinned repos config"

instance : (k : SectionKind) → DecidableEq k.Data
  | .hero => inferInstanceAs (DecidableEq HeroData)
  | .about => inferInstanceAs (DecidableEq AboutData)
  | .techStack => inferInstanceAs (DecidableEq TechStackData)
  | .githubStats => inferInstanceAs (DecidableEq GithubStatsData)
  | .projects => inferInstanceAs (DecidableEq ProjectsData)
  | .experience => inferInstanceAs (DecidableEq ExperienceData)
  | .education => inferInstanceAs (DecidableEq EducationData)
  | .achievements => inferInstanceAs (DecidableEq AchievementsData)
  | .blogPosts => inferInstanceAs (DecidableEq BlogPostsData)
  | .contact => inferInstanceAs (DecidableEq ContactData)
  | .socials => inferInstanceAs (DecidableEq SocialsData)
  | .quote => inferInstanceAs (DecidableEq QuoteData)
  | .divider => inferInstanceAs (DecidableEq DividerData)
  | .spacer => inferInstanceAs (DecidableEq SpacerData)
  | .customMarkdown => inferInstanceAs (DecidableEq CustomMarkdownData)
  | .customHtml => inferInstanceAs (DecidableEq CustomHtmlData)
  | .spotify => inferInstanceAs (DecidableEq SpotifyData)
  | .wakatime => inferInstanceAs (DecidableEq WakatimeData)
  | .contributions => inferInstanceAs (DecidableEq ContributionsData)
  | .pinnedRepos => inferInstanceAs (DecidableEq PinnedReposData)

instance : (k : SectionKind) → DecidableEq k.Config
  | .hero => inferInstanceAs (DecidableEq HeroConfig)
  | .about => inferInstanceAs (DecidableEq AboutConfig)
  | .techStack => inferInstanceAs (DecidableEq TechStackConfig)
  | .githubStats => inferInstanceAs (DecidableEq GithubStatsConfig)
  | .projects => inferInstanceAs (DecidableEq ProjectsConfig)
  | .experience => inferInstanceAs (DecidableEq ExperienceConfig)
  | .education => inferInstanceAs (DecidableEq EducationConfig)
  | .achievements => inferInstanceAs (DecidableEq AchievementsConfig)
  | .blogPosts => inferInstanceAs (DecidableEq BlogPostsConfig)
  | .contact => inferInstanceAs (DecidableEq ContactConfig)
  | .socials => inferInstanceAs (DecidableEq SocialsConfig)
  | .quote => inferInstanceAs (DecidableEq QuoteConfig)
  | .divider => inferInstanceAs (DecidableEq DividerConfig)
  | .spacer => inferInstanceAs (DecidableEq SectionConfig)
  | .customMarkdown => inferInstanceAs (DecidableEq SectionConfig)
  | .customHtml => inferInstanceAs (DecidableEq SectionConfig)
  | .spotify => inferInstanceAs (DecidableEq SpotifyConfig)
  | .wakatime => inferInstanceAs (DecidableEq WakatimeConfig)
  | .contributions => inferInstanceAs (DecidableEq ContributionsConfig)
  | .pinnedRepos => inferInstanceAs (DecidableEq PinnedReposConfig)

end SectionKind

structure Section where
  id : String
  kind : SectionKind
  enabled : Bool := true
  order : Int := 0
  title : Option String := none
  data : kind.Data
  config : kind.Config
deriving DecidableEq

namespace Section

/-- One of the two records of a section: absent, an accepted record, or a plain value. -/
def payloadPart (shape : String) (read : Reader α) (name : String) (fs : Fields) : Checked α :=
  match fs.find? name with
  | none | some .null => read (.object [])
  | some (.record s inner) => if s = shape then read (.record s inner) else read (.object inner)
  | some v => read v

/-- A record where any of some shapes, or else an object with the given fields only, will do. -/
def baseRecord (shapes : List String) (names : List String) (read : Fields → Checked α) :
    Reader Unit
  | .record s _ => if s ∈ shapes then .ok () else .fail .notRecord
  | v => (fun _ => ()) <$> closedRecord "" names read v

def dataShapes : List String := SectionKind.dataShape <$> Named.all

def configShapes : List String := SectionKind.configShape <$> Named.all

/-- The fields other than the two records, checked together with records that have no kind. -/
def readUntyped (fs : Fields) : Checked Unit :=
  (fun _ _ _ _ _ _ _ => ()) <$> required "id" text fs
    <*> required "type" (Named.readOr .notMember : Reader SectionKind) fs
    <*> field "enabled" true bool fs <*> field "order" 0 int fs <*> optionalField "title" text fs
    <*> required "data" (baseRecord dataShapes [] fun _ => .ok ()) fs
    <*> required "config" (baseRecord configShapes ["alignment"] SectionConfig.readFields) fs

/-- The fields of a section whose kind is known. The two records come first, and what is wrong
with them is reported in place of all else. -/
def readTyped (k : SectionKind) (fs : Fields) : Checked Section :=
  (payloadPart k.dataShape k.readData "data" fs).andThen fun data =>
    (payloadPart k.configShape k.readConfig "config" fs).andThen fun config =>
      (fun id enabled order title => ⟨id, k, enabled, order, title, data, config⟩)
        <$> required "id" text fs <*> field "enabled" true bool fs <*> field "order" 0 int fs
        <*> optionalField "title" text fs

def kindOf (fs : Fields) : Option SectionKind :=
  match fs.find? "type" with
  | some (.text s) => Named.find? s
  | _ => none

def read : Reader Section := fun v =>
  match fieldsOf "section" v with
  | none => .fail .notRecord
  | some fs =>
    match kindOf fs with
    | some k => readTyped k fs
    | none => .bad (readUntyped fs).issues

def write (s : Section) : Value :=
  .obj [("id", .text s.id), ("type", Named.write s.kind), ("enabled", .bool s.enabled),
    ("order", .int s.order), ("title", .optional .text s.title),
    ("data", s.kind.writeData s.data), ("config", s.kind.writeConfig s.config)]

end Section

end ProfileReadme
