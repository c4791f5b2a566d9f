/-
How each kind of section is shown: one record per kind, all with an alignment, closed to fields
they do not name. Column counts carry their bounds.
-/
import ProfileReadme.Section.Data

namespace ProfileReadme

open Reader

/-- The layout of a hero section. -/
inductive HeroLayout where
  | centered | leftAligned | rightAligned | split | minimal
deriving DecidableEq, Repr, Inhabited

instance : Named HeroLayout where
  all := [.centered, .leftAligned, .rightAligned, .split, .minimal]
  name
    | .centered => "centered"
    | .leftAligned => "left-aligned"
    | .rightAligned => "right-aligned"
    | .split => "split"
    | .minimal => "minimal"

instance : Named.Lawful HeroLayout := ⟨by intro a; cases a <;> decide⟩

/-- Where the avatar stands. -/
inductive AvatarPosition where
  | left | right | top
deriving DecidableEq, Repr, Inhabited

instance : Named AvatarPosition where
  all := [.left, .right, .top]
  name
    | .left => "left"
    | .right => "right"
    | .top => "top"

instance : Named.Lawful AvatarPosition := ⟨by intro a; cases a <;> decide⟩

/-- The size of the avatar. -/
inductive AvatarSize where
  | sm | md | lg
deriving DecidableEq, Repr, Inhabited

instance : Named AvatarSize where
  all := [.sm, .md, .lg]
  name
    | .sm => "sm"
    | .md => "md"
    | .lg => "lg"

instance : Named.Lawful AvatarSize := ⟨by intro a; cases a <;> decide⟩

/-- How a stack is shown. -/
inductive TechDisplay where
  | badges | icons | cards | list | table
deriving DecidableEq, Repr, Inhabited

instance : Named TechDisplay where
  all := [.badges, .icons, .cards, .list, .table]
  name
    | .badges => "badges"
    | .icons => "icons"
    | .cards => "cards"
    | .list => "list"
    | .table => "table"

instance : Named.Lawful TechDisplay := ⟨by intro a; cases a <;> decide⟩

/-- How cards are laid out. -/
inductive CardLayout where
  | row | column | grid
deriving DecidableEq, Repr, Inhabited

instance : Named CardLayout where
  all := [.row, .column, .grid]
  name
    | .row => "row"
    | .column => "column"
    | .grid => "grid"

instance : Named.Lawful CardLayout := ⟨by intro a; cases a <;> decide⟩

/-- How projects are shown. -/
inductive ProjectDisplay where
  | cards | list | grid | compact | showcase
deriving DecidableEq, Repr, Inhabited

instance : Named ProjectDisplay where
  all := [.cards, .list, .grid, .compact, .showcase]
  name
    | .cards => "cards"
    | .list => "list"
    | .grid => "grid"
    | .compact => "compact"
    | .showcase => "showcase"

instance : Named.Lawful ProjectDisplay := ⟨by intro a; cases a <;> decide⟩

/-- How positions and studies are shown. -/
inductive EntryDisplay where
  | timeline | cards | list
deriving DecidableEq, Repr, Inhabited

instance : Named EntryDisplay where
  all := [.timeline, .cards, .list]
  name
    | .timeline => "timeline"
    | .cards => "cards"
    | .list => "list"

instance : Named.Lawful EntryDisplay := ⟨by intro a; cases a <;> decide⟩

/-- How achievements are shown. -/
inductive AchievementDisplay where
  | grid | list | badges
deriving DecidableEq, Repr, Inhabited

instance : Named AchievementDisplay where
  all := [.grid, .list, .badges]
  name
    | .grid => "grid"
    | .list => "list"
    | .badges => "badges"

instance : Named.Lawful AchievementDisplay := ⟨by intro a; cases a <;> decide⟩

/-- How contact methods are shown. -/
inductive ContactDisplay where
  | card | minimal | split
deriving DecidableEq, Repr, Inhabited

instance : Named ContactDisplay where
  all := [.card, .minimal, .split]
  name
    | .card => "card"
    | .minimal => "minimal"
    | .split => "split"

instance : Named.Lawful ContactDisplay := ⟨by intro a; cases a <;> decide⟩

/-- How social links are shown. -/
inductive SocialDisplay where
  | icons | badges | buttons | pills | minimal
deriving DecidableEq, Repr, Inhabited

instance : Named SocialDisplay where
  all := [.icons, .badges, .buttons, .pills, .minimal]
  name
    | .icons => "icons"
    | .badges => "badges"
    | .buttons => "buttons"
    | .pills => "pills"
    | .minimal => "minimal"

instance : Named.Lawful SocialDisplay := ⟨by intro a; cases a <;> decide⟩

/-- The look of a quote. -/
inductive QuoteLook where
  | simple | boxed | decorated | minimal
deriving DecidableEq, Repr, Inhabited

instance : Named QuoteLook where
  all := [.simple, .boxed, .decorated, .minimal]
  name
    | .simple => "simple"
    | .boxed => "boxed"
    | .decorated => "decorated"
    | .minimal => "minimal"

instance : Named.Lawful QuoteLook := ⟨by intro a; cases a <;> decide⟩

/-- The layout of coding statistics. -/
inductive CodingLayout where
  | compact | standard
deriving DecidableEq, Repr, Inhabited

instance : Named CodingLayout where
  all := [.compact, .standard]
  name
    | .compact => "compact"
    | .standard => "default"

instance : Named.Lawful CodingLayout := ⟨by intro a; cases a <;> decide⟩

/-- The settings that every section has. -/
structure SectionConfig where
  alignment : Align := .center
deriving DecidableEq, Repr, Inhabited

def SectionConfig.readFields (fs : Fields) : Checked SectionConfig :=
  SectionConfig.mk <$> field "alignment" .center Named.read fs

def SectionConfig.writeFields (r : SectionConfig) : List (String × Value) :=
  [("alignment", Named.write r.alignment)]

def SectionConfig.read : Reader SectionConfig :=
  closedRecord "section config" ["alignment"] SectionConfig.readFields

def SectionConfig.write (r : SectionConfig) : Value := .obj r.writeFields

structure HeroConfig extends SectionConfig where
  layout : HeroLayout := .centered
  typingSpeed : Option Int := none
  typingDeleteSpeed : Option Int := none
  typingPauseTime : Option Int := none
deriving DecidableEq, Repr, Inhabited

def HeroConfig.read : Reader HeroConfig :=
  closedRecord "hero config" ["alignment", "layout", "typing_speed", "typing_delete_speed",
      "typing_pause_time"] fun fs =>
    HeroConfig.mk <$> SectionConfig.readFields fs <*> field "layout" .centered Named.read fs
      <*> optionalField "typing_speed" int fs <*> optionalField "typing_delete_speed" int fs
      <*> optionalField "typing_pause_time" int fs

def HeroConfig.write (r : HeroConfig) : Value :=
  .obj <| r.toSectionConfig.writeFields ++ [("layout", Named.write r.layout),
    ("typing_speed", .optional .int r.typingSpeed),
    ("typing_delete_speed", .optional .int r.typingDeleteSpeed),
    ("typing_pause_time", .optional .int r.typingPauseTime)]

structure AboutConfig extends SectionConfig where
  showAvatar : Bool := false
  avatarPosition : AvatarPosition := .top
  avatarSize : AvatarSize := .md
  highlightsAsBullets : Bool := true
  highlightIcon : Option String := none
deriving DecidableEq, Repr, Inhabited

def AboutConfig.read : Reader AboutConfig :=
  closedRecord "about config" ["alignment", "show_avatar", "avatar_position", "avatar_size",
      "show_highlights_as_bullets", "highlight_icon"] fun fs =>
    AboutConfig.mk <$> SectionConfig.readFields fs <*> field "show_avatar" false bool fs
      <*> field "avatar_position" .top Named.read fs <*> field "avatar_size" .md Named.read fs
      <*> field "show_highlights_as_bullets" true bool fs
      <*> optionalField "highlight_icon" text fs

def AboutConfig.write (r : AboutConfig) : Value :=
  .obj <| r.toSectionConfig.writeFields ++ [("show_avatar", .bool r.showAvatar),
    ("avatar_position", Named.write r.avatarPosition), ("avatar_size", Named.write r.avatarSize),
    ("show_highlights_as_bullets", .bool r.highlightsAsBullets),
    ("highlight_icon", .optional .text r.highlightIcon)]

structure TechStackConfig extends SectionConfig where
  display : TechDisplay := .badges
  columns : Bounded 1 (some 6) := .of 4 (.refl true)
  categoryHeaders : Bool := true
  badgeStyle : BadgeStyle := .forTheBadge
deriving DecidableEq, Repr

def TechStackConfig.read : Reader TechStackConfig :=
  closedRecord "tech stack config" ["alignment", "display_style", "columns",
      "show_category_headers", "badge_style"] fun fs =>
    TechStackConfig.mk <$> SectionConfig.readFields fs
      <*> field "display_style" .badges Named.read fs
      <*> field "columns" (.of 4 (.refl true)) (bounded 1 (some 6)) fs
      <*> field "show_category_headers" true bool fs
      <*> field "badge_style" .forTheBadge Named.read fs

def TechStackConfig.write (r : TechStackConfig) : Value :=
  .obj <| r.toSectionConfig.writeFields ++ [("display_style", Named.write r.display),
    ("columns", .int r.columns.val), ("show_category_headers", .bool r.categoryHeaders),
    ("badge_style", Named.write r.badgeStyle)]

structure GithubStatsConfig extends SectionConfig where
  theme : String := "default"
  showIcons : Bool := true
  includeAllCommits : Bool := true
  countPrivate : Bool := true
  hideBorder : Bool := false
  cardLayout : CardLayout := .row
deriving DecidableEq, Repr, Inhabited

def GithubStatsConfig.read : Reader GithubStatsConfig :=
  closedRecord "account stats config" ["alignment", "theme", "show_icons", "include_all_commits",
      "count_private_contributions", "hide_border", "card_layout"] fun fs =>
    GithubStatsConfig.mk <$> SectionConfig.readFields fs <*> field "theme" "default" text fs
      <*> field "show_icons" true bool fs <*> field "include_all_commits" true bool fs
      <*> field "count_private_contributions" true bool fs <*> field "hide_border" false bool fs
      <*> field "card_layout" .row Named.read fs

def GithubStatsConfig.write (r : GithubStatsConfig) : Value :=
  .obj <| r.toSectionConfig.writeFields ++ [("theme", .text r.theme),
    ("show_icons", .bool r.showIcons), ("include_all_commits", .bool r.includeAllCommits),
    ("count_private_contributions", .bool r.countPrivate), ("hide_border", .bool r.hideBorder),
    ("card_layout", Named.write r.cardLayout)]

structure ProjectsConfig extends SectionConfig where
  display : ProjectDisplay := .cards
  columns : Bounded 1 (some 3) := .of 2 (.refl true)
  maxProjects : Option Int := none
deriving DecidableEq, Repr

def ProjectsConfig.read : Reader ProjectsConfig :=
  closedRecord "projects config" ["alignment", "display_style", "columns",
      "max_projects"] fun fs =>
    ProjectsConfig.mk <$> SectionConfig.readFields fs
      <*> field "display_style" .cards Named.read fs
      <*> field "columns" (.of 2 (.refl true)) (bounded 1 (some 3)) fs
      <*> optionalField "max_projects" int fs

def ProjectsConfig.write (r : ProjectsConfig) : Value :=
  .obj <| r.toSectionConfig.writeFields ++ [("display_style", Named.write r.display),
    ("columns", .int r.columns.val), ("max_projects", .optional .int r.maxProjects)]

structure ExperienceConfig extends SectionConfig where
  display : EntryDisplay := .timeline
  showTechnologies : Bool := true
deriving DecidableEq, Repr, Inhabited

def ExperienceConfig.read : Reader ExperienceConfig :=
  closedRecord "experience config" ["alignment", "display_style", "show_technologies"] fun fs =>
    ExperienceConfig.mk <$> SectionConfig.readFields fs
      <*> field "display_style" .timeline Named.read fs <*> field "show_technologies" true bool fs

def ExperienceConfig.write (r : ExperienceConfig) : Value :=
  .obj <| r.toSectionConfig.writeFields ++ [("display_style", Named.write r.display),
    ("show_technologies", .bool r.showTechnologies)]

structure EducationConfig extends SectionConfig where
  display : EntryDisplay := .timeline
  showGpa : Bool := true
deriving DecidableEq, Repr, Inhabited

def EducationConfig.read : Reader EducationConfig :=
  closedRecord "education config" ["alignment", "display_style", "show_gpa"] fun fs =>
    EducationConfig.mk <$> SectionConfig.readFields fs
      <*> field "display_style" .timeline Named.read fs <*> field "show_gpa" true bool fs

def EducationConfig.write (r : EducationConfig) : Value :=
  .obj <| r.toSectionConfig.writeFields ++ [("display_style", Named.write r.display),
    ("show_gpa", .bool r.showGpa)]

structure AchievementsConfig extends SectionConfig where
  display : AchievementDisplay := .list
  columns : Bounded 2 (some 4) := .of 3 (.refl true)
deriving DecidableEq, Repr

def AchievementsConfig.read : Reader AchievementsConfig :=
  closedRecord "achievements config" ["alignment", "display_style", "columns"] fun fs =>
    AchievementsConfig.mk <$> SectionConfig.readFields fs
      <*> field "display_style" .list Named.read fs
      <*> field "columns" (.of 3 (.refl true)) (bounded 2 (some 4)) fs

def AchievementsConfig.write (r : AchievementsConfig) : Value :=
  .obj <| r.toSectionConfig.writeFields ++ [("display_style", Named.write r.display),
    ("columns", .int r.columns.val)]

structure BlogPostsConfig extends SectionConfig where
  showExcerpt : Bool := true
  showDate : Bool := true
deriving DecidableEq, Repr, Inhabited

def BlogPostsConfig.read : Reader BlogPostsConfig :=
  closedRecord "blog posts config" ["alignment", "show_excerpt", "show_date"] fun fs =>
    BlogPostsConfig.mk <$> SectionConfig.readFields fs <*> field "show_excerpt" true bool fs
      <*> field "show_date" true bool fs

def BlogPostsConfig.write (r : BlogPostsConfig) : Value :=
  .obj <| r.toSectionConfig.writeFields ++ [("show_excerpt", .bool r.showExcerpt),
    ("show_date", .bool r.showDate)]

structure ContactConfig extends SectionConfig where
  display : ContactDisplay := .card
deriving DecidableEq, Repr, Inhabited

def ContactConfig.read : Reader ContactConfig :=
  closedRecord "contact config" ["alignment", "display_style"] fun fs =>
    ContactConfig.mk <$> SectionConfig.readFields fs <*> field "display_style" .card Named.read fs

def ContactConfig.write (r : ContactConfig) : Value :=
  .obj <| r.toSectionConfig.writeFields ++ [("display_style", Named.write r.display)]

structure SocialsConfig extends SectionConfig where
  display : SocialDisplay := .badges
  showLabels : Bool := true
deriving DecidableEq, Repr, Inhabited

def SocialsConfig.read : Reader SocialsConfig :=
  closedRecord "socials config" ["alignment", "display_style", "show_labels"] fun fs =>
    SocialsConfig.mk <$> SectionConfig.readFields fs
      <*> field "display_style" .badges Named.read fs <*> field "show_labels" true bool fs

def SocialsConfig.write (r : SocialsConfig) : Value :=
  .obj <| r.toSectionConfig.writeFields ++ [("display_style", Named.write r.display),
    ("show_labels", .bool r.showLabels)]

structure QuoteConfig extends SectionConfig where
  look : QuoteLook := .simple
deriving DecidableEq, Repr, Inhabited

def QuoteConfig.read : Reader QuoteConfig :=
  closedRecord "quote config" ["alignment", "style"] fun fs =>
    QuoteConfig.mk <$> SectionConfig.readFields fs <*> field "style" .simple Named.read fs

def QuoteConfig.write (r : QuoteConfig) : Value :=
  .obj <| r.toSectionConfig.writeFields ++ [("style", Named.write r.look)]

structure DividerConfig extends SectionConfig where
  width : RuleWidth := .full
deriving DecidableEq, Repr, Inhabited

def DividerConfig.read : Reader DividerConfig :=
  closedRecord "divider config" ["alignment", "width"] fun fs =>
    DividerConfig.mk <$> SectionConfig.readFields fs <*> field "width" .full Named.read fs

def DividerConfig.write (r : DividerConfig) : Value :=
  .obj <| r.toSectionConfig.writeFields ++ [("width", Named.write r.width)]

structure SpotifyConfig extends SectionConfig where
  theme : ColorScheme := .dark
  showAlbumArt : Bool := true
  compact : Bool := false
deriving DecidableEq, Repr, Inhabited

def SpotifyConfig.read : Reader SpotifyConfig :=
  closedRecord "music config" ["alignment", "theme", "show_album_art", "compact"] fun fs =>
    SpotifyConfig.mk <$> SectionConfig.readFields fs <*> field "theme" .dark Named.read fs
      <*> field "show_album_art" true bool fs <*> field "compact" false bool fs

def SpotifyConfig.write (r : SpotifyConfig) : Value :=
  .obj <| r.toSectionConfig.writeFields ++ [("theme", Named.write r.theme),
    ("show_album_art", .bool r.showAlbumArt), ("compact", .bool r.compact)]

structure WakatimeConfig extends SectionConfig where
  layout : CodingLayout := .compact
  showLanguages : Bool := true
  showEditors : Bool := false
deriving DecidableEq, Repr, Inhabited

def WakatimeConfig.read : Reader WakatimeConfig :=
  closedRecord "coding time config" ["alignment", "layout", "show_languages",
      "show_editors"] fun fs =>
    WakatimeConfig.mk <$> SectionConfig.readFields fs <*> field "layout" .compact Named.read fs
      <*> field "show_languages" true bool fs <*> field "show_editors" false bool fs

def WakatimeConfig.write (r : WakatimeConfig) : Value :=
  .obj <| r.toSectionConfig.writeFields ++ [("layout", Named.write r.layout),
    ("show_languages", .bool r.showLanguages), ("show_editors", .bool r.showEditors)]

structure ContributionsConfig extends SectionConfig where
  theme : String := "github-compact"
deriving DecidableEq, Repr, Inhabited

def ContributionsConfig.read : Reader ContributionsConfig :=
  closedRecord "contributions config" ["alignment", "theme"] fun fs =>
    ContributionsConfig.mk <$> SectionConfig.readFields fs
      <*> field "theme" "github-compact" text fs

def ContributionsConfig.write (r : ContributionsConfig) : Value :=
  .obj <| r.toSectionConfig.writeFields ++ [("theme", .text r.theme)]

structure PinnedReposConfig extends SectionConfig where
  theme : String := "default"
deriving DecidableEq, Repr, Inhabited

def PinnedReposConfig.read : Reader PinnedReposConfig :=
  closedRecord "pinned repos config" ["alignment", "theme"] fun fs =>
    PinnedReposConfig.mk <$> SectionConfig.readFields fs <*> field "theme" "default" text fs

def PinnedReposConfig.write (r : PinnedReposConfig) : Value :=
  .obj <| r.toSectionConfig.writeFields ++ [("theme", .text r.theme)]

end ProfileReadme
